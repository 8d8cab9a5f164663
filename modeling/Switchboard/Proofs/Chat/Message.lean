import Switchboard.Chat.Message
import Switchboard.Proofs.Json.Codec

/-!
# What is said about chats arrives

Whatever is said about chats survives its JSON form. The kind and the state of a
chat travel as numbers besides: those of a chat are read as its own
(`WireInfo.toInfo_toWire`), so that a list of chats is received as it was sent
(`Listing.toInfos_ofInfos`), however long it is.
-/

namespace Switchboard.Chat

/-! ## Back and forth -/

@[simp] theorem Kind.ofWire?_toWire (k : Kind) : ofWire? k.toWire = some k := by
  cases k <;> decide

@[simp] theorem State.ofWire?_toWire (s : State) : ofWire? s.toWire = some s := by
  cases s <;> decide

/-- **A chat is received as it was sent.** -/
@[simp] theorem WireInfo.toInfo_toWire (i : Info) : i.toWire.toInfo = .ok i := by
  unfold WireInfo.toInfo Info.toWire
  dsimp only
  rw [Kind.ofWire?_toWire, State.ofWire?_toWire]

/-- **All chats of a session are received**, in their order. -/
@[simp] theorem Listing.toInfos_ofInfos (infos : List Info) :
    (ofInfos infos).toInfos = .ok infos := by
  unfold toInfos ofInfos
  dsimp only
  induction infos with
  | nil => rfl
  | cons info infos ih =>
    rw [List.map_cons, List.mapM_cons, WireInfo.toInfo_toWire, ih]
    rfl

/-! ## In JSON -/

instance : LawfulJsonCodec Kind :=
  .ofNames [.machine, .session] Kind.name (fun _ => rfl) (fun _ _ => rfl) (by decide)
    fun k => by cases k <;> decide

instance : LawfulJsonCodec State :=
  .ofNames [.opened, .closed] State.name (fun _ => rfl) (fun _ _ => rfl) (by decide)
    fun s => by cases s <;> decide

/-- The fields of a chat. -/
def Info.record : JsonRecord Info where
  names := fieldNames
  values i :=
    [JsonCodec.toJson i.chatId, JsonCodec.toJson i.title, JsonCodec.toJson i.kind,
      JsonCodec.toJson i.kindId, JsonCodec.toJson i.state]
  read := _
  ofJson?_eq _ _ := rfl

instance : LawfulJsonCodec Info := Info.record.lawful

/-- The fields of a chat with numbers. -/
def WireInfo.record : JsonRecord WireInfo where
  names := fieldNames
  values w :=
    [JsonCodec.toJson w.chatId, JsonCodec.toJson w.title, JsonCodec.toJson w.kind,
      JsonCodec.toJson w.kindId, JsonCodec.toJson w.state]
  read := _
  ofJson?_eq _ _ := rfl

instance : LawfulJsonCodec WireInfo := WireInfo.record.lawful

/-- The fields of the chats of a session. -/
def Listing.record : JsonRecord Listing where
  names := ["chats"]
  values l := [.array (l.chats.map JsonCodec.toJson)]
  read := _
  ofJson?_eq _ _ := rfl

instance : LawfulJsonCodec Listing := Listing.record.lawful

/-- The fields of a selection. -/
def Selection.record : JsonRecord Selection where
  names := ["chat_id"]
  values s := [JsonCodec.toJson s.chatId]
  read := _
  ofJson?_eq _ _ := rfl

instance : LawfulJsonCodec Selection := Selection.record.lawful

/-- The fields of a message. -/
def Message.record : JsonRecord Message where
  names := ["local_id", "content"]
  values m := [JsonCodec.toJson m.localId, JsonCodec.toJson m.content]
  read := _
  ofJson?_eq _ _ := rfl

instance : LawfulJsonCodec Message := Message.record.lawful

/-- The fields of a request for older messages. -/
def HistoryRequest.record : JsonRecord HistoryRequest where
  names := ["count", "last_id"]
  values h := [JsonCodec.toJson h.count, JsonCodec.toJson h.lastId]
  read := _
  ofJson?_eq _ _ := rfl

instance : LawfulJsonCodec HistoryRequest := HistoryRequest.record.lawful

end Switchboard.Chat
