import Switchboard.Failure

/-!
# What is said about chats

Chats come in two kinds and are open or closed; both travel as numbers. Unlike
a service type, a number that stands for neither makes the whole chat
unreadable: whoever shows a list of chats has to know what they are.
-/

namespace Switchboard.Chat

/-- Whom a chat is with. -/
inductive Kind where
  | machine
  | session
deriving DecidableEq, Repr, Inhabited

namespace Kind

/-- The number of a kind on the wire. -/
def toWire : Kind → Int32
  | machine => 0
  | session => 1

/-- The kind with a number. -/
def ofWire? (n : Int32) : Option Kind := [machine, session].find? fun k => k.toWire == n

/-- The name of a kind in JSON. -/
def name : Kind → String
  | machine => "Machine"
  | session => "Session"

end Kind

/-- Whether a chat still goes on. -/
inductive State where
  | opened
  | closed
deriving DecidableEq, Repr, Inhabited

namespace State

/-- The number of a state on the wire. -/
def toWire : State → Int32
  | opened => 0
  | closed => 1

/-- The state with a number. -/
def ofWire? (n : Int32) : Option State := [opened, closed].find? fun s => s.toWire == n

/-- The name of a state in JSON. -/
def name : State → String
  | opened => "Open"
  | closed => "Closed"

end State

/-- **A chat.** -/
structure Info where
  chatId : String
  title : String
  kind : Kind
  kindId : UInt32
  state : State
deriving DecidableEq, Repr, Inhabited

/-- A chat with numbers for its kind and state. -/
structure WireInfo where
  chatId : String
  title : String
  kind : Int32
  kindId : UInt32
  state : Int32
deriving DecidableEq, Repr, Inhabited

/-- A chat as it travels. -/
def Info.toWire (i : Info) : WireInfo :=
  ⟨i.chatId, i.title, i.kind.toWire, i.kindId, i.state.toWire⟩

/-- **The chat that was received**, if its kind and state are known. -/
def WireInfo.toInfo (w : WireInfo) : CallResult Info :=
  match Kind.ofWire? w.kind, State.ofWire? w.state with
  | some kind, some state => .ok ⟨w.chatId, w.title, kind, w.kindId, state⟩
  | _, _ => .error (.of .invalidResponseValue)

/-- The chats of a session, as they travel. -/
structure Listing where
  chats : List WireInfo
deriving DecidableEq, Repr, Inhabited

/-- **All chats of a listing**, or none if there is one that cannot be read. -/
def Listing.toInfos (l : Listing) : CallResult (List Info) := l.chats.mapM WireInfo.toInfo

/-- The listing of some chats. -/
def Listing.ofInfos (infos : List Info) : Listing := ⟨infos.map Info.toWire⟩

/-- Which chat to show. -/
structure Selection where
  chatId : String
deriving DecidableEq, Repr, Inhabited

/-- A message to be sent, with a number by which its sender knows it. -/
structure Message where
  localId : UInt32
  content : String
deriving DecidableEq, Repr, Inhabited

/-- How many messages to load, going back from which one. -/
structure HistoryRequest where
  count : UInt32
  lastId : String
deriving DecidableEq, Repr, Inhabited

/-! ## In JSON -/

instance : JsonCodec Kind where
  toJson k := .ofString k.name
  ofJson? _ := Json.enum? [.machine, .session] Kind.name

instance : JsonCodec State where
  toJson s := .ofString s.name
  ofJson? _ := Json.enum? [.opened, .closed] State.name

/-- The names of the fields of a chat. -/
def fieldNames : List String := ["chat_id", "title", "chat_type", "chat_type_id", "chat_state"]

instance : JsonCodec Info where
  toJson i := .ofFields
    [("chat_id", JsonCodec.toJson i.chatId), ("title", JsonCodec.toJson i.title),
      ("chat_type", JsonCodec.toJson i.kind), ("chat_type_id", JsonCodec.toJson i.kindId),
      ("chat_state", JsonCodec.toJson i.state)]
  ofJson? depth value := do
    let [chatId, title, kind, kindId, state] ← Json.fields? fieldNames value | none
    return { chatId := ← JsonCodec.ofJson? (depth + 1) (← chatId)
             title := ← JsonCodec.ofJson? (depth + 1) (← title)
             kind := ← JsonCodec.ofJson? (depth + 1) (← kind)
             kindId := ← JsonCodec.ofJson? (depth + 1) (← kindId)
             state := ← JsonCodec.ofJson? (depth + 1) (← state) }

instance : JsonCodec WireInfo where
  toJson w := .ofFields
    [("chat_id", JsonCodec.toJson w.chatId), ("title", JsonCodec.toJson w.title),
      ("chat_type", JsonCodec.toJson w.kind), ("chat_type_id", JsonCodec.toJson w.kindId),
      ("chat_state", JsonCodec.toJson w.state)]
  ofJson? depth value := do
    let [chatId, title, kind, kindId, state] ← Json.fields? fieldNames value | none
    return { chatId := ← JsonCodec.ofJson? (depth + 1) (← chatId)
             title := ← JsonCodec.ofJson? (depth + 1) (← title)
             kind := ← JsonCodec.ofJson? (depth + 1) (← kind)
             kindId := ← JsonCodec.ofJson? (depth + 1) (← kindId)
             state := ← JsonCodec.ofJson? (depth + 1) (← state) }

instance : JsonCodec Listing where
  toJson l := .ofFields [("chats", .array (l.chats.map JsonCodec.toJson))]
  ofJson? depth value := do
    let [chats] ← Json.fields? ["chats"] value | none
    return { chats := ← Json.orDefault [] (Json.listOf? (JsonCodec.ofJson? (depth + 2))) chats }

instance : JsonCodec Selection where
  toJson s := .ofFields [("chat_id", JsonCodec.toJson s.chatId)]
  ofJson? depth value := do
    let [chatId] ← Json.fields? ["chat_id"] value | none
    return { chatId := ← JsonCodec.ofJson? (depth + 1) (← chatId) }

instance : JsonCodec Message where
  toJson m := .ofFields
    [("local_id", JsonCodec.toJson m.localId), ("content", JsonCodec.toJson m.content)]
  ofJson? depth value := do
    let [localId, content] ← Json.fields? ["local_id", "content"] value | none
    return { localId := ← JsonCodec.ofJson? (depth + 1) (← localId)
             content := ← JsonCodec.ofJson? (depth + 1) (← content) }

instance : JsonCodec HistoryRequest where
  toJson h := .ofFields
    [("count", JsonCodec.toJson h.count), ("last_id", JsonCodec.toJson h.lastId)]
  ofJson? depth value := do
    let [count, lastId] ← Json.fields? ["count", "last_id"] value | none
    return { count := ← JsonCodec.ofJson? (depth + 1) (← count)
             lastId := ← JsonCodec.ofJson? (depth + 1) (← lastId) }

end Switchboard.Chat
