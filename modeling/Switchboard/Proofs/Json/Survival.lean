import Switchboard.Address
import Switchboard.Proofs.Access.Message
import Switchboard.Proofs.Chat.Message
import Switchboard.Proofs.Registry.Message
import Switchboard.Proofs.Wire.Header

/-!
# Every type survives

All that travels in an envelope, and all that is kept of services, calls and
addresses, has a JSON form. Nothing of it is lost there: every element of every
such type is decoded from what it is encoded as, whatever texts and numbers it
holds, and whether or not its parts belong together (`all_types_survive`).

Reading accepts more than writing produces. So one element has many texts; but
what has been read from any of them is the same after it has been written and
read again.
-/

namespace Switchboard

/-! ## Addresses -/

instance : LawfulJsonCodec Transport :=
  .ofNames [.embedded, .rawSocket, .unknown] Transport.variant (fun _ => rfl) (fun _ _ => rfl)
    (by decide) fun t => by cases t <;> decide

/-- The fields of an address, which need not be those of a URL. -/
def Address.record : JsonRecord Address where
  names := ["scheme", "host", "port", "path"]
  values a :=
    [JsonCodec.toJson a.scheme, JsonCodec.toJson a.host, JsonCodec.toJson a.port,
      JsonCodec.toJson a.path]
  read := _
  ofJson?_eq _ _ := rfl

instance : LawfulJsonCodec Address := Address.record.lawful

/-! ## All types -/

/-- **A type survives its encoding.** -/
structure Survives (α : Type) [JsonCodec α] : Prop where
  /-- Every element is decoded from its encoding. -/
  decode_encode : ∀ a : α, decode? (encode a) = some a
  /-- What is decoded from any text is decoded from its own encoding as well. -/
  decode_again : ∀ (text : List UInt8) (a : α), decode? text = some a → decode? (encode a) = some a

theorem LawfulJsonCodec.survives {α : Type} [JsonCodec α] [LawfulJsonCodec α] : Survives α where
  decode_encode := decode?_encode
  decode_again _ a _ := decode?_encode a

/-- **Every type with a JSON form survives its encoding**: those of calls and their envelopes, of
addresses and services, of registrations, of chats and of access to features. -/
theorem all_types_survive :
    (Survives FailureKind ∧ Survives CallFailure ∧ Survives CallState ∧ Survives CallStatus
      ∧ Survives Wire.Status ∧ Survives Wire.Header)
    ∧ (Survives Address ∧ Survives Transport ∧ Survives ServiceType ∧ Survives ServiceInformation)
    ∧ (Survives Registry.VersionMessage ∧ Survives Registry.Entry ∧ Survives Registry.Listing
      ∧ Survives Registry.Discovered)
    ∧ (Survives Chat.Kind ∧ Survives Chat.State ∧ Survives Chat.Info ∧ Survives Chat.WireInfo
      ∧ Survives Chat.Listing ∧ Survives Chat.Selection ∧ Survives Chat.Message
      ∧ Survives Chat.HistoryRequest)
    ∧ (Survives Access.Feature ∧ Survives Access.Rule ∧ Survives Access.Question
      ∧ Survives Access.Answer ∧ Survives Access.Change) := by
  refine ⟨⟨?_, ?_, ?_, ?_, ?_, ?_⟩, ⟨?_, ?_, ?_, ?_⟩, ⟨?_, ?_, ?_, ?_⟩,
    ⟨?_, ?_, ?_, ?_, ?_, ?_, ?_, ?_⟩, ?_, ?_, ?_, ?_, ?_⟩ <;> exact LawfulJsonCodec.survives

-- one element has many texts: the members may stand in any order and among others, or without
-- their names in an array, with blanks between them and letters written as escapes
example :
    decode? (Json.ofFields [("more", .array [.ofInt 1]), ("location", .ofString "a"),
        ("service_type", .ofInt 13)]).render
      = some (⟨13, "a"⟩ : Registry.Entry) := by
  decide +kernel

example : decode? " [ 13, \"\\u0061\" ]\n".toUTF8.data.toList
    = some (⟨13, "a"⟩ : Registry.Entry) := by
  decide +kernel

end Switchboard
