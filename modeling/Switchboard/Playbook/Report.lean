import Switchboard.Chat.Message
import Switchboard.Registry.Message
import Switchboard.Wire.Envelope

/-!
# Reports

What came of a rehearsal is reported as JSON. Bytes are reported as the text
they spell, or by their hexadecimal digits if they spell none. Where a message
says why something could not be decoded, the reason gives way to a star: it is
meant for people and no part of what was promised.
-/

namespace Switchboard.Playbook.Report

/-! ## Plain values -/

/-- A text. -/
def text (s : String) : Json := .ofString s

/-- A whole number. -/
def number (n : Int) : Json := .ofInt n

/-- A value that may be absent. -/
def optional {α : Type} (f : α → Json) : Option α → Json
  | none => .null
  | some a => f a

/-- The hexadecimal digits of some bytes. -/
def hex (bs : List UInt8) : Json :=
  text (String.ofList (bs.flatMap fun b =>
    [Nat.digitChar (b.toNat / 16), Nat.digitChar (b.toNat % 16)]))

/-- Some bytes. -/
def bytes (b : ByteArray) : Json :=
  match String.fromUTF8? b with
  | some s => text s
  | none => .ofFields [("hex", hex b.data.toList)]

/-- The JSON text of a value. -/
def jsonText {α : Type} [JsonCodec α] (a : α) : Json := bytes (encode a).toByteArray

/-- Something that broke down. -/
def breakdown : Json := .ofFields [("error", text "Panic")]

/-! ## Messages -/

/-- A text up to and including a mark, with a star for what follows; none without the mark. -/
def cutAfter (mark s : String) : Option String :=
  match s.splitOn mark with
  | first :: _ :: _ => some (first ++ mark ++ "*")
  | _ => none

/-- A message without the reason why something could not be decoded. -/
def withoutReason (s : String) : String :=
  if s.startsWith "failed to decode " then
    ((cutAfter " request: " s).or (cutAfter " response: " s)).getD s
  else if s.startsWith "envelope header error: " then "envelope header error: *"
  else s

/-- A message. -/
def message (s : String) : Json := text (withoutReason s)

/-- The result of a call. -/
def result {α : Type} (f : α → Json) : CallResult α → Json
  | .ok a => .ofFields [("ok", f a)]
  | .error e =>
    .ofFields [("fail", .ofFields [("kind", text e.kind.name), ("message", message e.message)])]

/-- The name of a reason why something could not be started. -/
def setupErrorName : SetupError → String
  | .malformedAddress _ => "MalformedAddress"
  | .unsupportedTransport _ _ => "UnsupportedTransport"
  | .io _ => "Io"
  | .bind _ _ => "Bind"
  | .validation _ _ => "Validation"
  | .alreadyStarted _ => "AlreadyStarted"

/-- Why something could not be started. -/
def setupError (e : SetupError) : Json :=
  .ofFields [("error", text (setupErrorName e)), ("message", message e.message)]

/-- The name of a reason why a request or a reply was lost. -/
def transportErrorName : TransportError → String
  | .connect _ _ => "Connect"
  | .send _ => "Send"
  | .closed => "Closed"
  | .truncated _ => "Truncated"
  | .io _ => "Io"
  | .protocol _ => "Protocol"
  | .frameTooLarge _ _ => "FrameTooLarge"
  | .header => "Header"

/-- Why a request or a reply was lost. -/
def transportError (e : TransportError) : Json :=
  .ofFields [("error", text (transportErrorName e)), ("message", message e.message)]

/-! ## Addresses and what travels -/

/-- An address by its parts. -/
def address (a : Address) : Json :=
  .ofFields
    [("scheme", text a.scheme), ("host", text a.host), ("port", number a.port.toNat),
      ("path", text a.path), ("transport", text a.transport.name), ("display", text a.text)]

/-- Where a server can be reached. Of the port it matters only whether there is one. -/
def location (a : Address) : Json :=
  .ofFields
    [("location", text a.text), ("scheme", text a.scheme), ("host", text a.host),
      ("port", .bool (a.port != 0)), ("path", text a.path)]

/-- A status. -/
def status (s : Wire.Status) : Json :=
  .ofFields
    [("state", text s.outcome.state.name), ("message", message s.outcome.errorMessage),
      ("kind", optional (fun kind => text kind.name) s.kind)]

/-- A request. -/
def request (r : Wire.Request) : Json :=
  .ofFields
    [("com_id", optional text r.comId), ("function_id", number r.functionId.toNat),
      ("payload", bytes r.payload)]

/-- A request with its call id. -/
def numbered (callId : UInt64) (r : Wire.Request) : Json :=
  .ofFields [("call_id", number callId.toNat), ("request", request r)]

/-- A reply. -/
def reply (r : Wire.Reply) : Json :=
  .ofFields [("status", status r.status), ("payload", bytes r.payload)]

/-- A reply as it arrived. -/
def envelope (e : Wire.ReplyEnvelope) : Json :=
  .ofFields
    [("call_id", number e.header.callId.toNat), ("com_id", optional text e.header.comId),
      ("function_id", number e.header.functionId.toNat), ("status", status e.header.status),
      ("payload", bytes e.payload)]

/-! ## What calls end in -/

/-- Some services and where they can be reached. -/
def services (all : List ServiceInformation) : Json :=
  .array (all.map fun s =>
    .ofFields [("service_type", text s.serviceType.name), ("location", text s.location)])

/-- The services of a session. -/
def discovered (d : Registry.Discovered) : Json :=
  .ofFields [("communication_id", text d.communicationId), ("services", services d.services)]

/-- A chat. -/
def chat (i : Chat.Info) : Json :=
  .ofFields
    [("chat_id", text i.chatId), ("title", text i.title), ("chat_type", text i.kind.name),
      ("chat_type_id", number i.kindId.toNat), ("chat_state", text i.state.name)]

end Switchboard.Playbook.Report
