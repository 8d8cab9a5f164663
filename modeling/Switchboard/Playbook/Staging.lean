import Switchboard.Playbook.Reading
import Switchboard.Playbook.Report
import Switchboard.Rehearsal.Stage

/-!
# Parts in playbooks

A playbook says who plays a part and how. What a handler does is written as
one member that says whether it answers, keeps its responder or breaks down;
what it was given is reported as an array, the name of the method first.
-/

namespace Switchboard.Playbook

open Rehearsal

/-! ## What handlers answer with -/

/-- A chat. -/
def chatInfo (j : Json) : Reads Chat.Info := do
  return ⟨← textIn j "chat_id", ← textIn j "title",
    ← namedIn [.machine, .session] Chat.Kind.name j "chat_type", ← wordIn j "chat_type_id",
    ← namedIn [.opened, .closed] Chat.State.name j "chat_state"⟩

/-- A chat in terms of its numbers. -/
def wireChatInfo (j : Json) : Reads Chat.WireInfo := do
  return ⟨← textIn j "chat_id", ← textIn j "title", .ofInt (← intIn j "chat_type"),
    ← wordIn j "chat_type_id", .ofInt (← intIn j "chat_state")⟩

/-- A service and where it can be reached. -/
def serviceInformation (j : Json) : Reads ServiceInformation := do
  return ⟨← serviceTypeIn j "service_type", ← textIn j "location"⟩

/-- The services of a session. -/
def discovered (j : Json) : Reads Registry.Discovered := do
  return ⟨← textIn j "communication_id", ← (items (member j "services")).mapM serviceInformation⟩

/-- What the handler of a part answers with. -/
def response (j : Json) : (part : Part) → Reads part.Response
  | .greet => text j
  | .version => text j
  | .odd => return .ofInt (← int j)
  | .hidden => return ()
  | .foreign => return ()
  | .obtainChats => (items j).mapM chatInfo
  | .obtainChatsWire => return ⟨← (items (member j "chats")).mapM wireChatInfo⟩
  | .selectChat => return ()
  | .sendMessage => return ()
  | .loadMessages => return ()
  | .deleteHistory => return ()
  | .deleteChat => return ()
  | .askForConfirmation => flag j
  | .askForConfirmationWire => return ⟨← flag (member j "confirmed")⟩
  | .notifyChange => return ()
  | .notifyChangeWire => return ()
  | .exchangeVersion => text j
  | .registerService => return ()
  | .discover => discovered j

/-! ## What handlers do -/

/-- **What a handler does.** -/
def behaviour (part : Part) (j : Json) : Reads (Behaviour part.Response) := do
  if j.string? == some "drop" then return .drop
  else if has j "ok" then return .answer (.ok (← response (member j "ok") part))
  else if has j "fail" then return .answer (.error (.aborted (← textIn j "fail")))
  else if has j "send_fail" then return .answer (.error (← callFailure (member j "send_fail")))
  else if has j "hold" then return .hold (← textIn j "hold")
  else if has j "panic" then return .crash (some (← textIn j "panic"))
  else if has j "panic_static" then return .crash (some "static message")
  else if has j "panic_any" then return .crash none
  else throw (.unreadable "what a handler does")

/-- The script for a part. A name stands for one of the scripts for greeting. -/
def script (part : Part) (j : Json) : Reads (Script part) :=
  match part, j.string? with
  | .greet, some "hello" => return Script.hello
  | .greet, some "length" => return Script.length
  | .greet, some "debug" => return Script.describe
  | part, _ => return Script.always (← behaviour part j)

/-- The part that is named in a step. -/
def partIn (j : Json) : Reads Part := namedIn Part.all Part.name j "method"

/-- The service that is named, with a dispatcher on which nothing is bound. -/
def serviceIn (j : Json) : Reads (ServiceType × Dispatcher Stage) := do
  match ← textIn j "service" with
  | "chat" => return (.chatIn, chatDispatcher)
  | "access" => return (.accessControlOut, accessDispatcher)
  | "registration" => return (.registration, registryDispatcher)
  | "custom" => return (.image, sampleDispatcher)
  | other => throw (.unreadable ("service " ++ other))

/-! ## What handlers were given -/

/-- What the handler of a part was given besides the session. -/
def arguments : (part : Part) → part.Request → List Json
  | .greet, name => [Report.text name]
  | .version, () => []
  | .odd, n => [Report.number n.toInt]
  | .hidden, () => []
  | .foreign, () => []
  | .obtainChats, () => []
  | .obtainChatsWire, () => []
  | .selectChat, chatId => [Report.text chatId]
  | .sendMessage, (localId, content) => [Report.number localId.toNat, Report.text content]
  | .loadMessages, (count, lastId) => [Report.number count.toNat, Report.text lastId]
  | .deleteHistory, () => []
  | .deleteChat, () => []
  | .askForConfirmation, (feature, timeout) =>
    [Report.text feature.name, Report.number timeout.toNat]
  | .askForConfirmationWire, q => [Report.number q.feature.toInt, Report.number q.timeout.toNat]
  | .notifyChange, (feature, rule) => [Report.text feature.name, Report.text rule.name]
  | .notifyChangeWire, c => [Report.number c.feature.toInt, Report.number c.rule.toInt]
  | .exchangeVersion, version => [Report.text version]
  | .registerService, s => [Report.text s.serviceType.name, Report.text s.location]
  | .discover, () => []

/-- A note, which begins with the method. The exchange of versions has no session. -/
def note (n : Note) : Json :=
  let session := if n.part = .exchangeVersion then [] else [Report.text n.comId]
  .array (Report.text n.part.methodName :: session ++ arguments n.part n.request)

end Switchboard.Playbook
