import Switchboard.Access.Methods
import Switchboard.Chat.Methods
import Switchboard.Playbook.Reading
import Switchboard.Playbook.Report
import Switchboard.Registry.Methods
import Switchboard.Sample.Service

/-!
# Calls in playbooks

A call is written as its method, its session and its arguments, all members of
one object. What it ends in is reported as JSON.
-/

namespace Switchboard.Playbook

/-- Nothing, reported. -/
def nothing : Unit → Json := fun _ => .null

/-- **The call that is written.** -/
def invocation (j : Json) : Reads (Invocation Json) := do
  let comId ← textIn j "com_id"
  let value : Reads Int64 := return .ofInt (← intIn j "value")
  let feature := namedIn Access.Feature.all Access.Feature.name j "feature"
  match ← textIn j "method" with
  | "Greet" => return ((Sample.greet (← textIn j "name")).on comId).map Report.text
  | "Version" => return (Sample.version.on comId).map Report.text
  | "VersionDiscard" => return (Sample.versionDiscard.on comId).map nothing
  | "Odd" => return ((Sample.odd (← value)).on comId).map fun n => Report.number n.toInt
  | "OddFlag" => return ((Sample.oddFlag (← value)).on comId).map .bool
  | "Hidden" => return (Sample.hidden.on comId).map nothing
  | "ExchangeVersion" =>
    return ((Registry.exchangeVersion (← textIn j "version")).on "").map Report.text
  | "RegisterService" =>
    let call := Registry.registerService (← serviceTypeIn j "type") (← textIn j "location")
    return (call.on comId).map nothing
  | "Discover" => return (Registry.discover.on comId).map Report.discovered
  | "ObtainChats" =>
    return (Chat.obtainChats.on comId).map fun infos => .array (infos.map Report.chat)
  | "SelectChat" => return ((Chat.selectChat (← textIn j "chat_id")).on comId).map nothing
  | "SendMessage" =>
    let call := Chat.sendMessage (← wordIn j "local_id") (← textIn j "content")
    return (call.on comId).map nothing
  | "LoadMessages" =>
    let call := Chat.loadMessages (← wordIn j "count") (← textIn j "last_id")
    return (call.on comId).map nothing
  | "DeleteHistory" => return (Chat.deleteHistory.on comId).map nothing
  | "DeleteChat" => return (Chat.deleteChat.on comId).map nothing
  | "AskForConfirmation" =>
    return ((Access.askForConfirmation (← feature) (← wordIn j "timeout")).on comId).map .bool
  | "NotifyChange" =>
    let rule ← namedIn Access.Rule.all Access.Rule.name j "access"
    return ((Access.notifyChange (← feature) rule).on comId).map nothing
  | other => throw (.unreadable ("call " ++ other))

/-- **Makes calls one after the other of a peer with prepared replies**: each request gets the
next reply, and when there are no more, the last one again. Reported is the result of each
call with the requests it sent. -/
def answerFrom (replies : List Wire.Reply) : Nat → List (Invocation Json) → List Json
  | _, [] => []
  | used, call :: rest =>
    let channel : ChannelIn (StateM (Nat × List Wire.Request)) := fun request (n, sent) =>
      let answer := match replies[n]?.or replies.getLast? with
        | some reply => .ok reply
        | none => .error .closed
      (answer, (n + 1, sent ++ [request]))
    let (result, used, sent) := (call.run (some channel)).run (used, [])
    .ofFields [("result", Report.result id result), ("sent", .array (sent.map Report.request))] ::
      answerFrom replies used rest

/-- Makes one call over a channel with a given answer, or without a channel. -/
def invoke (call : Invocation Json) (answer : Option (Except TransportError Wire.Reply)) : Json :=
  let channel (answer : Except TransportError Wire.Reply) :
      ChannelIn (StateM (List Wire.Request)) :=
    fun request sent => (answer, sent ++ [request])
  let (result, sent) := (call.run (answer.map channel)).run []
  .ofFields [("result", Report.result id result), ("sent", .array (sent.map Report.request))]

end Switchboard.Playbook
