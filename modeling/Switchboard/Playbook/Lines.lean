import Switchboard.Playbook.Registration
import Switchboard.Rehearsal.Echo

/-!
# Plays on lines

A server is served at a URL, and everything that comes over its lines is
written by hand: whole requests, pieces of requests, or bytes that are neither.
Behind the server is a registry or an echo.
-/

namespace Switchboard.Playbook

open Rehearsal

/-- What a playbook may do with the state of a backend from behind. -/
class Stagehand (σ : Type) where
  /-- Lets something go on that waits, given which tickets still wait. -/
  release : (Nat → Bool) → σ → σ
  /-- The sessions that are there. -/
  sessions : σ → List String

instance : Stagehand Registry.Table where
  release _ t := t
  sessions := Registry.Table.sessions

instance : Stagehand Gate where
  release isWaiting g := g.release isWaiting
  sessions _ := []

/-- **A play on lines.** -/
structure LinePlay (β σ : Type) where
  setting : Setting
  network : Network β σ
  /-- The numbers of the lines, under their names. -/
  lines : List (String × Nat) := []

/-- The network of an echo. -/
def echoNetwork (host : Host) : Network Echo Gate :=
  { host, state := {}, providers := [(leading, ⟨{}, none⟩)] }

/-- Replies in the order of their call ids. -/
def sortedReplies (replies : List Wire.ReplyEnvelope) : List Wire.ReplyEnvelope :=
  replies.mergeSort fun a b => a.header.callId ≤ b.header.callId

namespace LinePlay

variable {β σ : Type} [Backend β σ]

/-- The number of the line that is named in a step. -/
def lineIn (p : LinePlay β σ) (step : Json) : Reads Nat := do
  match p.lines.lookup (← textIn step "c") with
  | some number => return number
  | none => throw .breakdown

/-- Ends the line with a name, if there is one. -/
def close (p : LinePlay β σ) (name : String) : LinePlay β σ :=
  match p.lines.lookup name with
  | some number => { p with network := p.network.endByHand number }
  | none => p

/-- Opens a line to the server under a name, and says which one it is. Another line with that
name is ended when the new one is there. -/
def openLine (p : LinePlay β σ) (name : String) : Reads (LinePlay β σ × Nat) :=
  match (p.network.server? leading).map (·.location) with
  | none => throw .breakdown
  | some a =>
    match p.network.openByHand a with
    | .error _ => throw .breakdown
    | .ok (network, number) =>
      let p := { p with network := network.settle }.close name
      return ({ p with lines := (name, number) :: p.lines }, number)

/-- Writes bytes on a line. -/
def write (p : LinePlay β σ) (number : Nat) (bytes : List UInt8) : LinePlay β σ :=
  { p with network := p.network.writeByHand number bytes }

/-- Takes so many replies from a line, if they are there. -/
def take (p : LinePlay β σ) (number wanted : Nat) : LinePlay β σ × List Wire.ReplyEnvelope :=
  let (network, found) := p.network.takeReplies number wanted
  ({ p with network }, found)

/-- Waits for replies on a line and reports them, after as many reports of the end as there
are replies that cannot come any more. -/
def receive (p : LinePlay β σ) (number wanted : Nat) : Reads (LinePlay β σ × Json) := do
  let (p, found) := p.take number wanted
  let isEnded := ((p.network.line? number).map (·.isEnded)).getD true
  if found.length < wanted ∧ ¬ isEnded then throw .stall
  else
    return (p, .array (List.replicate (wanted - found.length) (Report.text "closed") ++
      (sortedReplies found).map Report.envelope))

/-- Opens several lines and writes a request on each: how many get a reply. -/
def openMany (name : String) : LinePlay β σ → List Nat → Reads (LinePlay β σ × Nat)
  | p, [] => return (p, 0)
  | p, i :: rest => do
    let (p, number) ← p.openLine (name ++ toString i)
    let call := Wire.writeRequest 1 ⟨some "c", 5, .empty⟩
    let (p, found) := (p.write number call.bytes).take number 1
    let (p, served) ← openMany name p rest
    return (p, found.length + served)

/-- What a step does. -/
def action [Stagehand σ] (p : LinePlay β σ) (step : Json) : Reads (LinePlay β σ × Json) := do
  match ← textIn step "do" with
  | "connect" =>
    let (p, _) ← p.openLine (← textIn step "c")
    return (p, .null)
  | "send" =>
    let number ← p.lineIn step
    return (p.write number (← bytesIn step "data").data.toList, .null)
  | "call" =>
    let number ← p.lineIn step
    let callId := UInt64.ofNat (← natIn step "call_id" 0)
    return (p.write number (Wire.writeRequest callId (← request step)).bytes, .null)
  | "recv" => p.receive (← p.lineIn step) (← natIn step "n" 1)
  | "finish" =>
    let number ← p.lineIn step
    let (network, rest) := (p.network.endByHand number).takeByHand number
    return ({ p with network }, .ofFields [("rest", Report.hex rest)])
  | "close" => return ({ p with network := p.network.endByHand (← p.lineIn step) }, .null)
  | "release" =>
    let state := Stagehand.release p.network.isWaiting p.network.state
    return ({ p with network := { p.network with state }.settle }, .null)
  | "shutdown" => return ({ p with network := p.network.unserve leading }, .null)
  | "sessions" => return (p, .array ((Stagehand.sessions p.network.state).map Report.text))
  | "connect_many" =>
    let (p, served) ← openMany (← textIn step "c") p (List.range (← natIn step "n" 0))
    return (p, .ofFields [("served", Report.number served)])
  | other => throw (.unreadable ("step " ++ other))

/-- **A step of a play on lines.** -/
def step [Stagehand σ] (p : LinePlay β σ) (step : Json) : Reads (LinePlay β σ × Json) := do
  let (p, report) ← p.action step
  return (p, p.setting.markedIn report)

/-- A play on the lines of the provider of a network on the host of a setting. The report
begins with how starting it went; nothing is done if it failed. -/
def perform [Stagehand σ] (setting : Setting) (network : Network β σ) (j : Json) : Reads Json := do
  match network.serve leading (← setting.urlIn j "url") with
  | (.error e, _) => return setting.markedIn (Report.setupError e)
  | (.ok a, network) =>
    let setting := setting.see a
    return .array (setting.markedIn (Report.location a) ::
      (← steps LinePlay.step { setting, network } (items (member j "steps"))))

end LinePlay

/-- **A play on lines**, with a registry or an echo behind the server. -/
def lineCalls (j : Json) : Reads Json := do
  let setting := Setting.of j
  match ← textIn j "dispatch" with
  | "registry" => LinePlay.perform setting (registryNetwork setting.host "7.5") j
  | _ => LinePlay.perform setting (echoNetwork setting.host) j

end Switchboard.Playbook
