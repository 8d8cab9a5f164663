import Switchboard.Playbook.Setting
import Switchboard.Rehearsal.Duet

/-!
# Plays of duets

A channel makes the calls that are written, some side by side, and the peer
plays the scripts that are written. Each report goes with what the peer has
noticed since the last one.
-/

namespace Switchboard.Playbook

open Rehearsal

/-! ## Scripts of the peer -/

/-- A reply to be sent, with what is to be changed about it. -/
def riposte (j : Json) : Reads Riposte := do
  let plus ← (member? j "call_id_plus").mapM int
  let comId ← textIn? j "com_id"
  return {
    reply := ← reply j
    index := (← (member? j "to").mapM int).map Int.toNat
    callIdPlus := .ofNat ((plus.getD 0) % UInt64.size).toNat
    functionId := ← (member? j "function_id").mapM fun _ => wordIn j "function_id"
    comId := if has j "com_id" then some comId else none }

/-- One thing for the peer to do. -/
def cue (j : Json) : Reads Cue := do
  match j.string? with
  | some "read" => return .read
  | some "next_step" => return .nextStep
  | some "hold" => return .hold
  | _ =>
    if has j "reply" then return .reply (← riposte (member j "reply"))
    else return .raw (← bytesIn j "raw").data.toList

/-! ## Reports -/

/-- What the peer has noticed. -/
def sighting : Sighting → Json
  | .accepted => Report.text "accepted"
  | .request callId r => Report.numbered callId r
  | .ended => Report.text "end"
  | .failed e => Report.transportError e

/-- What a call over the channel has ended in. -/
def answered : Except TransportError Wire.Reply → Json
  | .ok r => .ofFields [("reply", Report.reply r)]
  | .error e => Report.transportError e

/-- What a call has ended in by now. -/
def outcomeOf (d : Duet) (call : Nat) : Reads Json :=
  match d.outcome? call with
  | some answer => return answered answer
  | none => throw .stall

/-! ## Steps -/

/-- Makes the calls of a step: several side by side, one that is given up if it does not
finish, or one. -/
def duetAction (d : Duet) (step : Json) : Reads (Duet × Json) := do
  if has step "concurrent" then
    let (d, calls) := d.call (← (items (member step "concurrent")).mapM request)
    return (d, .array (← calls.mapM (outcomeOf d)))
  else
    match d.call [← request step] with
    | (d, [call]) =>
      match flagIn step "cancel" false, d.outcome? call with
      | true, some answer => return (d, answered answer)
      | true, none => return (d.cancel call, Report.text "cancelled")
      | false, _ => return (d, ← outcomeOf d call)
    | _ => throw .breakdown

/-- **A step of a duet.** -/
def duetStep (setting : Setting) (d : Duet) (step : Json) : Reads (Duet × Json) := do
  let (d, report) ← duetAction d step
  let (d, seen) := d.takeSeen
  return (d, setting.markedIn
    (.ofFields [("result", report), ("peer", .array (seen.map sighting))]))

/-- The duet that is written, and its setting: with a peer that has scripts, or with nobody
at a URL. Where the peer listens is seen, what the URL says is not. -/
def duet (j : Json) : Reads (Setting × Duet) := do
  let setting := Setting.of j
  let attempts ← natIn j "attempts" Limits.retryAttempts
  match member? j "destination" with
  | some _ =>
    match Address.parse? (← setting.urlIn j "destination") with
    | some a => return (setting, .alone setting.host a attempts)
    | none => throw .breakdown
  | none =>
    let scripts ← (items (member j "peer")).mapM fun script => (items script).mapM cue
    let address : Address :=
      if flagIn j "unix" false then ⟨"unix", "", 0, setting.path ++ "/peer.sock"⟩
      else ⟨"tcp+tv", "127.0.0.1", 0, ""⟩
    match Duet.start setting.host address attempts scripts with
    | .ok d => return (setting.see d.channel.destination, d)
    | .error _ => throw .breakdown

/-- **A play of a duet.** -/
def duetCalls (j : Json) : Reads Json := do
  let (setting, d) ← duet j
  stepsIn (duetStep setting) d j "steps"

end Switchboard.Playbook
