import Switchboard.Client.Link
import Switchboard.Limits

/-!
# Channels

A channel carries the calls of a client to one destination. The first call
opens a link and the later ones share it; when the link has broken, the next
call opens another.

Calls run side by side, and the channel makes one step of one call at a time,
in any order. A call

1. takes the current link, or opens one (`join`),
2. leaves the next call id with it (`register`),
3. writes its request (`write`),
4. finishes with the reply, or without one if the link has broken (`finish`).

A step that fails ends the try. A try that failed before the request was
written is repeated, as often as the channel allows; after that nobody knows
whether the request has been answered, and the call fails. In either case the
channel forgets the link, unless it has a newer one by then.

A call can be given up at any time (`cancel`). A request that is being written
is written to its end all the same, since the other calls use the link too.
-/

namespace Switchboard.Client

open Wire (Request Reply ReplyEnvelope)

/-- What a call that has left its id knows about its reply. -/
inductive Answer where
  | awaited
  | arrived (envelope : ReplyEnvelope)
  /-- The link has broken. -/
  | lost
deriving DecidableEq, Inhabited

/-- **How far a call has come.** -/
inductive Phase where
  /-- It has no link. -/
  | starting
  /-- It has taken a link. -/
  | joined (link : Nat)
  /-- It has left its call id with the link and has to write its request. -/
  | writing (link : Nat) (callId : UInt64) (answer : Answer)
  /-- It has written its request. -/
  | waiting (link : Nat) (callId : UInt64) (answer : Answer)
  /-- It has been given up, and its request has yet to be written. -/
  | detached (link : Nat) (callId : UInt64)
  | finished (outcome : Except TransportError Reply)
  /-- It has been given up. -/
  | abandoned
deriving Inhabited

/-- The link a call uses. -/
def Phase.link? : Phase → Option Nat
  | joined link | writing link _ _ | waiting link _ _ | detached link _ => some link
  | _ => none

/-- The phase of a call that has learned something about its reply. -/
def Phase.learn (answer : Answer) : Phase → Phase
  | writing link callId .awaited => writing link callId answer
  | waiting link callId .awaited => waiting link callId answer
  | phase => phase

/-- **A call under way.** -/
structure Exchange where
  request : Request
  /-- The number of the present try, counted from one. -/
  attempt : Nat := 1
  phase : Phase := .starting
deriving Inhabited

/-- The call after a try has failed: it starts again, or the failure is its outcome. -/
def Exchange.fail (e : Exchange) (attempts : Nat) (error : TransportError) : Exchange :=
  if error.isRetryable ∧ e.attempt < attempts then
    { e with attempt := e.attempt + 1, phase := .starting }
  else { e with phase := .finished (.error error) }

/-- **How a link breaks** while something is written on it. -/
structure Break where
  /-- How many bytes have gone out by then. -/
  after : Nat
  reason : String
deriving DecidableEq, Inhabited

/-- **A channel to a destination.** Links and calls are numbered from zero and stay in the
lists when they are over. -/
structure Channel where
  destination : Address
  /-- How often a call is tried. -/
  attempts : Nat := Limits.retryAttempts
  nextCallId : UInt64 := 1
  links : List Link := []
  /-- The link for the next call. -/
  current : Option Nat := none
  calls : List Exchange := []
deriving Inhabited

namespace Channel

/-- The channel to a destination that tries each call so often, at least once. -/
def withRetry (destination : Address) (attempts : Nat) : Channel :=
  { destination, attempts := max 1 attempts }

/-- The current link, if it can be used. -/
def openLink? (ch : Channel) : Option Nat :=
  ch.current.filter fun link => (ch.links[link]?).any (·.isOpen)

/-- The channel after a change to a link. -/
def changeLink (ch : Channel) (link : Nat) (f : Link → Link) : Channel :=
  { ch with links := ch.links.modify link f }

/-- The channel after a change to a call. -/
def changeCall (ch : Channel) (call : Nat) (f : Exchange → Exchange) : Channel :=
  { ch with calls := ch.calls.modify call f }

/-- The channel with a call in another phase. -/
def setPhase (ch : Channel) (call : Nat) (phase : Phase) : Channel :=
  ch.changeCall call fun e => { e with phase }

/-- The phase of a call. -/
def phase? (ch : Channel) (call : Nat) : Option Phase := (ch.calls[call]?).map (·.phase)

/-- The outcome of a call that has finished. -/
def outcome? (ch : Channel) (call : Nat) : Option (Except TransportError Reply) :=
  match ch.phase? call with
  | some (.finished outcome) => some outcome
  | _ => none

/-- The channel after a try has failed. -/
def fail (ch : Channel) (call : Nat) (error : TransportError) : Channel :=
  ch.changeCall call (·.fail ch.attempts error)

/-- The channel after it has forgotten a link, if that was still the current one. -/
def discard (ch : Channel) (link : Nat) : Channel :=
  if ch.current = some link then { ch with current := none } else ch

/-- The channel after some calls have learned something about their replies. -/
def tell (ch : Channel) (news : List (Nat × Answer)) : Channel :=
  news.foldl (fun ch (call, answer) =>
    ch.changeCall call fun e => { e with phase := e.phase.learn answer }) ch

/-- The channel after a call id has been taken off a link. Whoever still waits with it has lost
its reply. -/
def withdraw (ch : Channel) (link : Nat) (callId : UInt64) : Channel :=
  match ch.links[link]? with
  | none => ch
  | some l =>
    (ch.changeLink link (·.forget callId)).tell ((l.waiting.lookup callId).toList.map (·, .lost))

/-! ## The steps of a call -/

/-- A new call, and its number. -/
def begin (ch : Channel) (request : Request) : Channel × Nat :=
  ({ ch with calls := ch.calls ++ [{ request }] }, ch.calls.length)

/-- **Takes the current link, or opens one**, given what comes of dialling. -/
def join (ch : Channel) (call : Nat) (dialled : Except String Unit) : Channel :=
  match ch.phase? call with
  | some .starting =>
    match ch.openLink?, dialled with
    | some link, _ => ch.setPhase call (.joined link)
    | none, .error reason => ch.fail call (.connect ch.destination.text reason)
    | none, .ok () =>
      let link := ch.links.length
      let ch := { ch with links := ch.links ++ [({} : Link)], current := some link }
      ch.setPhase call (.joined link)
  | _ => ch

/-- **Leaves the next call id** with the link, if that is still open. Ids begin again at zero when
all have been given out, and then a call may have the id of an earlier one. -/
def register (ch : Channel) (call : Nat) : Channel :=
  match ch.phase? call with
  | some (.joined link) =>
    let callId := ch.nextCallId
    let ch := { ch with nextCallId := callId + 1 }
    if (ch.links[link]?).any (·.isOpen) then
      ((ch.withdraw link callId).changeLink link (·.expect callId call)).setPhase call
        (.writing link callId .awaited)
    else (ch.discard link).fail call (.send "not connected")
  | _ => ch

/-- What was written of a request, given how the link broke meanwhile if it did. -/
def written (callId : UInt64) (request : Request) : Option Break → Wire.Written
  | none => Wire.writeRequest callId request
  | some broken => (Wire.writeRequest callId request).brokenAfter broken.after (.send broken.reason)

/-- **Writes the request.** If that fails, the call takes its id back. -/
def write (ch : Channel) (call : Nat) (broken : Option Break) : Channel :=
  match ch.calls[call]? with
  | none => ch
  | some e =>
    match e.phase with
    | .writing link callId answer =>
      let out := written callId e.request broken
      let ch := ch.changeLink link (·.write out.bytes)
      match out.error with
      | none => ch.setPhase call (.waiting link callId answer)
      | some error => ((ch.withdraw link callId).discard link).fail call error
    | .detached link callId =>
      let out := written callId e.request broken
      (ch.changeLink link (·.write out.bytes)).setPhase call .abandoned
    | _ => ch

/-- **Finishes a call** whose reply is there or lost. -/
def finish (ch : Channel) (call : Nat) : Channel :=
  match ch.calls[call]? with
  | none => ch
  | some e =>
    match e.phase with
    | .waiting _ _ (.arrived envelope) => ch.setPhase call (.finished (envelope.toReply e.request))
    | .waiting link _ .lost => (ch.discard link).fail call .closed
    | _ => ch

/-- **Gives a call up.** -/
def cancel (ch : Channel) (call : Nat) : Channel :=
  match ch.phase? call with
  | some (.writing link callId _) => ch.setPhase call (.detached link callId)
  | some (.finished _) | none => ch
  | some (.detached _ _) => ch
  | some _ => ch.setPhase call .abandoned

/-! ## What a link is told -/

/-- The channel after some bytes have come in on a link. -/
def receive (ch : Channel) (link : Nat) (bytes : List UInt8) : Channel :=
  match ch.links[link]? with
  | none => ch
  | some l =>
    let (after, handed, lost) := l.receive bytes
    (ch.changeLink link fun _ => after).tell
      (handed.map (fun (call, envelope) => (call, .arrived envelope)) ++ lost.map (·, .lost))

/-- The channel after the server has ended a link. -/
def endLink (ch : Channel) (link : Nat) : Channel :=
  match ch.links[link]? with
  | none => ch
  | some l =>
    let (after, lost) := l.close
    (ch.changeLink link fun _ => after).tell (lost.map (·, .lost))

/-- Whether a link is still used, by the next call or by one under way. The connection
lasts so long, whatever the server does. -/
def isUsed (ch : Channel) (link : Nat) : Bool :=
  ch.current = some link || ch.calls.any fun e => e.phase.link? = some link

end Channel

end Switchboard.Client
