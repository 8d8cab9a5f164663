import Mathlib.Logic.Function.Basic
import Switchboard.Proofs.Channel.Outbound
import Switchboard.Proofs.Channel.Routing

/-!
# Calls that race

The steps of a channel are those that its callers can tell apart, and some of
them take more than one lock. A call that registers draws a call id, then
leaves it with its link, and if the link is closed by then it makes the channel
forget it. A call whose write fails takes its id back first and makes the
channel forget the link after that. In between, other calls do what they like,
and the link may end.

A `Race` is a channel with all of these moves apart: each of them holds one lock
at most, from its beginning to its end, and the moves of any number of calls
come in any order, together with what the links bring. Taking the current link
is one move, dialling included, because the lock on the current link is held all
the while, and so is writing a request because the lock on the link's writer is.
A `Stage` is what a call knows between two of its moves that its phase does not
tell.

Nobody gives up a call in a race. Every history of a channel without that is a
race in which the moves of a step follow one another (`Race.run_moves`), so what
holds of all races holds of all such histories.
-/

namespace Switchboard.Client

open Wire (Request)

/-- **What a call knows in the middle of a step.** -/
inductive Stage where
  /-- It has drawn an id, which it has to leave with its link. -/
  | numbered (link : Nat) (callId : UInt64)
  /-- It could not write its request, and has to take its id back. -/
  | broken (link : Nat) (callId : UInt64) (error : TransportError)
  /-- Its try has failed, and the channel has to forget its link. -/
  | failed (link : Nat) (error : TransportError)

/-- **What can happen in a race**: a move of a call, or something on a link. -/
inductive Move where
  | begin (request : Request)
  | join (call : Nat) (dialled : Except String Unit)
  | draw (call : Nat)
  | leave (call : Nat)
  | write (call : Nat) (broken : Option Break)
  | takeBack (call : Nat)
  | giveUp (call : Nat)
  | finish (call : Nat)
  | receive (link : Nat) (bytes : List UInt8)
  | endLink (link : Nat)

/-- The event of a channel that a move is, if it is all of it. -/
def Move.event? : Move → Option Event
  | .begin request => some (.begin request)
  | .join call dialled => some (.join call dialled)
  | .finish call => some (.finish call)
  | .receive link bytes => some (.receive link bytes)
  | .endLink link => some (.endLink link)
  | _ => none

/-- An event that is a move as a whole writes nothing. -/
theorem Channel.outgoing_notes (ch : Channel) {move : Move} {event : Event}
    (hevent : move.event? = some event) : (ch.notes event).outgoing = none := by
  have hstep := ch.step event
  generalize ch.after event = ch', ch.notes event = notes at hstep
  cases hstep with
  | write | breakOff | writeAlone => cases move <;> exact absurd hevent nofun
  | _ => rfl

/-- **A channel whose calls race**, with what has happened to it. -/
structure Race where
  channel : Channel
  stage : Nat → Option Stage := fun _ => none
  /-- How many call ids have been drawn. -/
  given : Nat := 0
  log : List Moment := []
  outgoing : List Outgoing := []

namespace Race

/-- A race before its first call. -/
def start (destination : Address) (attempts : Nat) : Race :=
  { channel := .withRetry destination attempts }

/-! ## The moves -/

/-- The race after an event of its channel that takes one lock. -/
def happen (r : Race) (event : Event) : Race :=
  { r with
    channel := r.channel.after event
    log := r.log ++ (r.channel.notes event).moments }

/-- The race with a call in the middle of a step, or behind it. -/
def setStage (r : Race) (call : Nat) (stage : Option Stage) : Race :=
  { r with stage := Function.update r.stage call stage }

/-- A call has drawn the next id. -/
def number (r : Race) (call link : Nat) : Race where
  channel := r.channel.draw
  stage := Function.update r.stage call (some (.numbered link r.channel.nextCallId))
  given := r.given + 1
  log := r.log
  outgoing := r.outgoing

/-- A call has left its id. -/
def enter (r : Race) (call link : Nat) (callId : UInt64) : Race where
  channel := ((r.channel.withdraw link callId).changeLink link (·.expect callId call)).setPhase
    call (.writing link callId .awaited)
  stage := Function.update r.stage call none
  given := r.given
  log := r.log ++ [.left link callId call]
  outgoing := r.outgoing

/-- A call has put something on its link. -/
def send (r : Race) (o : Outgoing) : Race :=
  { r with
    channel := r.channel.changeLink o.link (·.write o.bytes)
    outgoing := r.outgoing ++ [o] }

/-- A call has written its request. -/
def await (r : Race) (call link : Nat) (callId : UInt64) (answer : Answer) : Race :=
  { r with channel := r.channel.setPhase call (.waiting link callId answer) }

/-- A call has taken its id back. -/
def takeOff (r : Race) (call link : Nat) (callId : UInt64) (error : TransportError) : Race where
  channel := r.channel.withdraw link callId
  stage := Function.update r.stage call (some (.failed link error))
  given := r.given
  log := r.log ++ [.withdrawn link callId]
  outgoing := r.outgoing

/-- A call has made the channel forget its link. -/
def drop (r : Race) (call link : Nat) (error : TransportError) : Race :=
  { r with
    channel := (r.channel.discard link).fail call error
    stage := Function.update r.stage call none }

/-- A call that has a link draws the next id. -/
def draw (r : Race) (call : Nat) : Race :=
  match r.channel.phase? call, r.stage call with
  | some (.joined link), none => r.number call link
  | _, _ => r

/-- A call leaves its id, unless the link is closed. -/
def leave (r : Race) (call : Nat) : Race :=
  match r.stage call with
  | some (.numbered link callId) =>
    if r.channel.isOpen link then r.enter call link callId
    else r.setStage call (some (.failed link (.send "not connected")))
  | _ => r

/-- A call writes its request, or as much of it as it can. -/
def write (r : Race) (call : Nat) (broken : Option Break) : Race :=
  match r.channel.calls[call]?, r.stage call with
  | some e, none =>
    match e.phase with
    | .writing link callId answer =>
      let sent := r.send (Channel.sending call link callId e.request broken)
      match (Channel.written callId e.request broken).error with
      | none => sent.await call link callId answer
      | some error => sent.setStage call (some (.broken link callId error))
    | _ => r
  | _, _ => r

/-- A call that could not write takes its id back. -/
def takeBack (r : Race) (call : Nat) : Race :=
  match r.stage call with
  | some (.broken link callId error) => r.takeOff call link callId error
  | _ => r

/-- A call whose try has failed makes the channel forget the link. -/
def giveUp (r : Race) (call : Nat) : Race :=
  match r.stage call with
  | some (.failed link error) => r.drop call link error
  | _ => r

/-! What each move does where it is the next one of its call, and elsewhere. -/

section Moves

variable {r : Race} {call link : Nat} {callId : UInt64} {answer : Answer} {e : Exchange}
  {broken : Option Break} {error : TransportError}

theorem draw_of_joined (hphase : r.channel.phase? call = some (.joined link))
    (hstage : r.stage call = none) : r.draw call = r.number call link := by
  simp only [draw, hphase, hstage]

theorem draw_of_not_joined (hphase : ∀ link, r.channel.phase? call ≠ some (.joined link)) :
    r.draw call = r := by
  unfold draw
  split
  · next hjoined _ => exact absurd hjoined (hphase _)
  · rfl

theorem leave_of_open (hstage : r.stage call = some (.numbered link callId))
    (hopen : r.channel.isOpen link = true) : r.leave call = r.enter call link callId := by
  simp only [leave, hstage, hopen, if_true]

theorem leave_of_closed (hstage : r.stage call = some (.numbered link callId))
    (hclosed : r.channel.isOpen link = false) :
    r.leave call = r.setStage call (some (.failed link (.send "not connected"))) := by
  simp only [leave, hstage, hclosed, Bool.false_eq_true, if_false]

theorem leave_of_none (hstage : r.stage call = none) : r.leave call = r := by
  simp only [leave, hstage]

theorem write_of_none (hcall : r.channel.calls[call]? = some e)
    (hphase : e.phase = .writing link callId answer) (hstage : r.stage call = none)
    (hout : (Channel.written callId e.request broken).error = none) :
    r.write call broken = (r.send (Channel.sending call link callId e.request broken)).await call
      link callId answer := by
  simp only [write, hcall, hstage, hphase, hout]

theorem write_of_some (hcall : r.channel.calls[call]? = some e)
    (hphase : e.phase = .writing link callId answer) (hstage : r.stage call = none)
    (hout : (Channel.written callId e.request broken).error = some error) :
    r.write call broken = (r.send (Channel.sending call link callId e.request broken)).setStage call
      (some (.broken link callId error)) := by
  simp only [write, hcall, hstage, hphase, hout]

theorem write_of_not_writing (hcall : ∀ e, r.channel.calls[call]? = some e →
    ∀ link callId answer, e.phase ≠ .writing link callId answer) :
    r.write call broken = r := by
  unfold write
  split
  · next e hcall' _ =>
    split
    · next hphase => exact absurd hphase (hcall e hcall' _ _ _)
    · rfl
  · rfl

theorem takeBack_of_broken (hstage : r.stage call = some (.broken link callId error)) :
    r.takeBack call = r.takeOff call link callId error := by
  simp only [takeBack, hstage]

theorem takeBack_of_none (hstage : r.stage call = none) : r.takeBack call = r := by
  simp only [takeBack, hstage]

theorem giveUp_of_failed (hstage : r.stage call = some (.failed link error)) :
    r.giveUp call = r.drop call link error := by
  simp only [giveUp, hstage]

theorem giveUp_of_none (hstage : r.stage call = none) : r.giveUp call = r := by
  simp only [giveUp, hstage]

end Moves

/-- **The race after a move.** A move that is not the next one of its call changes nothing. -/
def step (r : Race) : Move → Race
  | .begin request => r.happen (.begin request)
  | .join call dialled => r.happen (.join call dialled)
  | .draw call => r.draw call
  | .leave call => r.leave call
  | .write call broken => r.write call broken
  | .takeBack call => r.takeBack call
  | .giveUp call => r.giveUp call
  | .finish call => r.happen (.finish call)
  | .receive link bytes => r.happen (.receive link bytes)
  | .endLink link => r.happen (.endLink link)

/-- The race after some moves. -/
def run (r : Race) (moves : List Move) : Race := moves.foldl step r

theorem run_append (r : Race) (first second : List Move) :
    r.run (first ++ second) = (r.run first).run second := List.foldl_append

/-- **What a race makes of a move.** -/
inductive Steps (r : Race) : Move → Race → Prop where
  /-- The move is not the next one of its call. -/
  | idle (move : Move) : Steps r move r
  /-- An event that takes one lock and leaves no call in the middle of a step. -/
  | event {move : Move} {event : Event} (hevent : move.event? = some event) :
      Steps r move (r.happen event)
  | draw {call link : Nat} {e : Exchange} (hcall : r.channel.calls[call]? = some e)
      (hphase : e.phase = .joined link) (hstage : r.stage call = none) :
      Steps r (.draw call) (r.number call link)
  | leave {call link : Nat} {callId : UInt64}
      (hstage : r.stage call = some (.numbered link callId))
      (hopen : r.channel.isOpen link = true) : Steps r (.leave call) (r.enter call link callId)
  | miss {call link : Nat} {callId : UInt64}
      (hstage : r.stage call = some (.numbered link callId))
      (hclosed : r.channel.isOpen link = false) :
      Steps r (.leave call) (r.setStage call (some (.failed link (.send "not connected"))))
  | write {call link : Nat} {callId : UInt64} {answer : Answer} {broken : Option Break}
      {e : Exchange} (hcall : r.channel.calls[call]? = some e)
      (hphase : e.phase = .writing link callId answer) (hstage : r.stage call = none)
      (hout : (Channel.written callId e.request broken).error = none) :
      Steps r (.write call broken)
        ((r.send (Channel.sending call link callId e.request broken)).await call link callId answer)
  | spoil {call link : Nat} {callId : UInt64} {answer : Answer} {broken : Option Break}
      {e : Exchange} {error : TransportError} (hcall : r.channel.calls[call]? = some e)
      (hphase : e.phase = .writing link callId answer) (hstage : r.stage call = none)
      (hout : (Channel.written callId e.request broken).error = some error) :
      Steps r (.write call broken)
        ((r.send (Channel.sending call link callId e.request broken)).setStage call
          (some (.broken link callId error)))
  | takeBack {call link : Nat} {callId : UInt64} {error : TransportError}
      (hstage : r.stage call = some (.broken link callId error)) :
      Steps r (.takeBack call) (r.takeOff call link callId error)
  | giveUp {call link : Nat} {error : TransportError}
      (hstage : r.stage call = some (.failed link error)) :
      Steps r (.giveUp call) (r.drop call link error)

theorem steps_draw (r : Race) (call : Nat) : Steps r (.draw call) (r.draw call) := by
  unfold draw
  split
  · next link hphase hstage =>
    obtain ⟨e, hcall, hphase⟩ := Channel.phase?_eq_some.mp hphase
    exact .draw hcall hphase hstage
  · exact .idle _

theorem steps_leave (r : Race) (call : Nat) : Steps r (.leave call) (r.leave call) := by
  unfold leave
  split
  · next link callId hstage =>
    split_ifs with hopen
    · exact .leave hstage hopen
    · exact .miss hstage (Bool.not_eq_true _ ▸ hopen)
  · exact .idle _

theorem steps_write (r : Race) (call : Nat) (broken : Option Break) :
    Steps r (.write call broken) (r.write call broken) := by
  unfold write
  split
  · next e hcall hstage =>
    split
    · next link callId answer hphase =>
      dsimp only
      split
      · next hout => exact .write hcall hphase hstage hout
      · next error hout => exact .spoil hcall hphase hstage hout
    · exact .idle _
  · exact .idle _

theorem steps_takeBack (r : Race) (call : Nat) : Steps r (.takeBack call) (r.takeBack call) := by
  unfold takeBack
  split
  · next hstage => exact .takeBack hstage
  · exact .idle _

theorem steps_giveUp (r : Race) (call : Nat) : Steps r (.giveUp call) (r.giveUp call) := by
  unfold giveUp
  split
  · next hstage => exact .giveUp hstage
  · exact .idle _

/-- **Every move is one of the steps.** -/
theorem steps (r : Race) (move : Move) : Steps r move (r.step move) := by
  cases move with
  | draw call => exact steps_draw r call
  | leave call => exact steps_leave r call
  | write call broken => exact steps_write r call broken
  | takeBack call => exact steps_takeBack r call
  | giveUp call => exact steps_giveUp r call
  | _ => exact .event rfl

end Race

end Switchboard.Client
