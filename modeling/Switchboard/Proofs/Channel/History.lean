import Mathlib.Logic.Function.Basic
import Switchboard.Proofs.Channel.Waits

/-!
# The history of a channel

What happens to a channel is a list of events in any order: calls are begun,
make their steps and are given up, dialling succeeds or fails, writing may
break off, and each link brings bytes and may be ended by its server. Nothing
is assumed about the bytes.

Beside the channel a history keeps what has happened: the moments of the waits,
the tries that are over with their outcomes, what has been written by which
call, and what each server has sent. The channel does not depend on it.
`Channel.step` says once for all events what a channel makes of it and what is
noted; everything else about histories is proved from that.
-/

namespace Switchboard.TransportError

/-- Whether a call that fails so has not written its request. -/
def isUnsent : TransportError → Bool
  | connect _ _ | send _ | frameTooLarge _ _ => true
  | _ => false

end Switchboard.TransportError

namespace Switchboard.Client

open Wire (Request Reply ReplyEnvelope)

/-- **What can happen to a channel.** -/
inductive Event where
  | begin (request : Request)
  | join (call : Nat) (dialled : Except String Unit)
  | register (call : Nat)
  | write (call : Nat) (broken : Option Break)
  | finish (call : Nat)
  | cancel (call : Nat)
  /-- Bytes have come in. -/
  | receive (link : Nat) (bytes : List UInt8)
  /-- The server has ended the link. -/
  | endLink (link : Nat)

/-- A try that is over. -/
structure Trial where
  call : Nat
  outcome : Except TransportError Reply

/-- What a call has written of its request on a link. -/
structure Outgoing where
  call : Nat
  link : Nat
  callId : UInt64
  request : Request
  bytes : List UInt8

/-- **What is noted of an event.** -/
structure Notes where
  moments : List Moment := []
  trial : Option Trial := none
  outgoing : Option Outgoing := none

/-- Handing out replies takes ids off a link, and does nothing else to it. -/
theorem Link.route_keeps {β : Type} (l : Link) (field : Link → β)
    (hforget : ∀ l callId, field (l.forget callId) = field l) (envelopes : List ReplyEnvelope) :
    field (l.route envelopes).1 = field l := by
  induction envelopes generalizing l with
  | nil => rfl
  | cons envelope rest ih =>
    unfold Link.route
    split
    · exact ih l
    · exact (ih (l.forget envelope.header.callId)).trans (hforget l _)

theorem Link.receive_of_closed {l : Link} (hclosed : l.isOpen = false) (bytes : List UInt8) :
    l.receive bytes = (l, [], []) :=
  if_neg (by rw [hclosed]; exact Bool.false_ne_true)

namespace Channel

/-- **The channel after an event.** -/
def after (ch : Channel) : Event → Channel
  | .begin request => (ch.begin request).1
  | .join call dialled => ch.join call dialled
  | .register call => ch.register call
  | .write call broken => ch.write call broken
  | .finish call => ch.finish call
  | .cancel call => ch.cancel call
  | .receive link bytes => ch.receive link bytes
  | .endLink link => ch.endLink link

/-- What comes of dialling in vain. -/
def refusal (ch : Channel) (reason : String) : TransportError :=
  .connect ch.destination.text reason

/-- Whether a link is there and open. -/
def isOpen (ch : Channel) (link : Nat) : Bool := (ch.links[link]?).any (·.isOpen)

/-- What happens to the waits of a link that has brought bytes. -/
def arrivalMoments (link : Nat) (arrived : Wire.Arrivals ReplyEnvelope) : List Moment :=
  arrived.values.map (.read link) ++ if arrived.error.isSome then [.stopped link] else []

/-- A call that takes a link cannot have one if dialling fails. -/
def notesOfJoin (ch : Channel) (call : Nat) (dialled : Except String Unit) : Notes :=
  match ch.phase? call, ch.openLink?, dialled with
  | some .starting, none, .error reason => { trial := some ⟨call, .error (ch.refusal reason)⟩ }
  | _, _, _ => {}

/-- A call leaves its id, or finds the link closed. -/
def notesOfRegister (ch : Channel) (call : Nat) : Notes :=
  match ch.phase? call with
  | some (.joined link) =>
    if ch.isOpen link then { moments := [.left link ch.nextCallId call] }
    else { trial := some ⟨call, .error (.send "not connected")⟩ }
  | _ => {}

/-- What is noted of writing. -/
def sending (call link : Nat) (callId : UInt64) (request : Request) (broken : Option Break) :
    Outgoing :=
  ⟨call, link, callId, request, (written callId request broken).bytes⟩

/-- A call writes its request, and takes its id back if that fails, unless it has been given
up. -/
def notesOfWrite (ch : Channel) (call : Nat) (broken : Option Break) : Notes :=
  match ch.calls[call]? with
  | none => {}
  | some e =>
    match e.phase with
    | .writing link callId _ =>
      let out := written callId e.request broken
      { moments := if out.error.isSome then [.withdrawn link callId] else []
        trial := out.error.map fun error => ⟨call, .error error⟩
        outgoing := some (sending call link callId e.request broken) }
    | .detached link callId =>
      { outgoing := some (sending call link callId e.request broken) }
    | _ => {}

/-- A call that has its answer is over. -/
def notesOfFinish (ch : Channel) (call : Nat) : Notes :=
  match ch.calls[call]? with
  | none => {}
  | some e =>
    match e.phase with
    | .waiting _ _ (.arrived envelope) => { trial := some ⟨call, envelope.toReply e.request⟩ }
    | .waiting _ _ .lost => { trial := some ⟨call, .error .closed⟩ }
    | _ => {}

/-- Of an open link the envelopes are read that are complete. -/
def notesOfReceive (ch : Channel) (link : Nat) (bytes : List UInt8) : Notes :=
  match ch.links[link]? with
  | some l =>
    if l.isOpen then
      { moments := arrivalMoments link (Wire.arrivals Wire.readReply (l.inbound ++ bytes)) }
    else {}
  | none => {}

/-- **What is noted of an event**, given the channel before it. -/
def notes (ch : Channel) : Event → Notes
  | .begin _ | .cancel _ => {}
  | .join call dialled => ch.notesOfJoin call dialled
  | .register call => ch.notesOfRegister call
  | .write call broken => ch.notesOfWrite call broken
  | .finish call => ch.notesOfFinish call
  | .receive link bytes => ch.notesOfReceive link bytes
  | .endLink link => if ch.isOpen link then { moments := [.stopped link] } else {}

/-! ## The steps -/

/-- The channel with a new link. -/
def dial (ch : Channel) : Channel :=
  { ch with links := ch.links ++ [{}], current := some ch.links.length }

/-- The channel after it has given out a call id. -/
def draw (ch : Channel) : Channel := { ch with nextCallId := ch.nextCallId + 1 }

/-- **What a channel makes of an event**, and what is noted of it. -/
inductive Step (ch : Channel) : Event → Channel → Notes → Prop where
  /-- The event is not for the call at its present stage, or for a link that is not there. -/
  | idle (event : Event) : Step ch event ch {}
  | begin (request : Request) : Step ch (.begin request) (ch.begin request).1 {}
  | share {call link : Nat} {dialled : Except String Unit} {e : Exchange}
      (hcall : ch.calls[call]? = some e) (hphase : e.phase = .starting)
      (hcurrent : ch.openLink? = some link) :
      Step ch (.join call dialled) (ch.setPhase call (.joined link)) {}
  | refuse {call : Nat} {reason : String} {e : Exchange} (hcall : ch.calls[call]? = some e)
      (hphase : e.phase = .starting) :
      Step ch (.join call (.error reason)) (ch.fail call (ch.refusal reason))
        { trial := some ⟨call, .error (ch.refusal reason)⟩ }
  | dial {call : Nat} {e : Exchange} (hcall : ch.calls[call]? = some e)
      (hphase : e.phase = .starting) :
      Step ch (.join call (.ok ())) (ch.dial.setPhase call (.joined ch.links.length)) {}
  | leave {call link : Nat} {e : Exchange} {l : Link} (hcall : ch.calls[call]? = some e)
      (hphase : e.phase = .joined link) (hlink : ch.links[link]? = some l)
      (hopen : l.isOpen = true) :
      Step ch (.register call)
        (((ch.draw.withdraw link ch.nextCallId).changeLink link
          (·.expect ch.nextCallId call)).setPhase call (.writing link ch.nextCallId .awaited))
        { moments := [.left link ch.nextCallId call] }
  | miss {call link : Nat} {e : Exchange} (hcall : ch.calls[call]? = some e)
      (hphase : e.phase = .joined link) :
      Step ch (.register call) ((ch.draw.discard link).fail call (.send "not connected"))
        { trial := some ⟨call, .error (.send "not connected")⟩ }
  | write {call link : Nat} {callId : UInt64} {answer : Answer} {broken : Option Break}
      {e : Exchange} (hcall : ch.calls[call]? = some e)
      (hphase : e.phase = .writing link callId answer)
      (hout : (written callId e.request broken).error = none) :
      Step ch (.write call broken)
        ((ch.changeLink link (·.write (written callId e.request broken).bytes)).setPhase call
          (.waiting link callId answer))
        { outgoing := some (sending call link callId e.request broken) }
  | breakOff {call link : Nat} {callId : UInt64} {answer : Answer} {broken : Option Break}
      {e : Exchange} {error : TransportError} (hcall : ch.calls[call]? = some e)
      (hphase : e.phase = .writing link callId answer)
      (hout : (written callId e.request broken).error = some error) :
      Step ch (.write call broken)
        ((((ch.changeLink link (·.write (written callId e.request broken).bytes)).withdraw link
          callId).discard link).fail call error)
        { moments := [.withdrawn link callId]
          trial := some ⟨call, .error error⟩
          outgoing := some (sending call link callId e.request broken) }
  | writeAlone {call link : Nat} {callId : UInt64} {broken : Option Break} {e : Exchange}
      (hcall : ch.calls[call]? = some e) (hphase : e.phase = .detached link callId) :
      Step ch (.write call broken)
        ((ch.changeLink link (·.write (written callId e.request broken).bytes)).setPhase call
          .abandoned)
        { outgoing := some (sending call link callId e.request broken) }
  | answer {call link : Nat} {callId : UInt64} {envelope : ReplyEnvelope} {e : Exchange}
      (hcall : ch.calls[call]? = some e)
      (hphase : e.phase = .waiting link callId (.arrived envelope)) :
      Step ch (.finish call) (ch.setPhase call (.finished (envelope.toReply e.request)))
        { trial := some ⟨call, envelope.toReply e.request⟩ }
  | lose {call link : Nat} {callId : UInt64} {e : Exchange} (hcall : ch.calls[call]? = some e)
      (hphase : e.phase = .waiting link callId .lost) :
      Step ch (.finish call) ((ch.discard link).fail call .closed)
        { trial := some ⟨call, .error .closed⟩ }
  | detach {call link : Nat} {callId : UInt64} {answer : Answer} {e : Exchange}
      (hcall : ch.calls[call]? = some e) (hphase : e.phase = .writing link callId answer) :
      Step ch (.cancel call) (ch.setPhase call (.detached link callId)) {}
  | abandon {call : Nat} {e : Exchange} (hcall : ch.calls[call]? = some e)
      (hwriting : ∀ link callId answer, e.phase ≠ .writing link callId answer)
      (hdetached : ∀ link callId, e.phase ≠ .detached link callId)
      (hfinished : ∀ outcome, e.phase ≠ .finished outcome) :
      Step ch (.cancel call) (ch.setPhase call .abandoned) {}
  | receive {link : Nat} {bytes : List UInt8} {l : Link} (hlink : ch.links[link]? = some l)
      (hopen : l.isOpen = true) :
      Step ch (.receive link bytes) (ch.receive link bytes)
        { moments := arrivalMoments link (Wire.arrivals Wire.readReply (l.inbound ++ bytes)) }
  | endLink {link : Nat} {l : Link} (hlink : ch.links[link]? = some l) (hopen : l.isOpen = true) :
      Step ch (.endLink link) (ch.endLink link) { moments := [.stopped link] }
  | endAgain {link : Nat} {l : Link} (hlink : ch.links[link]? = some l)
      (hclosed : l.isOpen = false) : Step ch (.endLink link) (ch.endLink link) {}

theorem phase?_eq_some {ch : Channel} {call : Nat} {phase : Phase} :
    ch.phase? call = some phase ↔ ∃ e, ch.calls[call]? = some e ∧ e.phase = phase :=
  Option.map_eq_some_iff

theorem outcome?_eq_some {ch : Channel} {call : Nat} {outcome : Except TransportError Reply} :
    ch.outcome? call = some outcome ↔
      ∃ e, ch.calls[call]? = some e ∧ e.phase = .finished outcome := by
  rw [← phase?_eq_some]
  unfold outcome?
  split
  · next other hphase => rw [hphase, Option.some_inj, Option.some_inj, Phase.finished.injEq]
  · next hother => exact iff_of_false nofun fun hphase => hother outcome hphase

theorem isOpen_iff {ch : Channel} {link : Nat} :
    ch.isOpen link = true ↔ ∃ l, ch.links[link]? = some l ∧ l.isOpen = true := by
  unfold isOpen
  cases ch.links[link]? with
  | none => exact iff_of_false Bool.false_ne_true nofun
  | some l => exact ⟨fun h => ⟨l, rfl, h⟩, fun ⟨_, hl, h⟩ => Option.some_inj.mp hl ▸ h⟩

theorem changeLink_eq {ch : Channel} {link : Nat} {l : Link} (hlink : ch.links[link]? = some l)
    {f g : Link → Link} (h : f l = g l) :
    ch.changeLink link f = ch.changeLink link g := by
  have hlinks : ch.links.modify link f = ch.links.modify link g := by
    ext1 i
    rw [List.getElem?_modify, List.getElem?_modify]
    split
    · next heq => simp [← heq, hlink, h]
    · rfl
  show ({ ch with links := ch.links.modify link f } : Channel) = _
  rw [hlinks]
  rfl

theorem changeLink_self {ch : Channel} {link : Nat} {l : Link} (hlink : ch.links[link]? = some l)
    {f : Link → Link} (h : f l = l) :
    ch.changeLink link f = ch := by
  rw [changeLink_eq (g := id) hlink h]
  show ({ ch with links := ch.links.modify link id } : Channel) = ch
  rw [List.modify_id]

theorem step_join (ch : Channel) (call : Nat) (dialled : Except String Unit) :
    Step ch (.join call dialled) (ch.join call dialled) (ch.notesOfJoin call dialled) := by
  unfold join notesOfJoin
  cases hphase : ch.phase? call with
  | none => exact .idle _
  | some phase =>
    obtain ⟨e, hcall, hphase⟩ := phase?_eq_some.mp hphase
    cases phase with
    | starting =>
      cases hcurrent : ch.openLink? with
      | some link => exact .share hcall hphase hcurrent
      | none =>
        cases dialled with
        | error reason => exact .refuse hcall hphase
        | ok => exact .dial hcall hphase
    | _ => exact .idle _

theorem step_register (ch : Channel) (call : Nat) :
    Step ch (.register call) (ch.register call) (ch.notesOfRegister call) := by
  unfold register notesOfRegister
  cases hphase : ch.phase? call with
  | none => exact .idle _
  | some phase =>
    obtain ⟨e, hcall, hphase⟩ := phase?_eq_some.mp hphase
    cases phase with
    | joined link =>
      by_cases hopen : ch.isOpen link
      · obtain ⟨l, hlink, hl⟩ := isOpen_iff.mp hopen
        dsimp only
        rw [if_pos hopen, if_pos (show (ch.links[link]?).any (·.isOpen) = true from hopen)]
        exact .leave hcall hphase hlink hl
      · dsimp only
        rw [if_neg hopen, if_neg (show ¬ (ch.links[link]?).any (·.isOpen) = true from hopen)]
        exact .miss hcall hphase
    | _ => exact .idle _

theorem step_write (ch : Channel) (call : Nat) (broken : Option Break) :
    Step ch (.write call broken) (ch.write call broken) (ch.notesOfWrite call broken) := by
  unfold write notesOfWrite
  cases hcall : ch.calls[call]? with
  | none => exact .idle _
  | some e =>
    dsimp only
    cases hphase : e.phase with
    | writing link callId answer =>
      dsimp only
      cases hout : (written callId e.request broken).error with
      | none => exact .write hcall hphase hout
      | some error => exact .breakOff hcall hphase hout
    | detached link callId => exact .writeAlone hcall hphase
    | _ => exact .idle _

theorem step_finish (ch : Channel) (call : Nat) :
    Step ch (.finish call) (ch.finish call) (ch.notesOfFinish call) := by
  unfold finish notesOfFinish
  cases hcall : ch.calls[call]? with
  | none => exact .idle _
  | some e =>
    dsimp only
    cases hphase : e.phase with
    | waiting link callId answer =>
      cases answer with
      | awaited => exact .idle _
      | arrived envelope => exact .answer hcall hphase
      | lost => exact .lose hcall hphase
    | _ => exact .idle _

theorem step_cancel (ch : Channel) (call : Nat) : Step ch (.cancel call) (ch.cancel call) {} := by
  unfold cancel
  cases hphase : ch.phase? call with
  | none => exact .idle _
  | some phase =>
    obtain ⟨e, hcall, hphase⟩ := phase?_eq_some.mp hphase
    cases phase with
    | writing link callId answer => exact .detach hcall hphase
    | detached | finished => exact .idle _
    | _ =>
      exact .abandon hcall (by rw [hphase]; nofun) (by rw [hphase]; nofun) (by rw [hphase]; nofun)

theorem receive_of_none {ch : Channel} {link : Nat} (hlink : ch.links[link]? = none)
    (bytes : List UInt8) : ch.receive link bytes = ch := by
  unfold receive
  rw [hlink]

theorem receive_of_some {ch : Channel} {link : Nat} {l : Link} (hlink : ch.links[link]? = some l)
    (bytes : List UInt8) :
    ch.receive link bytes = (ch.changeLink link fun _ => (l.receive bytes).1).tell
      ((l.receive bytes).2.1.map (fun (call, envelope) => (call, .arrived envelope)) ++
        (l.receive bytes).2.2.map (·, .lost)) := by
  unfold receive
  rw [hlink]

theorem endLink_of_none {ch : Channel} {link : Nat} (hlink : ch.links[link]? = none) :
    ch.endLink link = ch := by
  unfold endLink
  rw [hlink]

theorem endLink_of_some {ch : Channel} {link : Nat} {l : Link} (hlink : ch.links[link]? = some l) :
    ch.endLink link
      = (ch.changeLink link fun _ => l.close.1).tell (l.close.2.map (·, .lost)) := by
  unfold endLink
  rw [hlink]

/-- A closed link reads nothing. -/
theorem receive_of_closed {ch : Channel} {link : Nat} {l : Link} (hlink : ch.links[link]? = some l)
    (hclosed : l.isOpen = false) (bytes : List UInt8) : ch.receive link bytes = ch := by
  rw [receive_of_some hlink, Link.receive_of_closed hclosed]
  exact changeLink_self hlink rfl

theorem step_receive (ch : Channel) (link : Nat) (bytes : List UInt8) :
    Step ch (.receive link bytes) (ch.receive link bytes) (ch.notesOfReceive link bytes) := by
  unfold notesOfReceive
  cases hlink : ch.links[link]? with
  | none =>
    rw [receive_of_none hlink]
    exact .idle _
  | some l =>
    cases hopen : l.isOpen with
    | true =>
      dsimp only
      rw [if_pos hopen]
      exact .receive hlink hopen
    | false =>
      dsimp only
      rw [receive_of_closed hlink hopen, hopen, if_neg Bool.false_ne_true]
      exact .idle _

theorem step_endLink (ch : Channel) (link : Nat) :
    Step ch (.endLink link) (ch.endLink link)
      (if ch.isOpen link then { moments := [.stopped link] } else {}) := by
  unfold isOpen
  cases hlink : ch.links[link]? with
  | none =>
    rw [endLink_of_none hlink]
    exact .idle _
  | some l =>
    rw [Option.any_some]
    cases hopen : l.isOpen with
    | true => exact .endLink hlink hopen
    | false => exact .endAgain hlink hopen

/-- **Every event is one of the steps.** -/
theorem step (ch : Channel) (event : Event) : Step ch event (ch.after event) (ch.notes event) :=
  match event with
  | .begin request => .begin request
  | .join call dialled => ch.step_join call dialled
  | .register call => ch.step_register call
  | .write call broken => ch.step_write call broken
  | .finish call => ch.step_finish call
  | .cancel call => ch.step_cancel call
  | .receive link bytes => ch.step_receive link bytes
  | .endLink link => ch.step_endLink link

/-! ## Links and calls apart

A change to a link leaves the calls alone, and the other way round. -/

theorem getElem?_changeLink (ch : Channel) (link k : Nat) (f : Link → Link) :
    (ch.changeLink link f).links[k]?
      = if link = k then (ch.links[k]?).map f else ch.links[k]? := by
  show (ch.links.modify link f)[k]? = _
  rw [List.getElem?_modify]
  split
  · rfl
  · exact Option.map_id_apply

@[simp] theorem length_dial (ch : Channel) : ch.dial.links.length = ch.links.length + 1 :=
  List.length_append

theorem getElem?_dial (ch : Channel) (k : Nat) :
    ch.dial.links[k]? = if k = ch.links.length then some {} else ch.links[k]? := by
  show (ch.links ++ [({} : Link)])[k]? = _
  split
  · next hk => rw [hk, List.getElem?_concat_length]
  · next hk =>
    obtain hlt | hgt := Nat.lt_or_gt_of_ne hk
    · rw [List.getElem?_append_left hlt]
    · rw [List.getElem?_eq_none (Nat.le_of_lt hgt), List.getElem?_eq_none]
      rw [List.length_append]
      exact hgt

theorem getElem?_changeCall (ch : Channel) (call c : Nat) (f : Exchange → Exchange) :
    (ch.changeCall call f).calls[c]?
      = if call = c then (ch.calls[c]?).map f else ch.calls[c]? := by
  show (ch.calls.modify call f)[c]? = _
  rw [List.getElem?_modify]
  split
  · rfl
  · exact Option.map_id_apply

/-- A call is one that has been there before, or the new one. -/
theorem of_getElem?_begin {ch : Channel} {request : Request} {c : Nat} {e : Exchange}
    (h : (ch.begin request).1.calls[c]? = some e) :
    ch.calls[c]? = some e ∨ e = { request } := by
  rw [show (ch.begin request).1.calls = ch.calls ++ [{ request }] from rfl,
    List.getElem?_append] at h
  split at h
  · exact .inl h
  · rw [List.getElem?_singleton] at h
    split at h
    · exact .inr (Option.some_inj.mp h).symm
    · exact absurd h nofun

@[simp] theorem calls_changeLink (ch : Channel) (link : Nat) (f : Link → Link) :
    (ch.changeLink link f).calls = ch.calls :=
  rfl

@[simp] theorem links_setPhase (ch : Channel) (call : Nat) (phase : Phase) :
    (ch.setPhase call phase).links = ch.links :=
  rfl

@[simp] theorem links_fail (ch : Channel) (call : Nat) (error : TransportError) :
    (ch.fail call error).links = ch.links :=
  rfl

theorem getElem?_setPhase (ch : Channel) (call c : Nat) (phase : Phase) :
    (ch.setPhase call phase).calls[c]?
      = if call = c then (ch.calls[c]?).map fun e => { e with phase } else ch.calls[c]? :=
  getElem?_changeCall ..

@[simp] theorem length_changeLink (ch : Channel) (link : Nat) (f : Link → Link) :
    (ch.changeLink link f).links.length = ch.links.length :=
  List.length_modify ..

@[simp] theorem links_discard (ch : Channel) (link : Nat) : (ch.discard link).links = ch.links := by
  unfold discard
  split <;> rfl

@[simp] theorem calls_discard (ch : Channel) (link : Nat) : (ch.discard link).calls = ch.calls := by
  unfold discard
  split <;> rfl

@[simp] theorem attempts_discard (ch : Channel) (link : Nat) :
    (ch.discard link).attempts = ch.attempts := by
  unfold discard
  split <;> rfl

theorem tell_cons (ch : Channel) (call : Nat) (answer : Answer) (news : List (Nat × Answer)) :
    ch.tell ((call, answer) :: news)
      = (ch.changeCall call fun e => { e with phase := e.phase.learn answer }).tell news :=
  rfl

theorem tell_append (ch : Channel) (news news' : List (Nat × Answer)) :
    ch.tell (news ++ news') = (ch.tell news).tell news' :=
  List.foldl_append

@[simp] theorem links_tell (ch : Channel) (news : List (Nat × Answer)) :
    (ch.tell news).links = ch.links := by
  induction news generalizing ch with
  | nil => rfl
  | cons first news ih => exact ih _

@[simp] theorem attempts_tell (ch : Channel) (news : List (Nat × Answer)) :
    (ch.tell news).attempts = ch.attempts := by
  induction news generalizing ch with
  | nil => rfl
  | cons first news ih => exact ih _

@[simp] theorem attempts_withdraw (ch : Channel) (link : Nat) (callId : UInt64) :
    (ch.withdraw link callId).attempts = ch.attempts := by
  unfold withdraw
  split
  · rfl
  · exact attempts_tell ..

@[simp] theorem length_calls_changeCall (ch : Channel) (call : Nat) (f : Exchange → Exchange) :
    (ch.changeCall call f).calls.length = ch.calls.length :=
  List.length_modify ..

@[simp] theorem length_calls_tell (ch : Channel) (news : List (Nat × Answer)) :
    (ch.tell news).calls.length = ch.calls.length := by
  induction news generalizing ch with
  | nil => rfl
  | cons first news ih => exact (ih _).trans (length_calls_changeCall ..)

@[simp] theorem length_calls_withdraw (ch : Channel) (link : Nat) (callId : UInt64) :
    (ch.withdraw link callId).calls.length = ch.calls.length := by
  unfold withdraw
  split
  · rfl
  · exact length_calls_tell ..

theorem tell_changeLink (ch : Channel) (news : List (Nat × Answer)) (link : Nat)
    (f : Link → Link) : (ch.tell news).changeLink link f = (ch.changeLink link f).tell news := by
  induction news generalizing ch with
  | nil => rfl
  | cons first news ih => exact ih _

/-- The links after one of them, if it is there, has changed and its calls have been told. -/
theorem getElem?_links_of_tell {ch ch' : Channel} {link : Nat} (f : Link → Link)
    (hnone : ch.links[link]? = none → ch' = ch)
    (hsome : ∀ l, ch.links[link]? = some l →
      ∃ news, ch' = (ch.changeLink link fun _ => f l).tell news) (k : Nat) :
    ch'.links[k]? = if link = k then (ch.links[k]?).map f else ch.links[k]? := by
  cases hlink : ch.links[link]? with
  | none =>
    rw [hnone hlink]
    split
    · next hk => rw [← hk, hlink, Option.map_none]
    · rfl
  | some l =>
    obtain ⟨news, rfl⟩ := hsome l hlink
    rw [links_tell, getElem?_changeLink]
    split
    · next hk => rw [← hk, hlink, Option.map_some, Option.map_some]
    · rfl

theorem getElem?_receive (ch : Channel) (link k : Nat) (bytes : List UInt8) :
    (ch.receive link bytes).links[k]?
      = if link = k then (ch.links[k]?).map fun l => (l.receive bytes).1 else ch.links[k]? :=
  getElem?_links_of_tell _ (fun hlink => receive_of_none hlink bytes)
    (fun _ hlink => ⟨_, receive_of_some hlink bytes⟩) k

theorem getElem?_endLink (ch : Channel) (link k : Nat) :
    (ch.endLink link).links[k]?
      = if link = k then (ch.links[k]?).map fun l => l.close.1 else ch.links[k]? :=
  getElem?_links_of_tell _ endLink_of_none (fun _ hlink => ⟨_, endLink_of_some hlink⟩) k

/-- What a call makes of all the news for it. -/
def learned (c : Nat) (news : List (Nat × Answer)) (phase : Phase) : Phase :=
  (news.filter (·.1 = c)).foldl (fun phase first => phase.learn first.2) phase

theorem getElem?_tell (ch : Channel) (news : List (Nat × Answer)) (c : Nat) :
    (ch.tell news).calls[c]?
      = (ch.calls[c]?).map fun e => { e with phase := learned c news e.phase } := by
  induction news generalizing ch with
  | nil => exact Option.map_id_apply.symm
  | cons first news ih =>
    obtain ⟨call, answer⟩ := first
    rw [tell_cons, ih, getElem?_changeCall]
    unfold learned
    rw [List.filter_cons]
    by_cases h : call = c
    · rw [if_pos h, if_pos (decide_eq_true h), Option.map_map]
      rfl
    · rw [if_neg h, if_neg (by rwa [decide_eq_true_iff])]

/-- A call that does not wait makes nothing of news. -/
theorem learned_joined (c : Nat) (news : List (Nat × Answer)) (link : Nat) :
    learned c news (.joined link) = .joined link :=
  List.foldl_fixed' (fun _ => rfl) _

/-- News do not matter to what no answer matters to. -/
theorem learned_iff {P : Phase → Prop} (hlearn : ∀ phase answer, P (phase.learn answer) ↔ P phase)
    (c : Nat) (news : List (Nat × Answer)) (phase : Phase) :
    P (learned c news phase) ↔ P phase := by
  unfold learned
  induction news.filter (·.1 = c) generalizing phase with
  | nil => exact Iff.rfl
  | cons first rest ih => exact (ih _).trans (hlearn phase first.2)

/-- News change what is known of an answer, and nothing else. -/
theorem exists_learned {stage : Answer → Phase}
    (hstage : ∀ known news, ∃ known', (stage known).learn news = stage known') (c : Nat)
    (news : List (Nat × Answer)) (known : Answer) :
    ∃ known', learned c news (stage known) = stage known' := by
  unfold learned
  induction news.filter (·.1 = c) generalizing known with
  | nil => exact ⟨known, rfl⟩
  | cons first rest ih =>
    obtain ⟨known', hknown'⟩ := hstage known first.2
    rw [List.foldl_cons, hknown']
    exact ih known'

theorem exists_learned_writing (c : Nat) (news : List (Nat × Answer)) (link : Nat)
    (callId : UInt64) (answer : Answer) :
    ∃ answer', learned c news (.writing link callId answer) = .writing link callId answer' :=
  exists_learned (fun known _ => by cases known <;> exact ⟨_, rfl⟩) c news answer

theorem exists_learned_waiting (c : Nat) (news : List (Nat × Answer)) (link : Nat)
    (callId : UInt64) (answer : Answer) :
    ∃ answer', learned c news (.waiting link callId answer) = .waiting link callId answer' :=
  exists_learned (fun known _ => by cases known <;> exact ⟨_, rfl⟩) c news answer

/-! ## What is written -/

theorem isUnsent_of_writeFrame {body : ByteArray} {error : TransportError}
    (h : (Wire.writeFrame body).error = some error) : error.isUnsent = true := by
  unfold Wire.writeFrame at h
  split at h
  · rw [← Option.some_inj.mp h]
    rfl
  · exact absurd h nofun

/-- Writing fails before the request has been written. -/
theorem isUnsent_of_written {callId : UInt64} {request : Request} {broken : Option Break}
    {error : TransportError} (h : (written callId request broken).error = some error) :
    error.isUnsent = true := by
  have hwrite (h : (Wire.writeRequest callId request).error = some error) :
      error.isUnsent = true := by
    -- one of the two frames is too large
    cases hheader : (Wire.writeFrame (encode (request.header callId)).toByteArray).error with
    | some headerError =>
      have hsame : (Wire.writeRequest callId request).error = some headerError := by
        simp [Wire.writeRequest, Wire.writeEnvelope, Wire.Written.just, Wire.Written.andThen,
          hheader]
      rw [← Option.some_inj.mp (hsame.symm.trans h)]
      exact isUnsent_of_writeFrame hheader
    | none =>
      have hsame : (Wire.writeRequest callId request).error
          = (Wire.writeFrame request.payload).error := by
        simp [Wire.writeRequest, Wire.writeEnvelope, Wire.Written.just, Wire.Written.andThen,
          hheader]
      exact isUnsent_of_writeFrame (hsame.symm.trans h)
  cases broken with
  | none => exact hwrite h
  | some broken =>
    unfold written Wire.Written.brokenAfter at h
    dsimp only at h
    split at h
    · exact hwrite h
    · rw [← Option.some_inj.mp h]
      rfl

end Channel

/-! ## Histories -/

/-- **A channel with what has happened to it.** -/
structure History where
  channel : Channel
  log : List Moment := []
  trials : List Trial := []
  outgoing : List Outgoing := []
  /-- What the server of each link has sent. -/
  stream : Nat → List UInt8 := fun _ => []
  /-- The links that have been ended by their servers. -/
  ended : Nat → Bool := fun _ => false

namespace History

/-- A history before its first call. -/
def start (destination : Address) (attempts : Nat) : History :=
  { channel := .withRetry destination attempts }

/-- What the servers have sent after an event. Nothing comes behind the end of a link. -/
def streamAfter (h : History) : Event → Nat → List UInt8
  | .receive link bytes =>
    if link < h.channel.links.length ∧ h.ended link = false then
      Function.update h.stream link (h.stream link ++ bytes)
    else h.stream
  | _ => h.stream

/-- The links that have been ended after an event. -/
def endedAfter (h : History) : Event → Nat → Bool
  | .endLink link =>
    if link < h.channel.links.length then Function.update h.ended link true else h.ended
  | _ => h.ended

/-- **The history after an event.** -/
def step (h : History) (event : Event) : History :=
  let notes := h.channel.notes event
  { channel := h.channel.after event
    log := h.log ++ notes.moments
    trials := h.trials ++ notes.trial.toList
    outgoing := h.outgoing ++ notes.outgoing.toList
    stream := h.streamAfter event
    ended := h.endedAfter event }

/-- The history after some events. -/
def run (h : History) (events : List Event) : History := events.foldl step h

end History

end Switchboard.Client
