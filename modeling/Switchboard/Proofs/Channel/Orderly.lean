import Switchboard.Proofs.Channel.Delivery
import Switchboard.Proofs.Channel.Race

/-!
# What every move of a race keeps

A call is at the stage that its phase allows (`Stage.Fits`): it has an id to
leave only as long as it has joined, and an id to take back only as long as it
has to write. In an orderly race (`Race.Orderly`) this is so for every call, the
calls follow their waits as in any history, and nobody waits on a link that is
closed. Every move keeps a race orderly, whatever stages the other calls are at.

What is said of all calls is kept by news, because these change what is known of
an answer and nothing else (`Channel.Each.tell`). So for each move only the call
that makes it has to be looked at.
-/

namespace Switchboard.Client

open Wire (Request)

/-! ## All calls of a channel -/

/-- **Something holds of the phase of each call**, by its number. -/
def Channel.Each (ch : Channel) (P : Nat → Phase → Prop) : Prop :=
  ∀ c e, ch.calls[c]? = some e → P c e.phase

namespace Channel.Each

variable {ch : Channel} {P Q : Nat → Phase → Prop}

theorem congr (h : ch.Each P) {ch' : Channel} (hcalls : ch'.calls = ch.calls) : ch'.Each P := by
  intro c e he
  rw [hcalls] at he
  exact h c e he

theorem discard (h : ch.Each P) (link : Nat) : (ch.discard link).Each P := h.congr (by simp)

/-- News do not matter to what no answer matters to. -/
theorem tell (h : ch.Each P) (hlearn : ∀ c phase answer, P c phase → P c (phase.learn answer))
    (news : List (Nat × Answer)) : (ch.tell news).Each P := by
  intro c e he
  rw [getElem?_tell] at he
  obtain ⟨e, he', rfl⟩ := Option.map_eq_some_iff.mp he
  unfold learned
  exact List.foldlRecOn _ _ (h c e he') fun phase hphase first _ => hlearn c phase first.2 hphase

theorem withdraw (h : ch.Each P) (hlearn : ∀ c phase answer, P c phase → P c (phase.learn answer))
    (link : Nat) (callId : UInt64) : (ch.withdraw link callId).Each P := by
  unfold Channel.withdraw
  split
  · exact h
  · exact (h.congr rfl : (ch.changeLink link _).Each P).tell hlearn _

theorem receive (h : ch.Each P) (hlearn : ∀ c phase answer, P c phase → P c (phase.learn answer))
    (link : Nat) (bytes : List UInt8) : (ch.receive link bytes).Each P := by
  unfold Channel.receive
  split
  · exact h
  · exact (h.congr rfl : (ch.changeLink link _).Each P).tell hlearn _

theorem endLink (h : ch.Each P) (hlearn : ∀ c phase answer, P c phase → P c (phase.learn answer))
    (link : Nat) : (ch.endLink link).Each P := by
  unfold Channel.endLink
  split
  · exact h
  · exact (h.congr rfl : (ch.changeLink link _).Each P).tell hlearn _

theorem begin (h : ch.Each P) (request : Request) (hnew : P ch.calls.length .starting) :
    (ch.begin request).1.Each P := by
  intro c e he
  rw [show (ch.begin request).1.calls = ch.calls ++ [{ request }] from rfl,
    List.getElem?_append] at he
  split at he
  · exact h c e he
  · rw [List.getElem?_singleton] at he
    split at he
    · obtain rfl := Option.some_inj.mp he
      have hc : c = ch.calls.length := by omega
      exact hc ▸ hnew
    · exact absurd he nofun

/-- **One call changes**, and what is said of the others may depend on that. -/
theorem changeCall (h : ch.Each P) {call : Nat} {f : Exchange → Exchange}
    (hcall : ∀ e, ch.calls[call]? = some e → Q call (f e).phase)
    (hother : ∀ c phase, c ≠ call → P c phase → Q c phase) : (ch.changeCall call f).Each Q := by
  intro c e he
  rw [getElem?_changeCall] at he
  split at he
  · next hc =>
    obtain ⟨e, he', rfl⟩ := Option.map_eq_some_iff.mp he
    exact hc ▸ hcall e (hc ▸ he')
  · next hc => exact hother c e.phase (Ne.symm hc) (h c e he)

theorem setPhase (h : ch.Each P) {call : Nat} {phase : Phase} (hcall : Q call phase)
    (hother : ∀ c phase, c ≠ call → P c phase → Q c phase) : (ch.setPhase call phase).Each Q :=
  h.changeCall (fun _ _ => hcall) hother

theorem fail (h : ch.Each P) {call : Nat} {error : TransportError} (hstarting : Q call .starting)
    (hfinished : Q call (.finished (.error error)))
    (hother : ∀ c phase, c ≠ call → P c phase → Q c phase) : (ch.fail call error).Each Q := by
  refine h.changeCall (fun e _ => ?_) hother
  unfold Exchange.fail
  split
  · exact hstarting
  · exact hfinished

end Channel.Each

/-- **What events keep** of the phases of calls. -/
structure Channel.Keeps (ch : Channel) (P : Nat → Phase → Prop) : Prop where
  learn : ∀ c phase answer, P c phase → P c (phase.learn answer)
  begin : P ch.calls.length .starting
  /-- A call takes the current link, or a new one. -/
  join : ∀ c link, ch.openLink? = some link ∨ link = ch.links.length → P c .starting →
    P c (.joined link)
  refuse : ∀ c error, P c .starting → P c (.finished (.error error))
  answer : ∀ c link callId envelope outcome, P c (.waiting link callId (.arrived envelope)) →
    P c (.finished outcome)
  lose : ∀ c link callId, P c (.waiting link callId .lost) →
    P c .starting ∧ P c (.finished (.error .closed))

/-- **A move that is an event as a whole keeps it.** -/
theorem Channel.Each.after {ch : Channel} {P : Nat → Phase → Prop} (h : ch.Each P)
    (hkeeps : ch.Keeps P) {move : Move} {event : Event} (hevent : move.event? = some event) :
    (ch.after event).Each P := by
  have hown {call : Nat} {e : Exchange} {phase : Phase} (hcall : ch.calls[call]? = some e)
      (hphase : e.phase = phase) : P call phase := hphase ▸ h call e hcall
  have hothers (call : Nat) : ∀ c phase, c ≠ call → P c phase → P c phase := fun _ _ _ => id
  have hstep := ch.step event
  generalize ch.after event = ch', ch.notes event = notes at hstep
  cases hstep with
  | idle => exact h
  | begin request => exact h.begin request hkeeps.begin
  | share hcall hphase hcurrent =>
    exact h.setPhase (hkeeps.join _ _ (.inl hcurrent) (hown hcall hphase)) (hothers _)
  | refuse hcall hphase =>
    exact h.fail (hown hcall hphase) (hkeeps.refuse _ _ (hown hcall hphase)) (hothers _)
  | dial hcall hphase =>
    have hdial : ch.dial.Each P := h.congr rfl
    exact hdial.setPhase (hkeeps.join _ _ (.inr rfl) (hown hcall hphase)) (hothers _)
  | answer hcall hphase =>
    exact h.setPhase (hkeeps.answer _ _ _ _ _ (hown hcall hphase)) (hothers _)
  | lose hcall hphase =>
    obtain ⟨hstarting, hfinished⟩ := hkeeps.lose _ _ _ (hown hcall hphase)
    exact (h.discard _).fail hstarting hfinished (hothers _)
  | receive => exact h.receive hkeeps.learn _ _
  | endLink | endAgain => exact h.endLink hkeeps.learn _
  | leave | miss | write | breakOff | writeAlone | detach | abandon =>
    cases move <;> exact absurd hevent nofun

/-! ## Stages and phases -/

/-- **A stage is possible in a phase.** -/
def Stage.Fits : Stage → Phase → Prop
  | .numbered link _, phase => phase = .joined link
  | .broken link callId error, phase =>
    error.isUnsent = true ∧ ∃ answer, phase = .writing link callId answer
  | .failed link error, phase => error.isUnsent = true ∧
    (phase = .joined link ∨
      ∃ callId answer, phase = .writing link callId answer ∧ answer ≠ .awaited)

/-- A call that has not been given up is at the stage that its phase allows. -/
def Suits : Option Stage → Phase → Prop
  | some stage, phase => stage.Fits phase
  | none, phase => (∀ link callId, phase ≠ .detached link callId) ∧ phase ≠ .abandoned

theorem Suits.learn {stage : Option Stage} {phase : Phase} (h : Suits stage phase)
    (answer : Answer) : Suits stage (phase.learn answer) := by
  cases phase with
  | writing link callId known =>
    -- only who still awaits news learns any: a call in no step, or one whose write has broken off
    cases known with
    | awaited =>
      cases stage with
      | none => exact ⟨nofun, nofun⟩
      | some stage =>
        cases stage with
        | numbered => exact absurd h nofun
        | broken link' callId' error =>
          obtain ⟨hunsent, known, hphase⟩ := h
          obtain ⟨rfl, rfl, -⟩ := Phase.writing.inj hphase
          exact ⟨hunsent, answer, rfl⟩
        | failed link' error =>
          obtain ⟨-, hphase | ⟨callId', known, hphase, hknown⟩⟩ := h
          · exact absurd hphase nofun
          · exact absurd (Phase.writing.inj hphase).2.2.symm hknown
    | _ => exact h
  | waiting link callId known =>
    cases known with
    | awaited =>
      cases stage with
      | none => exact ⟨nofun, nofun⟩
      | some stage =>
        cases stage with
        | numbered => exact absurd h nofun
        | broken => exact absurd h.2 nofun
        | failed => exact absurd h.2 (by simp)
    | _ => exact h
  | _ => exact h

/-- A call that has no link is not in the middle of a step. -/
theorem Suits.eq_none {stage : Option Stage} {phase : Phase} (h : Suits stage phase)
    (hjoined : ∀ link, phase ≠ .joined link)
    (hwriting : ∀ link callId answer, phase ≠ .writing link callId answer) : stage = none := by
  cases stage with
  | none => rfl
  | some stage =>
    cases stage with
    | numbered link => exact absurd h (hjoined link)
    | broken =>
      obtain ⟨-, answer, hphase⟩ := h
      exact absurd hphase (hwriting _ _ _)
    | failed =>
      obtain ⟨-, hphase | ⟨callId, answer, hphase, -⟩⟩ := h
      · exact absurd hphase (hjoined _)
      · exact absurd hphase (hwriting _ _ _)

/-- A call that has failed has a link and waits for nothing. -/
theorem Stage.Fits.of_failed {link : Nat} {error : TransportError} {phase : Phase}
    (h : (Stage.failed link error).Fits phase) :
    phase.link? = some link ∧ ∀ k id, ¬ phase.Awaits k id := by
  obtain ⟨-, rfl | ⟨callId, answer, rfl, hanswer⟩⟩ := h
  · exact ⟨rfl, fun _ _ => id⟩
  · exact ⟨rfl, fun _ _ hon => hanswer hon.2.2⟩

/-- **Every call is at the stage that its phase allows**, and there is no other stage. -/
structure Staged (ch : Channel) (stage : Nat → Option Stage) : Prop where
  suits : ch.Each fun c phase => Suits (stage c) phase
  there : ∀ c, ch.calls.length ≤ c → stage c = none

namespace Staged

variable {ch : Channel} {stage : Nat → Option Stage} {call : Nat} {e : Exchange}

/-- Stages are those of calls. -/
theorem exists_call (h : Staged ch stage) {s : Stage} (hs : stage call = some s) :
    ∃ e, ch.calls[call]? = some e ∧ s.Fits e.phase := by
  cases hcall : ch.calls[call]? with
  | none =>
    rw [h.there call (List.getElem?_eq_none_iff.mp hcall)] at hs
    exact absurd hs nofun
  | some e =>
    have hsuits := h.suits call e hcall
    dsimp only at hsuits
    rw [hs] at hsuits
    exact ⟨e, rfl, hsuits⟩

theorem congr (h : Staged ch stage) {ch' : Channel} (hcalls : ch'.calls = ch.calls) :
    Staged ch' stage :=
  ⟨h.suits.congr hcalls, hcalls ▸ h.there⟩

theorem discard (h : Staged ch stage) (link : Nat) : Staged (ch.discard link) stage :=
  h.congr (Channel.calls_discard ch link)

theorem withdraw (h : Staged ch stage) (link : Nat) (callId : UInt64) :
    Staged (ch.withdraw link callId) stage where
  suits := h.suits.withdraw (fun _ _ answer hphase => hphase.learn answer) link callId
  there := by
    rw [Channel.length_calls_withdraw]
    exact h.there

/-- A stage after which the others are as before. -/
theorem of_update {s : Option Stage} (c : Nat) (phase : Phase) (hc : c ≠ call)
    (hsuits : Suits (stage c) phase) : Suits (Function.update stage call s c) phase := by
  rwa [Function.update_of_ne hc]

theorem there_update (h : Staged ch stage) {n : Nat} (hcall : call < ch.calls.length)
    (hn : ch.calls.length = n) (s : Option Stage) (c : Nat) (hc : n ≤ c) :
    Function.update stage call s c = none := by
  rw [Function.update_of_ne (by omega)]
  exact h.there c (by omega)

/-- **A call comes to another stage** in its phase. -/
theorem setStage (h : Staged ch stage) (hcall : ch.calls[call]? = some e) {s : Option Stage}
    (hs : Suits s e.phase) : Staged ch (Function.update stage call s) where
  suits c e' he' := by
    by_cases hc : c = call
    · subst hc
      obtain rfl := Option.some_inj.mp (hcall.symm.trans he')
      rwa [Function.update_self]
    · exact of_update c e'.phase hc (h.suits c e' he')
  there := h.there_update (List.getElem?_eq_some_iff.mp hcall).1 rfl s

/-- **A call comes to another phase**, in the middle of a step or behind it. -/
theorem setPhase (h : Staged ch stage) (hcall : ch.calls[call]? = some e) {phase : Phase}
    {s : Option Stage} (hs : Suits s phase) :
    Staged (ch.setPhase call phase) (Function.update stage call s) where
  suits := h.suits.setPhase (by rwa [Function.update_self]) of_update
  there := h.there_update (List.getElem?_eq_some_iff.mp hcall).1
    (Channel.length_calls_changeCall ..).symm s

theorem fail (h : Staged ch stage) (hcall : ch.calls[call]? = some e) (error : TransportError) :
    Staged (ch.fail call error) (Function.update stage call none) where
  suits := h.suits.fail (by rw [Function.update_self]; exact ⟨nofun, nofun⟩)
    (by rw [Function.update_self]; exact ⟨nofun, nofun⟩) of_update
  there := h.there_update (List.getElem?_eq_some_iff.mp hcall).1
    (Channel.length_calls_changeCall ..).symm none

/-- A stage that is not left stays. -/
theorem of_update_none (h : Staged ch (Function.update stage call none))
    (hstage : stage call = none) : Staged ch stage := by
  rwa [← hstage, Function.update_eq_self] at h

/-- A call that is not in the middle of a step can come to any phase of one that has not been given
up. -/
theorem keeps (h : Staged ch stage) : ch.Keeps fun c phase => Suits (stage c) phase where
  learn _ _ answer hphase := hphase.learn answer
  begin := by
    rw [h.there _ (Nat.le_refl _)]
    exact ⟨nofun, nofun⟩
  join c link _ hphase := by
    rw [hphase.eq_none nofun nofun]
    exact ⟨nofun, nofun⟩
  refuse c error hphase := by
    rw [hphase.eq_none nofun nofun]
    exact ⟨nofun, nofun⟩
  answer c link callId envelope outcome hphase := by
    rw [hphase.eq_none nofun nofun]
    exact ⟨nofun, nofun⟩
  lose c link callId hphase := by
    rw [hphase.eq_none nofun nofun]
    exact ⟨⟨nofun, nofun⟩, nofun, nofun⟩

/-- Calls are not taken away. -/
theorem length_calls_after (ch : Channel) (event : Event) :
    ch.calls.length ≤ (ch.after event).calls.length := by
  obtain hsame | ⟨request, hbegin, -⟩ := (ch.step event).calls_cases
  · exact Nat.le_of_eq hsame.symm
  · rw [hbegin]
    exact Nat.le_trans (Nat.le_add_right ..) (Nat.le_of_eq List.length_append.symm)

/-- A move that is an event as a whole leaves no call in the middle of a step. -/
theorem event (h : Staged ch stage) {move : Move} {event : Event}
    (hevent : move.event? = some event) : Staged (ch.after event) stage where
  suits := h.suits.after h.keeps hevent
  there c hc := h.there c (Nat.le_trans (length_calls_after ch event) hc)

end Staged

/-! ## Links that get older -/

/-- **What can become of a link**: it does not open again, and if it is closed then nobody waits
there. -/
inductive Ages : Option Link → Option Link → Prop where
  | older {l l' : Link} (closed : l.isOpen = false → l'.isOpen = false)
      (nobody : l'.isOpen = false → (l.isOpen = false → l.waiting = []) → l'.waiting = []) :
      Ages (some l) (some l')
  | absent : Ages none none
  | new : Ages none (some {})

theorem Ages.of_linkStep {o o' : Option Link} (h : LinkStep o o') : Ages o o' := by
  cases h with
  | keep isOpen _ nobody =>
    exact .older (fun hclosed => isOpen.trans hclosed)
      fun hclosed hnobody => nobody (isOpen ▸ hclosed) (hnobody (isOpen ▸ hclosed))
  | absent => exact .absent
  | new => exact .new

theorem Ages.refl (o : Option Link) : Ages o o := .of_linkStep (.refl o)

/-- A link that is changed gets older if the change closes it or keeps it open. -/
theorem Ages.map {o : Option Link} {f : Link → Link}
    (hclosed : ∀ l, l.isOpen = false → (f l).isOpen = false)
    (hnobody : ∀ l, (f l).isOpen = false → (l.isOpen = false → l.waiting = []) →
      (f l).waiting = []) : Ages o (o.map f) := by
  cases o with
  | none => exact .absent
  | some l => exact .older (hclosed l) (hnobody l)

theorem waiting_receive (l : Link) (bytes : List UInt8)
    (hclosed : (l.receive bytes).1.isOpen = false)
    (hnobody : l.isOpen = false → l.waiting = []) : (l.receive bytes).1.waiting = [] := by
  cases hopen : l.isOpen with
  | false =>
    rw [Link.receive_of_closed hopen]
    exact hnobody hopen
  | true =>
    unfold Link.receive at hclosed ⊢
    rw [if_pos hopen] at hclosed ⊢
    dsimp only at hclosed ⊢
    split at hclosed
    · exact absurd (((isOpen_route l _).trans hopen).symm.trans hclosed) nofun
    · rfl

theorem isOpen_receive_of_closed (l : Link) (bytes : List UInt8) (hclosed : l.isOpen = false) :
    (l.receive bytes).1.isOpen = false := by
  rw [Link.receive_of_closed hclosed]
  exact hclosed

namespace Race

variable {r r' : Race} {move : Move}

/-- **No move opens a link again**, or leaves anybody waiting on one that is closed. -/
theorem Steps.ages (h : Steps r move r') (k : Nat) :
    Ages r.channel.links[k]? r'.channel.links[k]? := by
  cases h with
  | idle => exact .refl _
  | @event _ event =>
    -- all events but two leave alone what is read of the links
    show Ages _ (r.channel.after event).links[k]?
    have hquiet := fun hreceive hend => (r.channel.step event).quiet hreceive hend k
    cases event with
    | receive link bytes =>
      rw [show r.channel.after (.receive link bytes) = r.channel.receive link bytes from rfl,
        Channel.getElem?_receive]
      split
      · exact .map (fun l => isOpen_receive_of_closed l bytes) fun l => waiting_receive l bytes
      · exact .refl _
    | endLink link =>
      rw [show r.channel.after (.endLink link) = r.channel.endLink link from rfl,
        Channel.getElem?_endLink]
      split
      · exact .map (fun _ _ => rfl) fun _ _ _ => rfl
      · exact .refl _
    | _ => exact .of_linkStep (hquiet nofun nofun).1
  | draw => exact .refl _
  | @leave call link callId hstage hopen =>
    -- a call enters a link that is open, so nothing has to be kept of it
    obtain ⟨l, hlink, hl⟩ := Channel.isOpen_iff.mp hopen
    show Ages _ (((r.channel.resolve link callId .lost).changeLink link
      (·.expect callId call)).setPhase call _).links[k]?
    rw [Channel.links_setPhase, Channel.getElem?_changeLink, Channel.getElem?_resolve]
    split
    · next hk =>
      rw [← hk, hlink]
      exact .older (fun hclosed => absurd (hl.symm.trans hclosed) nofun)
        fun hclosed => absurd (hl.symm.trans hclosed) nofun
    · exact .refl _
  | miss => exact .refl _
  | write | spoil =>
    show Ages _ (r.channel.changeLink _ _).links[k]?
    rw [Channel.getElem?_changeLink]
    split
    · exact .map (fun _ => id) fun _ hclosed hnobody => hnobody hclosed
    · exact .refl _
  | @takeBack call link callId error =>
    show Ages _ (r.channel.resolve link callId .lost).links[k]?
    rw [Channel.getElem?_resolve]
    split
    · exact .map (fun _ => id) fun l hclosed hnobody => by simp [Link.forget, hnobody hclosed]
    · exact .refl _
  | @giveUp call link error =>
    show Ages _ ((r.channel.discard link).fail call error).links[k]?
    rw [Channel.links_fail, Channel.links_discard]
    exact .refl _

/-- Links are not taken away. -/
theorem Steps.lt_length_links (h : Steps r move r') {k : Nat} (hk : k < r.channel.links.length) :
    k < r'.channel.links.length := by
  have hages := h.ages k
  rw [List.getElem?_eq_getElem hk] at hages
  generalize hlink : r'.channel.links[k]? = o at hages
  cases hages with
  | older => exact (List.getElem?_eq_some_iff.mp hlink).1

/-! ## Orderly races -/

/-- **A race is orderly**: its calls follow their waits and are at the stages that their phases
allow, and nobody waits on a link that is closed. -/
structure Orderly (r : Race) : Prop where
  follows : Follows r.channel (waits r.log)
  staged : Staged r.channel r.stage
  linked : r.channel.Linked
  nobody : ∀ (link : Nat) (l : Link), r.channel.links[link]? = some l → l.isOpen = false →
    l.waiting = []

namespace Orderly

theorem start (destination : Address) (attempts : Nat) : Orderly (start destination attempts) where
  follows := (Routed.start destination attempts).follows
  staged := ⟨fun _ _ he => absurd he nofun, fun _ _ => rfl⟩
  linked _ _ he := absurd he nofun
  nobody _ _ hl := absurd hl nofun

/-- The calls know what their waits have come to. -/
theorem follows_step (ho : Orderly r) (h : Steps r move r') :
    Follows r'.channel (waits r'.log) := by
  cases h with
  | idle | miss => exact ho.follows
  | @event _ event => exact ho.follows.step (r.channel.step event) ho.nobody
  | draw => exact ho.follows.draw
  | leave hstage hopen =>
    obtain ⟨e, hcall, hphase⟩ := ho.staged.exists_call hstage
    obtain ⟨l, hlink, -⟩ := Channel.isOpen_iff.mp hopen
    exact ho.follows.leave hcall hphase hlink _
  | write hcall hphase =>
    refine (ho.follows.write _ _).setPhase hcall (fun link id hon => ?_) (fun w hw => ?_) nofun
    · rwa [hphase] at hon
    · exact ho.follows.knows _ _ w hcall (by rwa [hphase])
  | spoil => exact ho.follows.write _ _
  | takeBack hstage =>
    obtain ⟨e, hcall, -, answer, hphase⟩ := ho.staged.exists_call hstage
    exact (ho.follows.takeBack hcall hphase).1
  | @giveUp call link error hstage =>
    obtain ⟨e, hcall, hfits⟩ := ho.staged.exists_call hstage
    have hdiscarded := (Channel.calls_discard r.channel link).symm ▸ hcall
    exact (ho.follows.discard link).fail hdiscarded hfits.of_failed.2 (.unsent hfits.1)

/-- The calls are at the stages that their phases allow. -/
theorem staged_step (ho : Orderly r) (h : Steps r move r') : Staged r'.channel r'.stage := by
  have hs := ho.staged
  cases h with
  | idle => exact hs
  | event hevent => exact hs.event hevent
  | draw hcall hphase =>
    have hdraw : Staged r.channel.draw r.stage := hs.congr rfl
    exact hdraw.setStage hcall hphase
  | @leave call link callId hstage =>
    obtain ⟨e, hcall, -⟩ := hs.exists_call hstage
    obtain ⟨news, hcall'⟩ := Channel.exists_news r.channel link callId .lost hcall
    have hentered : Staged ((r.channel.withdraw link callId).changeLink link
        (·.expect callId call)) r.stage := (hs.withdraw link callId).congr rfl
    have hfree : Suits none (.writing link callId .awaited) := ⟨nofun, nofun⟩
    exact hentered.setPhase hcall' hfree
  | miss hstage =>
    obtain ⟨e, hcall, hphase⟩ := hs.exists_call hstage
    exact hs.setStage hcall ⟨rfl, .inl hphase⟩
  | @write call link callId answer broken e hcall hphase hstage =>
    have hfree : Suits none (.waiting link callId answer) := ⟨nofun, nofun⟩
    have hwritten : Staged (r.channel.changeLink link
        (·.write (Channel.written callId e.request broken).bytes)) r.stage := hs.congr rfl
    exact (hwritten.setPhase hcall hfree).of_update_none hstage
  | @spoil call link callId answer broken e error hcall hphase _ hout =>
    have hbroken : Suits (some (.broken link callId error)) e.phase :=
      ⟨Channel.isUnsent_of_written hout, answer, hphase⟩
    have hwritten : Staged (r.channel.changeLink link
        (·.write (Channel.written callId e.request broken).bytes)) r.stage := hs.congr rfl
    exact hwritten.setStage hcall hbroken
  | takeBack hstage =>
    -- the id is taken back, so what the call knows by now is final
    obtain ⟨e, hcall, hunsent, answer, hphase⟩ := hs.exists_call hstage
    obtain ⟨-, e', answer', hcall', -, hphase', hanswer'⟩ := ho.follows.takeBack hcall hphase
    exact (hs.withdraw _ _).setStage hcall' ⟨hunsent, .inr ⟨_, answer', hphase', hanswer'⟩⟩
  | giveUp hstage =>
    obtain ⟨e, hcall, -⟩ := hs.exists_call hstage
    exact (hs.discard _).fail (by rwa [Channel.calls_discard]) _

/-- The calls have links that are there. -/
theorem linked_step (ho : Orderly r) (h : Steps r move r') : r'.channel.Linked := by
  have hl := ho.linked
  cases h with
  | idle | miss => exact hl
  | @event _ event => exact hl.step (r.channel.step event)
  | draw => exact hl.draw
  | leave hstage =>
    obtain ⟨e, hcall, hphase⟩ := ho.staged.exists_call hstage
    refine ((hl.withdraw _ _).changeLink _ _).setPhase _ fun link hlink => ?_
    rw [Channel.length_changeLink, Channel.length_withdraw]
    exact hl _ e hcall link (by rw [hphase]; exact hlink)
  | write hcall hphase =>
    refine (hl.changeLink _ _).setPhase _ fun link hlink => ?_
    rw [Channel.length_changeLink]
    exact hl _ _ hcall link (by rw [hphase]; exact hlink)
  | spoil => exact hl.changeLink _ _
  | takeBack => exact hl.withdraw _ _
  | giveUp => exact (hl.discard _).fail _ _

theorem nobody_step (ho : Orderly r) (h : Steps r move r') (link : Nat) (l' : Link)
    (hl' : r'.channel.links[link]? = some l') (hclosed : l'.isOpen = false) : l'.waiting = [] := by
  have hages := h.ages link
  generalize hl : r.channel.links[link]? = o at hages
  rw [hl'] at hages
  cases hages with
  | older _ nobody => exact nobody hclosed (ho.nobody link _ hl)
  | new => rfl

/-- **Every move keeps a race orderly.** -/
theorem step (ho : Orderly r) (move : Move) : Orderly (r.step move) where
  follows := ho.follows_step (r.steps move)
  staged := ho.staged_step (r.steps move)
  linked := ho.linked_step (r.steps move)
  nobody := ho.nobody_step (r.steps move)

/-- **Every race is orderly.** -/
theorem run (ho : Orderly r) (moves : List Move) : Orderly (r.run moves) := by
  induction moves generalizing r with
  | nil => exact ho
  | cons move moves ih => exact ih (ho.step move)

end Orderly

/-! ## What every call keeps -/

/-- **What moves keep** of the phases of calls. -/
structure Keeps (r : Race) (P : Nat → Phase → Prop) : Prop extends r.channel.Keeps P where
  enter : ∀ c link callId, P c (.joined link) → P c (.writing link callId .awaited)
  write : ∀ c link callId answer, P c (.writing link callId answer) →
    P c (.waiting link callId answer)
  drop : ∀ c link error phase, (Stage.failed link error).Fits phase → P c phase →
    P c .starting ∧ P c (.finished (.error error))

/-- **Every move keeps it.** -/
theorem Orderly.each_step (ho : Orderly r) (h : Steps r move r') {P : Nat → Phase → Prop}
    (hkeeps : r.Keeps P) (heach : r.channel.Each P) : r'.channel.Each P := by
  have hown {call : Nat} {e : Exchange} {phase : Phase} (hcall : r.channel.calls[call]? = some e)
      (hphase : e.phase = phase) : P call phase := hphase ▸ heach call e hcall
  have hothers (call : Nat) : ∀ c phase, c ≠ call → P c phase → P c phase := fun _ _ _ => id
  cases h with
  | idle | miss => exact heach
  | event hevent => exact heach.after hkeeps.toKeeps hevent
  | draw => exact heach.congr rfl
  | @leave call link callId hstage =>
    obtain ⟨e, hcall, hphase⟩ := ho.staged.exists_call hstage
    have hentered : ((r.channel.withdraw link callId).changeLink link
        (·.expect callId call)).Each P := (heach.withdraw hkeeps.learn link callId).congr rfl
    exact hentered.setPhase (hkeeps.enter _ _ _ (hown hcall hphase)) (hothers _)
  | @write call link callId answer broken e hcall hphase =>
    have hwritten : (r.channel.changeLink link
        (·.write (Channel.written callId e.request broken).bytes)).Each P := heach.congr rfl
    exact hwritten.setPhase (hkeeps.write _ _ _ _ (hown hcall hphase)) (hothers _)
  | spoil => exact heach.congr rfl
  | takeBack => exact heach.withdraw hkeeps.learn _ _
  | giveUp hstage =>
    obtain ⟨e, hcall, hfits⟩ := ho.staged.exists_call hstage
    obtain ⟨hstarting, hfinished⟩ := hkeeps.drop _ _ _ _ hfits (heach _ e hcall)
    exact (heach.discard _).fail hstarting hfinished (hothers _)

end Race

/-! ## Histories as races -/

/-- **The moves of an event**, if they follow one another. Giving up a call is none. -/
def Event.moves : Event → List Move
  | .begin request => [.begin request]
  | .join call dialled => [.join call dialled]
  | .register call => [.draw call, .leave call, .giveUp call]
  | .write call broken => [.write call broken, .takeBack call, .giveUp call]
  | .finish call => [.finish call]
  | .cancel _ => []
  | .receive link bytes => [.receive link bytes]
  | .endLink link => [.endLink link]

/-- Whether an event gives up a call. -/
def Event.isCancel : Event → Bool
  | .cancel _ => true
  | _ => false

namespace Race

/-- **A race has come as far as a history**, and no call is in the middle of a step. -/
structure Tells (r : Race) (h : History) : Prop where
  channel_eq : r.channel = h.channel
  log_eq : r.log = h.log
  outgoing_eq : r.outgoing = h.outgoing
  stage_eq : r.stage = fun _ => none

namespace Tells

variable {r r' : Race} {h : History}

/-- A race makes the step of a history if it makes the same of the channel and notes the same. -/
theorem step (ht : r.Tells h) {event : Event} {notes : Notes}
    (hnotes : r.channel.notes event = notes) (hchannel : r'.channel = r.channel.after event)
    (hlog : r'.log = r.log ++ notes.moments)
    (houtgoing : r'.outgoing = r.outgoing ++ notes.outgoing.toList)
    (hstage : r'.stage = fun _ => none) : r'.Tells (h.step event) := by
  obtain ⟨channel, log, trials, outgoing, stream, ended⟩ := h
  obtain ⟨rfl, rfl, rfl, -⟩ := ht
  subst hnotes
  exact ⟨hchannel, hlog, houtgoing, hstage⟩

/-- A step that one move makes. -/
theorem happen (ht : r.Tells h) {move : Move} {event : Event} (hevent : move.event? = some event) :
    (r.happen event).Tells (h.step event) := by
  refine ht.step rfl rfl rfl ?_ ht.stage_eq
  rw [r.channel.outgoing_notes hevent]
  exact (List.append_nil _).symm

/-- A step that no move makes. -/
theorem idle (ht : r.Tells h) {event : Event} (hnotes : r.channel.notes event = {})
    (hafter : r.channel.after event = r.channel) : r.Tells (h.step event) :=
  ht.step hnotes hafter.symm (List.append_nil _).symm (List.append_nil _).symm ht.stage_eq

/-- A call that has been in the middle of a step is behind it. -/
theorem update_none (ht : r.Tells h) (call : Nat) :
    Function.update r.stage call none = fun _ => none := by
  rw [ht.stage_eq]
  exact Function.update_eq_self call _

section

variable {call link : Nat} {callId : UInt64} {answer : Answer} {e : Exchange}
  {broken : Option Break} {error : TransportError}

theorem register_enter (ht : r.Tells h) (hphase : r.channel.phase? call = some (.joined link))
    (hopen : r.channel.isOpen link = true) :
    ((r.number call link).enter call link r.channel.nextCallId).Tells
      (h.step (.register call)) := by
  have hnotes : r.channel.notes (.register call)
      = { moments := [.left link r.channel.nextCallId call] } := by
    simp only [Channel.notes, Channel.notesOfRegister, hphase, hopen, if_true]
  have hafter : r.channel.after (.register call)
      = ((r.number call link).enter call link r.channel.nextCallId).channel := by
    simp only [Channel.after, Channel.register, hphase]
    exact if_pos hopen
  exact ht.step hnotes hafter.symm rfl (List.append_nil _).symm
    ((Function.update_idem ..).trans (ht.update_none call))

theorem register_drop (ht : r.Tells h) (hphase : r.channel.phase? call = some (.joined link))
    (hclosed : r.channel.isOpen link = false) :
    (((r.number call link).setStage call (some (.failed link (.send "not connected")))).drop call
      link (.send "not connected")).Tells (h.step (.register call)) := by
  have hnotes : r.channel.notes (.register call)
      = { trial := some ⟨call, .error (.send "not connected")⟩ } := by
    simp only [Channel.notes, Channel.notesOfRegister, hphase, hclosed]
    rfl
  have hafter : r.channel.after (.register call)
      = ((r.number call link).drop call link (.send "not connected")).channel := by
    simp only [Channel.after, Channel.register, hphase]
    exact if_neg (Bool.not_eq_true _ ▸ hclosed)
  exact ht.step hnotes hafter.symm (List.append_nil _).symm (List.append_nil _).symm
    ((Function.update_idem ..).trans ((Function.update_idem ..).trans (ht.update_none call)))

theorem register_idle (ht : r.Tells h)
    (hphase : ∀ link, r.channel.phase? call ≠ some (.joined link)) :
    r.Tells (h.step (.register call)) := by
  refine ht.idle ?_ ?_
  · show r.channel.notesOfRegister call = {}
    unfold Channel.notesOfRegister
    split
    · next hjoined => exact absurd hjoined (hphase _)
    · rfl
  · show r.channel.register call = r.channel
    unfold Channel.register
    split
    · next hjoined => exact absurd hjoined (hphase _)
    · rfl

/-- **Drawing an id and leaving it are one step.** -/
theorem register (ht : r.Tells h) (call : Nat) :
    (((r.draw call).leave call).giveUp call).Tells (h.step (.register call)) := by
  have hrest : r.stage call = none := congrFun ht.stage_eq call
  by_cases hjoined : ∃ link, r.channel.phase? call = some (.joined link)
  · obtain ⟨link, hphase⟩ := hjoined
    have hnumbered : (r.number call link).stage call
        = some (.numbered link r.channel.nextCallId) := Function.update_self ..
    rw [draw_of_joined hphase hrest]
    cases hopen : r.channel.isOpen link with
    | true =>
      rw [leave_of_open hnumbered hopen, giveUp_of_none (Function.update_self ..)]
      exact ht.register_enter hphase hopen
    | false =>
      rw [leave_of_closed hnumbered hopen, giveUp_of_failed (Function.update_self ..)]
      exact ht.register_drop hphase hopen
  · have hnot (link : Nat) : r.channel.phase? call ≠ some (.joined link) :=
      fun hphase => hjoined ⟨link, hphase⟩
    rw [draw_of_not_joined hnot, leave_of_none hrest, giveUp_of_none hrest]
    exact ht.register_idle hnot

theorem write_await (ht : r.Tells h) (hcall : r.channel.calls[call]? = some e)
    (hphase : e.phase = .writing link callId answer)
    (hout : (Channel.written callId e.request broken).error = none) :
    ((r.send (Channel.sending call link callId e.request broken)).await call link callId
      answer).Tells (h.step (.write call broken)) := by
  have hnotes : r.channel.notes (.write call broken)
      = { outgoing := some (Channel.sending call link callId e.request broken) } := by
    simp only [Channel.notes, Channel.notesOfWrite, hcall, hphase, hout]
    rfl
  have hafter : r.channel.after (.write call broken)
      = ((r.send (Channel.sending call link callId e.request broken)).await call link callId
        answer).channel := by
    simp only [Channel.after, Channel.write, hcall, hphase, hout]
    rfl
  exact ht.step hnotes hafter.symm (List.append_nil _).symm rfl ht.stage_eq

theorem write_drop (ht : r.Tells h) (hcall : r.channel.calls[call]? = some e)
    (hphase : e.phase = .writing link callId answer)
    (hout : (Channel.written callId e.request broken).error = some error) :
    ((((r.send (Channel.sending call link callId e.request broken)).setStage call
      (some (.broken link callId error))).takeOff call link callId error).drop call link
      error).Tells (h.step (.write call broken)) := by
  have hnotes : r.channel.notes (.write call broken)
      = { moments := [.withdrawn link callId]
          trial := some ⟨call, .error error⟩
          outgoing := some (Channel.sending call link callId e.request broken) } := by
    simp only [Channel.notes, Channel.notesOfWrite, hcall, hphase, hout]
    rfl
  have hafter : r.channel.after (.write call broken)
      = (((r.send (Channel.sending call link callId e.request broken)).takeOff call link callId
        error).drop call link error).channel := by
    simp only [Channel.after, Channel.write, hcall, hphase, hout]
    rfl
  exact ht.step hnotes hafter.symm rfl rfl ((Function.update_idem ..).trans
    ((Function.update_idem ..).trans (ht.update_none call)))

/-- Only a call that has been given up writes while nobody waits for it. -/
theorem write_idle (ht : r.Tells h) (ho : r.Orderly)
    (hcall : ∀ e, r.channel.calls[call]? = some e →
      ∀ link callId answer, e.phase ≠ .writing link callId answer) :
    r.Tells (h.step (.write call broken)) := by
  -- no call of a race has been given up, so none writes on for nobody
  have hkept (e : Exchange) (he : r.channel.calls[call]? = some e) (link : Nat)
      (callId : UInt64) : e.phase ≠ .detached link callId := by
    have hsuits := ho.staged.suits call e he
    dsimp only at hsuits
    rw [ht.stage_eq] at hsuits
    exact hsuits.1 link callId
  refine ht.idle ?_ ?_
  · show r.channel.notesOfWrite call broken = {}
    unfold Channel.notesOfWrite
    split
    · rfl
    · next e he =>
      split
      · next hphase => exact absurd hphase (hcall e he _ _ _)
      · next hphase => exact absurd hphase (hkept e he _ _)
      · rfl
  · show r.channel.write call broken = r.channel
    unfold Channel.write
    split
    · rfl
    · next e he =>
      split
      · next hphase => exact absurd hphase (hcall e he _ _ _)
      · next hphase => exact absurd hphase (hkept e he _ _)
      · rfl

/-- **Writing and taking the id back are one step.** -/
theorem write (ht : r.Tells h) (ho : r.Orderly) (call : Nat) (broken : Option Break) :
    (((r.write call broken).takeBack call).giveUp call).Tells (h.step (.write call broken)) := by
  have hrest : r.stage call = none := congrFun ht.stage_eq call
  by_cases hwriting : ∃ e link callId answer, r.channel.calls[call]? = some e
      ∧ e.phase = .writing link callId answer
  · obtain ⟨e, link, callId, answer, hcall, hphase⟩ := hwriting
    cases hout : (Channel.written callId e.request broken).error with
    | none =>
      have hbehind : ((r.send (Channel.sending call link callId e.request broken)).await call link
          callId answer).stage call = none := hrest
      rw [write_of_none hcall hphase hrest hout, takeBack_of_none hbehind, giveUp_of_none hbehind]
      exact ht.write_await hcall hphase hout
    | some error =>
      rw [write_of_some hcall hphase hrest hout, takeBack_of_broken (Function.update_self ..),
        giveUp_of_failed (Function.update_self ..)]
      exact ht.write_drop hcall hphase hout
  · have hnot (e : Exchange) (hcall : r.channel.calls[call]? = some e) (link : Nat)
        (callId : UInt64) (answer : Answer) : e.phase ≠ .writing link callId answer :=
      fun hphase => hwriting ⟨e, link, callId, answer, hcall, hphase⟩
    rw [write_of_not_writing hnot, takeBack_of_none hrest, giveUp_of_none hrest]
    exact ht.write_idle ho hnot

end

/-- **The moves of an event make its step.** -/
theorem run_moves (ht : r.Tells h) (ho : r.Orderly) {event : Event}
    (hevent : event.isCancel = false) :
    (r.run event.moves).Tells (h.step event) := by
  cases event with
  | register call => exact ht.register call
  | write call broken => exact ht.write ho call broken
  | cancel => cases hevent
  | begin request => exact ht.happen (show (Move.begin request).event? = _ from rfl)
  | join call dialled => exact ht.happen (show (Move.join call dialled).event? = _ from rfl)
  | finish call => exact ht.happen (show (Move.finish call).event? = _ from rfl)
  | receive link bytes => exact ht.happen (show (Move.receive link bytes).event? = _ from rfl)
  | endLink link => exact ht.happen (show (Move.endLink link).event? = _ from rfl)

theorem run (ht : r.Tells h) (ho : r.Orderly) {events : List Event}
    (hkept : ∀ event ∈ events, event.isCancel = false) :
    (r.run (events.flatMap Event.moves)).Tells (h.run events) := by
  induction events generalizing r h with
  | nil => exact ht
  | cons event events ih =>
    obtain ⟨hevent, hrest⟩ := List.forall_mem_cons.mp hkept
    rw [List.flatMap_cons, run_append]
    exact ih (ht.run_moves ho hevent) (ho.run event.moves) hrest

end Tells

/-- **Every history in which no call is given up is a race.** -/
theorem run_moves (destination : Address) (attempts : Nat) {events : List Event}
    (hkept : ∀ event ∈ events, event.isCancel = false) :
    ((start destination attempts).run (events.flatMap Event.moves)).Tells
      ((History.start destination attempts).run events) :=
  Tells.run ⟨rfl, rfl, rfl, rfl⟩ (.start destination attempts) hkept

end Race

end Switchboard.Client
