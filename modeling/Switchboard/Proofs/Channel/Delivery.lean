import Switchboard.Proofs.Channel.Outbound

/-!
# A request is delivered once at most

A try that fails before its request has been written may be repeated, since
nobody has seen the request; a try that fails later may not. For that to be
safe, every way in which a try can fail has to be on the right side of the
write. `CallStep` lists what can happen to a call, with the outcome of a try
that ends thereby and the complete envelopes that are written; each of them
leaves the call with as many tries and envelopes as its phase allows
(`Tried`), and so does every event of a history.

Nothing is assumed about connections and servers but that a write that is
reported to have failed has not brought the whole envelope on its way.
-/

namespace Switchboard.Client

open Wire (Request Reply ReplyEnvelope)

/-! ## Tries and envelopes -/

/-- **The complete envelope of a request** has been written. -/
def Outgoing.IsComplete (o : Outgoing) : Prop :=
  (Wire.writeRequest o.callId o.request).error = none ∧
    o.bytes = (Wire.writeRequest o.callId o.request).bytes

instance (o : Outgoing) : Decidable o.IsComplete := inferInstanceAs (Decidable (_ ∧ _))

/-- The outcomes of the tries of a call that are over, in order. -/
def trialsOf (call : Nat) (trials : List Trial) : List (Except TransportError Reply) :=
  (trials.filter (·.call = call)).map (·.outcome)

/-- How many complete envelopes a call has written, on whatever links. -/
def completeOf (call : Nat) (outgoing : List Outgoing) : Nat :=
  outgoing.countP fun o => o.call = call ∧ o.IsComplete

/-- Whether a call is tried again after such an outcome, as long as it may be. -/
def IsRetryable : Except TransportError Reply → Prop
  | .ok _ => False
  | .error error => error.isRetryable = true

/-- Whether a call that has such an outcome has not written its request. -/
def IsUnsent : Except TransportError Reply → Prop
  | .ok _ => False
  | .error error => error.isUnsent = true

/-- What an event must keep to: a write that is reported to have failed has not brought the complete
envelope on its way. -/
def Channel.Allows (ch : Channel) : Event → Prop
  | .write call (some broken) =>
    ∀ e link callId answer, ch.calls[call]? = some e → e.phase = .writing link callId answer →
      (Wire.writeRequest callId e.request).error = none →
      broken.after < (Wire.writeRequest callId e.request).bytes.length
  | _ => True

/-- Events that keep to it one after another. -/
def History.AllowsAll (h : History) : List Event → Prop
  | [] => True
  | event :: events => h.channel.Allows event ∧ (h.step event).AllowsAll events

/-! ## What can happen to a call -/

/-- A call that has not written its request yet. -/
def Phase.IsEarly : Phase → Prop
  | .starting | .joined _ | .writing _ _ _ | .detached _ _ => True
  | _ => False

/-- **What can happen to a call**: with it the outcomes of tries that are over, and the number of
complete envelopes that have been written. -/
inductive CallStep (attempts : Nat) (e : Exchange) :
    Exchange → List (Except TransportError Reply) → Nat → Prop where
  | learn (c : Nat) (news : List (Nat × Answer)) :
    CallStep attempts e { e with phase := Channel.learned c news e.phase } [] 0
  | move {phase : Phase} (before : e.phase.IsEarly) (after : phase.IsEarly) :
    CallStep attempts e { e with phase } [] 0
  | fail {error : TransportError} (before : e.phase.IsEarly) (unsent : error.isUnsent = true) :
    CallStep attempts e (e.fail attempts error) [.error error] 0
  | write {link : Nat} {callId : UInt64} {answer : Answer} (before : e.phase.IsEarly) :
    CallStep attempts e { e with phase := .waiting link callId answer } [] 1
  | giveUp (before : e.phase.IsEarly) {count : Nat} (le : count ≤ 1) :
    CallStep attempts e { e with phase := .abandoned } [] count
  | giveUpLate (before : ¬ e.phase.IsEarly) (unfinished : ∀ outcome, e.phase ≠ .finished outcome) :
    CallStep attempts e { e with phase := .abandoned } [] 0
  | finish {link : Nat} {callId : UInt64} {answer : Answer}
    {outcome : Except TransportError Reply} (before : e.phase = .waiting link callId answer)
    (final : ¬ IsRetryable outcome) (sent : ¬ IsUnsent outcome) :
    CallStep attempts e { e with phase := .finished outcome } [outcome] 0

/-- How many complete envelopes a call has written, by how far it has come. -/
def Phase.Sent (count : Nat) : Phase → Prop
  | .starting | .joined _ | .writing _ _ _ | .detached _ _ => count = 0
  | .waiting _ _ _ => count = 1
  | .abandoned => count ≤ 1
  | .finished outcome => (IsUnsent outcome → count = 0) ∧ (¬ IsUnsent outcome → count = 1)

/-- **How often a call has been tried**: all tries but the last have failed so that they could be
repeated, and the last is over if the call has finished. -/
def Phase.Tried (attempts attempt : Nat) (trials : List (Except TransportError Reply)) :
    Phase → Prop
  | .finished outcome => ∃ earlier, trials = earlier ++ [outcome] ∧
      (∀ t ∈ earlier, IsRetryable t) ∧ earlier.length + 1 = attempt ∧
      (IsRetryable outcome → attempt = attempts)
  | _ => (∀ t ∈ trials, IsRetryable t) ∧ trials.length + 1 = attempt

/-- **A call that has been tried and delivered as often as it may.** -/
structure Accounted (attempts : Nat) (trials : List (Except TransportError Reply)) (count : Nat)
    (e : Exchange) : Prop where
  attempt_le : e.attempt ≤ attempts
  tried : e.phase.Tried attempts e.attempt trials
  sent : e.phase.Sent count

namespace Phase

variable {attempts attempt count : Nat} {trials : List (Except TransportError Reply)}
  {phase : Phase}

theorem IsEarly.sent (h : phase.IsEarly) : phase.Sent count ↔ count = 0 := by
  cases phase with
  | waiting | finished | abandoned => exact h.elim
  | _ => exact Iff.rfl

theorem IsEarly.tried (h : phase.IsEarly) : phase.Tried attempts attempt trials ↔
    (∀ t ∈ trials, IsRetryable t) ∧ trials.length + 1 = attempt := by
  cases phase with
  | waiting | finished | abandoned => exact h.elim
  | _ => exact Iff.rfl

theorem learn_tried (answer : Answer) : (phase.learn answer).Tried attempts attempt trials ↔
    phase.Tried attempts attempt trials := by
  cases phase with
  | writing link callId known | waiting link callId known => cases known <;> exact Iff.rfl
  | _ => exact Iff.rfl

theorem learn_sent (answer : Answer) : (phase.learn answer).Sent count ↔ phase.Sent count := by
  cases phase with
  | writing link callId known | waiting link callId known => cases known <;> exact Iff.rfl
  | _ => exact Iff.rfl

end Phase

/-- **Whatever happens to a call leaves it accounted for.** -/
theorem Accounted.step {attempts count count' : Nat}
    {trials trials' : List (Except TransportError Reply)} {e e' : Exchange}
    (h : Accounted attempts trials count e)
    (hstep : CallStep attempts e e' trials' count') :
    Accounted attempts (trials ++ trials') (count + count') e' := by
  cases hstep with
  | learn c news =>
    refine ⟨h.attempt_le, ?_, ?_⟩
    · rw [List.append_nil]
      exact (Channel.learned_iff (fun _ _ => Phase.learn_tried _) c news e.phase).mpr h.tried
    · exact (Channel.learned_iff (fun _ _ => Phase.learn_sent _) c news e.phase).mpr h.sent
  | move before after =>
    refine ⟨h.attempt_le, ?_, ?_⟩
    · rw [List.append_nil]
      exact after.tried.mpr (before.tried.mp h.tried)
    · exact after.sent.mpr (before.sent.mp h.sent)
  | @fail error before unsent =>
    -- a try that fails counts, and starts the call again only if tries are left
    obtain ⟨hretry, hlength⟩ := before.tried.mp h.tried
    have hnone := before.sent.mp h.sent
    have hle := h.attempt_le
    unfold Exchange.fail
    split
    · next hagain =>
      refine ⟨hagain.2, ⟨?_, ?_⟩, hnone⟩
      · rw [List.forall_mem_append]
        exact ⟨hretry, List.forall_mem_singleton.mpr hagain.1⟩
      · show (trials ++ [_]).length + 1 = e.attempt + 1
        rw [List.length_append, List.length_singleton, hlength]
    · next hover =>
      refine ⟨hle, ⟨trials, rfl, hretry, hlength, fun hretryable => ?_⟩, fun _ => hnone,
        fun hsent => absurd unsent hsent⟩
      have hlast : ¬ e.attempt < attempts := fun hlt => hover ⟨hretryable, hlt⟩
      exact Nat.le_antisymm hle (Nat.le_of_not_lt hlast)
  | write before =>
    refine ⟨h.attempt_le, ?_, ?_⟩
    · rw [List.append_nil]
      exact before.tried.mp h.tried
    · rw [before.sent.mp h.sent]
      rfl
  | giveUp before le =>
    refine ⟨h.attempt_le, ?_, ?_⟩
    · rw [List.append_nil]
      exact before.tried.mp h.tried
    · rw [before.sent.mp h.sent, Nat.zero_add]
      exact le
  | giveUpLate before unfinished =>
    -- the server may have the request by now, so that its count is not touched
    have htried := h.tried
    have hsent := h.sent
    rw [List.append_nil]
    cases hphase : e.phase with
    | finished outcome => exact absurd hphase (unfinished outcome)
    | waiting =>
      rw [hphase] at htried hsent
      exact ⟨h.attempt_le, htried, Nat.le_of_eq hsent⟩
    | abandoned =>
      rw [hphase] at htried hsent
      exact ⟨h.attempt_le, htried, hsent⟩
    | _ => exact absurd (by rw [hphase]; trivial) before
  | finish before final sent =>
    have htried := h.tried
    have hsent := h.sent
    rw [before] at htried hsent
    exact ⟨h.attempt_le,
      ⟨trials, rfl, htried.1, htried.2, fun hretryable => absurd hretryable final⟩,
      fun hunsent => absurd hunsent sent, fun _ => hsent⟩

/-! ## Every event -/

section Lists

variable (call : Nat)

theorem trialsOf_append (trials trials' : List Trial) :
    trialsOf call (trials ++ trials') = trialsOf call trials ++ trialsOf call trials' := by
  unfold trialsOf
  rw [List.filter_append, List.map_append]

theorem completeOf_append (outgoing outgoing' : List Outgoing) :
    completeOf call (outgoing ++ outgoing')
      = completeOf call outgoing + completeOf call outgoing' :=
  List.countP_append

theorem trialsOf_singleton_self (outcome : Except TransportError Reply) :
    trialsOf call [⟨call, outcome⟩] = [outcome] := by
  simp [trialsOf]

theorem trialsOf_singleton_of_ne {call other : Nat} (h : other ≠ call)
    (outcome : Except TransportError Reply) : trialsOf call [⟨other, outcome⟩] = [] := by
  simp [trialsOf, h]

theorem completeOf_singleton_of_ne {call : Nat} {o : Outgoing} (h : o.call ≠ call) :
    completeOf call [o] = 0 := by
  simp [completeOf, h]

theorem completeOf_singleton_le (o : Outgoing) : completeOf call [o] ≤ 1 :=
  List.countP_le_length

end Lists

section Sending

variable {call link : Nat} {callId : UInt64} {request : Request} {broken : Option Break}

/-- What has been written without an error is complete, -/
theorem isComplete_of_written (h : (Channel.written callId request broken).error = none) :
    (Channel.sending call link callId request broken).IsComplete := by
  cases broken with
  | none => exact ⟨h, rfl⟩
  | some broken =>
    unfold Channel.written Wire.Written.brokenAfter at h
    dsimp only at h
    split at h
    · next hfirst => simp [h] at hfirst
    · exact absurd h nofun

/-- and what has been written with an error is not. -/
theorem not_isComplete_of_written {error : TransportError}
    (h : (Channel.written callId request broken).error = some error)
    (hallows : ∀ b, broken = some b → (Wire.writeRequest callId request).error = none →
      b.after < (Wire.writeRequest callId request).bytes.length) :
    ¬ (Channel.sending call link callId request broken).IsComplete := by
  rintro ⟨hwritable, hbytes⟩
  cases broken with
  | none => exact absurd (hwritable.symm.trans h) nofun
  | some b =>
    have hshort := hallows b rfl hwritable
    have hlength := congrArg List.length hbytes
    unfold Channel.sending Channel.written Wire.Written.brokenAfter at hlength hwritable
    dsimp only at hlength hwritable
    rw [if_neg (by simp [hwritable]), List.length_take] at hlength
    omega

end Sending

namespace Channel

variable {ch : Channel} {attempts call c : Nat} {e : Exchange}

/-- An event that is about one call does nothing to the others but bring them news. -/
theorem callStep_changeCall {f : Exchange → Exchange} (news : List (Nat × Answer))
    (he : ch.calls[c]? = some { e with phase := learned c news e.phase }) {trial : Option Trial}
    {outgoing : Option Outgoing} (htrial : ∀ t ∈ trial, t.call = call)
    (houtgoing : ∀ o ∈ outgoing, o.call = call)
    (hself : c = call → CallStep attempts e (f { e with phase := learned c news e.phase })
      (trialsOf c trial.toList) (completeOf c outgoing.toList)) :
    ∃ e', (ch.changeCall call f).calls[c]? = some e' ∧
      CallStep attempts e e' (trialsOf c trial.toList) (completeOf c outgoing.toList) := by
  rw [getElem?_changeCall, he]
  by_cases hc : c = call
  · exact ⟨_, if_pos hc.symm, hself hc⟩
  · refine ⟨_, if_neg (Ne.symm hc), ?_⟩
    have hnone : trialsOf c trial.toList = [] := by
      cases trial with
      | none => rfl
      | some t => exact trialsOf_singleton_of_ne (by rw [htrial t rfl]; exact Ne.symm hc) t.outcome
    have hzero : completeOf c outgoing.toList = 0 := by
      cases outgoing with
      | none => rfl
      | some o => exact completeOf_singleton_of_ne (by rw [houtgoing o rfl]; exact Ne.symm hc)
    rw [hnone, hzero]
    exact .learn c news

/-- **What an event does to a call.** -/
theorem Step.callStep {ch' : Channel} {event : Event} {notes : Notes}
    (h : Step ch event ch' notes) (hallows : ch.Allows event) (he : ch.calls[c]? = some e) :
    ∃ e', ch'.calls[c]? = some e' ∧ CallStep ch.attempts e e' (trialsOf c notes.trial.toList)
      (completeOf c notes.outgoing.toList) := by
  have hnews (base : Channel) (hcalls : base.calls = ch.calls) (news : List (Nat × Answer)) :
      ∃ e', (base.tell news).calls[c]? = some e' ∧ CallStep ch.attempts e e' [] 0 := by
    rw [getElem?_tell, hcalls, he]
    exact ⟨_, rfl, .learn c news⟩
  -- a call is what was looked up under its number
  have hsame {call : Nat} {e' : Exchange} (hcall : ch.calls[call]? = some e') (hc : c = call) :
      e = e' := Option.some_inj.mp (he.symm.trans (hc ▸ hcall))
  have hearly {call : Nat} {e' : Exchange} {phase : Phase} (hcall : ch.calls[call]? = some e')
      (hphase : e'.phase = phase) (h : phase.IsEarly) (hc : c = call) : e.phase.IsEarly := by
    rwa [hsame hcall hc, hphase]
  have hfail {call : Nat} {error : TransportError} (hearly : e.phase.IsEarly)
      (hunsent : error.isUnsent = true) (hc : c = call) :
      CallStep ch.attempts e (e.fail ch.attempts error) (trialsOf c [⟨call, .error error⟩]) 0 := by
    rw [hc, trialsOf_singleton_self]
    exact .fail hearly hunsent
  cases h with
  | idle => exact hnews ch rfl []
  | begin request =>
    refine ⟨e, ?_, .learn c []⟩
    exact (List.getElem?_append_left (List.getElem?_eq_some_iff.mp he).1).trans he
  | share hcall hphase | dial hcall hphase | detach hcall hphase =>
    exact callStep_changeCall [] he nofun nofun fun hc =>
      .move (hearly hcall hphase trivial hc) trivial
  | refuse hcall hphase =>
    exact callStep_changeCall [] he (by rintro t ⟨⟩; rfl) nofun fun hc =>
      hfail (hearly hcall hphase trivial hc) rfl hc
  | leave hcall hphase =>
    obtain ⟨news, he'⟩ := exists_news ch.draw _ _ .lost he
    exact callStep_changeCall news he' nofun nofun fun hc =>
      .move (hearly hcall hphase trivial hc) trivial
  | @miss call link _ hcall hphase =>
    have he' : (ch.draw.discard link).calls[c]? = some e := by rwa [calls_discard]
    refine callStep_changeCall [] he' (by rintro t ⟨⟩; rfl) nofun fun hc => ?_
    rw [attempts_discard]
    exact hfail (hearly hcall hphase trivial hc) rfl hc
  | write hcall hphase hout =>
    -- a whole request counts for its own call
    refine callStep_changeCall [] he nofun (by rintro o ⟨⟩; rfl) fun hc => ?_
    subst hc
    rw [show completeOf c (some _).toList = 1 from
      List.countP_eq_length.mpr (List.forall_mem_singleton.mpr
        (decide_eq_true ⟨rfl, isComplete_of_written hout⟩))]
    exact .write (hearly hcall hphase trivial rfl)
  | @breakOff call link callId answer broken e' error hcall hphase hout =>
    obtain ⟨news, he'⟩ := exists_news
      (ch.changeLink link (·.write (written callId e'.request broken).bytes)) link callId .lost he
    rw [← calls_discard _ link] at he'
    refine callStep_changeCall news he' (by rintro t ⟨⟩; rfl) (by rintro o ⟨⟩; rfl) fun hc => ?_
    -- a write that is reported to have failed has not brought the request whole, by `hallows`
    have hnone : ¬ (sending call link callId e'.request broken).IsComplete := by
      refine not_isComplete_of_written hout fun b hb => ?_
      subst hb
      exact hallows e' link callId answer hcall hphase
    have hzero : completeOf c (some (sending call link callId e'.request broken)).toList = 0 :=
      List.countP_eq_zero.mpr
        (List.forall_mem_singleton.mpr fun h => hnone (of_decide_eq_true h).2)
    rw [attempts_discard, attempts_withdraw, hzero]
    exact hfail (hearly hcall hphase trivial hc) (isUnsent_of_written hout) hc
  | writeAlone hcall hphase =>
    exact callStep_changeCall [] he nofun (by rintro o ⟨⟩; rfl) fun hc =>
      .giveUp (hearly hcall hphase trivial hc) (completeOf_singleton_le c _)
  | @answer call link callId envelope e' hcall hphase =>
    refine callStep_changeCall [] he (by rintro t ⟨⟩; rfl) nofun fun hc => ?_
    rw [hc, Option.toList_some, trialsOf_singleton_self]
    refine .finish ((hsame hcall hc).symm ▸ hphase) ?_ ?_ <;> unfold ReplyEnvelope.toReply <;>
      split <;> nofun
  | @lose call link callId e' hcall hphase =>
    have he' : (ch.discard link).calls[c]? = some e := by rwa [calls_discard]
    refine callStep_changeCall [] he' (by rintro t ⟨⟩; rfl) nofun fun hc => ?_
    rw [hc, Option.toList_some, trialsOf_singleton_self]
    exact .finish ((hsame hcall hc).symm ▸ hphase) nofun nofun
  | abandon hcall hwriting hdetached hfinished =>
    refine callStep_changeCall [] he nofun nofun fun hc => ?_
    rw [← hsame hcall hc] at hfinished
    cases hphase : e.phase with
    | finished outcome => exact absurd hphase (hfinished outcome)
    | waiting | abandoned => exact .giveUpLate (by rw [hphase]; exact id) hfinished
    | _ => exact .giveUp (by rw [hphase]; trivial) (Nat.zero_le 1)
  | @receive link bytes l hlink hopen =>
    rw [receive_of_some hlink]
    exact hnews (ch.changeLink link _) rfl _
  | @endLink link l hlink | @endAgain link l hlink =>
    rw [endLink_of_some hlink]
    exact hnews (ch.changeLink link _) rfl _

/-- Events leave the number of tries alone. -/
theorem Step.attempts_eq {ch' : Channel} {event : Event} {notes : Notes}
    (h : Step ch event ch' notes) : ch'.attempts = ch.attempts := by
  cases h with
  | leave => exact attempts_withdraw ch.draw ..
  | miss => exact attempts_discard ch.draw ..
  | breakOff => exact (attempts_discard ..).trans (attempts_withdraw ..)
  | lose => exact attempts_discard ..
  | receive hlink =>
    rw [receive_of_some hlink]
    exact attempts_tell ..
  | endLink hlink | endAgain hlink =>
    rw [endLink_of_some hlink]
    exact attempts_tell ..
  | _ => rfl

/-- Events other than the beginning of a call make no calls. -/
theorem Step.calls_cases {ch' : Channel} {event : Event} {notes : Notes}
    (h : Step ch event ch' notes) :
    ch'.calls.length = ch.calls.length ∨
      ∃ request, ch' = (ch.begin request).1 ∧ notes.trial = none ∧ notes.outgoing = none := by
  cases h with
  | begin request => exact .inr ⟨request, rfl, rfl, rfl⟩
  | idle => exact .inl rfl
  | leave =>
    refine .inl ((length_calls_changeCall ..).trans ?_)
    exact length_calls_withdraw ch.draw ..
  | miss => exact .inl ((length_calls_changeCall ..).trans (congrArg _ (calls_discard ch.draw ..)))
  | breakOff =>
    refine .inl ((length_calls_changeCall ..).trans ?_)
    rw [calls_discard]
    exact length_calls_withdraw ..
  | lose => exact .inl ((length_calls_changeCall ..).trans (congrArg _ (calls_discard ..)))
  | receive hlink =>
    rw [receive_of_some hlink]
    exact .inl (length_calls_tell ..)
  | endLink hlink | endAgain hlink =>
    rw [endLink_of_some hlink]
    exact .inl (length_calls_tell ..)
  | _ => exact .inl (length_calls_changeCall ..)

/-- What is noted is noted of calls that are there, with their requests. -/
theorem Step.noted {ch' : Channel} {event : Event} {notes : Notes}
    (h : Step ch event ch' notes) :
    (∀ t ∈ notes.trial, ∃ e, ch.calls[t.call]? = some e) ∧
      ∀ o ∈ notes.outgoing, ∃ e, ch.calls[o.call]? = some e ∧ o.request = e.request := by
  cases h with
  | refuse hcall | miss hcall | answer hcall | lose hcall =>
    refine ⟨?_, nofun⟩
    rintro t ⟨⟩
    exact ⟨_, hcall⟩
  | write hcall | writeAlone hcall =>
    refine ⟨nofun, ?_⟩
    rintro o ⟨⟩
    exact ⟨_, hcall, rfl⟩
  | breakOff hcall =>
    constructor
    · rintro t ⟨⟩
      exact ⟨_, hcall⟩
    · rintro o ⟨⟩
      exact ⟨_, hcall, rfl⟩
  | _ => exact ⟨nofun, nofun⟩

end Channel

theorem CallStep.request_eq {attempts count : Nat} {trials : List (Except TransportError Reply)}
    {e e' : Exchange} (h : CallStep attempts e e' trials count) : e'.request = e.request := by
  cases h with
  | fail =>
    unfold Exchange.fail
    split <;> rfl
  | _ => rfl

/-! ## Histories -/

/-- **A history in which all calls are accounted for.** -/
structure Delivered (attempts : Nat) (h : History) : Prop where
  attempts_pos : 0 < attempts
  attempts_eq : h.channel.attempts = attempts
  linked : h.channel.Linked
  accounted : ∀ (c : Nat) (e : Exchange), h.channel.calls[c]? = some e →
    Accounted attempts (trialsOf c h.trials) (completeOf c h.outgoing) e
  known : ∀ t ∈ h.trials, ∃ e, h.channel.calls[t.call]? = some e
  own : ∀ o ∈ h.outgoing, ∃ e, h.channel.calls[o.call]? = some e ∧ o.request = e.request
  outbound_eq : ∀ link, h.channel.outbound link = writtenOn link h.outgoing

namespace Delivered

variable {attempts : Nat} {h : History}

theorem start (destination : Address) (attempts : Nat) :
    Delivered (max 1 attempts) (History.start destination attempts) where
  attempts_pos := Nat.le_max_left ..
  attempts_eq := rfl
  linked := nofun
  accounted := nofun
  known := nofun
  own := nofun
  outbound_eq _ := rfl

/-- Nothing has been noted of a call that is not there. -/
theorem nothing_noted (hdelivered : Delivered attempts h) {c : Nat}
    (hnone : h.channel.calls[c]? = none) :
    trialsOf c h.trials = [] ∧ completeOf c h.outgoing = 0 := by
  constructor
  · unfold trialsOf
    rw [List.filter_eq_nil_iff.mpr fun t ht hcall => ?_, List.map_nil]
    obtain ⟨e, he⟩ := hdelivered.known t ht
    rw [of_decide_eq_true hcall, hnone] at he
    exact absurd he nofun
  · refine List.countP_eq_zero.mpr fun o ho hcall => ?_
    obtain ⟨e, he, -⟩ := hdelivered.own o ho
    rw [(of_decide_eq_true hcall).1, hnone] at he
    exact absurd he nofun

/-- **Every event leaves all calls accounted for.** -/
theorem step (hdelivered : Delivered attempts h) {event : Event}
    (hallows : h.channel.Allows event) : Delivered attempts (h.step event) := by
  have hstep := h.channel.step event
  have hthere (c : Nat) (e : Exchange) (he : h.channel.calls[c]? = some e) :=
    hstep.callStep hallows he
  refine
    { attempts_pos := hdelivered.attempts_pos
      attempts_eq := hstep.attempts_eq.trans hdelivered.attempts_eq
      linked := hdelivered.linked.step hstep
      accounted := fun c e' he' => ?_
      known := fun t ht => ?_
      own := fun o ho => ?_
      outbound_eq := fun link => ?_ }
  · show Accounted attempts (trialsOf c (h.trials ++ _)) (completeOf c (h.outgoing ++ _)) e'
    rw [trialsOf_append, completeOf_append]
    cases he : h.channel.calls[c]? with
    | some e =>
      obtain ⟨e'', hsame, hcallStep⟩ := hthere c e he
      rw [hdelivered.attempts_eq] at hcallStep
      obtain rfl := Option.some_inj.mp (he'.symm.trans hsame)
      exact (hdelivered.accounted c e he).step hcallStep
    | none =>
      -- a number that was free before is that of the call that begins
      obtain ⟨htrials, hcomplete⟩ := hdelivered.nothing_noted he
      obtain hlength | ⟨request, hbegin, htrial, houtgoing⟩ := hstep.calls_cases
      · have hlt := (List.getElem?_eq_some_iff.mp he').1
        have hge := List.getElem?_eq_none_iff.mp he
        exact absurd (hlength ▸ hlt) (Nat.not_lt.mpr hge)
      · rw [htrials, hcomplete, htrial, houtgoing]
        rw [show (h.step event).channel = _ from hbegin] at he'
        obtain he' | rfl := Channel.of_getElem?_begin he'
        · exact absurd (he.symm.trans he') nofun
        · exact ⟨hdelivered.attempts_pos, ⟨List.forall_mem_nil _, rfl⟩, rfl⟩
  · have hbefore : ∃ e, h.channel.calls[t.call]? = some e := by
      obtain ht | ht := List.mem_append.mp ht
      · exact hdelivered.known t ht
      · exact hstep.noted.1 t (Option.mem_toList.mp ht)
    obtain ⟨e, he⟩ := hbefore
    obtain ⟨e', he', -⟩ := hthere t.call e he
    exact ⟨e', he'⟩
  · have hbefore : ∃ e, h.channel.calls[o.call]? = some e ∧ o.request = e.request := by
      obtain ho | ho := List.mem_append.mp ho
      · exact hdelivered.own o ho
      · exact hstep.noted.2 o (Option.mem_toList.mp ho)
    obtain ⟨e, he, hrequest⟩ := hbefore
    obtain ⟨e', he', hcallStep⟩ := hthere o.call e he
    exact ⟨e', he', hrequest.trans hcallStep.request_eq.symm⟩
  · exact (hstep.outbound_eq hdelivered.linked link).trans
      (hdelivered.outbound_eq link ▸ (writtenOn_append ..).symm)

theorem run (hdelivered : Delivered attempts h) {events : List Event}
    (hallows : h.AllowsAll events) : Delivered attempts (h.run events) := by
  induction events generalizing h with
  | nil => exact hdelivered
  | cons event events ih => exact ih (hdelivered.step hallows.1) hallows.2

end Delivered

/-- **Requests are delivered once at most**, and calls are tried no more often than they may be. -/
structure IsDelivered (attempts : Nat) (h : History) : Prop where
  trials_le : ∀ call, (trialsOf call h.trials).length ≤ attempts
  /-- A call is over with the first try that may not be repeated, or when there are no more. -/
  finished_iff : ∀ call < h.channel.calls.length, (h.channel.outcome? call).isSome = true ↔
    (∃ t ∈ trialsOf call h.trials, ¬ IsRetryable t) ∨ (trialsOf call h.trials).length = attempts
  /-- Its outcome is that of its last try. -/
  outcome_eq : ∀ call outcome, h.channel.outcome? call = some outcome →
    ∃ earlier, trialsOf call h.trials = earlier ++ [outcome] ∧ ∀ t ∈ earlier, IsRetryable t
  /-- On the links is what the calls have written of their own requests. -/
  outbound_eq : ∀ link, h.channel.outbound link = writtenOn link h.outgoing
  own : ∀ o ∈ h.outgoing, ∃ e, h.channel.calls[o.call]? = some e ∧ o.request = e.request
  complete_le : ∀ call, completeOf call h.outgoing ≤ 1
  /-- A call that has been answered, or may have been, has written its request. -/
  complete_eq_one : ∀ call outcome, h.channel.outcome? call = some outcome → ¬ IsUnsent outcome →
    completeOf call h.outgoing = 1
  complete_eq_zero : ∀ call outcome, h.channel.outcome? call = some outcome → IsUnsent outcome →
    completeOf call h.outgoing = 0

theorem Phase.Sent.le_one {count : Nat} {phase : Phase} (h : phase.Sent count) : count ≤ 1 := by
  cases phase with
  | finished outcome =>
    by_cases hunsent : IsUnsent outcome
    · exact Nat.le_succ_of_le (Nat.le_of_eq (h.1 hunsent))
    · exact Nat.le_of_eq (h.2 hunsent)
  | waiting => exact Nat.le_of_eq h
  | abandoned => exact h
  | _ => exact (show count = 0 from h) ▸ Nat.zero_le 1

theorem Phase.Tried.of_unfinished {attempts attempt : Nat}
    {trials : List (Except TransportError Reply)} {phase : Phase}
    (h : phase.Tried attempts attempt trials) (hphase : ∀ outcome, phase ≠ .finished outcome) :
    (∀ t ∈ trials, IsRetryable t) ∧ trials.length + 1 = attempt := by
  cases phase with
  | finished outcome => exact absurd rfl (hphase outcome)
  | _ => exact h

/-- **Requests are delivered once at most in every history** in which writes that are reported to
have failed have failed. -/
theorem delivered_once {destination : Address} {attempts : Nat} {events : List Event}
    (hallows : (History.start destination attempts).AllowsAll events) :
    IsDelivered (max 1 attempts) ((History.start destination attempts).run events) := by
  have hdelivered := (Delivered.start destination attempts).run hallows
  generalize (History.start destination attempts).run events = h at hdelivered
  have hover {call : Nat} {outcome : Except TransportError Reply}
      (houtcome : h.channel.outcome? call = some outcome) :
      ∃ attempt ≤ max 1 attempts,
        (Phase.finished outcome).Tried (max 1 attempts) attempt (trialsOf call h.trials) ∧
        (Phase.finished outcome).Sent (completeOf call h.outgoing) := by
    obtain ⟨e, hcall, hphase⟩ := Channel.outcome?_eq_some.mp houtcome
    have haccounted := hdelivered.accounted call e hcall
    exact ⟨e.attempt, haccounted.attempt_le, hphase ▸ haccounted.tried, hphase ▸ haccounted.sent⟩
  -- a call without an outcome has another try before it
  have hunder {call : Nat} {e : Exchange} (hcall : h.channel.calls[call]? = some e)
      (hnone : h.channel.outcome? call = none) :
      (∀ t ∈ trialsOf call h.trials, IsRetryable t) ∧
        (trialsOf call h.trials).length + 1 ≤ max 1 attempts := by
    have haccounted := hdelivered.accounted call e hcall
    obtain ⟨hretryable, hlength⟩ := haccounted.tried.of_unfinished fun outcome hphase =>
      absurd (hnone.symm.trans (Channel.outcome?_eq_some.mpr ⟨e, hcall, hphase⟩)) nofun
    exact ⟨hretryable, hlength ▸ haccounted.attempt_le⟩
  refine
    { trials_le := fun call => ?_
      finished_iff := fun call hlt => ?_
      outcome_eq := fun call outcome houtcome => ?_
      outbound_eq := hdelivered.outbound_eq
      own := hdelivered.own
      complete_le := fun call => ?_
      complete_eq_one := fun call outcome houtcome => ?_
      complete_eq_zero := fun call outcome houtcome => ?_ }
  · cases hcall : h.channel.calls[call]? with
    | none =>
      rw [(hdelivered.nothing_noted hcall).1]
      exact Nat.zero_le _
    | some e =>
      cases houtcome : h.channel.outcome? call with
      | none => exact Nat.le_of_succ_le (hunder hcall houtcome).2
      | some outcome =>
        obtain ⟨attempt, hle, ⟨earlier, htrials, -, hlength, -⟩, -⟩ := hover houtcome
        rw [htrials, List.length_append, List.length_singleton, hlength]
        exact hle
  -- a try is the last one because it is final, or because no more are left
  · cases houtcome : h.channel.outcome? call with
    | none =>
      obtain ⟨hretryable, hlength⟩ := hunder (List.getElem?_eq_getElem hlt) houtcome
      refine iff_of_false Bool.false_ne_true ?_
      rintro (⟨t, ht, hfinal⟩ | hall)
      · exact hfinal (hretryable t ht)
      · exact Nat.not_succ_le_self _ (hall ▸ hlength)
    | some outcome =>
      obtain ⟨attempt, -, ⟨earlier, htrials, -, hlength, hlast⟩, -⟩ := hover houtcome
      refine iff_of_true rfl ?_
      by_cases hretryable : IsRetryable outcome
      · refine .inr ?_
        rw [htrials, List.length_append, List.length_singleton, hlength, hlast hretryable]
      · refine .inl ⟨outcome, ?_, hretryable⟩
        rw [htrials]
        exact List.mem_append_right _ (List.mem_singleton.mpr rfl)
  · obtain ⟨attempt, -, ⟨earlier, htrials, hretryable, -⟩, -⟩ := hover houtcome
    exact ⟨earlier, htrials, hretryable⟩
  · cases hcall : h.channel.calls[call]? with
    | none => exact (hdelivered.nothing_noted hcall).2 ▸ Nat.zero_le 1
    | some e => exact (hdelivered.accounted call e hcall).sent.le_one
  · obtain ⟨attempt, -, -, hsent⟩ := hover houtcome
    exact hsent.2
  · obtain ⟨attempt, -, -, hsent⟩ := hover houtcome
    exact hsent.1

/-- A write that breaks off within the first word has not brought anything complete on its way. -/
theorem Channel.allows_write_of_lt (ch : Channel) (call : Nat) {broken : Break}
    (h : broken.after < 4) : ch.Allows (.write call (some broken)) := by
  intro e link callId answer _ _ _
  refine Nat.lt_of_lt_of_le h ?_
  unfold Wire.writeRequest Wire.Written.just Wire.Written.andThen
  dsimp only
  rw [List.length_append]
  exact Nat.le_add_right 4 _

/-- A call that finds nobody, breaks off while it writes and is written at its third try, on a link
that is ended then. -/
def shaken : List Event :=
  [.begin ⟨none, 7, .empty⟩, .join 0 (.error "refused"), .join 0 (.ok ()), .register 0,
    .write 0 (some ⟨3, "broken pipe"⟩), .join 0 (.ok ()), .register 0, .write 0 none, .endLink 1,
    .finish 0]

theorem delivered_once_shaken : (History.start default 3).AllowsAll shaken ∧
    ((History.start default 3).run shaken).channel.outcome? 0 = some (.error .closed) ∧
    completeOf 0 ((History.start default 3).run shaken).outgoing = 1 := by
  have hallows : (History.start default 3).AllowsAll shaken :=
    ⟨trivial, trivial, trivial, trivial, Channel.allows_write_of_lt _ _ (by decide), trivial,
      trivial, trivial, trivial, trivial, trivial⟩
  have houtcome : ((History.start default 3).run shaken).channel.outcome? 0
      = some (.error .closed) := by rfl
  exact ⟨hallows, houtcome, (delivered_once hallows).complete_eq_one 0 _ houtcome nofun⟩

end Switchboard.Client
