import Switchboard.Proofs.Channel.History

/-!
# Calls and their waits

The calls of a channel know what their waits have come to, and no more
(`Follows`): a call that waits has the answer that its last wait has, a call
that has finished has the outcome that is due to it, and the ids that a link
keeps are those of the waits that are still on.

For the waits there are two things that can happen. An id is taken off, with
some news for whoever waits with it (`Channel.resolve`), or a link is closed.
What comes in on a link is a series of these (`Channel.receive_eq`), so that
one lemma about news (`Follows.settle`) is enough for all of them.
-/

namespace Switchboard.Client

open Wire (Request Reply ReplyEnvelope)

namespace Channel

variable {ch : Channel} {link : Nat} {l : Link}

/-! ## Replies one by one -/

/-- The channel after an id has been taken off a link, with an answer for whoever waits with it. -/
def resolve (ch : Channel) (link : Nat) (callId : UInt64) (answer : Answer) : Channel :=
  match ch.links[link]? with
  | none => ch
  | some l =>
    (ch.changeLink link (·.forget callId)).tell ((l.waiting.lookup callId).toList.map (·, answer))

theorem resolve_of_some (hlink : ch.links[link]? = some l) (callId : UInt64) (answer : Answer) :
    ch.resolve link callId answer = (ch.changeLink link (·.forget callId)).tell
      ((l.waiting.lookup callId).toList.map (·, answer)) := by
  unfold resolve
  rw [hlink]

theorem changeLink_changeLink (ch : Channel) (link : Nat) (f g : Link → Link) :
    (ch.changeLink link f).changeLink link g = ch.changeLink link (g ∘ f) := by
  show ({ ch with links := (ch.links.modify link f).modify link g } : Channel) = _
  rw [List.modify_modify_eq]
  rfl

theorem getElem?_changeLink_self (hlink : ch.links[link]? = some l) (f : Link → Link) :
    (ch.changeLink link f).links[link]? = some (f l) := by
  rw [getElem?_changeLink, if_pos rfl, hlink, Option.map_some]

theorem getElem?_resolve (ch : Channel) (link k : Nat) (callId : UInt64) (answer : Answer) :
    (ch.resolve link callId answer).links[k]?
      = if link = k then (ch.links[k]?).map (·.forget callId) else ch.links[k]? := by
  cases hlink : ch.links[link]? with
  | none =>
    have hsame : ch.resolve link callId answer = ch := by
      unfold resolve
      rw [hlink]
    rw [hsame]
    split
    · next hk => simp [← hk, hlink]
    · rfl
  | some l => rw [resolve_of_some hlink, links_tell, getElem?_changeLink]

theorem getElem?_resolve_self (hlink : ch.links[link]? = some l) (callId : UInt64)
    (answer : Answer) : (ch.resolve link callId answer).links[link]? = some (l.forget callId) := by
  rw [getElem?_resolve, if_pos rfl, hlink, Option.map_some]

/-- A call is told or not when an id is taken off. -/
theorem exists_news (ch : Channel) (link : Nat) (callId : UInt64) (answer : Answer) {call : Nat}
    {e : Exchange} (hcall : ch.calls[call]? = some e) :
    ∃ news, (ch.resolve link callId answer).calls[call]?
      = some { e with phase := learned call news e.phase } := by
  unfold resolve
  split
  · exact ⟨[], hcall⟩
  · rw [getElem?_tell, calls_changeLink, hcall]
    exact ⟨_, rfl⟩

/-- An id that nobody has left is not there to be taken off. -/
theorem resolve_of_unused (hlink : ch.links[link]? = some l) {callId : UInt64}
    (h : ∀ x ∈ l.waiting, x.1 ≠ callId) (answer : Answer) : ch.resolve link callId answer = ch := by
  have hnone : l.waiting.lookup callId = none :=
    List.lookup_eq_none_iff.mpr fun x hx => bne_iff_ne.mpr (h x hx).symm
  have hforget : l.forget callId = l := by
    unfold Link.forget
    rw [List.filter_eq_self.mpr fun x hx => decide_eq_true (h x hx)]
  rw [resolve_of_some hlink, hnone, changeLink_self hlink hforget]
  rfl

theorem withdraw_of_unused {callId : UInt64}
    (h : ∀ l ∈ ch.links[link]?, ∀ x ∈ l.waiting, x.1 ≠ callId) : ch.withdraw link callId = ch := by
  cases hlink : ch.links[link]? with
  | none =>
    unfold withdraw
    rw [hlink]
  | some l => exact resolve_of_unused hlink (h l hlink) .lost

/-- **Replies that are handed out are handed out one by one.** -/
theorem tell_route (hlink : ch.links[link]? = some l) (envelopes : List ReplyEnvelope) :
    (ch.changeLink link fun _ => (l.route envelopes).1).tell
        ((l.route envelopes).2.map fun (call, envelope) => (call, .arrived envelope))
      = envelopes.foldl (fun ch envelope =>
          ch.resolve link envelope.header.callId (.arrived envelope)) ch := by
  induction envelopes generalizing ch l with
  | nil => exact changeLink_self hlink rfl
  | cons envelope rest ih =>
    have hforget := getElem?_changeLink_self hlink (·.forget envelope.header.callId)
    rw [List.foldl_cons, Link.route]
    cases hlookup : l.waiting.lookup envelope.header.callId with
    | none =>
      have hunused : ∀ x ∈ l.waiting, x.1 ≠ envelope.header.callId := fun x hx =>
        (bne_iff_ne.mp (List.lookup_eq_none_iff.mp hlookup x hx)).symm
      rw [resolve_of_unused hlink hunused]
      exact ih hlink
    | some call =>
      dsimp only
      rw [resolve_of_some hlink, hlookup, ← ih ((links_tell ..).symm ▸ hforget), tell_changeLink,
        changeLink_changeLink, ← tell_append]
      rfl

/-- What a link does with what has come in, when it can go on and when it cannot. -/
theorem receive_eq (hlink : ch.links[link]? = some l) (hopen : l.isOpen = true)
    (bytes : List UInt8) {arrived : Wire.Arrivals ReplyEnvelope}
    (harrived : Wire.arrivals Wire.readReply (l.inbound ++ bytes) = arrived) :
    ch.receive link bytes =
      let routed := arrived.values.foldl (fun ch envelope =>
        ch.resolve link envelope.header.callId (.arrived envelope)) ch
      if arrived.error.isSome then routed.endLink link
      else routed.changeLink link fun l => { l with inbound := arrived.pending } := by
  have hrouted := getElem?_changeLink_self hlink fun _ => (l.route arrived.values).1
  unfold receive Link.receive
  rw [hlink, ← tell_route hlink]
  dsimp only
  rw [if_pos hopen, harrived]
  cases herror : arrived.error with
  | none =>
    dsimp only
    rw [Option.isSome_none, if_neg Bool.false_ne_true, tell_changeLink, changeLink_changeLink,
      List.map_nil, List.append_nil]
    rfl
  | some e =>
    rw [endLink_of_some ((links_tell ..).symm ▸ hrouted)]
    dsimp only
    rw [Option.isSome_some, if_pos rfl, tell_append, tell_changeLink, changeLink_changeLink]
    rfl

end Channel

/-! ## What calls know -/

namespace Phase

/-- The wait of a call that knows what it has come to. -/
def wait? (call : Nat) : Phase → Option Wait
  | writing link callId answer | waiting link callId answer => some { link, callId, call, answer }
  | _ => none

/-- Whether a call has a use for news of an id, or does not care. -/
def Awaits (link : Nat) (callId : UInt64) : Phase → Prop
  | writing link' callId' answer | waiting link' callId' answer =>
    link' = link ∧ callId' = callId ∧ answer = .awaited
  | detached link' callId' => link' = link ∧ callId' = callId
  | abandoned => True
  | _ => False

theorem awaits_of_wait? {phase : Phase} {call : Nat} {w : Wait} (h : phase.wait? call = some w)
    (hawaited : w.answer = .awaited) : phase.Awaits w.link w.callId := by
  cases phase with
  | writing | waiting =>
    obtain rfl := Option.some_inj.mp h
    exact ⟨rfl, rfl, hawaited⟩
  | _ => exact absurd h nofun

/-- A call waits with one id. -/
theorem Awaits.unique {phase : Phase} {link link' : Nat} {callId callId' : UInt64}
    (h : phase.Awaits link callId) (h' : phase.Awaits link' callId') :
    phase = .abandoned ∨ (link = link' ∧ callId = callId') := by
  cases phase with
  | writing | waiting => exact .inr ⟨h.1.symm.trans h'.1, h.2.1.symm.trans h'.2.1⟩
  | detached => exact .inr ⟨h.1.symm.trans h'.1, h.2.symm.trans h'.2⟩
  | abandoned => exact .inl rfl
  | _ => exact h.elim

theorem wait?_learn (phase : Phase) (call : Nat) (answer : Answer) :
    (phase.learn answer).wait? call = (phase.wait? call).map fun w =>
      if w.answer = .awaited then { w with answer } else w := by
  cases phase with
  | writing link callId answer | waiting link callId answer => cases answer <;> rfl
  | _ => rfl

theorem learn_eq_finished {phase : Phase} {answer : Answer} {outcome : Except TransportError Reply}
    (h : phase.learn answer = .finished outcome) : phase = .finished outcome := by
  cases phase with
  | writing link callId answer | waiting link callId answer => cases answer <;> exact absurd h nofun
  | _ => exact h

theorem learn_learn (phase : Phase) {answer : Answer} (h : answer ≠ .awaited) :
    (phase.learn answer).learn answer = phase.learn answer := by
  cases phase with
  | writing link callId known | waiting link callId known =>
    cases known with
    | awaited =>
      cases answer with
      | awaited => exact absurd rfl h
      | _ => rfl
    | _ => rfl
  | _ => rfl

end Phase

/-- **The outcome that is due to a call**: what its last wait has come to, or a failure from before
its request was written. -/
inductive IsDue (ws : List Wait) (call : Nat) (request : Request) :
    Except TransportError Reply → Prop where
  | answered {w : Wait} {envelope : ReplyEnvelope} (last : lastWait? call ws = some w)
      (arrived : w.answer = .arrived envelope) :
      IsDue ws call request (envelope.toReply request)
  | lost {w : Wait} (last : lastWait? call ws = some w) (lost : w.answer = .lost) :
      IsDue ws call request (.error .closed)
  | unsent {error : TransportError} (unsent : error.isUnsent = true) :
      IsDue ws call request (.error error)

theorem IsDue.map_after {ws : List Wait} {call : Nat} {request : Request}
    {outcome : Except TransportError Reply} (h : IsDue ws call request outcome) (m : Moment) :
    IsDue (ws.map (·.after m)) call request outcome := by
  have hlast {w : Wait} (last : lastWait? call ws = some w) (hanswer : w.answer ≠ .awaited) :
      lastWait? call (ws.map (·.after m)) = some w := by
    rw [lastWait?_map_after, last, Option.map_some, Wait.after_of_ne_awaited hanswer]
  cases h with
  | answered last arrived => exact .answered (hlast last (by rw [arrived]; nofun)) arrived
  | lost last lost => exact .lost (hlast last (by rw [lost]; nofun)) lost
  | unsent unsent => exact .unsent unsent

theorem IsDue.append {ws : List Wait} {call : Nat} {request : Request}
    {outcome : Except TransportError Reply} (h : IsDue ws call request outcome) {w : Wait}
    (hne : w.call ≠ call) : IsDue (ws ++ [w]) call request outcome := by
  have hlast : lastWait? call (ws ++ [w]) = lastWait? call ws := by
    rw [lastWait?_append_singleton, if_neg hne]
  cases h with
  | answered last arrived => exact .answered (hlast.trans last) arrived
  | lost last lost => exact .lost (hlast.trans last) lost
  | unsent unsent => exact .unsent unsent

/-- **A channel that follows the waits**: its links keep the ids of those that are on, and its calls
know what theirs have come to. -/
structure Follows (ch : Channel) (ws : List Wait) : Prop where
  waiting_eq : ∀ link l, ch.links[link]? = some l → l.waiting = (awaiting link ws).map (·.entry)
  link_lt : ∀ w ∈ ws, w.link < ch.links.length
  nodup : ∀ link, ((awaiting link ws).map (·.callId)).Nodup
  awaits : ∀ w ∈ ws, w.answer = .awaited →
    ∃ e, ch.calls[w.call]? = some e ∧ e.phase.Awaits w.link w.callId
  knows : ∀ call e w, ch.calls[call]? = some e → e.phase.wait? call = some w →
    lastWait? call ws = some w
  due : ∀ call e outcome, ch.calls[call]? = some e → e.phase = .finished outcome →
    IsDue ws call e.request outcome

namespace Follows

variable {ch : Channel} {ws : List Wait}

/-- A call that is told what a moment ends has a use for it. -/
theorem exists_awaits (h : Follows ch ws) {m : Moment} {c : Nat} {e : Exchange}
    (hcall : ch.calls[c]? = some e)
    (htold : ∃ w ∈ ws, w.answer = .awaited ∧ m.ends w.link w.callId ∧ w.call = c) :
    ∃ link callId, m.ends link callId ∧ e.phase.Awaits link callId := by
  obtain ⟨w, hw, hon, hends, rfl⟩ := htold
  obtain ⟨e', he', hawaits⟩ := h.awaits w hw hon
  obtain rfl : e' = e := Option.some_inj.mp (he'.symm.trans hcall)
  exact ⟨w.link, w.callId, hends, hawaits⟩

/-- **News for the waits that a moment ends** reach their calls and no others. -/
theorem settle (h : Follows ch ws) {m : Moment} {ch' : Channel} (told : List Nat)
    (hlength : ch'.links.length = ch.links.length)
    (hlinks : ∀ (k : Nat) (l' : Link), ch'.links[k]? = some l' → ∃ l : Link, ch.links[k]? = some l ∧
      l'.waiting = l.waiting.filter fun x => !m.ends k x.1)
    (htold : ∀ c, c ∈ told ↔
      ∃ w ∈ ws, w.answer = .awaited ∧ m.ends w.link w.callId ∧ w.call = c)
    (hcalls : ∀ c : Nat, ch'.calls[c]? = (ch.calls[c]?).map fun e : Exchange =>
      { e with phase := if c ∈ told then e.phase.learn m.answer else e.phase }) :
    Follows ch' (ws.map (·.after m)) where
  waiting_eq k l' hl' := by
    obtain ⟨l, hl, hwaiting⟩ := hlinks k l' hl'
    rw [hwaiting, h.waiting_eq k l hl, awaiting_map_after, List.filter_map]
    rfl
  link_lt w' hw' := by
    obtain ⟨w, hw, rfl⟩ := List.mem_map.mp hw'
    rw [Wait.link_after, hlength]
    exact h.link_lt w hw
  nodup k := by
    rw [awaiting_map_after]
    exact (h.nodup k).sublist (List.filter_sublist.map _)
  awaits w' hw' hawaited := by
    obtain ⟨w, hw, rfl⟩ := List.mem_map.mp hw'
    obtain ⟨hon, hends⟩ := Wait.after_awaited_iff.mp hawaited
    rw [Wait.after_of_not_ends hends]
    obtain ⟨e, he, hawaits⟩ := h.awaits w hw hon
    refine ⟨_, by rw [hcalls, he, Option.map_some], ?_⟩
    dsimp only
    split
    · next hmem =>
      -- whoever is told of another id does not care for this one
      obtain ⟨link, callId, hended, hother⟩ := h.exists_awaits he ((htold _).mp hmem)
      obtain habandoned | ⟨hlink, hid⟩ := hawaits.unique hother
      · rw [habandoned]
        trivial
      · rw [hlink, hid] at hends
        exact absurd hended hends
    · exact hawaits
  -- a call that is told waits as the log has it, so that this wait is the one that ends
  knows c e' w' he' hw' := by
    rw [hcalls] at he'
    obtain ⟨e, he, rfl⟩ := Option.map_eq_some_iff.mp he'
    rw [lastWait?_map_after]
    dsimp only at hw'
    split at hw'
    · next hmem =>
      rw [Phase.wait?_learn] at hw'
      obtain ⟨w, hw, rfl⟩ := Option.map_eq_some_iff.mp hw'
      rw [h.knows c e w he hw, Option.map_some]
      split
      · next hon =>
        obtain ⟨link, callId, hended, hother⟩ := h.exists_awaits he ((htold c).mp hmem)
        obtain habandoned | ⟨hlink, hid⟩ := (Phase.awaits_of_wait? hw hon).unique hother
        · rw [habandoned] at hw
          exact absurd hw nofun
        · rw [Wait.after_of_ends hon (by rwa [hlink, hid])]
      · next hoff => rw [Wait.after_of_ne_awaited hoff]
    · next hmem =>
      have hlast := h.knows c e w' he hw'
      obtain ⟨hmem', hcall⟩ := mem_of_lastWait? hlast
      rw [hlast, Option.map_some]
      refine congrArg some (if_neg fun hboth => hmem ?_)
      exact (htold c).mpr ⟨w', hmem', hboth.1, hboth.2, hcall⟩
  due c e' outcome he' hfinished := by
    rw [hcalls] at he'
    obtain ⟨e, he, rfl⟩ := Option.map_eq_some_iff.mp he'
    refine (h.due c e outcome he ?_).map_after m
    dsimp only at hfinished
    split at hfinished
    · exact Phase.learn_eq_finished hfinished
    · exact hfinished

theorem learned_map (c : Nat) (told : List Nat) {answer : Answer} (h : answer ≠ .awaited)
    (phase : Phase) : Channel.learned c (told.map (·, answer)) phase
      = if c ∈ told then phase.learn answer else phase := by
  induction told generalizing phase with
  | nil => rfl
  | cons call told ih =>
    have hcons : Channel.learned c ((call :: told).map (·, answer)) phase
        = Channel.learned c (told.map (·, answer))
          (if call = c then phase.learn answer else phase) := by
      unfold Channel.learned
      rw [List.map_cons, List.filter_cons]
      by_cases hcall : call = c <;> simp [hcall]
    rw [hcons, ih]
    by_cases hcall : c = call
    · simp [hcall, Phase.learn_learn phase h]
    · simp [hcall, Ne.symm hcall]

/-- **An id that is taken off** ends the wait with it. -/
theorem resolve (h : Follows ch ws) {link : Nat} {l : Link} (hlink : ch.links[link]? = some l)
    (m : Moment) {callId : UInt64}
    (hends : ∀ k id, m.ends k id = decide (link = k ∧ callId = id)) :
    Follows (ch.resolve link callId m.answer) (ws.map (·.after m)) := by
  rw [Channel.resolve_of_some hlink]
  refine h.settle (l.waiting.lookup callId).toList (by simp) (fun k l' hl' => ?_) (fun c => ?_)
    (fun c => ?_)
  · rw [Channel.links_tell, Channel.getElem?_changeLink] at hl'
    by_cases hk : link = k
    · subst hk
      rw [if_pos rfl, hlink, Option.map_some] at hl'
      obtain rfl := Option.some_inj.mp hl'
      refine ⟨l, hlink, List.filter_congr fun x _ => ?_⟩
      simp [hends, eq_comm]
    · rw [if_neg hk] at hl'
      refine ⟨l', hl', (List.filter_eq_self.mpr fun x _ => ?_).symm⟩
      simp [hends, hk]
  · rw [Option.mem_toList, h.waiting_eq link l hlink, lookup_awaiting (h.nodup link)]
    simp only [hends, decide_eq_true_eq]
  · rw [Channel.getElem?_tell]
    simp only [learned_map c _ m.answer_ne_awaited]
    rfl

/-- **A link that is closed** ends all its waits. -/
theorem close (h : Follows ch ws) {link : Nat} {l : Link} (hlink : ch.links[link]? = some l) :
    Follows (ch.endLink link) (ws.map (·.after (.stopped link))) := by
  rw [Channel.endLink_of_some hlink]
  refine h.settle (l.waiting.map (·.2)) (by simp) (fun k l' hl' => ?_) (fun c => ?_) (fun c => ?_)
  · rw [Channel.links_tell, Channel.getElem?_changeLink] at hl'
    by_cases hk : link = k
    · subst hk
      rw [if_pos rfl, hlink, Option.map_some] at hl'
      obtain rfl := Option.some_inj.mp hl'
      exact ⟨l, hlink, by simp [Link.close, Moment.ends]⟩
    · rw [if_neg hk] at hl'
      exact ⟨l', hl', by simp [Moment.ends, hk]⟩
  · rw [h.waiting_eq link l hlink, List.map_map]
    simp only [List.mem_map, mem_awaiting, Moment.ends, decide_eq_true_eq, Function.comp_apply,
      Wait.entry]
    constructor
    · rintro ⟨w, ⟨hw, hon, hawaited⟩, hcall⟩
      exact ⟨w, hw, hawaited, hon.symm, hcall⟩
    · rintro ⟨w, hw, hawaited, hon, hcall⟩
      exact ⟨w, ⟨hw, hon.symm, hawaited⟩, hcall⟩
  · rw [Channel.getElem?_tell]
    simp only [learned_map c _ (show Answer.lost ≠ .awaited from nofun)]
    rfl

/-- Only the calls matter, and the ids that the links keep. -/
theorem congr (h : Follows ch ws) {ch' : Channel} (hcalls : ch'.calls = ch.calls)
    (hlength : ch.links.length ≤ ch'.links.length)
    (hlinks : ∀ (k : Nat) (l' : Link), ch'.links[k]? = some l' →
      ∃ l : Link, ch.links[k]? = some l ∧ l'.waiting = l.waiting) : Follows ch' ws where
  waiting_eq k l' hl' := by
    obtain ⟨l, hl, hwaiting⟩ := hlinks k l' hl'
    rw [hwaiting, h.waiting_eq k l hl]
  link_lt w hw := Nat.lt_of_lt_of_le (h.link_lt w hw) hlength
  nodup := h.nodup
  awaits := by
    rw [hcalls]
    exact h.awaits
  knows := by
    rw [hcalls]
    exact h.knows
  due := by
    rw [hcalls]
    exact h.due

theorem discard (h : Follows ch ws) (link : Nat) : Follows (ch.discard link) ws :=
  h.congr (by simp) (by simp) fun k l hl => ⟨l, by simpa using hl, rfl⟩

/-- A change to a link that leaves its ids. -/
theorem changeLink (h : Follows ch ws) {link : Nat} {f : Link → Link}
    (hf : ∀ l ∈ ch.links[link]?, (f l).waiting = l.waiting) :
    Follows (ch.changeLink link f) ws := by
  refine h.congr rfl (by simp) fun k l' hl' => ?_
  rw [Channel.getElem?_changeLink] at hl'
  split at hl'
  · next hk =>
    obtain ⟨l, hl, rfl⟩ := Option.map_eq_some_iff.mp hl'
    exact ⟨l, hl, hf l (hk ▸ hl)⟩
  · exact ⟨l', hl', rfl⟩

/-- Nobody waits on a new link. -/
theorem dial (h : Follows ch ws) : Follows ch.dial ws where
  waiting_eq k l' hl' := by
    rw [Channel.getElem?_dial] at hl'
    split at hl'
    · next hk =>
      have hnone : awaiting k ws = [] :=
        awaiting_eq_nil fun w hw hlink => Nat.ne_of_lt (h.link_lt w hw) (hlink.trans hk)
      rw [hnone, ← Option.some_inj.mp hl']
      rfl
    · exact h.waiting_eq k l' hl'
  link_lt w hw := by
    rw [Channel.length_dial]
    exact Nat.lt_succ_of_lt (h.link_lt w hw)
  nodup := h.nodup
  awaits := h.awaits
  knows := h.knows
  due := h.due

/-- **A call that makes a step** still has a use for the news it has waited for. -/
theorem change (h : Follows ch ws) {call : Nat} {e : Exchange} (hcall : ch.calls[call]? = some e)
    {f : Exchange → Exchange} (hrequest : (f e).request = e.request)
    (hawaits : ∀ link callId, e.phase.Awaits link callId → (f e).phase.Awaits link callId)
    (hknows : ∀ w, (f e).phase.wait? call = some w → lastWait? call ws = some w)
    (hdue : ∀ outcome, (f e).phase = .finished outcome → IsDue ws call e.request outcome) :
    Follows (ch.changeCall call f) ws where
  waiting_eq := h.waiting_eq
  link_lt := h.link_lt
  nodup := h.nodup
  awaits w hw hawaited := by
    obtain ⟨e', he', hon⟩ := h.awaits w hw hawaited
    rw [Channel.getElem?_changeCall, he']
    split
    · next heq =>
      obtain rfl : e = e' := Option.some_inj.mp (hcall.symm.trans (heq ▸ he'))
      exact ⟨_, rfl, hawaits _ _ hon⟩
    · exact ⟨e', rfl, hon⟩
  knows c e' w he' hw := by
    rw [Channel.getElem?_changeCall] at he'
    split at he'
    · next heq =>
      subst heq
      rw [hcall, Option.map_some] at he'
      obtain rfl := Option.some_inj.mp he'
      exact hknows w hw
    · exact h.knows c e' w he' hw
  due c e' outcome he' hfinished := by
    rw [Channel.getElem?_changeCall] at he'
    split at he'
    · next heq =>
      subst heq
      rw [hcall, Option.map_some] at he'
      obtain rfl := Option.some_inj.mp he'
      rw [hrequest]
      exact hdue outcome hfinished
    · exact h.due c e' outcome he' hfinished

theorem setPhase (h : Follows ch ws) {call : Nat} {e : Exchange} (hcall : ch.calls[call]? = some e)
    {phase : Phase}
    (hawaits : ∀ link callId, e.phase.Awaits link callId → phase.Awaits link callId)
    (hknows : ∀ w, phase.wait? call = some w → lastWait? call ws = some w)
    (hdue : ∀ outcome, phase = .finished outcome → IsDue ws call e.request outcome) :
    Follows (ch.setPhase call phase) ws :=
  h.change hcall rfl hawaits hknows hdue

/-- A try that fails: the call starts again, or the failure is due to it. -/
theorem fail (h : Follows ch ws) {call : Nat} {e : Exchange} (hcall : ch.calls[call]? = some e)
    (hidle : ∀ link callId, ¬ e.phase.Awaits link callId) {error : TransportError}
    (hdue : IsDue ws call e.request (.error error)) : Follows (ch.fail call error) ws := by
  -- in either phase it waits for no news
  have hphase : (e.fail ch.attempts error).phase = .starting ∨
      (e.fail ch.attempts error).phase = .finished (.error error) := by
    unfold Exchange.fail
    split
    · exact .inl rfl
    · exact .inr rfl
  have hrequest : (e.fail ch.attempts error).request = e.request := by
    unfold Exchange.fail
    split <;> rfl
  refine h.change hcall hrequest (fun link callId hon => absurd hon (hidle link callId))
    (fun w hw => ?_) fun outcome hfinished => ?_
  · obtain hstarting | hfinished := hphase
    · rw [hstarting] at hw
      exact absurd hw nofun
    · rw [hfinished] at hw
      exact absurd hw nofun
  · obtain hstarting | hfinished' := hphase
    · rw [hstarting] at hfinished
      exact absurd hfinished nofun
    · rw [hfinished'] at hfinished
      exact Phase.finished.inj hfinished ▸ hdue

/-- **A call that leaves a new id** waits with it. -/
theorem enter (h : Follows ch ws) {link call : Nat} {l : Link} {e : Exchange} {callId : UInt64}
    (hlink : ch.links[link]? = some l) (hcall : ch.calls[call]? = some e)
    (hphase : e.phase = .joined link) (hnew : ∀ w ∈ awaiting link ws, w.callId ≠ callId) :
    Follows ((ch.changeLink link (·.expect callId call)).setPhase call
      (.writing link callId .awaited)) (ws ++ [⟨link, callId, call, .awaited⟩]) where
  waiting_eq k l' hl' := by
    rw [Channel.links_setPhase, Channel.getElem?_changeLink] at hl'
    rw [awaiting_append_singleton]
    by_cases hk : link = k
    · subst hk
      rw [if_pos rfl, hlink, Option.map_some] at hl'
      obtain rfl := Option.some_inj.mp hl'
      rw [if_pos ⟨rfl, rfl⟩, List.map_cons, ← h.waiting_eq link l hlink]
      rfl
    · rw [if_neg hk] at hl'
      rw [if_neg fun hboth => hk hboth.1]
      exact h.waiting_eq k l' hl'
  link_lt w hw := by
    rw [Channel.links_setPhase, Channel.length_changeLink]
    obtain hw | hw := List.mem_append.mp hw
    · exact h.link_lt w hw
    · rw [List.mem_singleton.mp hw]
      exact (List.getElem?_eq_some_iff.mp hlink).1
  nodup k := by
    rw [awaiting_append_singleton]
    split
    -- the new id is on this link only, and new there
    · next hboth =>
      obtain rfl := hboth.1
      rw [List.map_cons, List.nodup_cons]
      refine ⟨fun hmem => ?_, h.nodup link⟩
      obtain ⟨w, hw, hid⟩ := List.mem_map.mp hmem
      exact hnew w hw hid
    · exact h.nodup k
  awaits w hw hawaited := by
    rw [Channel.getElem?_setPhase, Channel.calls_changeLink]
    obtain hw | hw := List.mem_append.mp hw
    · obtain ⟨e', he', hon⟩ := h.awaits w hw hawaited
      refine ⟨e', ?_, hon⟩
      rw [if_neg, he']
      -- a call that has only joined does not wait
      rintro rfl
      obtain rfl : e = e' := Option.some_inj.mp (hcall.symm.trans he')
      rw [hphase] at hon
      exact hon
    · rw [List.mem_singleton.mp hw, if_pos rfl, hcall]
      exact ⟨_, rfl, rfl, rfl, rfl⟩
  knows c e' w he' hw := by
    rw [lastWait?_append_singleton]
    rw [Channel.getElem?_setPhase, Channel.calls_changeLink] at he'
    by_cases hc : call = c
    · subst hc
      rw [if_pos rfl, hcall, Option.map_some] at he'
      obtain rfl := Option.some_inj.mp he'
      rw [if_pos rfl, ← Option.some_inj.mp hw]
    · rw [if_neg hc] at he' ⊢
      exact h.knows c e' w he' hw
  due c e' outcome he' hfinished := by
    rw [Channel.getElem?_setPhase, Channel.calls_changeLink] at he'
    by_cases hc : call = c
    · subst hc
      rw [if_pos rfl, hcall, Option.map_some] at he'
      obtain rfl := Option.some_inj.mp he'
      exact absurd hfinished nofun
    · rw [if_neg hc] at he'
      exact (h.due c e' outcome he' hfinished).append hc

theorem begin (h : Follows ch ws) (request : Request) : Follows (ch.begin request).1 ws where
  waiting_eq := h.waiting_eq
  link_lt := h.link_lt
  nodup := h.nodup
  awaits w hw hawaited := by
    obtain ⟨e, he, hon⟩ := h.awaits w hw hawaited
    exact ⟨e, (List.getElem?_append_left (List.getElem?_eq_some_iff.mp he).1).trans he, hon⟩
  knows c e w he hw := by
    obtain he | rfl := Channel.of_getElem?_begin he
    · exact h.knows c e w he hw
    · exact absurd hw nofun
  due c e outcome he hfinished := by
    obtain he | rfl := Channel.of_getElem?_begin he
    · exact h.due c e outcome he hfinished
    · exact absurd hfinished nofun

/-- Whoever has a wait with an id that has been taken off has had news of it. -/
theorem not_awaits_of_withdrawn {link : Nat} {callId : UInt64}
    (h : Follows ch (ws.map (·.after (.withdrawn link callId)))) {call : Nat} {e : Exchange}
    (hcall : ch.calls[call]? = some e) {answer : Answer}
    (hphase : e.phase = .writing link callId answer) (link' : Nat) (callId' : UInt64) :
    ¬ e.phase.Awaits link' callId' := by
  rw [hphase]
  rintro ⟨-, -, rfl⟩
  have hlast := h.knows call e ⟨link, callId, call, .awaited⟩ hcall (by rw [hphase]; rfl)
  obtain ⟨w, -, hw⟩ := List.mem_map.mp (mem_of_lastWait? hlast).1
  have hawaited : (w.after (.withdrawn link callId)).answer = .awaited := by rw [hw]
  obtain ⟨hon, hends⟩ := Wait.after_awaited_iff.mp hawaited
  rw [Wait.after_of_not_ends hends] at hw
  rw [hw] at hends
  exact hends (by simp [Moment.ends])

end Follows

end Switchboard.Client
