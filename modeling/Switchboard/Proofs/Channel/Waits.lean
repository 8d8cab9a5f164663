import Mathlib.Data.List.Induction
import Mathlib.Data.List.Nodup
import Switchboard.Client.Channel

/-!
# What becomes of a wait

A call that has left its id with a link waits for an envelope with this id. The
first thing that happens to the id decides: an envelope is read that carries it,
or the id is taken off, or another call leaves the same one, or nothing more is
read of the link. Whatever happens after that does not concern this wait.

`waits` says so of a log of such moments, without looking at a channel. That it
can be kept up to date one moment at a time (`waits_concat`) is what a channel
makes use of.
-/

namespace Switchboard.Client

open Wire (ReplyEnvelope)

/-- **What can happen to the ids on the links** of a channel. -/
inductive Moment where
  /-- A call has left an id. -/
  | left (link : Nat) (callId : UInt64) (call : Nat)
  /-- An id has been taken off. -/
  | withdrawn (link : Nat) (callId : UInt64)
  /-- An envelope has been read. -/
  | read (link : Nat) (envelope : ReplyEnvelope)
  /-- Nothing more will be read. -/
  | stopped (link : Nat)
deriving DecidableEq

/-- **A call that has left an id**, and what it has learned about its reply since. -/
structure Wait where
  link : Nat
  callId : UInt64
  call : Nat
  answer : Answer := .awaited
deriving DecidableEq

namespace Moment

/-- Whether a wait with the id on the link is over by that. -/
def ends (link : Nat) (callId : UInt64) : Moment → Bool
  | left link' callId' _ | withdrawn link' callId' => link' = link && callId' = callId
  | read link' envelope => link' = link && envelope.header.callId = callId
  | stopped link' => link' = link

/-- What the call learns then. -/
def answer : Moment → Answer
  | read _ envelope => .arrived envelope
  | _ => .lost

/-- The wait that begins. -/
def wait? : Moment → Option Wait
  | left link callId call => some { link, callId, call }
  | _ => none

/-- The envelope that has been read on the link. -/
def readOn? (link : Nat) : Moment → Option ReplyEnvelope
  | read link' envelope => if link' = link then some envelope else none
  | _ => none

theorem answer_ne_awaited (m : Moment) : m.answer ≠ .awaited := by
  cases m <;> nofun

end Moment

/-- **What a wait has come to**, given what has happened since it began. -/
def answerOf (link : Nat) (callId : UInt64) (later : List Moment) : Answer :=
  match later.find? (·.ends link callId) with
  | none => .awaited
  | some m => m.answer

/-- **The waits of a log**, in the order in which they began. -/
def waits : List Moment → List Wait
  | [] => []
  | .left link callId call :: later =>
    ⟨link, callId, call, answerOf link callId later⟩ :: waits later
  | _ :: later => waits later

/-- The envelopes that have been read on a link. -/
def readsOn (link : Nat) (log : List Moment) : List ReplyEnvelope :=
  log.filterMap (·.readOn? link)

/-! ## One moment more -/

theorem answerOf_concat_of_ne_awaited {link : Nat} {callId : UInt64} {later : List Moment}
    (h : answerOf link callId later ≠ .awaited) (m : Moment) :
    answerOf link callId (later ++ [m]) = answerOf link callId later := by
  unfold answerOf at h ⊢
  rw [List.find?_append]
  cases hfind : later.find? (·.ends link callId) with
  | none =>
    rw [hfind] at h
    exact absurd rfl h
  | some first => rfl

theorem answerOf_concat_of_awaited {link : Nat} {callId : UInt64} {later : List Moment}
    (h : answerOf link callId later = .awaited) (m : Moment) :
    answerOf link callId (later ++ [m])
      = if m.ends link callId then m.answer else .awaited := by
  unfold answerOf at h ⊢
  rw [List.find?_append]
  cases hfind : later.find? (·.ends link callId) with
  | none =>
    rw [Option.none_or, List.find?_singleton]
    by_cases hends : m.ends link callId
    · rw [if_pos hends, if_pos hends]
    · rw [if_neg hends, if_neg hends]
  | some first =>
    rw [hfind] at h
    exact absurd h first.answer_ne_awaited

namespace Wait

/-- The wait after one moment more. -/
def after (m : Moment) (w : Wait) : Wait :=
  if w.answer = .awaited ∧ m.ends w.link w.callId then { w with answer := m.answer } else w

theorem after_of_ne_awaited {w : Wait} (h : w.answer ≠ .awaited) (m : Moment) : w.after m = w :=
  if_neg fun hboth => h hboth.1

theorem after_of_not_ends {w : Wait} {m : Moment} (h : ¬ m.ends w.link w.callId) :
    w.after m = w :=
  if_neg fun hboth => h hboth.2

theorem after_of_ends {w : Wait} {m : Moment} (h : w.answer = .awaited)
    (hends : m.ends w.link w.callId) : w.after m = { w with answer := m.answer } :=
  if_pos ⟨h, hends⟩

@[simp] theorem call_after (m : Moment) (w : Wait) : (w.after m).call = w.call := by
  unfold after
  split <;> rfl

@[simp] theorem link_after (m : Moment) (w : Wait) : (w.after m).link = w.link := by
  unfold after
  split <;> rfl

/-- A wait is still on after a moment if it was before and the moment does not end it. -/
theorem after_awaited_iff {w : Wait} {m : Moment} :
    (w.after m).answer = .awaited ↔ w.answer = .awaited ∧ ¬ m.ends w.link w.callId := by
  unfold after
  split
  · next h => exact iff_of_false m.answer_ne_awaited fun hboth => hboth.2 h.2
  · next h => exact ⟨fun ha => ⟨ha, fun hends => h ⟨ha, hends⟩⟩, And.left⟩

/-- The entry of a wait in the list of its link. -/
def entry (w : Wait) : UInt64 × Nat := (w.callId, w.call)

end Wait

theorem after_answerOf (link : Nat) (callId : UInt64) (call : Nat) (later : List Moment)
    (m : Moment) : (⟨link, callId, call, answerOf link callId later⟩ : Wait).after m
      = ⟨link, callId, call, answerOf link callId (later ++ [m])⟩ := by
  by_cases h : answerOf link callId later = .awaited
  · rw [answerOf_concat_of_awaited h]
    by_cases hends : m.ends link callId
    · rw [Wait.after_of_ends h hends, if_pos hends]
    · rw [Wait.after_of_not_ends hends, if_neg hends, h]
  · rw [answerOf_concat_of_ne_awaited h, Wait.after_of_ne_awaited h]

/-- **One moment more** concerns the waits that are still on, and may begin one. -/
theorem waits_concat (log : List Moment) (m : Moment) :
    waits (log ++ [m]) = (waits log).map (·.after m) ++ m.wait?.toList := by
  induction log with
  | nil => cases m <;> rfl
  | cons first log ih =>
    cases first with
    | left link callId call =>
      rw [List.cons_append, waits, waits, List.map_cons, after_answerOf, List.cons_append, ih]
    | _ => exact ih

/-- What is to come concerns waits only. -/
theorem waits_append_congr {log log' : List Moment} (h : waits log = waits log')
    (later : List Moment) : waits (log ++ later) = waits (log' ++ later) := by
  induction later using List.reverseRecOn with
  | nil => rwa [List.append_nil, List.append_nil]
  | append_singleton later m ih =>
    rw [← List.append_assoc, ← List.append_assoc, waits_concat, waits_concat, ih]

/-! ## The waits that are still on -/

/-- **The waits of a link that are still on**, the latest first. -/
def awaiting (link : Nat) (ws : List Wait) : List Wait :=
  (ws.filter fun w => w.link = link ∧ w.answer = .awaited).reverse

theorem mem_awaiting {link : Nat} {ws : List Wait} {w : Wait} :
    w ∈ awaiting link ws ↔ w ∈ ws ∧ w.link = link ∧ w.answer = .awaited := by
  rw [awaiting, List.mem_reverse, List.mem_filter, decide_eq_true_iff]

theorem awaiting_eq_nil {link : Nat} {ws : List Wait} (h : ∀ w ∈ ws, w.link ≠ link) :
    awaiting link ws = [] := by
  refine List.eq_nil_iff_forall_not_mem.mpr fun w hw => ?_
  obtain ⟨hmem, hlink, -⟩ := mem_awaiting.mp hw
  exact h w hmem hlink

theorem awaiting_map_after (link : Nat) (ws : List Wait) (m : Moment) :
    awaiting link (ws.map (·.after m)) = (awaiting link ws).filter (!m.ends link ·.callId) := by
  rw [awaiting, awaiting, List.filter_reverse, List.filter_filter, List.filter_map]
  refine congrArg _ ?_
  have hsame : ∀ w ∈ ws.filter ((fun w => decide (w.link = link ∧ w.answer = .awaited)) ∘
      (·.after m)), w.after m = w := by
    intro w hw
    have hboth := of_decide_eq_true (List.mem_filter.mp hw).2
    exact Wait.after_of_not_ends (Wait.after_awaited_iff.mp hboth.2).2
  rw [List.map_congr_left hsame, List.map_id']
  refine List.filter_congr fun w _ => ?_
  rw [Bool.eq_iff_iff, Function.comp_apply, decide_eq_true_iff, Bool.and_eq_true,
    decide_eq_true_iff, Wait.link_after, Wait.after_awaited_iff, Bool.not_eq_true',
    ← Bool.not_eq_true]
  constructor
  · rintro ⟨rfl, hawaited, hends⟩
    exact ⟨hends, rfl, hawaited⟩
  · rintro ⟨hends, rfl, hawaited⟩
    exact ⟨rfl, hawaited, hends⟩

theorem awaiting_append_singleton (link : Nat) (ws : List Wait) (w : Wait) :
    awaiting link (ws ++ [w])
      = if w.link = link ∧ w.answer = .awaited then w :: awaiting link ws
        else awaiting link ws := by
  rw [awaiting, awaiting, List.filter_append, List.reverse_append]
  by_cases h : w.link = link ∧ w.answer = .awaited
  · rw [if_pos h, List.filter_cons, if_pos (decide_eq_true h)]
    rfl
  · rw [if_neg h, List.filter_cons, if_neg (by rwa [decide_eq_true_iff])]
    rfl

/-- Who waits with an id, if no two do. -/
theorem lookup_awaiting {link : Nat} {ws : List Wait}
    (hnodup : ((awaiting link ws).map (·.callId)).Nodup) {callId : UInt64} {call : Nat} :
    ((awaiting link ws).map (·.entry)).lookup callId = some call ↔
      ∃ w ∈ ws, w.answer = .awaited ∧ (link = w.link ∧ callId = w.callId) ∧ w.call = call := by
  constructor
  · intro hlookup
    obtain ⟨before, after, hsplit, -⟩ := List.lookup_eq_some_iff.mp hlookup
    have hmem : (callId, call) ∈ (awaiting link ws).map (·.entry) := by simp [hsplit]
    obtain ⟨w, hw, hentry⟩ := List.mem_map.mp hmem
    obtain ⟨hmem, hlink, hawaited⟩ := mem_awaiting.mp hw
    obtain ⟨hid, hcall⟩ := Prod.mk.inj hentry
    exact ⟨w, hmem, hawaited, ⟨hlink.symm, hid.symm⟩, hcall⟩
  · rintro ⟨w, hmem, hawaited, ⟨hlink, rfl⟩, rfl⟩
    have hw := mem_awaiting.mpr ⟨hmem, hlink.symm, hawaited⟩
    cases hlookup : ((awaiting link ws).map (·.entry)).lookup w.callId with
    | none =>
      have hne := List.lookup_eq_none_iff.mp hlookup _ (List.mem_map_of_mem hw)
      exact absurd rfl (bne_iff_ne.mp hne)
    | some call =>
      obtain ⟨before, after, hsplit, -⟩ := List.lookup_eq_some_iff.mp hlookup
      have hother : (w.callId, call) ∈ (awaiting link ws).map (·.entry) := by simp [hsplit]
      obtain ⟨w', hw', hentry⟩ := List.mem_map.mp hother
      obtain ⟨hid, hcall⟩ := Prod.mk.inj hentry
      rw [← hcall, List.inj_on_of_nodup_map hnodup hw' hw hid]

/-- **The last wait of a call.** -/
def lastWait? (call : Nat) (ws : List Wait) : Option Wait := ws.reverse.find? (·.call = call)

theorem mem_of_lastWait? {call : Nat} {ws : List Wait} {w : Wait} (h : lastWait? call ws = some w) :
    w ∈ ws ∧ w.call = call :=
  ⟨List.mem_reverse.mp (List.mem_of_find?_eq_some h),
    of_decide_eq_true (List.find?_some (p := fun w : Wait => decide (w.call = call)) h)⟩

theorem lastWait?_map_after (call : Nat) (ws : List Wait) (m : Moment) :
    lastWait? call (ws.map (·.after m)) = (lastWait? call ws).map (·.after m) := by
  rw [lastWait?, lastWait?, ← List.map_reverse, List.find?_map]
  refine congrArg (fun p => (ws.reverse.find? p).map (·.after m)) (funext fun w => ?_)
  rw [Function.comp_apply, Wait.call_after]

theorem lastWait?_append_singleton (call : Nat) (ws : List Wait) (w : Wait) :
    lastWait? call (ws ++ [w]) = if w.call = call then some w else lastWait? call ws := by
  rw [lastWait?, lastWait?, List.reverse_append, List.reverse_singleton, List.singleton_append,
    List.find?_cons]
  by_cases h : w.call = call
  · rw [if_pos h, decide_eq_true h]
  · rw [if_neg h, decide_eq_false h]

/-! ## Envelopes and waits -/

/-- **An envelope with an id that nobody waits with is as good as none**: the waits come to the
same without it. -/
theorem waits_of_stray {link : Nat} {before : List Moment} {envelope : ReplyEnvelope}
    (h : ∀ w ∈ awaiting link (waits before), w.callId ≠ envelope.header.callId)
    (later : List Moment) :
    waits (before ++ .read link envelope :: later) = waits (before ++ later) := by
  have hsame : waits (before ++ [.read link envelope]) = waits before := by
    rw [waits_concat]
    refine (List.append_nil _).trans ((List.map_congr_left fun w hw => ?_).trans (List.map_id _))
    by_cases hawaited : w.answer = .awaited
    · refine Wait.after_of_not_ends fun hends => ?_
      obtain ⟨hlink, hid⟩ := Bool.and_eq_true_iff.mp hends
      have hmem := mem_awaiting.mpr ⟨hw, (of_decide_eq_true hlink).symm, hawaited⟩
      exact h w hmem (of_decide_eq_true hid).symm
    · exact Wait.after_of_ne_awaited hawaited _
  have happend := waits_append_congr hsame later
  rwa [List.append_assoc] at happend

theorem answerOf_cons (link : Nat) (callId : UInt64) (m : Moment) (later : List Moment) :
    answerOf link callId (m :: later)
      = if m.ends link callId then m.answer else answerOf link callId later := by
  unfold answerOf
  rw [List.find?_cons]
  cases m.ends link callId <;> rfl

/-- An envelope answers waits with its own id. -/
theorem callId_eq_of_answerOf {link : Nat} {callId : UInt64} {later : List Moment}
    {envelope : ReplyEnvelope} (h : answerOf link callId later = .arrived envelope) :
    envelope.header.callId = callId := by
  unfold answerOf at h
  split at h
  · exact absurd h nofun
  · next m hfind =>
    have hends : m.ends link callId = true := List.find?_some (p := Moment.ends link callId) hfind
    cases m with
    | read link' envelope' =>
      obtain rfl := Answer.arrived.inj h
      exact of_decide_eq_true (Bool.and_eq_true_iff.mp hends).2
    | _ => exact absurd h nofun

/-- **No envelope answers two waits**: as many waits have been answered by it, at most, as it has
been read on their link. -/
theorem countP_arrived_le (link : Nat) (envelope : ReplyEnvelope) (log : List Moment) :
    (waits log).countP (fun w => w.link = link ∧ w.answer = .arrived envelope)
      ≤ (readsOn link log).count envelope := by
  -- whoever waits with its id at the beginning of the log takes one of them, too
  suffices h : (waits log).countP (fun w => w.link = link ∧ w.answer = .arrived envelope)
      + (if answerOf link envelope.header.callId log = .arrived envelope then 1 else 0)
      ≤ (readsOn link log).count envelope from Nat.le_of_add_right_le h
  induction log with
  | nil => exact Nat.le_refl 0
  | cons m log ih =>
    have hle := Nat.le_of_add_right_le ih
    rw [answerOf_cons]
    cases m with
    | left link' callId call =>
      show List.countP _ (_ :: waits log) + _ ≤ (readsOn link log).count envelope
      rw [List.countP_cons]
      dsimp only
      by_cases hends : (Moment.left link' callId call).ends link envelope.header.callId
      · obtain ⟨hlink, hid⟩ := Bool.and_eq_true_iff.mp hends
        obtain rfl := of_decide_eq_true hlink
        obtain rfl := of_decide_eq_true hid
        rw [if_pos hends]
        simpa only [Moment.answer, reduceCtorEq, if_false, Nat.add_zero, true_and,
          decide_eq_true_eq] using ih
      · have hother : ¬ (link' = link ∧ answerOf link' callId log = .arrived envelope) := by
          rintro ⟨rfl, hanswer⟩
          refine hends (Bool.and_eq_true_iff.mpr ⟨decide_eq_true rfl, decide_eq_true ?_⟩)
          exact (callId_eq_of_answerOf hanswer).symm
        rw [if_neg hends, if_neg (by rwa [decide_eq_true_eq]), Nat.add_zero]
        exact ih
    | read link' envelope' =>
      show List.countP _ (waits log) + _ ≤ _
      by_cases hlink : link' = link
      · have hreads : readsOn link (.read link' envelope' :: log) = envelope' :: readsOn link log :=
          List.filterMap_cons_some (if_pos hlink)
        rw [hreads, List.count_cons]
        by_cases heq : envelope' = envelope
        · rw [heq, beq_self_eq_true, if_pos rfl]
          split <;> split <;> omega
        · rw [beq_false_of_ne heq, if_neg Bool.false_ne_true, Nat.add_zero]
          split
          · exact (if_neg fun h => heq (Answer.arrived.inj h)).symm ▸ hle
          · exact ih
      · have hreads : readsOn link (.read link' envelope' :: log) = readsOn link log :=
          List.filterMap_cons_none (if_neg hlink)
        have hends : ¬ (Moment.read link' envelope').ends link envelope.header.callId :=
          fun hboth => hlink (of_decide_eq_true (Bool.and_eq_true_iff.mp hboth).1)
        rw [hreads, if_neg hends]
        exact ih
    | withdrawn | stopped =>
      show List.countP _ (waits log) + _ ≤ (readsOn link log).count envelope
      split
      · exact hle
      · exact ih

end Switchboard.Client
