import Switchboard.Proofs.Wire.Envelope
import Switchboard.Wire.Arrival

/-!
# Streams of envelopes

Envelopes are written one after another, and a receiver sees some beginning of
what was written. `exists_cut` divides such a beginning into the envelopes that
are whole in it and the part of the next one that has come so far. Reading to
the end (`readAll_of_cut`) returns the former and finds the latter truncated,
so that a stream cut anywhere tells where it was cut (`readAll_take`); reading
what has arrived (`arrivals_of_cut`) returns the former and keeps the latter.
All of this holds of any reader of things that are offered as they are written.
-/

namespace Switchboard.Wire

open Read

section Cuts

variable {α : Type} (write : α → List UInt8)

/-- A beginning of one thing that is not the whole of it. -/
def IsStart (pending whole : List UInt8) : Prop :=
  ∃ k < whole.length, pending = whole.take k

/-- **A cut**: the things that are whole in the bytes, and the things that are not. What the
bytes hold of the first of these is pending. -/
structure Cut (bytes : List UInt8) (done left : List α) (pending : List UInt8) : Prop where
  bytes_eq : bytes = done.flatMap write ++ pending
  pending_start : pending = [] ∨ ∃ a ∈ left.head?, IsStart pending (write a)

/-- **Every beginning of a stream has a cut.** -/
theorem exists_cut {items : List α} {bytes more : List UInt8}
    (h : bytes ++ more = items.flatMap write) :
    ∃ done left pending, items = done ++ left ∧ Cut write bytes done left pending
      ∧ pending ++ more = left.flatMap write := by
  induction items generalizing bytes with
  | nil =>
    obtain ⟨rfl, rfl⟩ := List.append_eq_nil_iff.mp h
    exact ⟨[], [], [], rfl, ⟨rfl, .inl rfl⟩, rfl⟩
  | cons a items ih =>
    rw [List.flatMap_cons] at h
    by_cases hlt : bytes.length < (write a).length
    · -- the cut falls into the first thing
      refine ⟨[], a :: items, bytes, rfl, ⟨rfl, .inr ⟨a, rfl, bytes.length, hlt, ?_⟩⟩, h⟩
      have htake := congrArg (List.take bytes.length) h
      rwa [List.take_left, List.take_append_of_le_length (Nat.le_of_lt hlt)] at htake
    · have hsplit := List.append_eq_append_iff.mp h
      obtain ⟨rest, hbytes, hrest⟩ : ∃ rest, bytes = write a ++ rest
          ∧ rest ++ more = items.flatMap write := by
        rcases hsplit with ⟨rest, hwrite, hmore⟩ | ⟨rest, hbytes, hrest⟩
        -- of the two ways to split, this one leaves nothing over
        · have hnil : rest = [] := by
            have hlength := congrArg List.length hwrite
            rw [List.length_append] at hlength
            exact List.eq_nil_of_length_eq_zero (by omega)
          rw [hnil, List.append_nil] at hwrite
          rw [hnil, List.nil_append] at hmore
          exact ⟨[], by rw [hwrite, List.append_nil], hmore⟩
        · exact ⟨rest, hbytes, hrest.symm⟩
      obtain ⟨done, left, pending, hitems, hcut, hpending⟩ := ih hrest
      refine ⟨a :: done, left, pending, by rw [hitems, List.cons_append], ⟨?_, hcut.2⟩, hpending⟩
      rw [hbytes, hcut.bytes_eq, List.flatMap_cons, List.append_assoc]

theorem length_take_flatMap_le (n : Nat) (items : List α) :
    ((items.take n).flatMap write).length ≤ (items.flatMap write).length := by
  conv_rhs => rw [← List.take_append_drop n items, List.flatMap_append, List.length_append]
  exact Nat.le_add_right _ _

end Cuts

/-! ## Reading on -/

/-- **A reader of things**, each written in its own way: it offers those that are `Ok`. -/
structure Reads {α : Type} (r : Read (Option α)) (write : α → List UInt8) (Ok : α → Prop) :
    Prop where
  takes_nil : Takes r [] (.ok none) []
  offers : ∀ a, Ok a → Offers r (write a) a

section Reads

variable {α : Type} {r : Read (Option α)} {write : α → List UInt8} {Ok : α → Prop}

/-- There are at most as many things as bytes. -/
theorem Reads.length_le (h : Reads r write Ok) {done : List α} (hdone : ∀ a ∈ done, Ok a) :
    done.length ≤ (done.flatMap write).length := by
  induction done with
  | nil => exact Nat.zero_le _
  | cons a done ih =>
    have ha := List.length_pos_iff.mpr (h.offers a (hdone a List.mem_cons_self)).whole_ne_nil
    have hrest := ih fun b hb => hdone b (List.mem_cons_of_mem a hb)
    rw [List.flatMap_cons, List.length_append, List.length_cons]
    omega

/-- What a reader makes of the pending part of a cut: nothing, or a truncation. -/
theorem Reads.takes_pending (h : Reads r write Ok) {left : List α} {pending : List UInt8}
    (hleft : ∀ a ∈ left, Ok a)
    (hpending : pending = [] ∨ ∃ a ∈ left.head?, IsStart pending (write a)) :
    (pending = [] ∧ Takes r pending (.ok none) []) ∨ (pending ≠ [] ∧ Truncates r pending) := by
  by_cases hnil : pending = []
  · exact .inl ⟨hnil, hnil ▸ h.takes_nil⟩
  · obtain ⟨a, ha, k, hk, rfl⟩ := hpending.resolve_left hnil
    have hpos : 0 < k := by
      refine Nat.pos_of_ne_zero fun hzero => hnil ?_
      rw [hzero, List.take_zero]
    exact .inr ⟨hnil, (h.offers a (hleft a (List.mem_of_mem_head? ha))).truncates_take k hpos hk⟩

/-- **Where the things of a cut end**: those that are whole end in the bytes, the others end
behind them. -/
theorem Reads.end_le_iff (h : Reads r write Ok) {bytes pending : List UInt8} {done left : List α}
    (hcut : Cut write bytes done left pending) (hleft : ∀ a ∈ left, Ok a) {n : Nat}
    (hn : n ≤ (done ++ left).length) :
    (((done ++ left).take n).flatMap write).length ≤ bytes.length ↔ n ≤ done.length := by
  rw [hcut.bytes_eq, List.length_append]
  constructor
  · intro hend
    by_contra hlt
    obtain ⟨j, rfl⟩ := Nat.exists_eq_add_of_lt (Nat.lt_of_not_le hlt)
    cases left with
    | nil =>
      rw [List.append_nil] at hn
      exact hlt hn
    | cons a left =>
      -- the bytes do not reach the end of the next thing
      have hpending : pending.length < (write a).length := by
        obtain rfl | ⟨b, hb, k, hk, rfl⟩ := hcut.pending_start
        · exact List.length_pos_iff.mpr (h.offers a (hleft a List.mem_cons_self)).whole_ne_nil
        · obtain rfl := Option.some_inj.mp hb
          rwa [List.length_take_of_le (Nat.le_of_lt hk)]
      rw [Nat.add_assoc, List.take_length_add_append, List.take_succ_cons, List.flatMap_append,
        List.flatMap_cons, List.length_append, List.length_append] at hend
      omega
  · intro hle
    rw [List.take_append_of_le_length hle]
    exact Nat.le_add_right_of_le (length_take_flatMap_le write n done)

/-- Bytes in which one of the things ends have nothing pending. -/
theorem Reads.pending_eq_nil (h : Reads r write Ok) {bytes pending : List UInt8}
    {done left : List α} (hcut : Cut write bytes done left pending) (hleft : ∀ a ∈ left, Ok a)
    {n : Nat} (hend : (((done ++ left).take n).flatMap write).length = bytes.length) :
    pending = [] := by
  -- more things than there are end where the last one does
  wlog hn : n ≤ (done ++ left).length generalizing n
  · refine this (n := (done ++ left).length) ?_ (Nat.le_refl _)
    rwa [List.take_length, ← List.take_of_length_le (Nat.le_of_not_le hn)]
  have hle := (h.end_le_iff hcut hleft hn).mp (Nat.le_of_eq hend)
  have hdone := length_take_flatMap_le write n done
  rw [List.take_append_of_le_length hle] at hend
  rw [hend, hcut.bytes_eq, List.length_append] at hdone
  exact List.eq_nil_of_length_eq_zero (by omega)

theorem Reads.outcome_append (h : Reads r write Ok) {a : α} (ha : Ok a) {s : Stream}
    {rest : List UInt8} (hs : s.bytes = write a ++ rest) :
    ∃ s', r.outcome s = (.ok (some a), s') ∧ s'.bytes = rest :=
  ((h.offers a ha).takes_append rest).outcome_eq hs

/-- The reader goes through whole things one by one. -/
theorem Reads.readAll_go (h : Reads r write Ok) {done : List α} (hdone : ∀ a ∈ done, Ok a)
    {pending : List UInt8} :
    ∀ {turns : Nat} {s : Stream}, done.length < turns → s.bytes = done.flatMap write ++ pending →
      ∃ s' turns', s'.bytes = pending ∧ 0 < turns' ∧ readAll.go r turns s
        = (done ++ (readAll.go r turns' s').1, (readAll.go r turns' s').2) := by
  induction done with
  | nil =>
    intro turns s hturns hs
    exact ⟨s, turns, hs, hturns, rfl⟩
  | cons a done ih =>
    intro turns s hturns hs
    obtain ⟨turns, rfl⟩ := Nat.exists_eq_add_one.mpr (Nat.zero_lt_of_lt hturns)
    rw [List.flatMap_cons, List.append_assoc] at hs
    obtain ⟨s₁, hfirst, hs₁⟩ := h.outcome_append (hdone a List.mem_cons_self) hs
    obtain ⟨s', turns', hs', hpos, hgo⟩ := ih (fun b hb => hdone b (List.mem_cons_of_mem a hb))
      (Nat.lt_of_succ_lt_succ hturns) hs₁
    refine ⟨s', turns', hs', hpos, ?_⟩
    rw [readAll.go, hfirst]
    dsimp only
    rw [hgo]
    rfl

/-- What is read behind whole things. There is a turn left for it. -/
theorem Reads.readAll_append (h : Reads r write Ok) {done : List α} (hdone : ∀ a ∈ done, Ok a)
    {pending : List UInt8} {s : Stream} (hs : s.bytes = done.flatMap write ++ pending) :
    ∃ s' turns, s'.bytes = pending ∧ readAll r s
      = (done ++ (readAll.go r (turns + 1) s').1, (readAll.go r (turns + 1) s').2) := by
  have hturns : done.length < s.bytes.length + 1 := by
    have hle := h.length_le hdone
    rw [hs, List.length_append]
    omega
  obtain ⟨s', turns, hs', hpos, hgo⟩ := h.readAll_go hdone hturns hs
  obtain ⟨turns, rfl⟩ := Nat.exists_eq_add_one.mpr hpos
  exact ⟨s', turns, hs', hgo⟩

/-- **Reading to the end** returns what is whole and finds the rest truncated, if there is
any. -/
theorem Reads.readAll_of_cut (h : Reads r write Ok) {bytes pending : List UInt8}
    {done left : List α} (hcut : Cut write bytes done left pending) (hdone : ∀ a ∈ done, Ok a)
    (hleft : ∀ a ∈ left, Ok a) {s : Stream} (hs : s.bytes = bytes) :
    ∃ ending rest, readAll r s = (done, ending, rest) ∧ rest.bytes = []
      ∧ ((pending = [] ∧ ending = none) ∨ (pending ≠ [] ∧ ∃ part, ending = some (.truncated part)))
      := by
  obtain ⟨s', turns, hs', hread⟩ := h.readAll_append hdone (hs.trans hcut.bytes_eq)
  rw [hread, readAll.go]
  obtain ⟨hnil, htakes⟩ | ⟨hcons, part, htakes⟩ := h.takes_pending hleft hcut.pending_start
  · obtain ⟨rest, houtcome, hrest⟩ := htakes.outcome_eq hs'
    rw [houtcome]
    dsimp only
    rw [List.append_nil]
    exact ⟨none, rest, rfl, hrest, .inl ⟨hnil, rfl⟩⟩
  · obtain ⟨rest, houtcome, hrest⟩ := htakes.outcome_eq hs'
    rw [houtcome]
    dsimp only
    rw [List.append_nil]
    exact ⟨_, rest, rfl, hrest, .inr ⟨hcons, part, rfl⟩⟩

/-- **A stream that is whole** is read as it was written. -/
theorem Reads.readAll_flatMap (h : Reads r write Ok) {items : List α} (hok : ∀ a ∈ items, Ok a)
    {s : Stream} (hs : s.bytes = items.flatMap write) :
    ∃ rest, readAll r s = (items, none, rest) ∧ rest.bytes = [] := by
  have hcut : Cut write (items.flatMap write) items [] [] := ⟨(List.append_nil _).symm, .inl rfl⟩
  obtain ⟨ending, rest, hread, hrest, ⟨-, rfl⟩ | ⟨hne, -⟩⟩ :=
    h.readAll_of_cut hcut hok (List.forall_mem_nil _) hs
  · exact ⟨rest, hread, hrest⟩
  · exact absurd rfl hne

/-- **A stream that is cut anywhere**: the first `m` things are read, which are those that end in
it, and there is nothing to report where a thing ends, and a truncation anywhere else. -/
theorem Reads.readAll_take (h : Reads r write Ok) {items : List α} (hok : ∀ a ∈ items, Ok a)
    {k : Nat} (hk : k ≤ (items.flatMap write).length) {s : Stream}
    (hs : s.bytes = (items.flatMap write).take k) :
    ∃ m ≤ items.length,
      (∀ n ≤ items.length, ((items.take n).flatMap write).length ≤ k ↔ n ≤ m) ∧
      ∃ ending rest, readAll r s = (items.take m, ending, rest) ∧ rest.bytes = [] ∧
        ((∃ n, ((items.take n).flatMap write).length = k) → ending = none) ∧
        ((∀ n, ((items.take n).flatMap write).length ≠ k) →
          ∃ part, ending = some (.truncated part)) := by
  obtain ⟨done, left, pending, rfl, hcut, -⟩ :=
    exists_cut write (List.take_append_drop k (items.flatMap write))
  have hdone : ∀ a ∈ done, Ok a := fun a ha => hok a (List.mem_append_left _ ha)
  have hleft : ∀ a ∈ left, Ok a := fun a ha => hok a (List.mem_append_right _ ha)
  have hlength : (((done ++ left).flatMap write).take k).length = k := List.length_take_of_le hk
  have hends : ∀ n ≤ (done ++ left).length,
      (((done ++ left).take n).flatMap write).length ≤ k ↔ n ≤ done.length := by
    intro n hn
    have hend := h.end_le_iff hcut hleft hn
    rwa [hlength] at hend
  have htake : (done ++ left).take done.length = done := List.take_left' rfl
  obtain ⟨ending, rest, hread, hrest, hending⟩ := h.readAll_of_cut hcut hdone hleft hs
  refine ⟨done.length, ?_, hends, ending, rest, ?_, hrest, ?_, ?_⟩
  · rw [List.length_append]
    exact Nat.le_add_right _ _
  · rw [htake]
    exact hread
  -- where a thing ends there is nothing pending
  · rintro ⟨n, hn⟩
    have hnil := h.pending_eq_nil hcut hleft (hn.trans hlength.symm)
    exact (hending.resolve_right fun hcons => hcons.1 hnil).2
  · intro hne
    obtain ⟨hnil, -⟩ | ⟨-, htruncated⟩ := hending
    · -- with nothing pending the cut is where the last of the whole things ends
      have hwhole := congrArg List.length hcut.bytes_eq
      rw [hlength, hnil, List.append_nil] at hwhole
      refine absurd ?_ (hne done.length)
      rw [htake, hwhole]
    · exact htruncated

/-! ## What has arrived -/

theorem Reads.arrivals_go (h : Reads r write Ok) {done left : List α} {pending : List UInt8}
    (hdone : ∀ a ∈ done, Ok a) (hleft : ∀ a ∈ left, Ok a)
    (hpending : pending = [] ∨ ∃ a ∈ left.head?, IsStart pending (write a)) :
    ∀ {turns : Nat} {s : Stream}, done.length < turns → s.bytes = done.flatMap write ++ pending →
      arrivals.go r turns s = ⟨done, pending, none⟩ := by
  induction done with
  | nil =>
    intro turns s hturns hs
    obtain ⟨turns, rfl⟩ := Nat.exists_eq_add_one.mpr hturns
    rw [arrivals.go]
    -- a truncation is no error here: the rest is still to come
    obtain ⟨-, htakes⟩ | ⟨-, part, htakes⟩ := h.takes_pending hleft hpending
    · obtain ⟨rest, houtcome, -⟩ := htakes.outcome_eq hs
      rw [houtcome]
      dsimp only
      rw [hs]
      rfl
    · obtain ⟨rest, houtcome, -⟩ := htakes.outcome_eq hs
      rw [houtcome]
      dsimp only
      rw [hs]
      rfl
  | cons a done ih =>
    intro turns s hturns hs
    obtain ⟨turns, rfl⟩ := Nat.exists_eq_add_one.mpr (Nat.zero_lt_of_lt hturns)
    rw [List.flatMap_cons, List.append_assoc] at hs
    obtain ⟨s₁, hfirst, hs₁⟩ := h.outcome_append (hdone a List.mem_cons_self) hs
    rw [arrivals.go, hfirst]
    dsimp only
    rw [ih (fun b hb => hdone b (List.mem_cons_of_mem a hb)) (Nat.lt_of_succ_lt_succ hturns) hs₁]

/-- **What has arrived** of a stream is what is whole in it, and the rest is kept. -/
theorem Reads.arrivals_of_cut (h : Reads r write Ok) {bytes pending : List UInt8}
    {done left : List α} (hcut : Cut write bytes done left pending) (hdone : ∀ a ∈ done, Ok a)
    (hleft : ∀ a ∈ left, Ok a) : arrivals r bytes = ⟨done, pending, none⟩ := by
  have hle := h.length_le hdone
  have hlength := congrArg List.length hcut.bytes_eq
  rw [List.length_append] at hlength
  refine h.arrivals_go hdone hleft hcut.pending_start (by omega) ?_
  rw [← hcut.bytes_eq]
  exact List.append_nil bytes

end Reads

end Switchboard.Wire
