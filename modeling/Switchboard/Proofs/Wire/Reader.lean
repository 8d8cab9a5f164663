import Mathlib.Tactic.Common
import Switchboard.Wire.Stream

/-!
# What readers make of bytes

A reader is given a stream in portions, and none of the readers of this library
looks at how it is cut. `Read.Takes` says of a reader that it makes a certain
result of certain bytes, however they are cut, and which bytes it leaves. It is
proved once for taking bytes off a stream, and composed along `>>=` from then
on.

On top of it stands `Read.Parses`, the contract of a reader for a part that is
written as certain bytes: given the whole of them it reads the part and leaves
what follows, and given only a beginning it reports a truncation and leaves
nothing. Parts in a row are one part again (`Read.Parses.bind`), so that where
a stream is cut has to be asked of words and frames alone.
-/

namespace Switchboard.Wire

/-! ## Portions -/

/-- However a stream is cut, the next bytes of it are the next bytes. -/
theorem Stream.fill_eq (n : Nat) (s : Stream) :
    (s.fill n).1 = s.bytes.take n ∧ Stream.bytes (s.fill n).2 = s.bytes.drop n := by
  induction s generalizing n with
  | nil => exact ⟨List.take_nil.symm, List.drop_nil.symm⟩
  | cons portion rest ih =>
    obtain ⟨hfront, hrest⟩ := ih (n - (portion.take n).length)
    have hbytes : Stream.bytes (portion :: rest) = portion ++ Stream.bytes rest := rfl
    rw [Stream.fill, hbytes]
    dsimp only
    rw [List.length_take] at hfront hrest ⊢
    split
    · -- the first portion is used up
      next hlt =>
      have hmin : min n portion.length = portion.length := by omega
      have hshort : portion.length ≤ n := by omega
      dsimp only
      rw [hfront, hrest, hmin, List.take_append, List.drop_append, List.take_of_length_le hshort,
        List.drop_of_length_le hshort, List.nil_append]
      exact ⟨rfl, rfl⟩
    · next hge =>
      rw [List.take_append_of_le_length (by omega), List.drop_append_of_le_length (by omega)]
      exact ⟨rfl, rfl⟩

namespace Read

variable {α β : Type}

/-- **What a reader makes of bytes**: its result, and the bytes it leaves, however the
stream is cut. -/
def Takes (r : Read α) (bytes : List UInt8) (result : Except TransportError α)
    (rest : List UInt8) : Prop :=
  ∀ s : Stream, s.bytes = bytes → (r.outcome s).1 = result ∧ (r.outcome s).2.bytes = rest

theorem Takes.outcome_eq {r : Read α} {bytes rest : List UInt8} {result : Except TransportError α}
    (h : Takes r bytes result rest) {s : Stream} (hs : s.bytes = bytes) :
    ∃ s', r.outcome s = (result, s') ∧ s'.bytes = rest :=
  ⟨(r.outcome s).2, Prod.ext (h s hs).1 rfl, (h s hs).2⟩

theorem takes_pure (a : α) (bytes : List UInt8) : Takes (pure a) bytes (.ok a) bytes :=
  fun _ hs => ⟨rfl, hs⟩

theorem takes_throw (e : TransportError) (bytes : List UInt8) :
    Takes (throw e : Read α) bytes (.error e) bytes :=
  fun _ hs => ⟨rfl, hs⟩

theorem takes_bytes (n : Nat) (bytes : List UInt8) :
    Takes (Read.bytes n) bytes (.ok (bytes.take n)) (bytes.drop n) := by
  intro s hs
  obtain ⟨hfront, hrest⟩ := Stream.fill_eq n s
  rw [← hs]
  exact ⟨congrArg _ hfront, hrest⟩

theorem outcome_bind (r : Read α) (f : α → Read β) (s : Stream) :
    (r >>= f).outcome s = match r.outcome s with
      | (.ok a, rest) => (f a).outcome rest
      | (.error e, rest) => (.error e, rest) := by
  show (ExceptT.bindCont f (r s).1) (r s).2 = match r s with
    | (.ok a, rest) => f a rest
    | (.error e, rest) => (.error e, rest)
  cases r s with
  | mk value rest => cases value <;> rfl

theorem Takes.bind {r : Read α} {f : α → Read β} {bytes rest rest' : List UInt8} {a : α}
    {result : Except TransportError β} (hr : Takes r bytes (.ok a) rest)
    (hf : Takes (f a) rest result rest') : Takes (r >>= f) bytes result rest' := by
  intro s hs
  obtain ⟨left, houtcome, hleft⟩ := hr.outcome_eq hs
  rw [outcome_bind, houtcome]
  exact hf left hleft

theorem Takes.bind_error {r : Read α} {f : α → Read β} {bytes rest : List UInt8}
    {e : TransportError} (hr : Takes r bytes (.error e) rest) :
    Takes (r >>= f) bytes (.error e) rest := by
  intro s hs
  obtain ⟨left, houtcome, hleft⟩ := hr.outcome_eq hs
  rw [outcome_bind, houtcome]
  exact ⟨rfl, hleft⟩

/-! ## Parts -/

/-- The reader finds its stream cut off, and leaves nothing of it. -/
def Truncates (r : Read α) (bytes : List UInt8) : Prop :=
  ∃ part, Takes r bytes (.error (.truncated part)) []

/-- **A reader for a part that is written as `whole`** and stands for `a`. -/
structure Parses (r : Read α) (whole : List UInt8) (a : α) : Prop where
  takes_append : ∀ rest, Takes r (whole ++ rest) (.ok a) rest
  truncates_take : ∀ k < whole.length, Truncates r (whole.take k)

theorem parses_pure (a : α) : Parses (pure a) [] a where
  takes_append := takes_pure a
  truncates_take _ hk := absurd hk (Nat.not_lt_zero _)

/-- **Parts in a row are a part**: a cut falls into the first of them, or behind it. -/
theorem Parses.bind {r : Read α} {f : α → Read β} {first second : List UInt8} {a : α} {b : β}
    (hr : Parses r first a) (hf : Parses (f a) second b) :
    Parses (r >>= f) (first ++ second) b where
  takes_append rest := by
    rw [List.append_assoc]
    exact (hr.takes_append _).bind (hf.takes_append rest)
  truncates_take k hk := by
    rw [List.length_append] at hk
    by_cases hfirst : k < first.length
    · obtain ⟨part, hpart⟩ := hr.truncates_take k hfirst
      rw [List.take_append_of_le_length (by omega)]
      exact ⟨part, hpart.bind_error⟩
    · obtain ⟨part, hpart⟩ := hf.truncates_take (k - first.length) (by omega)
      rw [List.take_append, List.take_of_length_le (by omega)]
      exact ⟨part, (hr.takes_append _).bind hpart⟩

/-- A part stays a part when something is made of what was read. -/
theorem Parses.bind_pure {r : Read α} {f : α → Read β} {whole : List UInt8} {a : α} {b : β}
    (hr : Parses r whole a) (hf : f a = pure b) : Parses (r >>= f) whole b := by
  have h := hr.bind (f := f) (by rw [hf]; exact parses_pure b)
  rwa [List.append_nil] at h

/-- **A reader for a thing that may be followed by the end of the stream.** At the end it
has nothing to report, and anywhere else in the middle of a thing it is cut off. -/
structure Offers (r : Read (Option α)) (whole : List UInt8) (a : α) : Prop where
  whole_ne_nil : whole ≠ []
  takes_nil : Takes r [] (.ok none) []
  takes_append : ∀ rest, Takes r (whole ++ rest) (.ok (some a)) rest
  truncates_take : ∀ k, 0 < k → k < whole.length → Truncates r (whole.take k)

variable {r : Read (Option α)} {first second : List UInt8} {a : α}

theorem Offers.truncates_bind {f : Option α → Read β} (hr : Offers r first a)
    (hf : ∀ k < second.length, Truncates (f (some a)) (second.take k)) {k : Nat} (hpos : 0 < k)
    (hk : k < (first ++ second).length) : Truncates (r >>= f) ((first ++ second).take k) := by
  rw [List.length_append] at hk
  by_cases hfirst : k < first.length
  · obtain ⟨part, hpart⟩ := hr.truncates_take k hpos hfirst
    rw [List.take_append_of_le_length (by omega)]
    exact ⟨part, hpart.bind_error⟩
  · obtain ⟨part, hpart⟩ := hf (k - first.length) (by omega)
    rw [List.take_append, List.take_of_length_le (by omega)]
    exact ⟨part, (hr.takes_append _).bind hpart⟩

/-- A thing that goes on with a part is a thing. -/
theorem Offers.bind {f : Option α → Read (Option β)} {b : β} (hr : Offers r first a)
    (hnone : f none = pure none) (hf : Parses (f (some a)) second (some b)) :
    Offers (r >>= f) (first ++ second) b where
  whole_ne_nil h := hr.whole_ne_nil (List.append_eq_nil_iff.mp h).1
  takes_nil := by
    refine hr.takes_nil.bind ?_
    rw [hnone]
    exact takes_pure none []
  takes_append rest := by
    rw [List.append_assoc]
    exact (hr.takes_append _).bind (hf.takes_append rest)
  truncates_take _ hpos hk := hr.truncates_bind hf.truncates_take hpos hk

/-- **A thing that has to be there is a part**, whatever part it goes on with. -/
theorem Offers.parses {f : Option α → Read β} {b : β} (hr : Offers r first a)
    (hnone : ∃ part, f none = throw (.truncated part)) (hf : Parses (f (some a)) second b) :
    Parses (r >>= f) (first ++ second) b where
  takes_append rest := by
    rw [List.append_assoc]
    exact (hr.takes_append _).bind (hf.takes_append rest)
  truncates_take k hk := by
    obtain ⟨part, hpart⟩ := hnone
    rcases Nat.eq_zero_or_pos k with rfl | hpos
    · refine ⟨part, hr.takes_nil.bind ?_⟩
      rw [hpart]
      exact takes_throw _ []
    · exact hr.truncates_bind hf.truncates_take hpos hk

end Read

end Switchboard.Wire
