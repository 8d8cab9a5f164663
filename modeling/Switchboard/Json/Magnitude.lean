import Switchboard.Json.Basic

/-!
# Numbers that fit a double

A value that is kept for later instead of being skipped has its numbers turned
into machine numbers, and one whose magnitude no double can hold is refused.
`Number.isFinite` decides that with whole numbers alone. It follows the digits
as they are gathered: into a word of 64 bits as long as that holds them, and
beyond that only their number counts; the word is then rounded to a double,
scaled by a power of ten that is itself rounded, and the product must stay
below the point from which doubles round to infinity.
-/

namespace Switchboard.Json.Number

/-- The digits gathered so far: a word, the power of ten it is to be scaled by, and
whether the word has run full. -/
structure Gathered where
  word : Nat
  scale : Int
  full : Bool

/-- The least number that a word of 64 bits cannot hold. -/
def wordLimit : Nat := UInt64.size

/-- One more digit of the whole part. Digits that no longer fit multiply by ten. -/
def Gathered.whole (g : Gathered) (c : Char) : Gathered :=
  let next := 10 * g.word + (c.toNat - '0'.toNat)
  if g.full ∨ wordLimit ≤ next then { g with scale := g.scale + 1, full := true }
  else { g with word := next }

/-- One more digit after the point. Digits that no longer fit are dropped. -/
def Gathered.part (g : Gathered) (c : Char) : Gathered :=
  let next := 10 * g.word + (c.toNat - '0'.toNat)
  if g.full ∨ wordLimit ≤ next then { g with full := true }
  else { g with word := next, scale := g.scale - 1 }

/-- A natural number rounded to 53 significant bits, a half to the even neighbour. -/
def roundNat (n : Nat) : Nat :=
  let drop := n.log2 - 52
  let unit := 1 <<< drop
  let low := n / unit
  let rest := 2 * (n % unit)
  (if rest < unit ∨ (rest = unit ∧ low % 2 = 0) then low else low + 1) * unit

/-- From here on numbers round to infinity. -/
def infinite : Nat := (1 <<< 1024) - (1 <<< 970)

/-- Whether a word scaled by a power of ten stays finite. -/
def fits (word : Nat) (scale : Int) : Bool :=
  word == 0 || scale < 0 ||
    (scale ≤ 308 && roundNat word * roundNat (Nat.pow 10 scale.toNat) < infinite)

/-- An exponent so large that larger ones make no difference. -/
def maxExponent : Nat := 1 <<< 31

/-- **Whether the number is finite as a double.** A number without point and exponent
that fits a word needs no double at all. -/
def isFinite (n : Number) : Bool :=
  let whole := n.integer.foldl Gathered.whole ⟨0, 0, false⟩
  let g := n.fraction.foldl Gathered.part { whole with full := false }
  match n.exponent with
  | none => fits g.word g.scale
  | some (negative, digits) =>
    let size : Int := Text.valueUpTo maxExponent digits
    fits g.word (if negative then g.scale - size else g.scale + size)

end Switchboard.Json.Number
