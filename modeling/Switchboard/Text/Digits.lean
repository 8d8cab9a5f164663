/-!
# Numbers from digits

Whoever writes a number can write as many digits as they like, but numbers are
only of use here below some limit. `Text.valueUpTo` reads digits without ever
holding a number above the limit, so that it takes no longer for each digit
when there are many. What it reads is the value of the digits or the limit,
whichever is smaller.
-/

namespace Switchboard.Text

/-- The value of a digit. -/
def digitValue (c : Char) : Nat := c.toNat - '0'.toNat

/-- **The value of decimal digits**, or `limit` if it is larger. -/
def valueUpTo (limit : Nat) (digits : List Char) : Nat :=
  digits.foldl (fun n c => min limit (10 * n + digitValue c)) 0

/-- Digits that follow a number that was cut at the limit follow the number itself. -/
theorem foldl_min_eq (limit : Nat) (digits : List Char) (n : Nat) :
    digits.foldl (fun n c => min limit (10 * n + digitValue c)) (min limit n) =
      min limit (Nat.ofDigitChars 10 digits n) := by
  induction digits generalizing n with
  | nil => rfl
  | cons c rest ih =>
    rw [List.foldl_cons, Nat.ofDigitChars_cons, ← digitValue, ← ih]
    congr 1
    omega

/-- Reading up to a limit is reading everything and then cutting at the limit. -/
theorem valueUpTo_eq_min (limit : Nat) (digits : List Char) :
    valueUpTo limit digits = min limit (Nat.ofDigitChars 10 digits 0) := by
  rw [← foldl_min_eq, Nat.min_zero]
  rfl

end Switchboard.Text
