import Switchboard.Json.Basic

/-!
# Reading JSON

`Json.parse?` reads one value with blanks around it and nothing after it. The
grammar is the strict one: no comments, no trailing commas, no leading zeros,
no raw control characters in strings. Nothing is asked of what a string or a
number means, and nesting has no limit.

The readers of parts take their part off the front of the bytes that remain
and hand back the rest. Values, items and members call one another, and each
of these calls uses up one unit of fuel. Two units for every byte are enough:
of two calls in a row at most one consumes nothing.
-/

namespace Switchboard.Json

/-- Space, tab, line feed and carriage return. -/
def isBlank (b : UInt8) : Bool := b == 0x20 || b == 0x09 || b == 0x0A || b == 0x0D

/-- The bytes from the first that is no blank. -/
def skipBlanks (s : List UInt8) : List UInt8 := s.dropWhile isBlank

/-! ## Strings -/

/-- The value of a hexadecimal digit. -/
def hexValue? (b : UInt8) : Option UInt16 :=
  if 0x30 ≤ b ∧ b ≤ 0x39 then some (b - 0x30).toUInt16
  else if 0x41 ≤ b ∧ b ≤ 0x46 then some (b - 0x37).toUInt16
  else if 0x61 ≤ b ∧ b ≤ 0x66 then some (b - 0x57).toUInt16
  else none

/-- The code that four hexadecimal digits spell. -/
def hexCode? (a b c d : UInt8) : Option UInt16 := do
  return ((← hexValue? a) * 16 + (← hexValue? b)) * 256 + (← hexValue? c) * 16 + (← hexValue? d)

/-- The byte that a letter or sign stands for after a backslash. -/
def escapedByte? (sign : UInt8) : Option UInt8 :=
  match Char.ofUInt8 sign with
  | '"' | '\\' | '/' => some sign
  | 'b' => some 0x08
  | 'f' => some 0x0C
  | 'n' => some 0x0A
  | 'r' => some 0x0D
  | 't' => some 0x09
  | _ => none

/-- **The pieces of a string** up to its closing quote, after those in `done`, which
are kept from the last to the first. -/
def takeText (done : Text) : List UInt8 → Option (Text × List UInt8)
  | [] => none
  | b :: rest =>
    match Char.ofUInt8 b with
    | '"' => some (done.reverse, rest)
    | '\\' =>
      match rest with
      | [] => none
      | sign :: rest =>
        if sign = 'u'.toUInt8 then
          match rest with
          | h₁ :: h₂ :: h₃ :: h₄ :: rest =>
            match hexCode? h₁ h₂ h₃ h₄ with
            | some code => takeText (.unit code :: done) rest
            | none => none
          | _ => none
        else
          match escapedByte? sign with
          | some byte => takeText (.short byte :: done) rest
          | none => none
    | _ => if b < 0x20 then none else takeText (.plain b :: done) rest

/-! ## Numbers -/

/-- A decimal digit. -/
def isDigit (b : UInt8) : Bool := 0x30 ≤ b && b ≤ 0x39

/-- The decimal digits at the front, and the rest. -/
def takeDigits (s : List UInt8) : List Char × List UInt8 :=
  ((s.takeWhile isDigit).map Char.ofUInt8, s.dropWhile isDigit)

/-- A minus sign at the front, and the rest. -/
def takeMinus : List UInt8 → Bool × List UInt8
  | b :: rest => if b = '-'.toUInt8 then (true, rest) else (false, b :: rest)
  | [] => (false, [])

/-- The digits after a point, of which there is at least one; none without a point. -/
def takeFraction : List UInt8 → Option (List Char × List UInt8)
  | [] => some ([], [])
  | b :: rest =>
    if b = '.'.toUInt8 then
      let (digits, rest) := takeDigits rest
      if digits = [] then none else some (digits, rest)
    else some ([], b :: rest)

/-- The sign of an exponent, where a plus sign may stand too. -/
def takeSign : List UInt8 → Bool × List UInt8
  | b :: rest => if b = '+'.toUInt8 then (false, rest) else takeMinus (b :: rest)
  | [] => (false, [])

/-- An exponent, which has at least one digit; none without its letter. -/
def takeExponent : List UInt8 → Option (Option (Bool × List Char) × List UInt8)
  | [] => some (none, [])
  | b :: rest =>
    if b = 'e'.toUInt8 ∨ b = 'E'.toUInt8 then
      let (negative, rest) := takeSign rest
      let (digits, rest) := takeDigits rest
      if digits = [] then none else some (some (negative, digits), rest)
    else some (none, b :: rest)

/-- A number: its whole part has a digit, and no zero in front of another. -/
def takeNumber (s : List UInt8) : Option (Number × List UInt8) :=
  let (negative, s) := takeMinus s
  let (integer, s) := takeDigits s
  if integer = [] ∨ (integer.head? = some '0' ∧ integer.length ≠ 1) then none
  else do
    let (fraction, s) ← takeFraction s
    let (exponent, s) ← takeExponent s
    return (⟨negative, integer, fraction, exponent⟩, s)

/-! ## Values -/

/-- What follows a word that has to stand at the front. -/
def takeWord : List Char → List UInt8 → Option (List UInt8)
  | [], s => some s
  | _ :: _, [] => none
  | c :: cs, b :: s => if b = c.toUInt8 then takeWord cs s else none

/-- What follows a sign that has to stand at the front, after blanks. -/
def takeSymbol (c : Char) (s : List UInt8) : Option (List UInt8) := takeWord [c] (skipBlanks s)

mutual

/-- **A value**, blanks in front of it skipped. -/
def takeValue : Nat → List UInt8 → Option (Json × List UInt8)
  | 0, _ => none
  | fuel + 1, s =>
    match skipBlanks s with
    | [] => none
    | b :: rest =>
      match Char.ofUInt8 b with
      | '"' => (takeText [] rest).map fun (text, rest) => (.string text, rest)
      | '[' =>
        match takeSymbol ']' rest with
        | some rest => some (.array [], rest)
        | none => (takeItems fuel rest).map fun (items, rest) => (.array items, rest)
      | '\x7b' =>
        match takeSymbol '\x7d' rest with
        | some rest => some (.object [], rest)
        | none => (takeMembers fuel rest).map fun (members, rest) => (.object members, rest)
      | 'n' => (takeWord ['u', 'l', 'l'] rest).map (.null, ·)
      | 't' => (takeWord ['r', 'u', 'e'] rest).map (.bool true, ·)
      | 'f' => (takeWord ['a', 'l', 's', 'e'] rest).map (.bool false, ·)
      | _ => (takeNumber (b :: rest)).map fun (n, rest) => (.number n, rest)

/-- The items of an array up to its closing bracket; there is at least one. -/
def takeItems : Nat → List UInt8 → Option (List Json × List UInt8)
  | 0, _ => none
  | fuel + 1, s => do
    let (item, s) ← takeValue fuel s
    match takeSymbol ',' s with
    | some s =>
      let (items, s) ← takeItems fuel s
      return (item :: items, s)
    | none => return ([item], ← takeSymbol ']' s)

/-- The members of an object up to its closing brace; there is at least one. -/
def takeMembers : Nat → List UInt8 → Option (List (Text × Json) × List UInt8)
  | 0, _ => none
  | fuel + 1, s => do
    let (name, s) ← takeText [] (← takeSymbol '"' s)
    let (value, s) ← takeValue fuel (← takeSymbol ':' s)
    match takeSymbol ',' s with
    | some s =>
      let (members, s) ← takeMembers fuel s
      return ((name, value) :: members, s)
    | none => return ([(name, value)], ← takeSymbol '\x7d' s)

end

/-- **The value a text is**, blanks around it allowed and nothing else. -/
def parse? (s : List UInt8) : Option Json := do
  let (value, rest) ← takeValue (2 * s.length + 2) s
  if skipBlanks rest = [] then some value else none

end Switchboard.Json
