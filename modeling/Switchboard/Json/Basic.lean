import Switchboard.Text.Digits

/-!
# JSON values as written

The headers of envelopes and the payloads of calls are JSON. A value is kept
as it was written: a number with its digits, a string with its escapes, an
object with its members in order and possibly with a name twice. Most of what
a reader meets it skips, and what it skips has to be well formed but need not
mean anything: a string may hold half of a surrogate pair or bytes that are no
UTF-8, a number may be too large for any machine. Meaning is given afterwards,
where a value is used – to strings by `Text.string?`, to numbers by
`Number.int?`.
-/

namespace Switchboard

namespace Json

/-! ## Strings -/

/-- One piece of a string between its quotes. -/
inductive Piece where
  /-- A byte that stands for itself. -/
  | plain (byte : UInt8)
  /-- A backslash and one letter or sign, kept as the byte it stands for. -/
  | short (byte : UInt8)
  /-- A backslash, the letter `u` and four hexadecimal digits. -/
  | unit (code : UInt16)
deriving DecidableEq, Repr, Inhabited

/-- A string as it stands between its quotes. -/
abbrev Text := List Piece

namespace Text

/-- The first half of a surrogate pair. -/
def isHigh (code : UInt16) : Bool := 0xD800 ≤ code && code < 0xDC00

/-- The second half of a surrogate pair. -/
def isLow (code : UInt16) : Bool := 0xDC00 ≤ code && code < 0xE000

/-- The character that the two halves of a surrogate pair make. -/
def pairChar (high low : UInt16) : Char :=
  Char.ofNat (0x10000 + (high.toNat - 0xD800) * 0x400 + (low.toNat - 0xDC00))

/-- **The bytes a string stands for**, put in front of `done` from the last to the
first and handed out in order at the end. There are none if half of a surrogate
pair stands alone. -/
def bytesAfter (done : List UInt8) : Text → Option (List UInt8)
  | [] => some done.reverse
  | .plain b :: rest => bytesAfter (b :: done) rest
  | .short b :: rest => bytesAfter (b :: done) rest
  | [.unit u] =>
    if isHigh u || isLow u then none
    else some (done.reverse ++ String.utf8EncodeChar (Char.ofNat u.toNat))
  | .unit u :: next :: rest =>
    if isHigh u then
      match next with
      | .unit v =>
        if isLow v then bytesAfter ((String.utf8EncodeChar (pairChar u v)).reverse ++ done) rest
        else none
      | _ => none
    else if isLow u then none
    else bytesAfter ((String.utf8EncodeChar (Char.ofNat u.toNat)).reverse ++ done) (next :: rest)

/-- The bytes a string stands for. -/
def bytes? (text : Text) : Option (List UInt8) := bytesAfter [] text

/-- The text a string stands for; none if its bytes are no UTF-8. -/
def string? (text : Text) : Option String := do
  String.fromUTF8? (← text.bytes?).toByteArray

/-- The piece that stands for a byte: itself, unless it is a quote, a backslash or a
control character. -/
def pieceOf (b : UInt8) : Piece :=
  if b = 0x22 ∨ b = 0x5C ∨ b = 0x08 ∨ b = 0x0C ∨ b = 0x0A ∨ b = 0x0D ∨ b = 0x09 then .short b
  else if b < 0x20 then .unit b.toUInt16
  else .plain b

/-- A text as a string: escaped where it must be and nowhere else. -/
def ofString (s : String) : Text := s.toByteArray.data.toList.map pieceOf

end Text

/-! ## Numbers -/

/-- A number as written, in decimal digits. -/
structure Number where
  negative : Bool
  integer : List Char
  /-- The digits after the point; none when there is no point. -/
  fraction : List Char
  /-- Whether the exponent is negative, and its digits. -/
  exponent : Option (Bool × List Char)
deriving DecidableEq, Repr, Inhabited

namespace Number

/-- The whole number `n`. -/
def ofInt (n : Int) : Number := ⟨n < 0, Nat.toDigits 10 n.natAbs, [], none⟩

/-- The size of a whole number that is too large for a word of 64 bits. -/
def tooLarge : Nat := UInt64.size

/-- The whole number a number is *written* as. A point or an exponent makes it
another kind of number, so does the sign of `-0`, and so does a size for which
no word has room. -/
def int? (n : Number) : Option Int :=
  if n.fraction ≠ [] ∨ n.exponent.isSome ∨ (n.negative ∧ n.integer = ['0']) then none
  else
    let size := Text.valueUpTo tooLarge n.integer
    if size = tooLarge then none else some (if n.negative then -(size : Int) else size)

end Number

end Json

/-! ## Values -/

/-- **A JSON value.** -/
inductive Json where
  | null
  | bool (value : Bool)
  | number (value : Json.Number)
  | string (value : Json.Text)
  | array (items : List Json)
  | object (members : List (Json.Text × Json))
deriving Repr, Inhabited

namespace Json

/-- The value of a text. -/
def ofString (s : String) : Json := .string (.ofString s)

/-- The value of a whole number. -/
def ofInt (n : Int) : Json := .number (.ofInt n)

/-- An object with the given names, in order. -/
def ofFields (fields : List (String × Json)) : Json :=
  .object (fields.map fun (name, value) => (.ofString name, value))

/-- The text that a value is. -/
def string? : Json → Option String
  | .string text => text.string?
  | _ => none

/-- The truth value that a value is. -/
def bool? : Json → Option Bool
  | .bool b => some b
  | _ => none

/-- The whole number between `low` and `high` that a value is. -/
def intBetween? (low high : Int) : Json → Option Int
  | .number n => n.int?.filter fun i => low ≤ i && i ≤ high
  | _ => none

end Json

end Switchboard
