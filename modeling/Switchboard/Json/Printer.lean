import Switchboard.Json.Basic

/-!
# Writing JSON

`Json.render` writes a value without any blank, its members in their order and
its strings with the escapes they hold.
-/

namespace Switchboard.Json

/-- The sign of a hexadecimal digit, letters in lower case. -/
def hexDigit (n : Nat) : UInt8 := (Nat.digitChar (n % 16)).toUInt8

/-- The letter or sign that names a byte after a backslash. -/
def escapeSign (b : UInt8) : UInt8 :=
  if b = 0x08 then 'b'.toUInt8
  else if b = 0x0C then 'f'.toUInt8
  else if b = 0x0A then 'n'.toUInt8
  else if b = 0x0D then 'r'.toUInt8
  else if b = 0x09 then 't'.toUInt8
  else b

/-- A piece of a string. -/
def Piece.render : Piece → List UInt8
  | .plain b => [b]
  | .short b => ['\\'.toUInt8, escapeSign b]
  | .unit u =>
    let n := u.toNat
    ['\\'.toUInt8, 'u'.toUInt8, hexDigit (n / 4096), hexDigit (n / 256), hexDigit (n / 16),
      hexDigit n]

/-- A string with its quotes. -/
def Text.render (text : Text) : List UInt8 :=
  '"'.toUInt8 :: (text.flatMap Piece.render ++ ['"'.toUInt8])

/-- A number. -/
def Number.render (n : Number) : List UInt8 :=
  let sign := if n.negative then ['-'] else []
  let fraction := if n.fraction = [] then [] else '.' :: n.fraction
  let exponent := match n.exponent with
    | none => []
    | some (negative, digits) => 'e' :: ((if negative then ['-'] else []) ++ digits)
  (sign ++ n.integer ++ fraction ++ exponent).map Char.toUInt8

/-- The bytes of a word in ASCII. -/
def word (cs : List Char) : List UInt8 := cs.map Char.toUInt8

mutual

/-- **A value as text.** -/
def render : Json → List UInt8
  | .null => word ['n', 'u', 'l', 'l']
  | .bool true => word ['t', 'r', 'u', 'e']
  | .bool false => word ['f', 'a', 'l', 's', 'e']
  | .number n => n.render
  | .string t => t.render
  | .array items => '['.toUInt8 :: renderItems items
  | .object members => '\x7b'.toUInt8 :: renderMembers members

/-- The items of an array and its closing bracket. -/
def renderItems : List Json → List UInt8
  | [] => [']'.toUInt8]
  | [item] => render item ++ [']'.toUInt8]
  | item :: next :: rest => render item ++ ','.toUInt8 :: renderItems (next :: rest)

/-- The members of an object and its closing brace. -/
def renderMembers : List (Text × Json) → List UInt8
  | [] => ['\x7d'.toUInt8]
  | [(name, value)] => name.render ++ ':'.toUInt8 :: (render value ++ ['\x7d'.toUInt8])
  | (name, value) :: next :: rest =>
    name.render ++ ':'.toUInt8 :: (render value ++ ','.toUInt8 :: renderMembers (next :: rest))

end

end Switchboard.Json
