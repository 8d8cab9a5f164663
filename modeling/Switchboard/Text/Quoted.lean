import Switchboard.Text.Hidden

/-!
# Quoted texts

A message quotes a text so that its beginning and end, and every character in
between, can be told from the message alone: quotes and backslashes are
escaped, and so is every character that does not show.
-/

namespace Switchboard.Text

/-- A number in hexadecimal, in lower case and without leading zeros. -/
def hexNat (n : Nat) : List Char := Nat.toDigits 16 n

/-- A word in hexadecimal, with all eight digits. -/
def hexWord (w : UInt32) : String :=
  let digits := hexNat w.toNat
  "0x" ++ String.ofList (List.replicate (8 - digits.length) '0' ++ digits)

/-- A character as it stands in a quoted text. -/
def quotedChar (c : Char) : List Char :=
  match c with
  | '\x00' => ['\\', '0']
  | '\t' => ['\\', 't']
  | '\r' => ['\\', 'r']
  | '\n' => ['\\', 'n']
  | '"' => ['\\', '"']
  | '\\' => ['\\', '\\']
  | c => if isHidden c then ['\\', 'u', '\x7b'] ++ hexNat c.toNat ++ ['\x7d'] else [c]

/-- **A text in quotes.** -/
def quoted (s : String) : String :=
  String.ofList ('"' :: (s.toList.flatMap quotedChar ++ ['"']))

/-- A text that may be absent, quoted if it is there. -/
def quotedOption : Option String → String
  | none => "None"
  | some s => "Some(" ++ quoted s ++ ")"

end Switchboard.Text
