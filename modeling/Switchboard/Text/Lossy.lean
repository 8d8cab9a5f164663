/-!
# Bytes read as text

Bytes that are meant as text need not be UTF-8. `Text.ofBytes` reads them
nevertheless: what is no character is replaced by one that stands for what
cannot be read. A byte that begins a character is taken together with the bytes
that continue it, as far as they do; if they do not reach its end, one
replacement stands for them all. A byte that begins nothing is replaced alone.
-/

namespace Switchboard.Text

/-- The range of the bytes that continue any character. -/
def continuing : UInt8 × UInt8 := (0x80, 0xBF)

/-- **The ranges of the bytes that have to follow a byte** for the two together to be a
character. The first range is narrower where the character would have a shorter form, lie
between the planes, or behind the last one. -/
def continuations (lead : UInt8) : Option (List (UInt8 × UInt8)) :=
  if lead < 0x80 then some []
  else if lead < 0xC2 then none
  else if lead < 0xE0 then some [continuing]
  else if lead = 0xE0 then some [(0xA0, 0xBF), continuing]
  else if lead = 0xED then some [(0x80, 0x9F), continuing]
  else if lead < 0xF0 then some [continuing, continuing]
  else if lead = 0xF0 then some [(0x90, 0xBF), continuing, continuing]
  else if lead < 0xF4 then some [continuing, continuing, continuing]
  else if lead = 0xF4 then some [(0x80, 0x8F), continuing, continuing]
  else none

/-- How many bytes at the front lie in the ranges, one after the other. -/
def fitting : List (UInt8 × UInt8) → List UInt8 → Nat
  | (low, high) :: ranges, b :: rest => if low ≤ b ∧ b ≤ high then fitting ranges rest + 1 else 0
  | _, _ => 0

/-- The bytes of the character that stands for what cannot be read. -/
def replacement : List UInt8 := [0xEF, 0xBF, 0xBD]

/-- The bytes with all that is no character replaced. -/
def mended : List UInt8 → List UInt8
  | [] => []
  | lead :: rest =>
    match continuations lead with
    | none => replacement ++ mended rest
    | some ranges =>
      let n := fitting ranges rest
      let character := if n = ranges.length then lead :: rest.take n else replacement
      character ++ mended (rest.drop n)
termination_by bs => bs.length

/-- **The text that bytes are meant to be.** -/
def ofBytes (b : ByteArray) : String :=
  match String.fromUTF8? b with
  | some s => s
  | none => (String.fromUTF8? (mended b.data.toList).toByteArray).getD ""

end Switchboard.Text
