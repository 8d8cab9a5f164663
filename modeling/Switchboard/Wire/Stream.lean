import Switchboard.Wire.Envelope

/-!
# Reading envelopes from a stream

Bytes arrive in portions that have nothing to do with envelopes. A `Stream`
holds the portions not yet taken, and `Stream.fill` takes from it again and
again until it has as many bytes as it wants or the stream ends. All readers
are built from it, so that how a stream is cut into portions makes no
difference.

A reader that meets the end of the stream before the first byte of an envelope
has nothing to report; meeting it later is `TransportError.truncated`. While a
connection is open the same two answers mean that more bytes have to arrive,
and every other answer is final. A reader that fails has taken the bytes up to
the fault: a complete word that is wrong, a length that is too large, a header
that cannot be read.
-/

namespace Switchboard.Wire

/-- The portions of a stream that have not been taken yet. -/
abbrev Stream := List (List UInt8)

namespace Stream

/-- The bytes of a stream, however it is cut. -/
def bytes (s : Stream) : List UInt8 := s.flatten

/-- **The next `n` bytes**, or all that are left, and the rest of the stream. -/
def fill : Nat → Stream → List UInt8 × Stream
  | _, [] => ([], [])
  | n, portion :: rest =>
    let front := portion.take n
    if front.length < n then
      let (more, rest) := fill (n - front.length) rest
      (front ++ more, rest)
    else (front, portion.drop n :: rest)

end Stream

/-- A reader of a stream, which may fail and says what is left in either case. -/
abbrev Read (α : Type) := ExceptT TransportError (StateM Stream) α

namespace Read

/-- The outcome of reading a stream, and what is left of it. -/
def outcome {α : Type} (r : Read α) (s : Stream) : Except TransportError α × Stream := r.run.run s

/-- The next `n` bytes, or all that are left. -/
def bytes (n : Nat) : Read (List UInt8) := fun s => (.ok (s.fill n).1, (s.fill n).2)

end Read

/-- The word that four bytes spell. -/
def wordOf (a b c d : UInt8) : UInt32 :=
  (a.toUInt32 <<< 24) ||| (b.toUInt32 <<< 16) ||| (c.toUInt32 <<< 8) ||| d.toUInt32

/-- A word, or nothing at the end of the stream. -/
def readWord (part : String) : Read (Option UInt32) := do
  match ← Read.bytes 4 with
  | [] => return none
  | [a, b, c, d] => return some (wordOf a b c d)
  | _ => throw (.truncated part)

/-- A frame, or nothing at the end of the stream. The length is looked at before any byte
of the frame is taken. -/
def readFrame : Read (Option ByteArray) := do
  match ← readWord "frame length" with
  | none => return none
  | some length =>
    if Limits.maxFrame < length.toNat then throw (.frameTooLarge length.toNat Limits.maxFrame)
    let body ← Read.bytes length.toNat
    if body.length < length.toNat then throw (.truncated "frame body")
    return some body.toByteArray

/-- A frame that has to be there. -/
def readPart (part : String) : Read ByteArray := do
  match ← readFrame with
  | none => throw (.truncated part)
  | some body => return body

/-- Header and payload of an envelope. A header that cannot be read is reported before
the payload is looked at. -/
def readEnvelope : Read (Header × ByteArray) := do
  let text ← readPart "envelope header"
  match decode? text.data.toList with
  | none => throw .header
  | some header => return (header, ← readPart "envelope payload")

/-- **The next request** with its call id, or nothing at the end of the stream. -/
def readRequest : Read (Option (UInt64 × Request)) := do
  match ← readWord "preamble" with
  | none => return none
  | some word =>
    if word ≠ Limits.preamble then throw (.protocol ("bad preamble: " ++ Text.hexWord word))
    match ← readWord "envelope magic" with
    | none => throw (.truncated "envelope magic")
    | some word =>
      if word ≠ Limits.magic then
        throw (.protocol ("bad envelope magic: expected " ++ Text.hexWord Limits.magic ++
          ", got " ++ Text.hexWord word))
      let (header, payload) ← readEnvelope
      return some (header.callId, ⟨header.comId, header.functionId, payload⟩)

/-- **The next reply**, or nothing at the end of the stream. -/
def readReply : Read (Option ReplyEnvelope) := do
  match ← readWord "envelope magic" with
  | none => return none
  | some word =>
    if word ≠ Limits.magic then throw (.protocol ("bad envelope magic: " ++ Text.hexWord word))
    let (header, payload) ← readEnvelope
    return some ⟨header, payload⟩

/-! ## Reading to the end -/

/-- **All that a stream holds**, one thing after another: what was read, the error that
ended it if any, and what is left. Reading a thing takes at least one byte of the stream,
so as many turns as there are bytes are enough. -/
def readAll {α : Type} (r : Read (Option α)) (s : Stream) :
    List α × Option TransportError × Stream :=
  go (s.bytes.length + 1) s
where
  /-- At most `turns` things. -/
  go : Nat → Stream → List α × Option TransportError × Stream
    | 0, s => ([], none, s)
    | turns + 1, s =>
      match r.outcome s with
      | (.ok none, rest) => ([], none, rest)
      | (.error e, rest) => ([], some e, rest)
      | (.ok (some a), rest) =>
        let (more, ending) := go turns rest
        (a :: more, ending)

end Switchboard.Wire
