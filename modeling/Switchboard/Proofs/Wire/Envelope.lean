import Switchboard.Proofs.Wire.Header
import Switchboard.Proofs.Wire.Reader

/-!
# Envelopes are read back as written

An envelope whose header and payload fit their frames (`Fits`) is written
without a failure, and the readers of requests and replies offer exactly what
was written: `offers_request` and `offers_envelope` say so of the whole
envelope and of every place at which it may be cut.

They are put together from the parts of an envelope in the order in which they
stand there. A word is cut inside its four bytes or not at all; a frame is cut
in its length or in its body; the rest is `Read.Parses.bind`.
-/

namespace Switchboard.Wire

open Read

/-! ## Words -/

theorem or_or_or_eq_add {b c d : Nat} (a : Nat) (hb : b < 256) (hc : c < 256) (hd : d < 256) :
    a * 16777216 ||| b * 65536 ||| c * 256 ||| d = a * 16777216 + b * 65536 + c * 256 + d := by
  have h₁ : 2 ^ 24 * a ||| b * 65536 = 2 ^ 16 * (256 * a + b) := by
    rw [← Nat.two_pow_add_eq_or_of_lt (by omega)]
    omega
  have h₂ : 2 ^ 16 * (256 * a + b) ||| c * 256 = 2 ^ 8 * (256 * (256 * a + b) + c) := by
    rw [← Nat.two_pow_add_eq_or_of_lt (by omega)]
    omega
  have h₃ : 2 ^ 8 * (256 * (256 * a + b) + c) ||| d = 2 ^ 8 * (256 * (256 * a + b) + c) + d := by
    rw [← Nat.two_pow_add_eq_or_of_lt (by omega)]
  rw [show a * 16777216 = 2 ^ 24 * a by omega, h₁, h₂, h₃]
  omega

theorem toNat_wordOf (a b c d : UInt8) : (wordOf a b c d).toNat
    = a.toNat * 16777216 + b.toNat * 65536 + c.toNat * 256 + d.toNat := by
  have ha := a.toNat_lt
  have hb := b.toNat_lt
  have hc := c.toNat_lt
  have hd := d.toNat_lt
  rw [← or_or_or_eq_add a.toNat hb hc hd]
  simp only [wordOf, UInt32.toNat_or, UInt32.toNat_shiftLeft, UInt8.toNat_toUInt32,
    Nat.shiftLeft_eq, UInt32.reduceToNat, Nat.reduceMod, Nat.reducePow]
  rw [Nat.mod_eq_of_lt (by omega : a.toNat * 16777216 < 4294967296),
    Nat.mod_eq_of_lt (by omega : b.toNat * 65536 < 4294967296),
    Nat.mod_eq_of_lt (by omega : c.toNat * 256 < 4294967296)]

/-- The four bytes of a word spell it. -/
theorem wordOf_shiftRight (w : UInt32) :
    wordOf (w >>> 24).toUInt8 (w >>> 16).toUInt8 (w >>> 8).toUInt8 w.toUInt8 = w := by
  have hw := w.toNat_lt
  refine UInt32.toNat_inj.mp ?_
  simp only [toNat_wordOf, UInt32.toNat_toUInt8, UInt32.toNat_shiftRight, UInt32.reduceToNat,
    Nat.reduceMod, Nat.shiftRight_eq_div_pow, Nat.reducePow]
  omega

/-- Four bytes are those of the word that they spell. -/
theorem wordBytes_wordOf (a b c d : UInt8) : wordBytes (wordOf a b c d) = [a, b, c, d] := by
  have ha := a.toNat_lt
  have hb := b.toNat_lt
  have hc := c.toNat_lt
  have hd := d.toNat_lt
  simp only [wordBytes, List.cons.injEq, and_true, ← UInt8.toNat_inj, UInt32.toNat_toUInt8,
    UInt32.toNat_shiftRight, toNat_wordOf, UInt32.reduceToNat, Nat.reduceMod,
    Nat.shiftRight_eq_div_pow, Nat.reducePow]
  omega

/-- **A word is offered as it was written.** -/
theorem offers_word (part : String) (w : UInt32) : Offers (readWord part) (wordBytes w) w where
  whole_ne_nil := List.cons_ne_nil _ _
  takes_nil := by
    unfold readWord
    exact (takes_bytes 4 []).bind (takes_pure none [])
  takes_append rest := by
    unfold readWord
    refine (takes_bytes 4 (wordBytes w ++ rest)).bind ?_
    show Takes (pure (some (wordOf (w >>> 24).toUInt8 (w >>> 16).toUInt8 (w >>> 8).toUInt8
      w.toUInt8))) rest _ _
    rw [wordOf_shiftRight]
    exact takes_pure (some w) rest
  truncates_take k hpos hk := by
    have hlength : k < 4 := hk
    unfold readWord
    refine ⟨part, (takes_bytes 4 _).bind ?_⟩
    obtain rfl | rfl | rfl : k = 1 ∨ k = 2 ∨ k = 3 := by omega
    all_goals exact takes_throw _ _

/-! ## Frames -/

/-- The bytes of a frame. -/
def frameBytes (body : ByteArray) : List UInt8 :=
  wordBytes (UInt32.ofNat body.size) ++ body.data.toList

theorem writeFrame_of_le {body : ByteArray} (h : body.size ≤ Limits.maxFrame) :
    writeFrame body = .just (frameBytes body) :=
  if_neg (Nat.not_lt.mpr h)

theorem toNat_ofNat_size {body : ByteArray} (h : body.size ≤ Limits.maxFrame) :
    (UInt32.ofNat body.size).toNat = body.size :=
  UInt32.toNat_ofNat_of_lt' (Nat.lt_of_le_of_lt h (by decide))

theorem toByteArray_toList (body : ByteArray) : body.data.toList.toByteArray = body :=
  ByteArray.ext (by rw [List.data_toByteArray, Array.toArray_toList])

/-- What is read of a frame when its length has been read. -/
def readBody (length : UInt32) : Read (Option ByteArray) :=
  if Limits.maxFrame < length.toNat then throw (.frameTooLarge length.toNat Limits.maxFrame)
  else do
    let body ← Read.bytes length.toNat
    if body.length < length.toNat then throw (.truncated "frame body")
    return some body.toByteArray

theorem readFrame_eq : readFrame = (do
    match ← readWord "frame length" with
    | none => return none
    | some length => readBody length) := by
  unfold readFrame readBody
  refine congrArg _ (funext fun o => ?_)
  cases o with
  | none => rfl
  | some length =>
    by_cases h : Limits.maxFrame < length.toNat
    · simp only [if_pos h]
      rfl
    · simp only [if_neg h]

/-- The body of a frame is read as far as its length says. -/
theorem parses_body {body : ByteArray} (h : body.size ≤ Limits.maxFrame) :
    Parses (readBody (UInt32.ofNat body.size)) body.data.toList (some body) where
  takes_append rest := by
    have hlength : body.data.toList.length = body.size := Array.length_toList
    unfold readBody
    rw [toNat_ofNat_size h, if_neg (Nat.not_lt.mpr h)]
    refine (takes_bytes body.size _).bind ?_
    rw [← hlength, List.take_left, List.drop_left, if_neg (Nat.lt_irrefl _), toByteArray_toList]
    exact takes_pure (some body) rest
  truncates_take k hk := by
    have hlt : k < body.size := by rwa [Array.length_toList] at hk
    have hlength : (body.data.toList.take k).length = k :=
      List.length_take_of_le (Nat.le_of_lt hk)
    unfold readBody
    rw [toNat_ofNat_size h, if_neg (Nat.not_lt.mpr h)]
    refine ⟨"frame body", (takes_bytes body.size _).bind ?_⟩
    rw [List.take_of_length_le (by omega), List.drop_of_length_le (by omega), hlength, if_pos hlt]
    exact takes_throw _ _

/-- **A frame is offered as it was written.** -/
theorem offers_frame {body : ByteArray} (h : body.size ≤ Limits.maxFrame) :
    Offers readFrame (frameBytes body) body := by
  rw [readFrame_eq]
  exact (offers_word "frame length" _).bind rfl (parses_body h)

/-- A frame that has to be there is a part. -/
theorem parses_part (part : String) {body : ByteArray} (h : body.size ≤ Limits.maxFrame) :
    Parses (readPart part) (frameBytes body) body := by
  unfold readPart
  rw [← List.append_nil (frameBytes body)]
  exact (offers_frame h).parses ⟨part, rfl⟩ (parses_pure body)

/-! ## Header and payload -/

/-- **An envelope that can be written**: its header and its payload each fit a frame. -/
structure Fits (header : Header) (payload : ByteArray) : Prop where
  header_le : (encode header).length ≤ Limits.maxFrame
  payload_le : payload.size ≤ Limits.maxFrame

instance (header : Header) (payload : ByteArray) : Decidable (Fits header payload) :=
  decidable_of_iff ((encode header).length ≤ Limits.maxFrame ∧ payload.size ≤ Limits.maxFrame)
    ⟨fun h => ⟨h.1, h.2⟩, fun h => ⟨h.1, h.2⟩⟩

/-- The two frames of an envelope. -/
def contentBytes (header : Header) (payload : ByteArray) : List UInt8 :=
  frameBytes (encode header).toByteArray ++ frameBytes payload

theorem Fits.size_le {header : Header} {payload : ByteArray} (h : Fits header payload) :
    (encode header).toByteArray.size ≤ Limits.maxFrame := by
  rw [List.size_toByteArray]
  exact h.header_le

theorem writeEnvelope_of_fits {header : Header} {payload : ByteArray} (h : Fits header payload) :
    writeEnvelope header payload
      = .just (wordBytes Limits.magic ++ contentBytes header payload) := by
  rw [writeEnvelope, writeFrame_of_le h.size_le, writeFrame_of_le h.payload_le]
  rfl

/-- Two frames are read as an envelope if the first one holds the text of a header. -/
theorem parses_frames {text payload : ByteArray} {header : Header}
    (htext : text.size ≤ Limits.maxFrame) (hheader : decode? text.data.toList = some header)
    (hpayload : payload.size ≤ Limits.maxFrame) :
    Parses readEnvelope (frameBytes text ++ frameBytes payload) (header, payload) := by
  unfold readEnvelope
  refine (parses_part "envelope header" htext).bind ?_
  rw [hheader]
  exact (parses_part "envelope payload" hpayload).bind_pure rfl

/-- The header and the payload of an envelope are read back. -/
theorem parses_content {header : Header} {payload : ByteArray} (h : Fits header payload) :
    Parses readEnvelope (contentBytes header payload) (header, payload) :=
  parses_frames h.size_le (by rw [List.toList_data_toByteArray, decode?_encode]) h.payload_le

/-! ## Requests and replies -/

/-- A request is written whole if it fits. -/
theorem writeRequest_of_fits {callId : UInt64} {request : Request}
    (h : Fits (request.header callId) request.payload) :
    writeRequest callId request = .just (wordBytes Limits.preamble ++
      (wordBytes Limits.magic ++ contentBytes (request.header callId) request.payload)) := by
  rw [writeRequest, writeEnvelope_of_fits h]
  rfl

/-- What is read of a request behind its preamble. -/
def readMarked : Read (Option (UInt64 × Request)) := do
  match ← readWord "envelope magic" with
  | none => throw (.truncated "envelope magic")
  | some word =>
    if word ≠ Limits.magic then
      throw (.protocol ("bad envelope magic: expected " ++ Text.hexWord Limits.magic ++
        ", got " ++ Text.hexWord word))
    else do
      let (header, payload) ← readEnvelope
      return some (header.callId, ⟨header.comId, header.functionId, payload⟩)

theorem readRequest_eq : readRequest = (do
    match ← readWord "preamble" with
    | none => return none
    | some word =>
      if word ≠ Limits.preamble then throw (.protocol ("bad preamble: " ++ Text.hexWord word))
      else readMarked) := by
  unfold readRequest readMarked
  refine congrArg _ (funext fun o => ?_)
  cases o with
  | none => rfl
  | some word =>
    by_cases hword : word ≠ Limits.preamble
    · simp only [if_pos hword]
      rfl
    · simp only [if_neg hword]
      refine congrArg _ (funext fun o => ?_)
      cases o with
      | none => rfl
      | some word =>
        by_cases hword : word ≠ Limits.magic
        · simp only [if_pos hword]
          rfl
        · simp only [if_neg hword]

/-- An envelope behind the two words of a request is offered as one. -/
theorem offers_marked {content : List UInt8} {header : Header} {payload : ByteArray}
    (h : Parses readEnvelope content (header, payload)) :
    Offers readRequest (wordBytes Limits.preamble ++ (wordBytes Limits.magic ++ content))
      (header.callId, ⟨header.comId, header.functionId, payload⟩) := by
  have hmarked : Parses readMarked (wordBytes Limits.magic ++ content)
      (some (header.callId, ⟨header.comId, header.functionId, payload⟩)) := by
    unfold readMarked
    refine (offers_word "envelope magic" Limits.magic).parses ⟨_, rfl⟩ ?_
    dsimp only
    rw [if_neg (not_not_intro rfl)]
    exact h.bind_pure rfl
  rw [readRequest_eq]
  refine (offers_word "preamble" Limits.preamble).bind rfl ?_
  dsimp only
  rw [if_neg (not_not_intro rfl)]
  exact hmarked

/-- **A request is offered as it was written.** -/
theorem offers_request {callId : UInt64} {request : Request}
    (h : Fits (request.header callId) request.payload) :
    Offers readRequest (writeRequest callId request).bytes (callId, request) := by
  rw [writeRequest_of_fits h]
  exact offers_marked (parses_content h)

theorem readReply_eq : readReply = (do
    match ← readWord "envelope magic" with
    | none => return none
    | some word =>
      if word ≠ Limits.magic then throw (.protocol ("bad envelope magic: " ++ Text.hexWord word))
      else do
        let (header, payload) ← readEnvelope
        return some ⟨header, payload⟩) := by
  unfold readReply
  refine congrArg _ (funext fun o => ?_)
  cases o with
  | none => rfl
  | some word =>
    by_cases hword : word ≠ Limits.magic
    · simp only [if_pos hword]
      rfl
    · simp only [if_neg hword]

/-- An envelope behind the word of a reply is offered as one. -/
theorem offers_unmarked {content : List UInt8} {header : Header} {payload : ByteArray}
    (h : Parses readEnvelope content (header, payload)) :
    Offers readReply (wordBytes Limits.magic ++ content) ⟨header, payload⟩ := by
  rw [readReply_eq]
  refine (offers_word "envelope magic" Limits.magic).bind rfl ?_
  dsimp only
  rw [if_neg (not_not_intro rfl)]
  exact h.bind_pure rfl

/-- **An envelope without a preamble is offered as it was written**, whatever its header. -/
theorem offers_envelope {header : Header} {payload : ByteArray} (h : Fits header payload) :
    Offers readReply (writeEnvelope header payload).bytes ⟨header, payload⟩ := by
  rw [writeEnvelope_of_fits h]
  exact offers_unmarked (parses_content h)

end Switchboard.Wire
