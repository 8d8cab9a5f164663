import Switchboard.Proofs.Wire.Envelope

/-!
# What readers decide

A reader comes to one of three verdicts. A thing stands at the front of the
bytes, whole; or there are no bytes; or something is wrong with them, and then
it is the first fault that counts. Here all of this is said without a reader.

`IsRequest`, `IsReply` and `IsFrame` say which bytes are which whole thing. A
request is two words and two frames that are not too large, the first of which
holds the text of a header. `RequestFault bytes e rest` holds if the bytes go as
in a request up to a place where they go otherwise, the error is the one of that
place, and `rest` are the bytes behind what has to be looked at to see it. A
length that is too large is seen before any byte of the frame, a header that
cannot be read before any byte of the payload.

`Read.Decides` says that a reader comes to these verdicts and to no others,
however its stream is cut. It holds of all three readers of this library
(`readers_decide`). Each direction follows the format: a fault is found where it
is (`RequestFault.takes`), and bytes without a whole thing have a fault
(`request_total`). Since a reader comes to one verdict only, there is nothing
more to show.
-/

namespace Switchboard.Wire

open Read

/-! ## Whole things -/

/-- **A well-formed frame**, and its body. -/
inductive IsFrame : List UInt8 → ByteArray → Prop where
  | intro (body : ByteArray) (body_le : body.size ≤ Limits.maxFrame) :
      IsFrame (frameBytes body) body

/-- **A well-formed request envelope**: the bytes of one, and the request with its call id. -/
inductive IsRequest : List UInt8 → UInt64 × Request → Prop where
  | intro (text payload : ByteArray) (header : Header)
      (text_le : text.size ≤ Limits.maxFrame) (payload_le : payload.size ≤ Limits.maxFrame)
      (header_eq : decode? text.data.toList = some header) :
      IsRequest
        (wordBytes Limits.preamble ++
          (wordBytes Limits.magic ++ (frameBytes text ++ frameBytes payload)))
        (header.callId, ⟨header.comId, header.functionId, payload⟩)

/-- **A well-formed reply envelope**: as that of a request, without the preamble. -/
inductive IsReply : List UInt8 → ReplyEnvelope → Prop where
  | intro (text payload : ByteArray) (header : Header)
      (text_le : text.size ≤ Limits.maxFrame) (payload_le : payload.size ≤ Limits.maxFrame)
      (header_eq : decode? text.data.toList = some header) :
      IsReply (wordBytes Limits.magic ++ (frameBytes text ++ frameBytes payload))
        ⟨header, payload⟩

/-! ## Faults

Each says which bytes have the fault, how it is reported, and which bytes it leaves. Bytes that
end too early are all taken. -/

/-- **A word that had to be a certain one** ends too early, or is another. -/
inductive WordFault (part : String) (expected : UInt32) (complaint : UInt32 → String) :
    List UInt8 → TransportError → List UInt8 → Prop where
  | cut {bytes : List UInt8} (ne_nil : bytes ≠ []) (short : bytes.length < 4) :
      WordFault part expected complaint bytes (.truncated part) []
  | wrong {word : UInt32} (ne : word ≠ expected) (rest : List UInt8) :
      WordFault part expected complaint (wordBytes word ++ rest) (.protocol (complaint word)) rest

/-- **A frame** ends too early, or has a length that is too large. -/
inductive FrameFault : List UInt8 → TransportError → List UInt8 → Prop where
  | cutLength {bytes : List UInt8} (ne_nil : bytes ≠ []) (short : bytes.length < 4) :
      FrameFault bytes (.truncated "frame length") []
  | tooLarge {length : UInt32} (large : Limits.maxFrame < length.toNat) (rest : List UInt8) :
      FrameFault (wordBytes length ++ rest) (.frameTooLarge length.toNat Limits.maxFrame) rest
  | cutBody {length : UInt32} (le : length.toNat ≤ Limits.maxFrame) {body : List UInt8}
      (short : body.length < length.toNat) :
      FrameFault (wordBytes length ++ body) (.truncated "frame body") []

/-- **A frame that has to be there** is not, or has a fault. -/
inductive PartFault (part : String) : List UInt8 → TransportError → List UInt8 → Prop where
  | absent : PartFault part [] (.truncated part) []
  | frame {bytes rest : List UInt8} {e : TransportError} (h : FrameFault bytes e rest) :
      PartFault part bytes e rest

/-- **The frames of an envelope**: the first has a fault or holds no header, or it holds one and
the second has a fault. -/
inductive EnvelopeFault : List UInt8 → TransportError → List UInt8 → Prop where
  | header {bytes rest : List UInt8} {e : TransportError}
      (h : PartFault "envelope header" bytes e rest) : EnvelopeFault bytes e rest
  | unreadable {text : ByteArray} (text_le : text.size ≤ Limits.maxFrame)
      (header_eq : decode? (α := Header) text.data.toList = none) (rest : List UInt8) :
      EnvelopeFault (frameBytes text ++ rest) .header rest
  | payload {text : ByteArray} (text_le : text.size ≤ Limits.maxFrame) {header : Header}
      (header_eq : decode? text.data.toList = some header) {bytes rest : List UInt8}
      {e : TransportError} (h : PartFault "envelope payload" bytes e rest) :
      EnvelopeFault (frameBytes text ++ bytes) e rest

/-- **The first fault of a request**, in the order in which its parts stand. -/
inductive RequestFault : List UInt8 → TransportError → List UInt8 → Prop where
  | preamble {bytes rest : List UInt8} {e : TransportError}
      (h : WordFault "preamble" Limits.preamble ("bad preamble: " ++ Text.hexWord ·)
        bytes e rest) : RequestFault bytes e rest
  | noMagic : RequestFault (wordBytes Limits.preamble) (.truncated "envelope magic") []
  | magic {bytes rest : List UInt8} {e : TransportError}
      (h : WordFault "envelope magic" Limits.magic
        ("bad envelope magic: expected " ++ Text.hexWord Limits.magic ++ ", got " ++
          Text.hexWord ·) bytes e rest) :
      RequestFault (wordBytes Limits.preamble ++ bytes) e rest
  | envelope {bytes rest : List UInt8} {e : TransportError} (h : EnvelopeFault bytes e rest) :
      RequestFault (wordBytes Limits.preamble ++ (wordBytes Limits.magic ++ bytes)) e rest

/-- **The first fault of a reply.** -/
inductive ReplyFault : List UInt8 → TransportError → List UInt8 → Prop where
  | magic {bytes rest : List UInt8} {e : TransportError}
      (h : WordFault "envelope magic" Limits.magic ("bad envelope magic: " ++ Text.hexWord ·)
        bytes e rest) : ReplyFault bytes e rest
  | envelope {bytes rest : List UInt8} {e : TransportError} (h : EnvelopeFault bytes e rest) :
      ReplyFault (wordBytes Limits.magic ++ bytes) e rest

namespace Read

/-- **A reader decides a format.** It comes to a verdict on all bytes, however they are cut. It
returns a thing if and only if the thing stands at the front, and takes exactly that; nothing if
and only if there is nothing; and an error if and only if that is the first fault. -/
structure Decides {α : Type} (r : Read (Option α)) (Whole : List UInt8 → α → Prop)
    (Fault : List UInt8 → TransportError → List UInt8 → Prop) : Prop where
  total : ∀ bytes, ∃ result rest, Takes r bytes result rest
  some_iff : ∀ bytes a rest, Takes r bytes (.ok (some a)) rest
    ↔ ∃ whole, Whole whole a ∧ bytes = whole ++ rest
  none_iff : ∀ bytes rest, Takes r bytes (.ok none) rest ↔ bytes = [] ∧ rest = []
  error_iff : ∀ bytes e rest, Takes r bytes (.error e) rest ↔ Fault bytes e rest

end Read

/-! ## Faults are found -/

section Words

variable {α : Type} {part : String} {expected : UInt32} {complaint : UInt32 → String}
  {f : Option UInt32 → Read α} {bytes rest : List UInt8} {e : TransportError}

/-- Bytes end too early for a word, or begin with one. -/
theorem word_cases (bytes : List UInt8) :
    bytes = [] ∨ (bytes ≠ [] ∧ bytes.length < 4) ∨ ∃ word rest, bytes = wordBytes word ++ rest := by
  obtain _ | ⟨a, _ | ⟨b, _ | ⟨c, _ | ⟨d, rest⟩⟩⟩⟩ := bytes
  · exact .inl rfl
  iterate 3 exact .inr (.inl ⟨List.cons_ne_nil _ _, by simp⟩)
  · exact .inr (.inr ⟨wordOf a b c d, rest, by rw [wordBytes_wordOf]; rfl⟩)

theorem takes_word_cut (part : String) (hne : bytes ≠ []) (hshort : bytes.length < 4) :
    Takes (readWord part) bytes (.error (.truncated part)) [] := by
  unfold readWord
  obtain _ | ⟨a, _ | ⟨b, _ | ⟨c, _ | ⟨d, rest⟩⟩⟩⟩ := bytes
  · exact absurd rfl hne
  iterate 3 exact (takes_bytes 4 _).bind (takes_throw _ [])
  · simp at hshort
    omega

theorem WordFault.takes (h : WordFault part expected complaint bytes e rest)
    (hf : ∀ word ≠ expected, f (some word) = throw (.protocol (complaint word))) :
    Takes (readWord part >>= f) bytes (.error e) rest := by
  cases h with
  | cut hne hshort => exact (takes_word_cut part hne hshort).bind_error
  | @wrong word hne rest =>
    refine ((offers_word part word).takes_append rest).bind ?_
    rw [hf word hne]
    exact takes_throw _ rest

theorem word_total (part : String) (expected : UInt32) (complaint : UInt32 → String)
    (bytes : List UInt8) :
    bytes = [] ∨ (∃ e rest, WordFault part expected complaint bytes e rest)
      ∨ ∃ rest, bytes = wordBytes expected ++ rest := by
  obtain rfl | ⟨hne, hshort⟩ | ⟨word, rest, rfl⟩ := word_cases bytes
  · exact .inl rfl
  · exact .inr (.inl ⟨_, _, .cut hne hshort⟩)
  · by_cases hword : word = expected
    · exact .inr (.inr ⟨rest, by rw [hword]⟩)
    · exact .inr (.inl ⟨_, _, .wrong hword rest⟩)

end Words

variable {bytes rest : List UInt8} {e : TransportError}

theorem takes_frame_nil : Takes readFrame [] (.ok none) [] := by
  rw [readFrame_eq]
  exact (offers_word "frame length" 0).takes_nil.bind (takes_pure none [])

theorem FrameFault.takes (h : FrameFault bytes e rest) : Takes readFrame bytes (.error e) rest := by
  rw [readFrame_eq]
  cases h with
  | cutLength hne hshort => exact (takes_word_cut "frame length" hne hshort).bind_error
  | @tooLarge length hlarge rest =>
    refine ((offers_word "frame length" length).takes_append rest).bind ?_
    dsimp only
    rw [readBody, if_pos hlarge]
    exact takes_throw _ rest
  | @cutBody length hle body hshort =>
    refine ((offers_word "frame length" length).takes_append body).bind ?_
    dsimp only
    rw [readBody, if_neg (Nat.not_lt.mpr hle)]
    refine (takes_bytes length.toNat body).bind ?_
    have hle : body.length ≤ length.toNat := Nat.le_of_lt hshort
    rw [List.take_of_length_le hle, List.drop_of_length_le hle, if_pos hshort]
    exact takes_throw _ []

/-- Bytes are none, have a fault, or begin with a frame. -/
theorem frame_total (bytes : List UInt8) :
    bytes = [] ∨ (∃ e rest, FrameFault bytes e rest)
      ∨ ∃ whole body rest, IsFrame whole body ∧ bytes = whole ++ rest := by
  obtain rfl | ⟨hne, hshort⟩ | ⟨length, more, rfl⟩ := word_cases bytes
  · exact .inl rfl
  · exact .inr (.inl ⟨_, _, .cutLength hne hshort⟩)
  by_cases hlarge : Limits.maxFrame < length.toNat
  · exact .inr (.inl ⟨_, _, .tooLarge hlarge more⟩)
  have hle : length.toNat ≤ Limits.maxFrame := Nat.le_of_not_lt hlarge
  by_cases hshort : more.length < length.toNat
  · exact .inr (.inl ⟨_, _, .cutBody hle hshort⟩)
  · have htaken : (more.take length.toNat).length = length.toNat :=
      List.length_take_of_le (Nat.le_of_not_lt hshort)
    have hbody : (more.take length.toNat).toByteArray.size = length.toNat := by
      rw [List.size_toByteArray, htaken]
    refine .inr (.inr ⟨_, _, more.drop length.toNat, .intro _ (hbody ▸ hle), ?_⟩)
    rw [frameBytes, hbody, UInt32.ofNat_toNat, List.toList_data_toByteArray, List.append_assoc,
      List.take_append_drop]

theorem PartFault.takes {part : String} (h : PartFault part bytes e rest) :
    Takes (readPart part) bytes (.error e) rest := by
  unfold readPart
  cases h with
  | absent => exact takes_frame_nil.bind (takes_throw _ [])
  | frame h => exact h.takes.bind_error

theorem part_total (part : String) (bytes : List UInt8) :
    (∃ e rest, PartFault part bytes e rest)
      ∨ ∃ body rest, body.size ≤ Limits.maxFrame ∧ bytes = frameBytes body ++ rest := by
  obtain rfl | ⟨e, rest, h⟩ | ⟨_, body, rest, ⟨_, hbody⟩, rfl⟩ := frame_total bytes
  · exact .inl ⟨_, _, .absent⟩
  · exact .inl ⟨e, rest, .frame h⟩
  · exact .inr ⟨body, rest, hbody, rfl⟩

theorem EnvelopeFault.takes (h : EnvelopeFault bytes e rest) :
    Takes readEnvelope bytes (.error e) rest := by
  unfold readEnvelope
  cases h with
  | header h => exact h.takes.bind_error
  | unreadable hle hheader rest =>
    refine ((parses_part "envelope header" hle).takes_append rest).bind ?_
    rw [hheader]
    exact takes_throw _ rest
  | payload hle hheader h =>
    refine ((parses_part "envelope header" hle).takes_append _).bind ?_
    rw [hheader]
    exact h.takes.bind_error

/-- Bytes have a fault, or begin with two frames of which the first holds a header. -/
theorem envelope_total (bytes : List UInt8) :
    (∃ e rest, EnvelopeFault bytes e rest)
      ∨ ∃ text payload rest, ∃ header : Header, text.size ≤ Limits.maxFrame
        ∧ payload.size ≤ Limits.maxFrame ∧ decode? text.data.toList = some header
        ∧ bytes = frameBytes text ++ frameBytes payload ++ rest := by
  obtain ⟨e, rest, h⟩ | ⟨text, more, htext, rfl⟩ := part_total "envelope header" bytes
  · exact .inl ⟨e, rest, .header h⟩
  cases hheader : decode? (α := Header) text.data.toList with
  | none => exact .inl ⟨_, _, .unreadable htext hheader more⟩
  | some header =>
    obtain ⟨e, rest, h⟩ | ⟨payload, rest, hpayload, rfl⟩ := part_total "envelope payload" more
    · exact .inl ⟨e, rest, .payload htext hheader h⟩
    · exact .inr ⟨text, payload, rest, header, htext, hpayload, hheader,
        (List.append_assoc _ _ _).symm⟩

theorem takes_request_nil : Takes readRequest [] (.ok none) [] := by
  rw [readRequest_eq]
  exact (offers_word "preamble" 0).takes_nil.bind (takes_pure none [])

/-- What is made of a request is made of what comes behind its preamble. -/
theorem takes_behind_preamble {result : Except TransportError (Option (UInt64 × Request))}
    (h : Takes readMarked bytes result rest) :
    Takes readRequest (wordBytes Limits.preamble ++ bytes) result rest := by
  rw [readRequest_eq]
  refine ((offers_word "preamble" Limits.preamble).takes_append bytes).bind ?_
  dsimp only
  rwa [if_neg (not_not_intro rfl)]

theorem RequestFault.takes (h : RequestFault bytes e rest) :
    Takes readRequest bytes (.error e) rest := by
  cases h with
  | preamble h =>
    rw [readRequest_eq]
    exact h.takes fun _ hne => if_pos hne
  | noMagic =>
    rw [← List.append_nil (wordBytes Limits.preamble)]
    exact takes_behind_preamble
      ((offers_word "envelope magic" 0).takes_nil.bind (takes_throw _ []))
  | magic h => exact takes_behind_preamble (h.takes fun _ hne => if_pos hne)
  | envelope h =>
    refine takes_behind_preamble
      (((offers_word "envelope magic" Limits.magic).takes_append _).bind ?_)
    dsimp only
    rw [if_neg (not_not_intro rfl)]
    exact h.takes.bind_error

/-- Bytes are none, have a fault, or begin with a request. -/
theorem request_total (bytes : List UInt8) :
    bytes = [] ∨ (∃ e rest, RequestFault bytes e rest)
      ∨ ∃ whole message rest, IsRequest whole message ∧ bytes = whole ++ rest := by
  obtain rfl | ⟨e, rest, h⟩ | ⟨more, rfl⟩ :=
    word_total "preamble" Limits.preamble ("bad preamble: " ++ Text.hexWord ·) bytes
  · exact .inl rfl
  · exact .inr (.inl ⟨e, rest, .preamble h⟩)
  obtain rfl | ⟨e, rest, h⟩ | ⟨more, rfl⟩ :=
    word_total "envelope magic" Limits.magic
      ("bad envelope magic: expected " ++ Text.hexWord Limits.magic ++ ", got " ++
        Text.hexWord ·) more
  · exact .inr (.inl ⟨_, _, .noMagic⟩)
  · exact .inr (.inl ⟨e, rest, .magic h⟩)
  obtain ⟨e, rest, h⟩ | ⟨text, payload, rest, header, htext, hpayload, hheader, rfl⟩ :=
    envelope_total more
  · exact .inr (.inl ⟨e, rest, .envelope h⟩)
  · exact .inr (.inr ⟨_, _, rest, .intro text payload header htext hpayload hheader,
      by simp only [List.append_assoc]⟩)

theorem takes_reply_nil : Takes readReply [] (.ok none) [] := by
  rw [readReply_eq]
  exact (offers_word "envelope magic" 0).takes_nil.bind (takes_pure none [])

theorem ReplyFault.takes (h : ReplyFault bytes e rest) : Takes readReply bytes (.error e) rest := by
  rw [readReply_eq]
  cases h with
  | magic h => exact h.takes fun _ hne => if_pos hne
  | envelope h =>
    refine ((offers_word "envelope magic" Limits.magic).takes_append _).bind ?_
    dsimp only
    rw [if_neg (not_not_intro rfl)]
    exact h.takes.bind_error

/-- Bytes are none, have a fault, or begin with a reply. -/
theorem reply_total (bytes : List UInt8) :
    bytes = [] ∨ (∃ e rest, ReplyFault bytes e rest)
      ∨ ∃ whole reply rest, IsReply whole reply ∧ bytes = whole ++ rest := by
  obtain rfl | ⟨e, rest, h⟩ | ⟨more, rfl⟩ :=
    word_total "envelope magic" Limits.magic ("bad envelope magic: " ++ Text.hexWord ·) bytes
  · exact .inl rfl
  · exact .inr (.inl ⟨e, rest, .magic h⟩)
  obtain ⟨e, rest, h⟩ | ⟨text, payload, rest, header, htext, hpayload, hheader, rfl⟩ :=
    envelope_total more
  · exact .inr (.inl ⟨e, rest, .envelope h⟩)
  · exact .inr (.inr ⟨_, _, rest, .intro text payload header htext hpayload hheader,
      by simp only [List.append_assoc]⟩)

/-! ## Whole things are found -/

theorem IsFrame.offers {whole : List UInt8} {body : ByteArray} (h : IsFrame whole body) :
    Offers readFrame whole body := by
  obtain ⟨body, hbody⟩ := h
  exact offers_frame hbody

/-- **The envelope of a request is offered as that request.** -/
theorem IsRequest.offers {whole : List UInt8} {message : UInt64 × Request}
    (h : IsRequest whole message) : Offers readRequest whole message := by
  obtain ⟨text, payload, header, htext, hpayload, hheader⟩ := h
  exact offers_marked (parses_frames htext hheader hpayload)

/-- **The envelope of a reply is offered as that reply.** -/
theorem IsReply.offers {whole : List UInt8} {reply : ReplyEnvelope} (h : IsReply whole reply) :
    Offers readReply whole reply := by
  obtain ⟨text, payload, header, htext, hpayload, hheader⟩ := h
  exact offers_unmarked (parses_frames htext hheader hpayload)

/-! ## Verdicts -/

namespace Read

variable {α : Type}

/-- A reader comes to one verdict only. -/
theorem Takes.unique {r : Read α} {bytes rest rest' : List UInt8}
    {result result' : Except TransportError α} (h : Takes r bytes result rest)
    (h' : Takes r bytes result' rest') : result = result' ∧ rest = rest' := by
  have hbytes : Stream.bytes [bytes] = bytes := List.append_nil bytes
  obtain ⟨hresult, hrest⟩ := h [bytes] hbytes
  obtain ⟨hresult', hrest'⟩ := h' [bytes] hbytes
  exact ⟨hresult.symm.trans hresult', hrest.symm.trans hrest'⟩

/-- **A reader that comes to the right verdict on whole things, on nothing and on faults decides**,
if all bytes are one of these. -/
theorem decides_of_total {r : Read (Option α)} {Whole : List UInt8 → α → Prop}
    {Fault : List UInt8 → TransportError → List UInt8 → Prop}
    (hnil : Takes r [] (.ok none) [])
    (hwhole : ∀ whole a, Whole whole a → Offers r whole a)
    (hfault : ∀ bytes e rest, Fault bytes e rest → Takes r bytes (.error e) rest)
    (htotal : ∀ bytes, bytes = [] ∨ (∃ e rest, Fault bytes e rest)
      ∨ ∃ whole a rest, Whole whole a ∧ bytes = whole ++ rest) : Decides r Whole Fault where
  total bytes := by
    obtain rfl | ⟨e, rest, h⟩ | ⟨whole, a, rest, h, rfl⟩ := htotal bytes
    · exact ⟨_, _, hnil⟩
    · exact ⟨_, _, hfault bytes e rest h⟩
    · exact ⟨_, _, (hwhole whole a h).takes_append rest⟩
  -- a reader takes one thing only, so the verdict it comes to is that of the case
  some_iff bytes a rest := by
    refine ⟨fun htakes => ?_,
      fun ⟨whole, h, hbytes⟩ => hbytes ▸ (hwhole whole a h).takes_append rest⟩
    obtain rfl | ⟨e, rest', h⟩ | ⟨whole, a', rest', h, rfl⟩ := htotal bytes
    · nomatch (htakes.unique hnil).1
    · nomatch (htakes.unique (hfault bytes e rest' h)).1
    · obtain ⟨hresult, rfl⟩ := htakes.unique ((hwhole whole a' h).takes_append rest')
      obtain rfl := Option.some_inj.mp (Except.ok.inj hresult)
      exact ⟨whole, h, rfl⟩
  none_iff bytes rest := by
    refine ⟨fun htakes => ?_, fun ⟨hbytes, hrest⟩ => hbytes ▸ hrest ▸ hnil⟩
    obtain rfl | ⟨e, rest', h⟩ | ⟨whole, a, rest', h, rfl⟩ := htotal bytes
    · exact ⟨rfl, (htakes.unique hnil).2⟩
    · nomatch (htakes.unique (hfault bytes e rest' h)).1
    · nomatch (htakes.unique ((hwhole whole a h).takes_append rest')).1
  error_iff bytes e rest := by
    refine ⟨fun htakes => ?_, hfault bytes e rest⟩
    obtain rfl | ⟨e', rest', h⟩ | ⟨whole, a, rest', h, rfl⟩ := htotal bytes
    · nomatch (htakes.unique hnil).1
    · obtain ⟨hresult, rfl⟩ := htakes.unique (hfault bytes e' rest' h)
      exact Except.error.inj hresult ▸ h
    · nomatch (htakes.unique ((hwhole whole a h).takes_append rest')).1

end Read

/-- **The readers accept exactly the envelope format**, and report the first fault of anything
else. How the stream is cut, and what follows the envelope, makes no difference. -/
theorem readers_decide :
    Decides readRequest IsRequest RequestFault
    ∧ Decides readReply IsReply ReplyFault
    ∧ Decides readFrame IsFrame FrameFault :=
  ⟨decides_of_total takes_request_nil (fun _ _ h => h.offers) (fun _ _ _ h => h.takes)
      request_total,
    decides_of_total takes_reply_nil (fun _ _ h => h.offers) (fun _ _ _ h => h.takes) reply_total,
    decides_of_total takes_frame_nil (fun _ _ h => h.offers) (fun _ _ _ h => h.takes) frame_total⟩

end Switchboard.Wire
