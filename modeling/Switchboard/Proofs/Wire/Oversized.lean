import Mathlib.Data.List.TakeWhile
import Switchboard.Proofs.Wire.Arrival
import Switchboard.Proofs.Wire.RoundTrip
import Switchboard.Proofs.Wire.Verdict

/-!
# Envelopes that are too large

An envelope is written frame by frame, and a frame that is too large is found
out when the frames before it have gone out already. What is written then is
the beginning of an envelope (`exists_unfinished`). A reader cannot know that it
will never be finished: it waits for the rest, and takes whatever is written
next for it. The first word of the next envelope is no possible length of a
frame, and the reader stops there for good (`Spoils`).

So what is written before the first envelope that is too large is read, and
nothing else is (`Spoils.arrivals_flatMap`, `Spoils.readAll_flatMap`). This
holds of replies (`arrivals_replyBytes`) and of requests (`arrivals_requestBytes`)
alike.
-/

namespace Switchboard.Wire

open Read

/-! ## A frame that is missing -/

theorem takes_part_nil (part : String) :
    Takes (readPart part) [] (.error (.truncated part)) [] :=
  PartFault.absent.takes

/-- **A word that is no length of a frame.** -/
theorem takes_part_word (part : String) {word : UInt32} (hlarge : Limits.maxFrame < word.toNat)
    (more : List UInt8) :
    Takes (readPart part) (wordBytes word ++ more)
      (.error (.frameTooLarge word.toNat Limits.maxFrame)) more :=
  (PartFault.frame (.tooLarge hlarge more)).takes

/-! ## Envelopes that are not finished -/

section Unfinished

variable {header : Header} {payload : ByteArray}

/-- **Behind the beginning of an envelope a part of it is expected**, and what comes of that part
comes of the envelope. -/
theorem exists_unfinished (h : ¬ Fits header payload) :
    ∃ text part, (writeEnvelope header payload).bytes = wordBytes Limits.magic ++ text ∧
      ∀ {tail left : List UInt8} {error : TransportError},
        Takes (readPart part) tail (.error error) left →
        Takes readEnvelope (text ++ tail) (.error error) left := by
  by_cases hheader : (encode header).length ≤ Limits.maxFrame
  · have hsize : (encode header).toByteArray.size ≤ Limits.maxFrame := by
      rwa [List.size_toByteArray]
    have hpayload : Limits.maxFrame < payload.size :=
      Nat.lt_of_not_le fun hle => h ⟨hheader, hle⟩
    refine ⟨frameBytes (encode header).toByteArray, "envelope payload", ?_,
      fun {tail} _ _ hpart => ?_⟩
    · rw [writeEnvelope, writeFrame_of_le hsize, writeFrame, if_pos hpayload]
      exact congrArg (wordBytes Limits.magic ++ ·) (List.append_nil _)
    · unfold readEnvelope
      refine ((parses_part "envelope header" hsize).takes_append tail).bind ?_
      rw [List.toList_data_toByteArray, decode?_encode]
      exact hpart.bind_error
  · have hsize : Limits.maxFrame < (encode header).toByteArray.size := by
      rw [List.size_toByteArray]
      exact Nat.lt_of_not_le hheader
    refine ⟨[], "envelope header", ?_, fun hpart => ?_⟩
    · rw [writeEnvelope, writeFrame, if_pos hsize]
      rfl
    · unfold readEnvelope
      exact hpart.bind_error

/-- What comes of the expected part of a reply. -/
theorem takes_unfinished_reply (h : ¬ Fits header payload) {tail left : List UInt8}
    {error : String → TransportError}
    (hpart : ∀ part, Takes (readPart part) tail (.error (error part)) left) :
    ∃ part, Takes readReply ((writeEnvelope header payload).bytes ++ tail) (.error (error part))
      left := by
  obtain ⟨text, part, hbytes, hunfinished⟩ := exists_unfinished h
  refine ⟨part, ?_⟩
  rw [hbytes, List.append_assoc, readReply_eq]
  refine ((offers_word "envelope magic" Limits.magic).takes_append _).bind ?_
  dsimp only
  rw [if_neg (not_not_intro rfl)]
  exact (hunfinished (hpart part)).bind_error

/-- What comes of the expected part of a request. -/
theorem takes_unfinished_request {message : UInt64 × Request} (h : ¬ RequestFits message)
    {tail left : List UInt8} {error : String → TransportError}
    (hpart : ∀ part, Takes (readPart part) tail (.error (error part)) left) :
    ∃ part, Takes readRequest ((writeRequest message.1 message.2).bytes ++ tail)
      (.error (error part)) left := by
  obtain ⟨text, part, hbytes, hunfinished⟩ := exists_unfinished h
  have hrequest : (writeRequest message.1 message.2).bytes
      = wordBytes Limits.preamble ++ (wordBytes Limits.magic ++ text) :=
    congrArg (wordBytes Limits.preamble ++ ·) hbytes
  have hmarked : Takes readMarked (wordBytes Limits.magic ++ (text ++ tail))
      (.error (error part)) left := by
    unfold readMarked
    refine ((offers_word "envelope magic" Limits.magic).takes_append _).bind ?_
    dsimp only
    rw [if_neg (not_not_intro rfl)]
    exact (hunfinished (hpart part)).bind_error
  refine ⟨part, ?_⟩
  rw [hrequest, List.append_assoc, List.append_assoc, readRequest_eq]
  refine ((offers_word "preamble" Limits.preamble).takes_append _).bind ?_
  dsimp only
  rw [if_neg (not_not_intro rfl)]
  exact hmarked

end Unfinished

/-! ## Readers that are spoilt -/

/-- **A reader that is spoilt** by a thing that is not `Ok`: it waits for the rest of it, and
stops at whatever is written behind it. -/
structure Spoils {α : Type} (r : Read (Option α)) (write : α → List UInt8) (Ok : α → Prop)
    (error : TransportError) : Prop where
  waits : ∀ a, ¬ Ok a → ∃ part, Takes r (write a) (.error (.truncated part)) []
  stops : ∀ a, ¬ Ok a → ∀ next more,
    ∃ rest, Takes r (write a ++ (write next ++ more)) (.error error) rest
  isTruncation_eq : error.isTruncation = false

section Spoils

variable {α : Type} {r : Read (Option α)} {write : α → List UInt8} {Ok : α → Prop}
  [DecidablePred Ok] {error : TransportError} {cost : Nat}

theorem not_of_dropWhile {items later : List α} {a : α}
    (h : items.dropWhile (Ok ·) = a :: later) : ¬ Ok a := by
  have hhead := List.head?_dropWhile_not (fun a => decide (Ok a)) items
  rw [h] at hhead
  exact of_decide_eq_false hhead

/-- What is read behind the things that are `Ok`, if there is anything: an error, which is one that
more bytes could mend if the thing that is not `Ok` is the last. -/
theorem Spoils.takes_dropWhile (h : Spoils r write Ok error) {items : List α}
    (hnil : items.dropWhile (Ok ·) ≠ []) :
    ∃ met rest, Takes r ((items.dropWhile (Ok ·)).flatMap write) (.error met) rest ∧
      (if met.isTruncation then none else some met) =
        if 1 < (items.dropWhile (Ok ·)).length then some error else none := by
  match hspoilt : items.dropWhile (Ok ·) with
  | [] => exact absurd hspoilt hnil
  | [a] =>
    obtain ⟨part, htakes⟩ := h.waits a (not_of_dropWhile hspoilt)
    refine ⟨.truncated part, [], ?_, rfl⟩
    rwa [List.flatMap_singleton]
  | a :: next :: later =>
    obtain ⟨rest, htakes⟩ := h.stops a (not_of_dropWhile hspoilt) next (later.flatMap write)
    have hlater : 1 < (a :: next :: later).length := Nat.succ_lt_succ (Nat.zero_lt_succ _)
    refine ⟨error, rest, htakes, ?_⟩
    rw [if_pos hlater, h.isTruncation_eq]
    rfl

theorem arrivals_of_error {bytes rest : List UInt8} (h : Takes r bytes (.error error) rest) :
    arrivals r bytes = ⟨[], bytes, if error.isTruncation then none else some error⟩ := by
  have hstart : Stream.bytes [bytes] = bytes := List.append_nil bytes
  obtain ⟨left, houtcome, -⟩ := h.outcome_eq hstart
  rw [arrivals, arrivals.go, houtcome]
  dsimp only
  rw [hstart]

theorem ok_of_mem_takeWhile {items : List α} {a : α} (h : a ∈ items.takeWhile (Ok ·)) : Ok a :=
  of_decide_eq_true (List.mem_takeWhile_imp (p := fun a => decide (Ok a)) h)

/-- **What arrives** is what is before the first thing that is not `Ok`. That one is waited for as
long as it is the last. -/
theorem Spoils.arrivals_flatMap (h : Spoils r write Ok error) (hreads : Reads r write Ok)
    (hsteady : Steady r (·.isSome = true) cost) (hpos : 0 < cost) (items : List α) :
    arrivals r (items.flatMap write)
      = ⟨items.takeWhile (Ok ·), (items.dropWhile (Ok ·)).flatMap write,
          if 1 < (items.dropWhile (Ok ·)).length then some error else none⟩ := by
  have hintact : arrivals r ((items.takeWhile (Ok ·)).flatMap write)
      = ⟨items.takeWhile (Ok ·), [], none⟩ :=
    hreads.arrivals_of_cut ⟨(List.append_nil _).symm, .inl rfl⟩
      (fun _ => ok_of_mem_takeWhile) (List.forall_mem_nil _)
  have hspoilt : arrivals r ((items.dropWhile (Ok ·)).flatMap write)
      = ⟨[], (items.dropWhile (Ok ·)).flatMap write,
          if 1 < (items.dropWhile (Ok ·)).length then some error else none⟩ := by
    by_cases hnil : items.dropWhile (Ok ·) = []
    · rw [hnil]
      exact hreads.arrivals_of_cut ⟨rfl, .inl rfl⟩ (List.forall_mem_nil _) (List.forall_mem_nil _)
    · obtain ⟨met, rest, htakes, hmet⟩ := h.takes_dropWhile hnil
      rw [arrivals_of_error htakes, hmet]
  have happend := hsteady.arrivals_append hpos ((items.takeWhile (Ok ·)).flatMap write)
    ((items.dropWhile (Ok ·)).flatMap write)
  rw [← List.flatMap_append, List.takeWhile_append_dropWhile, hintact] at happend
  rw [happend]
  dsimp only
  rw [List.nil_append, hspoilt, List.append_nil]

/-- **The bytes are whole** if and only if all things are `Ok`, however they are cut. -/
theorem Spoils.readAll_flatMap (h : Spoils r write Ok error) (hreads : Reads r write Ok)
    (hsteady : Steady r (·.isSome = true) cost) (hpos : 0 < cost) {items : List α} {s : Stream}
    (hs : s.bytes = items.flatMap write) :
    (readAll r s).1 = items.takeWhile (Ok ·) ∧
      ((readAll r s).2.1 = none ↔ ∀ a ∈ items, Ok a) := by
  constructor
  · rw [(hsteady.readAll_eq_arrivals hpos s).1, hs, h.arrivals_flatMap hreads hsteady hpos]
  by_cases hall : ∀ a ∈ items, Ok a
  · obtain ⟨rest, hread, -⟩ := hreads.readAll_flatMap hall hs
    exact iff_of_true (by rw [hread]) hall
  · have hnil : items.dropWhile (Ok ·) ≠ [] := by
      rw [ne_eq, List.dropWhile_eq_nil_iff]
      simpa using hall
    refine iff_of_false (fun hnone => ?_) hall
    obtain ⟨met, rest, htakes, -⟩ := h.takes_dropWhile hnil
    rw [← List.takeWhile_append_dropWhile (p := fun a => decide (Ok a)) (l := items),
      List.flatMap_append] at hs
    obtain ⟨s', turns, hs', hread⟩ := hreads.readAll_append (fun _ => ok_of_mem_takeWhile) hs
    obtain ⟨left, houtcome, -⟩ := htakes.outcome_eq hs'
    rw [hread, readAll.go, houtcome] at hnone
    exact Option.some_ne_none met hnone

end Spoils

/-! ## Replies on a connection -/

/-- The replies before the first that is too large. -/
def intact (entries : List Answered) : List Answered := entries.takeWhile (·.Fits)

/-- That reply and all that are written behind it. -/
def spoilt (entries : List Answered) : List Answered := entries.dropWhile (·.Fits)

theorem intact_append_spoilt (entries : List Answered) :
    intact entries ++ spoilt entries = entries :=
  List.takeWhile_append_dropWhile

theorem spoilt_eq_nil_iff {entries : List Answered} :
    spoilt entries = [] ↔ ∀ a ∈ entries, a.Fits := by
  unfold spoilt
  rw [List.dropWhile_eq_nil_iff]
  simp

theorem replyBytes_append (entries entries' : List Answered) :
    replyBytes (entries ++ entries') = replyBytes entries ++ replyBytes entries' :=
  List.flatMap_append

theorem spoils_reply : Spoils readReply (fun e => (writeEnvelope e.header e.payload).bytes)
    (fun e => Fits e.header e.payload) (.frameTooLarge Limits.magic.toNat Limits.maxFrame) where
  waits e he := by
    have htakes := takes_unfinished_reply he takes_part_nil
    rwa [List.append_nil] at htakes
  stops e he next more := by
    obtain ⟨text, htext⟩ : ∃ text,
        (writeEnvelope next.header next.payload).bytes = wordBytes Limits.magic ++ text := ⟨_, rfl⟩
    obtain ⟨-, htakes⟩ := takes_unfinished_reply he fun part =>
      takes_part_word part (show Limits.maxFrame < Limits.magic.toNat by decide) (text ++ more)
    rw [htext, List.append_assoc (wordBytes Limits.magic)]
    exact ⟨_, htakes⟩
  isTruncation_eq := rfl

/-- What is intact of the replies is what is intact of their envelopes. -/
theorem map_intact (entries : List Answered) :
    (intact entries).map Answered.envelope
      = (entries.map Answered.envelope).takeWhile (fun e => Fits e.header e.payload) := by
  rw [List.takeWhile_map]
  rfl

theorem map_spoilt (entries : List Answered) :
    (spoilt entries).map Answered.envelope
      = (entries.map Answered.envelope).dropWhile (fun e => Fits e.header e.payload) := by
  rw [List.dropWhile_map]
  rfl

/-- **What arrives of some replies** are those before the first that is too large. That one is
waited for as long as it is the last. -/
theorem arrivals_replyBytes (entries : List Answered) :
    arrivals readReply (replyBytes entries)
      = ⟨(intact entries).map Answered.envelope, replyBytes (spoilt entries),
          if 1 < (spoilt entries).length then
            some (.frameTooLarge Limits.magic.toNat Limits.maxFrame) else none⟩ := by
  rw [replyBytes_eq, replyBytes_eq,
    spoils_reply.arrivals_flatMap reads_reply steady_reply (by decide), map_intact, ← map_spoilt,
    List.length_map]

/-- **The bytes of some replies are whole envelopes** if and only if none of the replies is too
large. -/
theorem readAll_replyBytes {entries : List Answered} {s : Stream}
    (hs : s.bytes = replyBytes entries) :
    (readAll readReply s).1 = (intact entries).map Answered.envelope ∧
      ((readAll readReply s).2.1 = none ↔ ∀ a ∈ entries, a.Fits) := by
  obtain ⟨hread, hwhole⟩ := spoils_reply.readAll_flatMap reads_reply steady_reply (by decide)
    (hs.trans (replyBytes_eq entries))
  rw [map_intact]
  exact ⟨hread, hwhole.trans List.forall_mem_map⟩

/-! ## Requests on a connection -/

/-- The requests before the first that is too large. -/
def heard (messages : List (UInt64 × Request)) : List (UInt64 × Request) :=
  messages.takeWhile (RequestFits ·)

/-- That request and all that are written behind it. -/
def unheard (messages : List (UInt64 × Request)) : List (UInt64 × Request) :=
  messages.dropWhile (RequestFits ·)

/-- **A request that is too large is refused**, for one of its frames. -/
theorem error_of_not_fits {message : UInt64 × Request} (h : ¬ RequestFits message) :
    ∃ size, Limits.maxFrame < size ∧
      (writeRequest message.1 message.2).error = some (.frameTooLarge size Limits.maxFrame) := by
  by_cases hheader : (encode (message.2.header message.1)).toByteArray.size ≤ Limits.maxFrame
  · have hpayload : Limits.maxFrame < message.2.payload.size :=
      Nat.lt_of_not_le fun hle => h ⟨by rwa [List.size_toByteArray] at hheader, hle⟩
    refine ⟨_, hpayload, ?_⟩
    rw [writeRequest, writeEnvelope, writeFrame_of_le hheader, writeFrame, if_pos hpayload]
    rfl
  · have hlarge := Nat.lt_of_not_le hheader
    refine ⟨_, hlarge, ?_⟩
    rw [writeRequest, writeEnvelope, writeFrame, if_pos hlarge]
    rfl

theorem spoils_request :
    Spoils readRequest (fun message => (writeRequest message.1 message.2).bytes)
    RequestFits (.frameTooLarge Limits.preamble.toNat Limits.maxFrame) where
  waits message h := by
    have htakes := takes_unfinished_request h takes_part_nil
    rwa [List.append_nil] at htakes
  stops message h next more := by
    obtain ⟨text, htext⟩ : ∃ text,
        (writeRequest next.1 next.2).bytes = wordBytes Limits.preamble ++ text := ⟨_, rfl⟩
    obtain ⟨-, htakes⟩ := takes_unfinished_request h fun part =>
      takes_part_word part (show Limits.maxFrame < Limits.preamble.toNat by decide) (text ++ more)
    rw [htext, List.append_assoc (wordBytes Limits.preamble)]
    exact ⟨_, htakes⟩
  isTruncation_eq := rfl

/-- **What arrives of some requests** are those before the first that is too large. -/
theorem arrivals_requestBytes (messages : List (UInt64 × Request)) :
    arrivals readRequest (requestBytes messages)
      = ⟨heard messages, requestBytes (unheard messages),
          if 1 < (unheard messages).length then
            some (.frameTooLarge Limits.preamble.toNat Limits.maxFrame) else none⟩ :=
  spoils_request.arrivals_flatMap reads_request steady_request (by decide) messages

end Switchboard.Wire
