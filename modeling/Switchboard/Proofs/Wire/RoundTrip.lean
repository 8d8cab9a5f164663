import Mathlib.Data.List.Forall2
import Switchboard.Proofs.Wire.Sequence

/-!
# Streams of requests and of replies

What is written on a connection is read back at its other end, call by call.

A stream of requests may be cut anywhere. The reader returns the requests whose
envelopes are whole in what it sees, and tells a stream that ends between two
envelopes from one that ends inside of one (`readAll_requests`). Replies come
back with the status they were given, however odd, and each is the reply to its
own request and to no request for another function or session
(`readAll_replies`).
-/

namespace Switchboard.Wire

open Read

/-! ## Requests -/

/-- What is written of some requests, one after another. -/
def requestBytes (calls : List (UInt64 × Request)) : List UInt8 :=
  calls.flatMap fun call => (writeRequest call.1 call.2).bytes

/-- The envelope of a request can be written. -/
def RequestFits (call : UInt64 × Request) : Prop :=
  Fits (call.2.header call.1) call.2.payload

instance (call : UInt64 × Request) : Decidable (RequestFits call) :=
  inferInstanceAs (Decidable (Fits (call.2.header call.1) call.2.payload))

/-- A request that fits is written without a failure. -/
theorem RequestFits.error_eq {call : UInt64 × Request} (h : RequestFits call) :
    (writeRequest call.1 call.2).error = none := by
  rw [writeRequest_of_fits h]
  rfl

theorem reads_request :
    Reads readRequest (fun call => (writeRequest call.1 call.2).bytes) RequestFits where
  takes_nil := by
    rw [readRequest_eq]
    exact (offers_word "preamble" Limits.preamble).takes_nil.bind (takes_pure none [])
  offers _ h := offers_request h

/-- **A stream of requests, cut anywhere.** All requests of a stream that is whole come back,
and of a beginning of it the first `m`, which are those that end in it. Reading stops with
nothing to report where an envelope ends, and with a truncation anywhere else. -/
theorem readAll_requests (calls : List (UInt64 × Request)) (hfits : ∀ c ∈ calls, RequestFits c) :
    (∀ c ∈ calls, (writeRequest c.1 c.2).error = none) ∧
    (∀ s : Stream, s.bytes = requestBytes calls →
      ∃ rest, readAll readRequest s = (calls, none, rest) ∧ rest.bytes = []) ∧
    ∀ k ≤ (requestBytes calls).length, ∀ s : Stream, s.bytes = (requestBytes calls).take k →
      ∃ m ≤ calls.length,
        (∀ n ≤ calls.length, (requestBytes (calls.take n)).length ≤ k ↔ n ≤ m) ∧
        ∃ ending rest, readAll readRequest s = (calls.take m, ending, rest) ∧ rest.bytes = [] ∧
          ((∃ n, (requestBytes (calls.take n)).length = k) → ending = none) ∧
          ((∀ n, (requestBytes (calls.take n)).length ≠ k) →
            ∃ part, ending = some (.truncated part)) := by
  refine ⟨fun c hc => (hfits c hc).error_eq, fun s hs => ?_, fun k hk s hs => ?_⟩
  · exact reads_request.readAll_flatMap hfits hs
  · exact reads_request.readAll_take hfits hk hs

/-- Two calls: one whose session is named by the empty string, with nothing to say, and one
without a session and with the largest call id. -/
def twoCalls : List (UInt64 × Request) :=
  [(1, ⟨some "", 7, .empty⟩), (18446744073709551615, ⟨none, 0, [0, 34, 255].toByteArray⟩)]

theorem readAll_requests_twoCalls : (∀ c ∈ twoCalls, RequestFits c) ∧
    ∃ rest, readAll readRequest [requestBytes twoCalls] = (twoCalls, none, rest)
      ∧ rest.bytes = [] :=
  have hfits : ∀ c ∈ twoCalls, RequestFits c := by decide
  ⟨hfits, (readAll_requests twoCalls hfits).2.1 _ (List.append_nil _)⟩

/-! ## Replies -/

/-- **A call that has been answered**: its id, its request, and the reply to it. -/
structure Answered where
  callId : UInt64
  request : Request
  reply : Reply
deriving DecidableEq

namespace Answered

/-- What is written of the reply. -/
def written (a : Answered) : Written := writeReply a.callId a.request a.reply

/-- The envelope in which the reply arrives. -/
def envelope (a : Answered) : ReplyEnvelope :=
  ⟨a.request.replyHeader a.callId a.reply, a.reply.payload⟩

/-- The envelope of the reply can be written. -/
def Fits (a : Answered) : Prop := Wire.Fits (a.request.replyHeader a.callId a.reply) a.reply.payload

instance (a : Answered) : Decidable a.Fits :=
  inferInstanceAs (Decidable (Wire.Fits (a.request.replyHeader a.callId a.reply) a.reply.payload))

/-- **An envelope is the reply to its own request** and to every other one with the same
function and the same session. For the rest it breaks the rules. -/
theorem toReply_envelope (a : Answered) (other : Request) :
    if other.functionId = a.request.functionId ∧ other.comId = a.request.comId then
      a.envelope.toReply other = .ok a.reply
    else ∃ reason, a.envelope.toReply other = .error (.protocol reason) := by
  unfold ReplyEnvelope.toReply
  split
  · next hsame =>
    rw [if_neg]
    · rfl
    · rintro (hne | hne)
      · exact hne hsame.1.symm
      · exact hne hsame.2.symm
  · next hdiffer =>
    refine ⟨_, if_pos ?_⟩
    rw [← not_and_or]
    exact fun hsame => hdiffer ⟨hsame.1.symm, hsame.2.symm⟩

end Answered

/-- What is written of some replies, one after another. -/
def replyBytes (entries : List Answered) : List UInt8 := entries.flatMap fun a => a.written.bytes

theorem reads_reply :
    Reads readReply (fun e => (writeEnvelope e.header e.payload).bytes)
      (fun e => Fits e.header e.payload) where
  takes_nil := by
    rw [readReply_eq]
    exact (offers_word "envelope magic" Limits.magic).takes_nil.bind (takes_pure none [])
  offers _ h := offers_envelope h

/-- Replies are written as their envelopes. -/
theorem replyBytes_eq (entries : List Answered) :
    replyBytes entries = (entries.map Answered.envelope).flatMap
      fun e => (writeEnvelope e.header e.payload).bytes := by
  rw [List.flatMap_map]
  rfl

/-- **A stream of replies.** Whatever their status, they come back in order, each with its call
id, as the reply to its own request and to no request for another function or session. -/
theorem readAll_replies (entries : List Answered) (hfits : ∀ a ∈ entries, a.Fits) :
    (∀ a ∈ entries, a.written.error = none) ∧
    ∀ s : Stream, s.bytes = replyBytes entries →
      ∃ envelopes rest, readAll readReply s = (envelopes, none, rest) ∧ rest.bytes = [] ∧
        List.Forall₂ (fun envelope a => envelope.header.callId = a.callId ∧
          envelope.toReply a.request = .ok a.reply ∧
          ∀ other : Request,
            if other.functionId = a.request.functionId ∧ other.comId = a.request.comId then
              envelope.toReply other = .ok a.reply
            else ∃ reason, envelope.toReply other = .error (.protocol reason))
          envelopes entries := by
  refine ⟨fun a ha => ?_, fun s hs => ?_⟩
  · have hwritten : a.written = .just _ := writeEnvelope_of_fits (hfits a ha)
    rw [hwritten]
    rfl
  · have hok : ∀ e ∈ entries.map Answered.envelope, Fits e.header e.payload :=
      List.forall_mem_map.mpr hfits
    rw [replyBytes_eq] at hs
    obtain ⟨rest, hread, hrest⟩ := reads_reply.readAll_flatMap hok hs
    refine ⟨_, rest, hread, hrest, ?_⟩
    rw [List.forall₂_map_left_iff, List.forall₂_same]
    intro a _
    have hown := a.toReply_envelope a.request
    rw [if_pos ⟨rfl, rfl⟩] at hown
    exact ⟨rfl, hown, a.toReply_envelope⟩

/-- Two replies whose statuses contradict themselves: a success with a message and a kind, and
a failure with neither. -/
def twoReplies : List Answered :=
  [⟨2, ⟨some "", 7, .empty⟩, ⟨⟨⟨.ok, "odd"⟩, some .noComId⟩, [1, 2].toByteArray⟩⟩,
    ⟨1, ⟨none, 7, .empty⟩, ⟨⟨⟨.failed, ""⟩, none⟩, .empty⟩⟩]

theorem readAll_replies_twoReplies : (∀ a ∈ twoReplies, a.Fits) ∧
    ∃ envelopes rest, readAll readReply [replyBytes twoReplies] = (envelopes, none, rest)
      ∧ rest.bytes = [] ∧ List.Forall₂ (fun envelope a =>
        envelope.header.callId = a.callId ∧ envelope.toReply a.request = .ok a.reply)
        envelopes twoReplies := by
  have hfits : ∀ a ∈ twoReplies, a.Fits := by decide
  obtain ⟨envelopes, rest, hread, hrest, hreplies⟩ :=
    (readAll_replies twoReplies hfits).2 [replyBytes twoReplies] (List.append_nil _)
  exact ⟨hfits, envelopes, rest, hread, hrest, hreplies.imp fun _ _ h => ⟨h.1, h.2.1⟩⟩

end Switchboard.Wire
