import Mathlib.Data.List.Nodup
import Switchboard.Proofs.Dispatch.Call
import Switchboard.Proofs.Wire.Header

/-!
# A failure on its way

A failure travels as a status: its message in the outcome, and its kind beside
it. A failure that was made without a reason has the text of its kind for a
message, but nothing keeps a handler from answering with one whose message is
empty, for instance one that has been read from JSON.

Both ends have a text for it. The receiver looks at the kind and takes the text
of that. The sender makes the outcome of the message alone, and an outcome knows
no kind: it takes the text of a call that was aborted. So the receiver never
finds a message missing, and its own text is not used. What arrives is the kind
that was sent, with the message that was sent or else with that of an aborted
call (`failure_arrives`); it is what the receiver would have made of the failure
unless the message is missing and the kind is another one.
-/

namespace Switchboard

/-- Kinds of failure are told apart by their texts. -/
theorem FailureKind.defaultMessage_injective : Function.Injective defaultMessage := by
  intro kind other hsame
  have hnodup : (all.map defaultMessage).Nodup := by decide
  exact List.inj_on_of_nodup_map hnodup kind.mem_all other.mem_all hsame

namespace Wire.Status

/-- A status is never sent without a message. -/
theorem errorMessage_failed_ne_empty (f : CallFailure) :
    (failed f).outcome.errorMessage ≠ "" := by
  show (if f.message = "" then FailureKind.aborted.defaultMessage else f.message) ≠ ""
  split
  · exact FailureKind.aborted.defaultMessage_ne_empty
  · assumption

/-- **The failure that a status reports** has the kind that was sent and the message that was
put into the status. -/
theorem toResult_failed_eq (f : CallFailure) :
    (failed f).toResult = .error ⟨f.kind, (failed f).outcome.errorMessage⟩ := by
  show Except.error (CallFailure.because f.kind (failed f).outcome.errorMessage) = _
  rw [CallFailure.because_of_ne_empty (errorMessage_failed_ne_empty f)]

/-- The message that was put into the status is right unless there was none and the kind is not
that of an aborted call. -/
theorem received_eq_because_iff (f : CallFailure) :
    ⟨f.kind, (failed f).outcome.errorMessage⟩ = CallFailure.because f.kind f.message
      ↔ f.message ≠ "" ∨ f.kind = .aborted := by
  show CallFailure.mk f.kind (if f.message = "" then _ else _)
    = ⟨f.kind, if f.message = "" then _ else _⟩ ↔ _
  by_cases hsilent : f.message = ""
  · rw [if_pos hsilent, if_pos hsilent]
    constructor
    · intro hsame
      exact .inr (FailureKind.defaultMessage_injective (congrArg CallFailure.message hsame).symm)
    · rintro (hne | hkind)
      · exact absurd hsilent hne
      · rw [hkind]
  · rw [if_neg hsilent, if_neg hsilent]
    exact iff_of_true rfl (.inl hsilent)

/-- **What becomes of a failure on its way.** The status of every failure can be read again,
and reports a failure of the same kind. Its message is the one that was sent, or that of an
aborted call if there was none. So it is what the receiver would have made of the failure
exactly if there was a message or the call was aborted. A call whose handler answers with the
failure ends in it. -/
theorem failure_arrives (f : CallFailure) :
    ∃ received : CallFailure,
      (decode? (encode (failed f))).map toResult = some (.error received)
      ∧ received.kind = f.kind
      ∧ (f.message ≠ "" → received.message = f.message)
      ∧ (f.message = "" → received.message = FailureKind.aborted.defaultMessage)
      ∧ (received = .because f.kind f.message ↔ f.message ≠ "" ∨ f.kind = .aborted)
      ∧ ∀ {Req Resp Out : Type} (c : Call Req Resp Out) (ticket : Nat),
          c.report ticket (some (.error f)) = .error received := by
  refine ⟨⟨f.kind, (failed f).outcome.errorMessage⟩, ?_, rfl, fun hmessage => if_neg hmessage,
    fun hsilent => if_pos hsilent, received_eq_because_iff f, fun c ticket => ?_⟩
  · rw [decode?_encode, Option.map_some, toResult_failed_eq]
  · show c.conclude (.ok (.failed f)) = _
    unfold Call.conclude Reply.failed
    dsimp only
    rw [toResult_failed_eq]

/-- A failure without a message that can be read from JSON, and arrives with a message that is
not the one of its kind. -/
theorem silent_failure_misreported :
    decode? (Json.ofFields [("kind", .ofString "no_com_id"), ("message", .ofString "")]).render
        = some (⟨.noComId, ""⟩ : CallFailure)
      ∧ (decode? (encode (failed ⟨.noComId, ""⟩))).map toResult
        = some (.error ⟨.noComId, "call aborted"⟩)
      ∧ CallFailure.because .noComId "" = ⟨.noComId, "no comId provided"⟩ := by
  refine ⟨by decide +kernel, ?_, rfl⟩
  rw [decode?_encode]
  rfl

end Wire.Status

end Switchboard
