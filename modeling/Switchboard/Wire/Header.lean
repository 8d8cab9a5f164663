import Switchboard.Failure

/-!
# Envelope headers

A request and its reply each travel behind a header, a JSON object that names
the call, the session, the function and the status of the call. The status of
a call that failed also carries the kind of failure, as one more member beside
those of the outcome, so that the object stays flat.

A flat object is read in two steps: the members that may belong to the outcome
are set aside first and read from there afterwards. This is why unknown
members of a status, and only of a status, have to be meaningful JSON.
-/

namespace Switchboard.Wire

/-- **The status in an envelope header.** -/
structure Status where
  outcome : CallStatus
  kind : Option FailureKind
deriving DecidableEq, Repr, Inhabited

namespace Status

/-- The status of a call that succeeded, and of every request. -/
def ok : Status := ⟨.ok, none⟩

/-- The status of a call that failed. -/
def failed (failure : CallFailure) : Status := ⟨.failed failure.message, some failure.kind⟩

/-- **The result a status reports.** A failure without a kind counts as aborted, one
without a message has the message of its kind. -/
def toResult (s : Status) : CallResult Unit :=
  if s.outcome.isOk then .ok ()
  else .error (.because (s.kind.getD .aborted) s.outcome.errorMessage)

/-- The members of a status that was set aside as the outcome. -/
def outcome? (members : List (Json.Text × Json)) : Option CallStatus := do
  let [state, errorMessage] ← Json.fields? ["state", "error_message"] (.object members) | none
  return { state := ← Json.keptEnum? CallState.all CallState.name (← state)
           errorMessage := ← Json.orDefault "" Json.string? errorMessage }

end Status

instance : JsonCodec Status where
  toJson s := .ofFields (s.outcome.members ++
    match s.kind with
    | none => []
    | some kind => [("kind", JsonCodec.toJson kind)])
  ofJson? depth
    | .object members => do
      let [kind] ← Json.fields? ["kind"] (.object members) | none
      let aside := members.filter fun (name, _) => name.string? != some "kind"
      if Json.membersAreKept (depth + 1) aside then
        return { outcome := ← Status.outcome? aside
                 kind := ← Json.orDefault none (Json.orNull? (JsonCodec.ofJson? depth)) kind }
      else none
    | _ => none

/-- **An envelope header.** -/
structure Header where
  /-- Chosen by the client and repeated by the server. -/
  callId : UInt64
  /-- The session of the call; there is none for methods outside sessions. -/
  comId : Option String
  functionId : UInt32
  status : Status
deriving DecidableEq, Repr, Inhabited

instance : JsonCodec Header where
  toJson h := .ofFields
    (("call_id", JsonCodec.toJson h.callId) ::
      ((match h.comId with
        | none => []
        | some comId => [("com_id", JsonCodec.toJson comId)]) ++
        [("function_id", JsonCodec.toJson h.functionId), ("status", JsonCodec.toJson h.status)]))
  ofJson? depth value := do
    let [callId, comId, functionId, status] ←
      Json.fields? ["call_id", "com_id", "function_id", "status"] value | none
    return { callId := ← JsonCodec.ofJson? (depth + 1) (← callId)
             comId := ← Json.orDefault none (Json.orNull? Json.string?) comId
             functionId := ← JsonCodec.ofJson? (depth + 1) (← functionId)
             status := ← JsonCodec.ofJson? (depth + 1) (← status) }

end Switchboard.Wire
