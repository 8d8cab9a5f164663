import Switchboard.Json.Codec

/-!
# Failed calls

Every call ends in a `CallResult`: a value, or a `CallFailure` that names its
kind and says why. A failure that is made without a reason gets the text of
its kind, so that a report is never empty. `CallStatus` is what remains of a
result when the value does not matter.
-/

namespace Switchboard

/-- **Why a call failed.** -/
inductive FailureKind where
  | malformedAddress
  /-- The caller's arguments were refused. -/
  | invalidInputParameter
  | clientNotStarted
  /-- The request or its reply was lost on the way. -/
  | transportFailure
  /-- Nobody answers calls of this method. -/
  | noCallbackRegistered
  /-- The reply could not be understood. -/
  | invalidResponseValue
  /-- The method belongs to a session and the request named none. -/
  | noComId
  /-- The handler gave up its right to answer. -/
  | responseNotSent
  /-- The handler answered with a failure of its own. -/
  | aborted
deriving DecidableEq, Repr, Inhabited

namespace FailureKind

/-- All kinds of failure. -/
def all : List FailureKind :=
  [malformedAddress, invalidInputParameter, clientNotStarted, transportFailure,
    noCallbackRegistered, invalidResponseValue, noComId, responseNotSent, aborted]

/-- The name of a kind on the wire. -/
def name : FailureKind → String
  | malformedAddress => "malformed_address"
  | invalidInputParameter => "invalid_input_parameter"
  | clientNotStarted => "client_not_started"
  | transportFailure => "transport_failure"
  | noCallbackRegistered => "no_callback_registered"
  | invalidResponseValue => "invalid_response_value"
  | noComId => "no_com_id"
  | responseNotSent => "response_not_sent"
  | aborted => "aborted"

/-- What is said about a failure for which nobody gave a reason. -/
def defaultMessage : FailureKind → String
  | malformedAddress => "malformed address"
  | invalidInputParameter => "invalid input parameter"
  | clientNotStarted => "client not started"
  | transportFailure => "transport failure"
  | noCallbackRegistered => "no processing callback set"
  | invalidResponseValue => "invalid response value"
  | noComId => "no comId provided"
  | responseNotSent => "response callback not called"
  | aborted => "call aborted"

end FailureKind

instance : JsonCodec FailureKind where
  toJson k := .ofString k.name
  ofJson? _ := Json.enum? FailureKind.all FailureKind.name

/-- **A failed call.** -/
structure CallFailure where
  kind : FailureKind
  message : String
deriving DecidableEq, Repr, Inhabited

namespace CallFailure

/-- A failure of some kind for a reason; the empty reason is none. -/
def because (kind : FailureKind) (reason : String) : CallFailure :=
  ⟨kind, if reason = "" then kind.defaultMessage else reason⟩

/-- A failure for which nobody gave a reason. -/
def of (kind : FailureKind) : CallFailure := ⟨kind, kind.defaultMessage⟩

/-- A failure of the handler's own. -/
def aborted (reason : String) : CallFailure := because .aborted reason

end CallFailure

instance : JsonCodec CallFailure where
  toJson f := .ofFields
    [("kind", JsonCodec.toJson f.kind), ("message", JsonCodec.toJson f.message)]
  ofJson? depth value := do
    let [kind, message] ← Json.fields? ["kind", "message"] value | none
    return { kind := ← JsonCodec.ofJson? (depth + 1) (← kind)
             message := ← JsonCodec.ofJson? (depth + 1) (← message) }

/-- How a call ended. -/
abbrev CallResult (α : Type) := Except CallFailure α

instance {α : Type} [DecidableEq α] : DecidableEq (CallResult α)
  | .ok a, .ok b => decidable_of_iff (a = b) (by simp)
  | .error e, .error f => decidable_of_iff (e = f) (by simp)
  | .ok _, .error _ => .isFalse (by simp)
  | .error _, .ok _ => .isFalse (by simp)

/-! ## Results without their values -/

/-- Whether a call succeeded. -/
inductive CallState where
  | ok
  | failed
deriving DecidableEq, Repr, Inhabited

namespace CallState

/-- Both states. -/
def all : List CallState := [ok, failed]

/-- The name of a state on the wire. -/
def name : CallState → String
  | ok => "ok"
  | failed => "failed"

end CallState

instance : JsonCodec CallState where
  toJson s := .ofString s.name
  ofJson? _ := Json.enum? CallState.all CallState.name

/-- **The outcome of a call without its value.** -/
structure CallStatus where
  state : CallState
  errorMessage : String
deriving DecidableEq, Repr, Inhabited

namespace CallStatus

/-- The status of a call that succeeded. -/
def ok : CallStatus := ⟨.ok, ""⟩

/-- The status of a call that failed; without a message it counts as aborted. -/
def failed (message : String) : CallStatus :=
  ⟨.failed, if message = "" then FailureKind.aborted.defaultMessage else message⟩

/-- Whether the call succeeded. -/
def isOk (s : CallStatus) : Bool := s.state = .ok

/-- The members of a status as an object; an empty message is left out. -/
def members (s : CallStatus) : List (String × Json) :=
  ("state", JsonCodec.toJson s.state) ::
    if s.errorMessage = "" then [] else [("error_message", JsonCodec.toJson s.errorMessage)]

end CallStatus

instance : JsonCodec CallStatus where
  toJson s := .ofFields s.members
  ofJson? depth value := do
    let [state, errorMessage] ← Json.fields? ["state", "error_message"] value | none
    return { state := ← JsonCodec.ofJson? (depth + 1) (← state)
             errorMessage := ← Json.orDefault "" (JsonCodec.ofJson? (depth + 1)) errorMessage }

end Switchboard
