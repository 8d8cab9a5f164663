import Switchboard.Error
import Switchboard.Limits
import Switchboard.Text.Quoted
import Switchboard.Wire.Header

/-!
# Envelopes

A call travels as an envelope,

    preamble, magic, length, header, length, payload

and its reply as the same without the preamble. Words and lengths have four
bytes, the most significant first; header and payload are frames, which no
peer may make larger than `Limits.maxFrame`. Several calls share a connection:
the reply repeats the call id of its request, and its session and function
besides, by which the client checks that it is the reply to this request.

Writing can fail halfway. The size of a frame is looked at when its turn
comes, so an envelope whose payload is too large is abandoned after its header
has been written. `Written` keeps both the bytes and the failure.
-/

namespace Switchboard.Wire

/-- Payloads are compared byte by byte. -/
instance (priority := high) payloadDecidableEq : DecidableEq ByteArray := ByteArray.instDecidableEq

/-- **A call on its way to a server.** -/
structure Request where
  comId : Option String
  functionId : UInt32
  payload : ByteArray
deriving DecidableEq, Inhabited

/-- **A reply on its way back.** -/
structure Reply where
  status : Status
  payload : ByteArray
deriving DecidableEq, Inhabited

namespace Reply

/-- The reply of a call that succeeded. -/
def ok (payload : ByteArray) : Reply := ⟨.ok, payload⟩

/-- The reply of a call that failed. -/
def failed (failure : CallFailure) : Reply := ⟨.failed failure, .empty⟩

/-- The reply that reports a result. -/
def ofResult : CallResult ByteArray → Reply
  | .ok payload => .ok payload
  | .error failure => .failed failure

end Reply

/-- A reply as it arrived, not yet matched with a request. -/
structure ReplyEnvelope where
  header : Header
  payload : ByteArray
deriving DecidableEq, Inhabited

/-- **The reply to a request.** An envelope for another function or another session is
none. -/
def ReplyEnvelope.toReply (e : ReplyEnvelope) (request : Request) : Except TransportError Reply :=
  if e.header.functionId ≠ request.functionId ∨ e.header.comId ≠ request.comId then
    .error (.protocol
      ("reply for function " ++ toString e.header.functionId.toNat ++
        " (" ++ Text.quotedOption e.header.comId ++ ") does not match request for function " ++
        toString request.functionId.toNat ++ " (" ++ Text.quotedOption request.comId ++ ")"))
  else .ok ⟨e.header.status, e.payload⟩

/-! ## Writing -/

/-- The bytes of a word, the most significant first. -/
def wordBytes (w : UInt32) : List UInt8 :=
  [(w >>> 24).toUInt8, (w >>> 16).toUInt8, (w >>> 8).toUInt8, w.toUInt8]

/-- **The outcome of writing**: the bytes that went out, and why writing stopped if it
did not come to its end. -/
structure Written where
  bytes : List UInt8
  error : Option TransportError
deriving DecidableEq, Inhabited

namespace Written

/-- Writing that cannot fail. -/
def just (bytes : List UInt8) : Written := ⟨bytes, none⟩

/-- One thing written after another, unless the first failed. -/
def andThen (first second : Written) : Written :=
  match first.error with
  | some _ => first
  | none => ⟨first.bytes ++ second.bytes, second.error⟩

/-- The same on a stream that breaks after so many bytes. A failure that comes before that is
still the one that is met. -/
def brokenAfter (w : Written) (count : Nat) (error : TransportError) : Written :=
  if w.error.isSome ∧ w.bytes.length ≤ count then w else ⟨w.bytes.take count, some error⟩

end Written

/-- A frame: its length and its bytes. -/
def writeFrame (payload : ByteArray) : Written :=
  if Limits.maxFrame < payload.size then ⟨[], some (.frameTooLarge payload.size Limits.maxFrame)⟩
  else .just (wordBytes (UInt32.ofNat payload.size) ++ payload.data.toList)

/-- An envelope without a preamble. -/
def writeEnvelope (header : Header) (payload : ByteArray) : Written :=
  (Written.just (wordBytes Limits.magic)).andThen
    ((writeFrame (encode header).toByteArray).andThen (writeFrame payload))

/-- The header of a request. -/
def Request.header (request : Request) (callId : UInt64) : Header :=
  ⟨callId, request.comId, request.functionId, .ok⟩

/-- The header of the reply to a request. -/
def Request.replyHeader (request : Request) (callId : UInt64) (reply : Reply) : Header :=
  ⟨callId, request.comId, request.functionId, reply.status⟩

/-- **The envelope of a request.** -/
def writeRequest (callId : UInt64) (request : Request) : Written :=
  (Written.just (wordBytes Limits.preamble)).andThen
    (writeEnvelope (request.header callId) request.payload)

/-- **The envelope of the reply to a request.** -/
def writeReply (callId : UInt64) (request : Request) (reply : Reply) : Written :=
  writeEnvelope (request.replyHeader callId reply) reply.payload

end Switchboard.Wire
