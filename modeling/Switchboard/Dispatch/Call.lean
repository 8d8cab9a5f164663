import Switchboard.Dispatch.Method
import Switchboard.Wire.Envelope

/-!
# Calls

A call is a request to be made of a method, with a check of the request and an
interpretation of the response. It is made in two parts, with the channel
between them: `Call.prepare` decides whether the channel is used at all and with which
request, `Call.conclude` makes a result of whatever the channel answers.
`Call.invoke` puts them together over any channel, and `Invocation` is what it
needs to know of a call.
-/

namespace Switchboard

open Wire (Request Reply)

/-- **A call of a method** that ends in a value of type `Out`. -/
structure Call (Req Resp Out : Type) where
  method : Method Req Resp
  request : Req
  /-- Which requests may be sent. -/
  accepts : Req → Bool := fun _ => true
  interpret : Resp → CallResult Out

/-- A channel to a server, in a monad in which it acts. -/
abbrev ChannelIn (m : Type → Type) := Request → m (Except TransportError Reply)

namespace Call

variable {Req Resp Out : Type}

/-- **The request that is sent**, if the session and the request are acceptable. -/
def prepare (c : Call Req Resp Out) (comId : String) : CallResult Request :=
  if c.method.kind.needsComId ∧ comId = "" then .error (.of .invalidInputParameter)
  else if c.accepts c.request = false then .error (.of .invalidInputParameter)
  else
    match c.method.request.pack c.request with
    | .error reason => .error (.because .invalidInputParameter
        (Method.complaint "encode" c.method.kind "request" reason))
    | .ok payload =>
      .ok ⟨if comId = "" then none else some comId, c.method.kind.functionId, payload⟩

/-- **The result of the call**, given what came back. The payload counts only if the status
reports success. -/
def conclude (c : Call Req Resp Out) : Except TransportError Reply → CallResult Out
  | .error e => .error (.because .transportFailure e.message)
  | .ok reply =>
    match reply.status.toResult with
    | .error failure => .error failure
    | .ok () =>
      match c.method.response.unpack? reply.payload with
      | none => .error (.because .invalidResponseValue
          (Method.complaint "decode" c.method.kind "response" Method.unreadable))
      | some response => c.interpret response

end Call

/-- **A call with its types hidden**: the request to be sent, if any may be, and the result
that an answer leads to. -/
structure Invocation (Out : Type) where
  request : CallResult Request
  conclude : Except TransportError Reply → CallResult Out

namespace Invocation

/-- The invocation with a converted value. -/
def map {α β : Type} (f : α → β) (i : Invocation α) : Invocation β :=
  ⟨i.request, fun answer => (i.conclude answer).map f⟩

/-- **Makes a call**, if there is a channel to make it over. -/
def run {m : Type → Type} [Monad m] {Out : Type} (i : Invocation Out)
    (channel : Option (ChannelIn m)) : m (CallResult Out) :=
  match channel, i.request with
  | none, _ => pure (.error (.of .clientNotStarted))
  | some _, .error failure => pure (.error failure)
  | some send, .ok request => return i.conclude (← send request)

end Invocation

namespace Call

variable {Req Resp Out : Type}

/-- A call in a session. -/
def on (c : Call Req Resp Out) (comId : String) : Invocation Out := ⟨c.prepare comId, c.conclude⟩

/-- **Makes a call** in a session, if there is a channel to make it over. -/
def invoke {m : Type → Type} [Monad m] (c : Call Req Resp Out) (channel : Option (ChannelIn m))
    (comId : String) : m (CallResult Out) :=
  (c.on comId).run channel

end Call

end Switchboard
