import Switchboard.Dispatch.Handler
import Switchboard.Wire.Envelope

/-!
# Dispatchers

A dispatcher decides what becomes of a request that has reached a server. It
asks in a fixed order, and the first question that is answered with no settles
the matter:

1. Does the service have a method with this number?
2. Does the request name a session, if the method wants one?
3. Has a handler been bound to the method?
4. Can the payload be read?

Only then a handler runs, and it runs once. It is the one bound last; a later
binding does not touch calls that are already waiting for their result.
-/

namespace Switchboard

open Wire (Request Reply)

/-- **How far a request has come.** -/
inductive Progress where
  /-- The result is known. -/
  | finished (result : CallResult ByteArray)
  /-- The handler has kept its responder. -/
  | waiting
  /-- The handler has broken down. -/
  | crashed (reason : Option String)
deriving Inhabited

/-- The result of a call whose responder was given up. -/
def notSent : CallResult ByteArray := .error (.of .responseNotSent)

/-- What is reported to the caller of a handler that broke down. -/
def crashFailure (reason : Option String) : CallFailure :=
  .aborted ("handler panicked: " ++ reason.getD "unknown panic")

/-- The reply to a request, if its result is known. A handler that has broken down fails its
own call only. -/
def Progress.reply? : Progress → Option Reply
  | finished result => some (.ofResult result)
  | waiting => none
  | crashed reason => some (.failed (crashFailure reason))

/-- A bound handler: takes the session, the payload and the ticket of a call. -/
abbrev Binding (σ : Type) := String → ByteArray → Nat → σ → σ × Progress

/-- How far a call has come when its handler has returned. -/
def Responder.progress {α : Type} (r : Responder α) : Reaction α → Progress
  | .answered result => .finished (r.answer result)
  | .kept => .waiting
  | .dropped => .finished notSent
  | .crashed reason => .crashed reason

/-- **A handler bound to a method.** It runs only on a payload that can be read. -/
def Handler.bindTo {σ Req Resp : Type} (m : Method Req Resp) (h : Handler σ Req Resp) : Binding σ :=
  fun comId payload ticket s =>
    match m.request.unpack? payload with
    | none => (s, .finished (.error (.because .invalidInputParameter
        (Method.complaint "decode" m.kind "request" Method.unreadable))))
    | some request =>
      let responder : Responder Resp := ⟨ticket, m.kind, m.response.pack⟩
      let (s, reaction) := h comId request responder s
      (s, responder.progress reaction)

/-- **A dispatcher** for the methods of a service in a program with state `σ`. -/
structure Dispatcher (σ : Type) where
  service : ServiceType
  methods : List MethodKind
  /-- Bound handlers by service and number, the latest first. -/
  bindings : List ((ServiceType × UInt32) × Binding σ) := []

namespace Dispatcher

variable {σ : Type}

/-- The handler bound to a method. -/
def binding? (d : Dispatcher σ) (kind : MethodKind) : Option (Binding σ) :=
  d.bindings.lookup (kind.service, kind.functionId)

/-- **The dispatcher with a handler bound** to a method of its service, in place of an
earlier one. -/
def bind {Req Resp : Type} (d : Dispatcher σ) (m : Method Req Resp) (h : Handler σ Req Resp)
    (_own : m.kind.service = d.service) : Dispatcher σ :=
  { d with bindings := ((m.kind.service, m.kind.functionId), h.bindTo m) :: d.bindings }

/-- The same for a method that may belong to another service; then there is none. -/
def bind? {Req Resp : Type} (d : Dispatcher σ) (m : Method Req Resp) (h : Handler σ Req Resp) :
    Option (Dispatcher σ) :=
  if own : m.kind.service = d.service then some (d.bind m h own) else none

/-- The session a request names, if it names one. -/
def namedComId (request : Request) : Option String := request.comId.filter (· ≠ "")

/-- **What becomes of a request.** The ticket stands for its call from now on. -/
def handle (d : Dispatcher σ) (request : Request) (ticket : Nat) (s : σ) : σ × Progress :=
  match MethodKind.find? d.methods request.functionId with
  | none => (s, .finished (.error (.of .noCallbackRegistered)))
  | some kind =>
    if kind.needsComId ∧ namedComId request = none then (s, .finished (.error (.of .noComId)))
    else
      match d.binding? kind with
      | none => (s, .finished (.error (.of .noCallbackRegistered)))
      | some run => run ((namedComId request).getD "") request.payload ticket s

end Dispatcher

end Switchboard
