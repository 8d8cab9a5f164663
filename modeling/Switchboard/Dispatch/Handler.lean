import Switchboard.Dispatch.Method

/-!
# Handlers

A handler answers calls of one method. It is given the session and the request
of a call together with a `Responder`, and is a function of the state `σ` of
the program it belongs to. It may answer at once, or keep the responder in that
state and answer later, or give it up.

A responder is used at most once by construction: what it makes is the one
result of the call with its `ticket`, and a call whose result is known does not
wait for another.
-/

namespace Switchboard

/-- **The right to answer a call** with a value of type `α`. -/
structure Responder (α : Type) where
  /-- Which call is answered. -/
  ticket : Nat
  method : MethodKind
  pack : α → Except String ByteArray

namespace Responder

variable {α β : Type}

/-- **The result of the call** that is answered so. A value that cannot be packed fails it. -/
def answer (r : Responder α) : CallResult α → CallResult ByteArray
  | .error failure => .error failure
  | .ok a =>
    match r.pack a with
    | .ok payload => .ok payload
    | .error reason => .error (.aborted (Method.complaint "encode" r.method "response" reason))

/-- A responder for values that are converted before they are sent. -/
def map (r : Responder α) (convert : β → α) : Responder β :=
  ⟨r.ticket, r.method, fun b => r.pack (convert b)⟩

end Responder

/-- **What a handler did** with its responder before it returned. -/
inductive Reaction (α : Type) where
  | answered (result : CallResult α)
  /-- Kept it, to answer later. -/
  | kept
  /-- Gave it up without answering. -/
  | dropped
  /-- Broke down, for a reason if one can be told, and lost it. -/
  | crashed (reason : Option String)
deriving Inhabited

/-- The reaction with a converted value. -/
def Reaction.map {α β : Type} (convert : β → α) : Reaction β → Reaction α
  | answered result => .answered (result.map convert)
  | kept => .kept
  | dropped => .dropped
  | crashed reason => .crashed reason

/-- **A handler** of requests in a program with state `σ`. -/
abbrev Handler (σ Req Resp : Type) :=
  (comId : String) → Req → Responder Resp → σ → σ × Reaction Resp

/-- A handler of other types, by conversions from the request and to the response. -/
def Handler.adapt {σ Req Req' Resp Resp' : Type} (toRequest : Req → Req')
    (ofResponse : Resp' → Resp) (h : Handler σ Req' Resp') : Handler σ Req Resp :=
  fun comId request responder s =>
    let (s, reaction) := h comId (toRequest request) (responder.map ofResponse) s
    (s, reaction.map ofResponse)

/-- A handler that answers every call at once. -/
def Handler.direct {σ Req Resp : Type} (run : String → Req → σ → σ × CallResult Resp) :
    Handler σ Req Resp := fun comId request _ s =>
  let (s, result) := run comId request s
  (s, .answered result)

end Switchboard
