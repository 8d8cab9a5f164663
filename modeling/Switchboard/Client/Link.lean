import Switchboard.Wire.Arrival

/-!
# Connections of a client

Several calls share a link. Each call that is about to be written leaves its
call id with the link, and a reply goes to the call that has left the id it
carries; the id is taken off then, so that a second reply with it finds
nobody. A reply that finds nobody is thrown away.

A link is over when its server ends it, or sends what is no reply. From then
on no call can leave an id with it, and the calls that have done so are told
that their replies are lost.
-/

namespace Switchboard.Client

open Wire (ReplyEnvelope)

/-- **A connection as its client sees it.** -/
structure Link where
  isOpen : Bool := true
  /-- What has come in and is not yet a complete reply. -/
  inbound : List UInt8 := []
  /-- The call ids that have been left, each with the number of the call. -/
  waiting : List (UInt64 × Nat) := []
  /-- What has been written and not yet been taken by the server. -/
  outbound : List UInt8 := []
deriving DecidableEq, Inhabited

namespace Link

/-- The link after a call has left its id. -/
def expect (l : Link) (callId : UInt64) (call : Nat) : Link :=
  { l with waiting := (callId, call) :: l.waiting }

/-- The link without a call id. -/
def forget (l : Link) (callId : UInt64) : Link :=
  { l with waiting := l.waiting.filter (·.1 ≠ callId) }

/-- The link after something has been written. -/
def write (l : Link) (bytes : List UInt8) : Link := { l with outbound := l.outbound ++ bytes }

/-- **Hands out replies** in the order in which they came: each to the call that waits for
it, if there is one. -/
def route (l : Link) : List ReplyEnvelope → Link × List (Nat × ReplyEnvelope)
  | [] => (l, [])
  | envelope :: rest =>
    match l.waiting.lookup envelope.header.callId with
    | none => l.route rest
    | some call =>
      let (after, handed) := (l.forget envelope.header.callId).route rest
      (after, (call, envelope) :: handed)

/-- The link after its end, and the calls whose replies are lost by that. -/
def close (l : Link) : Link × List Nat :=
  ({ l with isOpen := false, inbound := [], waiting := [] }, l.waiting.map (·.2))

/-- **The link after some bytes have come in**: the replies that have been handed out, and
the calls whose replies are lost. -/
def receive (l : Link) (bytes : List UInt8) : Link × List (Nat × ReplyEnvelope) × List Nat :=
  if l.isOpen then
    let arrived := Wire.arrivals Wire.readReply (l.inbound ++ bytes)
    let (routed, handed) := l.route arrived.values
    match arrived.error with
    | none => ({ routed with inbound := arrived.pending }, handed, [])
    | some _ =>
      let (closed, lost) := routed.close
      (closed, handed, lost)
  else (l, [], [])

end Link

end Switchboard.Client
