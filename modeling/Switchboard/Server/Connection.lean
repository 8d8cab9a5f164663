import Switchboard.Wire.Arrival

/-!
# Connections of a server

A server reads the requests of a connection one after the other and hands each
to a task of its own, so that a slow answer does not hold up the requests
behind it. A task writes its reply as soon as it has one; replies leave in the
order in which they were ready.

Bytes that are no request end the connection, and so does the end of the
client's stream. Then the tasks that are still at work are dropped: their
replies would reach nobody.
-/

namespace Switchboard.Server

open Wire (Request Reply)

/-- **A request that is being answered.** -/
structure Task where
  /-- Stands for this request among all that the server has been sent. -/
  ticket : Nat
  callId : UInt64
  request : Request
deriving DecidableEq, Inhabited

/-- **A connection as its server sees it.** -/
structure Connection where
  isOpen : Bool := true
  /-- What has come in and is not yet a complete request. -/
  inbound : List UInt8 := []
  /-- The requests that are being answered. -/
  tasks : List Task := []
  /-- What has been written and not yet been taken by the client. -/
  outbound : List UInt8 := []
deriving DecidableEq, Inhabited

namespace Connection

/-- The connection after its end. What has been written still reaches the client. -/
def close (c : Connection) : Connection := { c with isOpen := false, inbound := [], tasks := [] }

/-- The tasks for some requests, with tickets counted from `ticket`. -/
def tasksFor (ticket : Nat) : List (UInt64 × Request) → List Task
  | [] => []
  | (callId, request) :: rest => ⟨ticket, callId, request⟩ :: tasksFor (ticket + 1) rest

/-- **The connection after some bytes have come in**, and the tasks for the requests that
are complete now. -/
def receive (c : Connection) (ticket : Nat) (bytes : List UInt8) : Connection × List Task :=
  if c.isOpen then
    let arrived := Wire.arrivals Wire.readRequest (c.inbound ++ bytes)
    let started := tasksFor ticket arrived.values
    match arrived.error with
    | none => ({ c with inbound := arrived.pending, tasks := c.tasks ++ started }, started)
    | some _ => (c.close, started)
  else (c, [])

/-- **The connection after a task has its reply.** A task that was dropped has none. -/
def answer (c : Connection) (ticket : Nat) (reply : Reply) : Connection :=
  match c.tasks.find? (·.ticket = ticket) with
  | none => c
  | some task =>
    { c with
      tasks := c.tasks.filter (·.ticket ≠ ticket)
      outbound := c.outbound ++ (Wire.writeReply task.callId task.request reply).bytes }

end Connection

end Switchboard.Server
