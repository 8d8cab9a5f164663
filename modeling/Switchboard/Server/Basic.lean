import Switchboard.Host.Listening
import Switchboard.Limits
import Switchboard.Server.Connection
import Switchboard.Server.Slots

/-!
# Servers

A server listens somewhere and keeps the connections that it has accepted,
each under a number that is used once. It is started by listening at a URL and
stopped by a shutdown, which closes every connection and leaves no socket
behind. A second shutdown does nothing, whatever lies at the path by then.
-/

namespace Switchboard

open Wire (Reply)

/-- **A server that has been started.** -/
structure Server where
  listening : Listening
  /-- Whether it has not been shut down. -/
  isRunning : Bool := true
  slots : Server.Slots := ⟨Limits.maxConnections, 0⟩
  /-- The connections that are or were open, by number. -/
  connections : List (Nat × Server.Connection) := []
deriving Inhabited

namespace Server

/-- The address under which clients reach the server. -/
def location (s : Server) : Address := s.listening.location

/-- **Starts a server at a URL.** -/
def start (url : String) : Host.Action SetupError Server := do
  return { listening := ← Host.listen url }

/-- The connection with a number. -/
def connection? (s : Server) (number : Nat) : Option Connection := s.connections.lookup number

/-- **The server with a new connection**, unless it has no slot for it. -/
def accept? (s : Server) (number : Nat) : Option Server :=
  match s.slots.acquire? with
  | none => none
  | some slots => some { s with slots, connections := (number, {}) :: s.connections }

/-- The server after a change to a connection. A connection that is over by then gives its
slot back. -/
def change (s : Server) (number : Nat) (f : Connection → Connection) : Server :=
  match s.connection? number with
  | none => s
  | some c =>
    { s with
      slots := if c.isOpen ∧ (f c).isOpen = false then s.slots.release else s.slots
      connections := s.connections.map fun e => if e.1 = number then (number, f c) else e }

/-- The server after bytes have come in on a connection, and the tasks for the requests
that are complete now. -/
def receive (s : Server) (number ticket : Nat) (bytes : List UInt8) : Server × List Task :=
  match s.connection? number with
  | none => (s, [])
  | some c =>
    let (after, started) := c.receive ticket bytes
    (s.change number fun _ => after, started)

/-- The server after the client of a connection has gone. -/
def hangUp (s : Server) (number : Nat) : Server := s.change number Connection.close

/-- The server after a task has its reply, on whichever connection. -/
def answer (s : Server) (ticket : Nat) (reply : Reply) : Server :=
  { s with connections := s.connections.map fun e => (e.1, e.2.answer ticket reply) }

/-- Whether a task is still at work. -/
def isWaiting (s : Server) (ticket : Nat) : Bool :=
  s.connections.any fun e => e.2.tasks.any (·.ticket = ticket)

/-- The server with every connection closed. -/
def closeAll (s : Server) : Server := s.connections.foldl (fun s e => s.hangUp e.1) s

/-- **Shuts a server down.** -/
def shutdown (s : Server) (h : Host) : Server × Host :=
  if s.isRunning then ({ s.closeAll with isRunning := false }, h.release s.listening) else (s, h)

end Server

end Switchboard
