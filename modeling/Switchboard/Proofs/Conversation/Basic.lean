import Switchboard.Client.Channel
import Switchboard.Proofs.Wire.RoundTrip
import Switchboard.Server.Connection

/-!
# Conversations

A conversation is a channel of a client together with the connection of a
server at the other end of its first link, and whatever answers the requests
there. Calls are begun and make their steps, bytes are carried in both
directions, in portions of any size, and replies are produced and written, all
in any order. The connection stays up: dialling succeeds, nothing that is
written breaks off for reasons outside, and neither end closes it.

What happens is recorded beside: the requests in the order in which they were
written, the tasks in the order in which they were handed out to be answered,
and the replies in the order in which they were produced and in which they
were written. Nothing that the two ends do depends on the record.

What answers the requests may be anything that answers each of its tasks once,
with any reply and at any time.
-/

namespace Switchboard

open Wire (Request Reply RequestFits Answered)
open Server (Task Connection)

/-- A request that a call has written. -/
structure Sent where
  call : Nat
  callId : UInt64
  request : Request
deriving DecidableEq

/-- What the server reads of it. -/
def Sent.message (s : Sent) : UInt64 × Request := (s.callId, s.request)

/-- A reply that has been produced for a task. -/
structure Produced where
  task : Task
  reply : Reply
deriving DecidableEq

/-- The call that is answered by it, as the server sees it. -/
def Produced.answered (p : Produced) : Answered := ⟨p.task.callId, p.task.request, p.reply⟩

/-- Its envelope is the reply to the request of its task. -/
theorem Produced.toReply_eq (p : Produced) {request : Request} (own : p.task.request = request) :
    p.answered.envelope.toReply request = .ok p.reply := by
  have hreply := p.answered.toReply_envelope request
  rwa [if_pos (by rw [← own]; exact ⟨rfl, rfl⟩)] at hreply

/-- **A channel and the connection at the other end of its first link**, with a record of what
has happened. -/
structure Conversation where
  channel : Client.Channel
  connection : Connection := {}
  /-- How many call ids have been given out. -/
  given : Nat := 0
  /-- The requests that have been written. -/
  written : List Sent := []
  /-- The tasks that have been handed out to be answered. -/
  runs : List Task := []
  /-- The replies that have been produced. -/
  produced : List Produced := []
  /-- The replies that have been written. -/
  replied : List Produced := []

namespace Conversation

/-- A conversation before its first call. -/
def start (destination : Address) (attempts : Nat) : Conversation :=
  { channel := .withRetry destination attempts }

/-- **What can happen.** -/
inductive Event where
  | begin (request : Request)
  | join (call : Nat)
  | register (call : Nat)
  | write (call : Nat)
  /-- So many bytes reach the server. -/
  | carry (count : Nat)
  /-- A task has its reply. -/
  | produce (ticket : Nat) (reply : Reply)
  /-- The reply of a task is written. -/
  | reply (ticket : Nat)
  /-- So many bytes reach the client. -/
  | bring (count : Nat)
  | finish (call : Nat)

/-- How many ids a call would be given now. -/
def drawn (ch : Client.Channel) (call : Nat) : Nat :=
  match ch.phase? call with
  | some (.joined _) => 1
  | _ => 0

/-- The request that a call would write now. -/
def sent? (ch : Client.Channel) (call : Nat) : Option Sent :=
  match ch.calls[call]? with
  | some ⟨request, _, .writing _ callId _⟩ => some ⟨call, callId, request⟩
  | _ => none

/-- **The conversation after something has happened.** A reply is produced once for each task,
and written once. -/
def step (w : Conversation) : Event → Conversation
  | .begin request => { w with channel := (w.channel.begin request).1 }
  | .join call => { w with channel := w.channel.join call (.ok ()) }
  | .register call =>
    { w with channel := w.channel.register call, given := w.given + drawn w.channel call }
  | .write call =>
    { w with
      channel := w.channel.write call none
      written := w.written ++ (sent? w.channel call).toList }
  | .carry count =>
    match w.channel.links[0]? with
    | none => w
    | some l =>
      let (connection, started) := w.connection.receive w.runs.length (l.outbound.take count)
      { w with
        channel := w.channel.changeLink 0 fun l => { l with outbound := l.outbound.drop count }
        connection
        runs := w.runs ++ started }
  | .produce ticket reply =>
    match w.connection.tasks.find? (·.ticket = ticket) with
    | none => w
    | some task =>
      if task ∈ w.produced.map (·.task) then w
      else { w with produced := w.produced ++ [⟨task, reply⟩] }
  | .reply ticket =>
    match w.produced.find? (·.task.ticket = ticket) with
    | none => w
    | some p =>
      if p.task ∈ w.connection.tasks then
        { w with connection := w.connection.answer ticket p.reply, replied := w.replied ++ [p] }
      else w
  | .bring count =>
    { w with
      channel := w.channel.receive 0 (w.connection.outbound.take count)
      connection := { w.connection with outbound := w.connection.outbound.drop count } }
  | .finish call => { w with channel := w.channel.finish call }

/-- **What may happen**: requests and replies fit their frames, and ids are given out as long as
there are new ones. When there are no new ones left, nobody may wait with the next one. -/
def Allows (w : Conversation) : Event → Prop
  | .register _ =>
    w.given < UInt64.size ∨ ∀ l ∈ w.channel.links, w.channel.nextCallId ∉ l.waiting.map (·.1)
  | .write call => ∀ s ∈ sent? w.channel call, RequestFits s.message
  | .produce ticket reply => ∀ task ∈ w.connection.tasks, task.ticket = ticket →
    (⟨task, reply⟩ : Produced).answered.Fits
  | _ => True

instance (w : Conversation) : (event : Event) → Decidable (w.Allows event)
  | .register _ => inferInstanceAs (Decidable (_ ∨ _))
  | .write call =>
    inferInstanceAs (Decidable (∀ s ∈ sent? w.channel call, RequestFits s.message))
  | .produce ticket reply =>
    inferInstanceAs (Decidable (∀ task ∈ w.connection.tasks, task.ticket = ticket →
      (⟨task, reply⟩ : Produced).answered.Fits))
  | .begin _ | .join _ | .carry _ | .reply _ | .bring _ | .finish _ =>
    inferInstanceAs (Decidable True)

/-- **The conversation after several things have happened**, one after another. -/
def run (w : Conversation) (events : List Event) : Conversation := events.foldl step w

/-- Each of them may happen when its turn comes. -/
def AllowsAll (w : Conversation) : List Event → Prop
  | [] => True
  | event :: events => w.Allows event ∧ (w.step event).AllowsAll events

instance decidableAllowsAll : (w : Conversation) → (events : List Event) →
    Decidable (w.AllowsAll events)
  | _, [] => inferInstanceAs (Decidable True)
  | w, event :: events =>
    have := decidableAllowsAll (w.step event) events
    inferInstanceAs (Decidable (w.Allows event ∧ (w.step event).AllowsAll events))

/-- **A task is a run of a call**: its ticket is the place of the request among those that were
written, and it is the request of this call that was written there. -/
def IsRunOf (written : List Sent) (task : Task) (call : Nat) : Prop :=
  written[task.ticket]? = some ⟨call, task.callId, task.request⟩

/-- Nothing is under way and nobody is at work. -/
structure IsQuiet (w : Conversation) : Prop where
  link : ∀ l ∈ w.channel.links, l.outbound = []
  tasks : w.connection.tasks = []
  connection : w.connection.outbound = []

end Conversation

end Switchboard
