import Mathlib.Data.List.Perm.Basic
import Switchboard.Dispatch.Dispatcher
import Switchboard.Proofs.Dispatch.Dispatcher
import Switchboard.Proofs.Server.Tasks
import Switchboard.Proofs.Wire.Grammar
import Switchboard.Proofs.Wire.RoundTrip

/-!
# Serving a connection

A server reads a connection whose client may send anything: requests, some of
them with the same call id, and bytes that are no request. Each request starts
a task. Tasks end at once or later, in any order, with a result, by giving up
their responder or by breaking down, or they never end; and a task that has
ended writes its reply when its turn comes. Meanwhile the client may end its
stream, and takes what has been written in portions of any size.

`Serving` is such a connection with a record of what has happened, and `Event`
what can happen. The end of a connection drops its tasks, but one that has its
reply by then may still write it; whether it does is left open here, and so is
whether a task that was dropped has come to an end before.

The tasks are those for the longest run of requests that the stream begins
with, whatever comes behind it. What has been written is one reply each for
some of the tasks that have ended, and while the connection is open no reply is
lost: a task that has ended is at work until its reply is written.
-/

namespace Switchboard

open Wire (Request Reply ReplyEnvelope Answered)
open Server (Task Connection)

/-- **How a task has ended.** -/
structure Ending where
  task : Task
  progress : Progress
  isKnown : progress.reply?.isSome = true

namespace Ending

/-- The reply that follows from it. -/
def reply (e : Ending) : Reply := e.progress.reply?.get e.isKnown

/-- The call that is answered, as the server sees it. -/
def answered (e : Ending) : Answered := ⟨e.task.callId, e.task.request, e.reply⟩

theorem reply?_eq (e : Ending) : e.progress.reply? = some e.reply := (Option.some_get _).symm

theorem reply_eq {e : Ending} {reply : Reply} (h : e.progress.reply? = some reply) :
    e.reply = reply :=
  Option.some_inj.mp (e.reply?_eq.symm.trans h)

/-- **The envelope that tells how a task has ended.** It repeats what the request says about the
call, and carries the result; or it says that the responder was given up, or why the handler
has broken down. -/
structure IsCarriedBy (e : Ending) (envelope : ReplyEnvelope) : Prop where
  callId : envelope.header.callId = e.task.callId
  comId : envelope.header.comId = e.task.request.comId
  functionId : envelope.header.functionId = e.task.request.functionId
  finished : ∀ payload, e.progress = .finished (.ok payload) →
    envelope.header.status = .ok ∧ envelope.payload = payload
  failed : ∀ failure, e.progress = .finished (.error failure) →
    envelope.header.status = .failed failure ∧ envelope.payload = .empty
  dropped : ∀ {α : Type} (r : Responder α), e.progress = r.progress .dropped →
    envelope.header.status = .failed (.of .responseNotSent) ∧ envelope.payload = .empty
  crashed : ∀ {α : Type} (r : Responder α) (reason : Option String),
    e.progress = r.progress (.crashed reason) →
    envelope.header.status
        = .failed ⟨.aborted, "handler panicked: " ++ reason.getD "unknown panic"⟩
      ∧ envelope.payload = .empty

/-- The reply to a task is carried by its envelope. -/
theorem isCarriedBy_envelope (e : Ending) : e.IsCarriedBy e.answered.envelope := by
  have hreply (reply : Reply) (h : e.progress.reply? = some reply) :
      e.answered.envelope.header.status = reply.status
        ∧ e.answered.envelope.payload = reply.payload := by
    obtain rfl := e.reply_eq h
    exact ⟨rfl, rfl⟩
  exact
    { callId := rfl
      comId := rfl
      functionId := rfl
      finished := fun payload h => hreply (.ok payload) (by rw [h]; rfl)
      failed := fun failure h => hreply (.failed failure) (by rw [h]; rfl)
      dropped := fun r h => hreply (.failed (.of .responseNotSent)) (by rw [h]; rfl)
      crashed := fun r reason h => by
        -- the message is not empty, so the text of the kind does not take its place
        have hreason : "handler panicked: " ++ reason.getD "unknown panic" ≠ "" := by simp
        refine hreply (.failed ⟨.aborted, _⟩) ?_
        rw [h, ← CallFailure.because_of_ne_empty hreason]
        rfl }

end Ending

/-- **A connection that is served**, with a record of what has happened. -/
structure Serving where
  connection : Connection := {}
  /-- The ticket of the next request, on whichever connection. -/
  nextTicket : Nat := 0
  /-- All that has come in. -/
  received : List UInt8 := []
  /-- Whether the client has ended its stream. -/
  isEnded : Bool := false
  /-- The tasks in the order in which they were handed out. -/
  runs : List Task := []
  /-- How tasks have ended, in the order in which they have. -/
  endings : List Ending := []
  /-- The endings whose replies have been written, in the order in which they were. -/
  replied : List Ending := []
  /-- What the client has taken of the replies. -/
  taken : List UInt8 := []

namespace Serving

/-- **What can happen.** -/
inductive Event where
  /-- Some bytes come in. -/
  | receive (bytes : List UInt8)
  /-- So many requests come in on other connections. -/
  | elsewhere (count : Nat)
  /-- A task has come so far. -/
  | finish (ticket : Nat) (progress : Progress)
  /-- A task that has ended writes its reply. -/
  | write (ticket : Nat)
  /-- The client takes so many bytes. -/
  | take (count : Nat)
  /-- The client ends its stream. -/
  | hangUp

/-- **The connection after something has happened.** A task ends once. As long as the connection
is open, its tasks are those that may write, and behind its end one that has not written yet. -/
def step (w : Serving) : Event → Serving
  | .receive bytes =>
    if w.isEnded then w
    else
      let (connection, started) := w.connection.receive w.nextTicket bytes
      { w with
        connection
        nextTicket := w.nextTicket + started.length
        received := w.received ++ bytes
        runs := w.runs ++ started }
  | .elsewhere count => { w with nextTicket := w.nextTicket + count }
  | .finish ticket progress =>
    match w.runs.find? (·.ticket = ticket) with
    | none => w
    | some task =>
      if task ∈ w.endings.map (·.task) then w
      else if h : progress.reply?.isSome = true then
        { w with endings := w.endings ++ [⟨task, progress, h⟩] }
      else w
  | .write ticket =>
    match w.endings.find? (·.task.ticket = ticket) with
    | none => w
    | some e =>
      if e.task ∈ w.connection.tasks then
        { w with connection := w.connection.answer ticket e.reply, replied := w.replied ++ [e] }
      else if w.connection.isOpen = true ∨ e.task ∈ w.replied.map (·.task) then w
      else
        { w with
          connection :=
            { w.connection with outbound := w.connection.outbound ++ e.answered.written.bytes }
          replied := w.replied ++ [e] }
  | .take count =>
    { w with
      connection := { w.connection with outbound := w.connection.outbound.drop count }
      taken := w.taken ++ w.connection.outbound.take count }
  | .hangUp => { w with connection := w.connection.close, isEnded := true }

/-- **The connection after several things have happened**, one after another. -/
def run (w : Serving) (events : List Event) : Serving := events.foldl step w

/-! ## What is kept -/

/-- **The record agrees with the connection.** -/
structure Agrees (w : Serving) : Prop where
  messages : w.runs.map Task.message = (Wire.arrivals Wire.readRequest w.received).values
  /-- An open connection has read everything but what may still become a request. -/
  pending : w.connection.isOpen = true → w.isEnded = false
    ∧ (Wire.arrivals Wire.readRequest w.received).error = none
    ∧ (Wire.arrivals Wire.readRequest w.received).pending = w.connection.inbound
  /-- A connection is over because the client has ended its stream or has sent something else. -/
  closed : w.connection.isOpen = false → w.connection.tasks = []
    ∧ (w.isEnded = true ∨ (Wire.arrivals Wire.readRequest w.received).error.isSome = true)
  tickets : (w.runs.map (·.ticket)).Pairwise (· < ·)
  ticket_lt : ∀ task ∈ w.runs, task.ticket < w.nextTicket
  /-- The tasks at work are those that have not replied. -/
  tasks : w.connection.isOpen = true →
    w.connection.tasks = w.runs.filter fun task => task ∉ w.replied.map (·.task)
  endings_runs : ∀ e ∈ w.endings, e.task ∈ w.runs
  endings_nodup : (w.endings.map (·.task)).Nodup
  replied_endings : ∀ e ∈ w.replied, e ∈ w.endings
  replied_nodup : (w.replied.map (·.task)).Nodup
  written : w.taken ++ w.connection.outbound = Wire.replyBytes (w.replied.map (·.answered))

theorem agrees_start : ({} : Serving).Agrees where
  messages := rfl
  pending _ := ⟨rfl, rfl, rfl⟩
  closed := nofun
  tickets := .nil
  ticket_lt := nofun
  tasks _ := rfl
  endings_runs := nofun
  endings_nodup := .nil
  replied_endings := nofun
  replied_nodup := .nil
  written := rfl

namespace Agrees

variable {w : Serving}

/-- Different tasks have different tickets. -/
theorem eq_of_ticket_eq (h : w.Agrees) {task task' : Task} (htask : task ∈ w.runs)
    (htask' : task' ∈ w.runs) (hticket : task.ticket = task'.ticket) : task = task' :=
  List.inj_on_of_nodup_map (h.tickets.imp fun hlt => Nat.ne_of_lt hlt) htask htask' hticket

theorem replied_runs (h : w.Agrees) {task : Task} (htask : task ∈ w.replied.map (·.task)) :
    task ∈ w.runs := by
  obtain ⟨e, he, rfl⟩ := List.mem_map.mp htask
  exact h.endings_runs e (h.replied_endings e he)

theorem mem_tasks (h : w.Agrees) (hopen : w.connection.isOpen = true) {task : Task} :
    task ∈ w.connection.tasks ↔ task ∈ w.runs ∧ task ∉ w.replied.map (·.task) := by
  rw [h.tasks hopen, List.mem_filter, decide_eq_true_iff]

/-- **Requests that have come in start tasks**, whether the connection goes on or is over. -/
theorem start (h : w.Agrees) {bytes : List UInt8} {more : List (UInt64 × Request)}
    {c : Connection} (houtbound : c.outbound = w.connection.outbound)
    (hvalues : (Wire.arrivals Wire.readRequest (w.received ++ bytes)).values
      = (Wire.arrivals Wire.readRequest w.received).values ++ more)
    (hopen : c.isOpen = true → w.connection.isOpen = true
      ∧ c.tasks = w.connection.tasks ++ Connection.tasksFor w.nextTicket more
      ∧ (Wire.arrivals Wire.readRequest (w.received ++ bytes)).error = none
      ∧ (Wire.arrivals Wire.readRequest (w.received ++ bytes)).pending = c.inbound)
    (hover : c.isOpen = false → c.tasks = [] ∧ (w.isEnded = true
      ∨ (Wire.arrivals Wire.readRequest (w.received ++ bytes)).error.isSome = true)) :
    ({ w with
      connection := c
      nextTicket := w.nextTicket + more.length
      received := w.received ++ bytes
      runs := w.runs ++ Connection.tasksFor w.nextTicket more } : Serving).Agrees where
  messages := by
    rw [List.map_append, Connection.map_message_tasksFor, h.messages, hvalues]
  -- the new tasks have the tickets from the next one on, behind all others
  pending hc := ⟨(h.pending (hopen hc).1).1, (hopen hc).2.2⟩
  closed := hover
  tickets := by
    rw [List.map_append, Connection.map_ticket_tasksFor]
    refine List.pairwise_append.mpr ⟨h.tickets, List.pairwise_lt_range', ?_⟩
    intro ticket hold new hnew
    obtain ⟨task, htask, rfl⟩ := List.mem_map.mp hold
    exact Nat.lt_of_lt_of_le (h.ticket_lt task htask) (List.mem_range'_1.mp hnew).1
  ticket_lt task htask := by
    rcases List.mem_append.mp htask with htask | htask
    · exact Nat.lt_add_right more.length (h.ticket_lt task htask)
    · exact (Connection.ticket_mem_tasksFor htask).2
  tasks hc := by
    have hnew : ∀ task ∈ Connection.tasksFor w.nextTicket more,
        task ∉ w.replied.map (·.task) := by
      intro task htask hold
      -- a task that has replied has an earlier ticket
      have hlt := h.ticket_lt task (h.replied_runs hold)
      exact Nat.not_lt.mpr (Connection.ticket_mem_tasksFor htask).1 hlt
    have hkept := List.filter_eq_self.mpr fun task htask => decide_eq_true (hnew task htask)
    rw [(hopen hc).2.1, h.tasks (hopen hc).1, List.filter_append, hkept]
  endings_runs e he := List.mem_append_left _ (h.endings_runs e he)
  endings_nodup := h.endings_nodup
  replied_endings := h.replied_endings
  replied_nodup := h.replied_nodup
  written := by rw [houtbound, h.written]

/-- Bytes come in on an open connection, behind those that have been kept. -/
theorem receive_open (h : w.Agrees) (hopen : w.connection.isOpen = true) (bytes : List UInt8) :
    (w.step (.receive bytes)).Agrees := by
  obtain ⟨hgoing, herror, hpending⟩ := h.pending hopen
  -- reading all at once is reading on from what has been kept
  have happend := Wire.Read.steady_request.arrivals_append (by decide) w.received bytes
  obtain ⟨values, pending, error, hreceived⟩ : ∃ values pending error,
      Wire.arrivals Wire.readRequest w.received = ⟨values, pending, error⟩ := ⟨_, _, _, rfl⟩
  rw [hreceived] at herror hpending happend
  obtain rfl : error = none := herror
  obtain rfl : pending = w.connection.inbound := hpending
  obtain ⟨more, kept, error, hmore⟩ : ∃ more kept error,
      Wire.arrivals Wire.readRequest (w.connection.inbound ++ bytes) = ⟨more, kept, error⟩ :=
    ⟨_, _, _, rfl⟩
  simp only [hmore] at happend
  have hvalues : (Wire.arrivals Wire.readRequest (w.received ++ bytes)).values
      = (Wire.arrivals Wire.readRequest w.received).values ++ more := by
    rw [happend, hreceived]
  rw [Serving.step, if_neg (Bool.eq_false_iff.mp hgoing), Connection.receive, if_pos hopen, hmore]
  dsimp only
  -- the connection goes on, or is over with what cannot be a request; new tasks start either way
  cases error with
  | none =>
    rw [Connection.length_tasksFor]
    exact h.start rfl hvalues (fun _ => ⟨hopen, rfl, by rw [happend], by rw [happend]⟩)
      fun hc => absurd hopen (by rw [show w.connection.isOpen = false from hc]; exact nofun)
  | some e =>
    rw [Connection.length_tasksFor]
    exact h.start rfl hvalues nofun fun _ => ⟨rfl, .inr (by rw [happend]; rfl)⟩

/-- Bytes behind the end of a connection start no tasks. -/
theorem receive_over (h : w.Agrees) (hover : w.connection.isOpen = false)
    (hgoing : w.isEnded = false) (bytes : List UInt8) :
    (w.step (.receive bytes)).Agrees := by
  obtain ⟨htasks, hreason⟩ := h.closed hover
  have herror := hreason.resolve_left (Bool.eq_false_iff.mp hgoing)
  have happend := Wire.Read.steady_request.arrivals_append (by decide) w.received bytes
  obtain ⟨values, pending, error, hreceived⟩ : ∃ values pending error,
      Wire.arrivals Wire.readRequest w.received = ⟨values, pending, error⟩ := ⟨_, _, _, rfl⟩
  rw [hreceived] at herror happend
  obtain ⟨e, rfl⟩ := Option.isSome_iff_exists.mp herror
  rw [Serving.step, if_neg (Bool.eq_false_iff.mp hgoing), Connection.receive,
    if_neg (Bool.eq_false_iff.mp hover)]
  -- what comes behind an error has no requests in it
  have hvalues : (Wire.arrivals Wire.readRequest (w.received ++ bytes)).values
      = (Wire.arrivals Wire.readRequest w.received).values ++ [] := by
    rw [happend, hreceived, List.append_nil]
  refine h.start rfl hvalues (fun hc => ?_) fun _ => ⟨htasks, .inr ?_⟩
  · rw [hover] at hc
    cases hc
  · rw [happend]
    rfl

/-- **Bytes come in.** -/
theorem receive (h : w.Agrees) (bytes : List UInt8) : (w.step (.receive bytes)).Agrees := by
  cases hended : w.isEnded with
  | true =>
    rw [Serving.step, if_pos hended]
    exact h
  | false =>
    cases hopen : w.connection.isOpen with
    | true => exact h.receive_open hopen bytes
    | false => exact h.receive_over hopen hended bytes

theorem elsewhere (h : w.Agrees) (count : Nat) : (w.step (.elsewhere count)).Agrees :=
  { h with ticket_lt := fun task htask => Nat.lt_add_right count (h.ticket_lt task htask) }

/-- **A task ends**, unless it has before. -/
theorem finish (h : w.Agrees) (ticket : Nat) (progress : Progress) :
    (w.step (.finish ticket progress)).Agrees := by
  rw [Serving.step]
  cases hfind : w.runs.find? (·.ticket = ticket) with
  | none => exact h
  | some task =>
    dsimp only
    -- it has ended before, it ends now, or it has not come to an end
    split_ifs with hbefore hknown
    · exact h
    · exact
        { h with
          endings_runs := List.forall_mem_append.mpr
            ⟨h.endings_runs, List.forall_mem_singleton.mpr (List.mem_of_find?_eq_some hfind)⟩
          endings_nodup := by
            rw [List.map_append, List.map_singleton, ← List.concat_eq_append]
            exact h.endings_nodup.concat hbefore
          replied_endings := fun e he => List.mem_append_left _ (h.replied_endings e he) }
    · exact h

/-- What has been written behind the others is one more reply, and its task is over. -/
theorem reply (h : w.Agrees) {e : Ending} (he : e ∈ w.endings)
    (hnew : e.task ∉ w.replied.map (·.task)) :
    ({ w with
      connection := { w.connection with
        tasks := w.connection.tasks.filter (· ≠ e.task)
        outbound := w.connection.outbound ++ e.answered.written.bytes }
      replied := w.replied ++ [e] } : Serving).Agrees :=
  { h with
    closed := fun hover => by
      obtain ⟨htasks, hreason⟩ := h.closed hover
      exact ⟨by rw [htasks]; rfl, hreason⟩
    tasks := fun hopen => by
      show w.connection.tasks.filter (· ≠ e.task) = _
      -- leaving out one more task that has replied
      rw [h.tasks hopen, List.filter_filter]
      refine List.filter_congr fun task _ => ?_
      rw [← Bool.decide_and, decide_eq_decide, List.map_append, List.mem_append,
        List.map_singleton, List.mem_singleton, not_or, and_comm]
    replied_endings :=
      List.forall_mem_append.mpr ⟨h.replied_endings, List.forall_mem_singleton.mpr he⟩
    replied_nodup := by
      rw [List.map_append, List.map_singleton, ← List.concat_eq_append]
      exact h.replied_nodup.concat hnew
    written := by
      show w.taken ++ (w.connection.outbound ++ e.answered.written.bytes) = _
      rw [← List.append_assoc, h.written, List.map_append, Wire.replyBytes, Wire.replyBytes,
        List.flatMap_append, List.map_singleton, List.flatMap_singleton] }

/-- **A task writes its reply**: one that is at work, which has not written before, or behind the
end of the connection one that has not. -/
theorem write (h : w.Agrees) (ticket : Nat) : (w.step (.write ticket)).Agrees := by
  rw [Serving.step]
  cases hfind : w.endings.find? (·.task.ticket = ticket) with
  | none => exact h
  | some e =>
    have he : e ∈ w.endings := List.mem_of_find?_eq_some hfind
    obtain rfl : e.task.ticket = ticket := by simpa using List.find?_some hfind
    dsimp only
    -- at work, on an open connection; with nothing left to write; or behind the end, once
    split_ifs with htask hdone
    · have hopen : w.connection.isOpen = true := by
        by_contra hover
        rw [(h.closed (Bool.eq_false_iff.mpr hover)).1] at htask
        cases htask
      have hunique : ∀ other ∈ w.connection.tasks, other.ticket = e.task.ticket →
          other = e.task := fun other hother hticket =>
        h.eq_of_ticket_eq ((h.mem_tasks hopen).mp hother).1 (h.endings_runs e he) hticket
      rw [Connection.answer_eq htask hunique]
      exact h.reply he ((h.mem_tasks hopen).mp htask).2
    · exact h
    · obtain ⟨hover, hnew⟩ := not_or.mp hdone
      have hnone := (h.closed (Bool.eq_false_iff.mpr hover)).1
      have hafter := h.reply he hnew
      rw [hnone, List.filter_nil] at hafter
      rw [hnone]
      exact hafter

theorem take (h : w.Agrees) (count : Nat) : (w.step (.take count)).Agrees :=
  { h with
    written := by
      show w.taken ++ w.connection.outbound.take count ++ w.connection.outbound.drop count = _
      rw [List.append_assoc, List.take_append_drop]
      exact h.written }

theorem hangUp (h : w.Agrees) : (w.step .hangUp).Agrees :=
  { h with
    pending := nofun
    closed := fun _ => ⟨rfl, .inl rfl⟩
    tasks := nofun }

theorem step (h : w.Agrees) : (event : Event) → (w.step event).Agrees
  | .receive bytes => h.receive bytes
  | .elsewhere count => h.elsewhere count
  | .finish ticket progress => h.finish ticket progress
  | .write ticket => h.write ticket
  | .take count => h.take count
  | .hangUp => h.hangUp

theorem run (h : w.Agrees) (events : List Event) : (w.run events).Agrees := by
  induction events generalizing w with
  | nil => exact h
  | cons event events ih => exact ih (h.step event)

end Agrees

/-- **What can be said of a connection that is served.** -/
structure IsServed (w : Serving) : Prop where
  /-- The tasks are for the longest run of requests that the stream begins with, one for each
  request and in their order. -/
  requests : Wire.IsLongestRun w.received (w.runs.map Task.message)
  tickets : (w.runs.map (·.ticket)).Pairwise (· < ·)
  endings_runs : ∀ e ∈ w.endings, e.task ∈ w.runs
  /-- A task ends once at most. -/
  endings_nodup : (w.endings.map (·.task)).Nodup
  replied_endings : ∀ e ∈ w.replied, e ∈ w.endings
  /-- A task replies once at most. -/
  replied_nodup : (w.replied.map (·.task)).Nodup
  /-- What has been written are the replies, and nothing else. -/
  replies : (∀ e ∈ w.endings, e.answered.Fits) →
    ∀ s : Wire.Stream, s.bytes = w.taken ++ w.connection.outbound →
      ∃ envelopes rest, Wire.readAll Wire.readReply s = (envelopes, none, rest)
        ∧ rest.bytes = [] ∧ List.Forall₂ Ending.IsCarriedBy w.replied envelopes
  /-- Nobody who has ended still has to write, so all of them have replied. -/
  at_rest : w.connection.isOpen = true → (∀ e ∈ w.endings, e.task ∉ w.connection.tasks) →
    w.replied.Perm w.endings
  /-- Nobody is at work, so every request has its reply. -/
  complete : w.connection.isOpen = true → w.connection.tasks = [] →
    (w.replied.map (·.task)).Perm w.runs

namespace Agrees

variable {w : Serving}

theorem replies (h : w.Agrees) (hfits : ∀ e ∈ w.endings, e.answered.Fits) {s : Wire.Stream}
    (hs : s.bytes = w.taken ++ w.connection.outbound) :
    ∃ envelopes rest, Wire.readAll Wire.readReply s = (envelopes, none, rest)
      ∧ rest.bytes = [] ∧ List.Forall₂ Ending.IsCarriedBy w.replied envelopes := by
  have hok : ∀ envelope ∈ w.replied.map (·.answered.envelope),
      Wire.Fits envelope.header envelope.payload :=
    List.forall_mem_map.mpr fun e he => hfits e (h.replied_endings e he)
  -- what has been written is envelopes behind one another, which are read back as they are
  rw [h.written, Wire.replyBytes_eq, List.map_map] at hs
  obtain ⟨rest, hread, hrest⟩ := Wire.reads_reply.readAll_flatMap hok hs
  refine ⟨_, rest, hread, hrest, ?_⟩
  rw [List.forall₂_map_right_iff, List.forall₂_same]
  exact fun e _ => e.isCarriedBy_envelope

theorem runs_nodup (h : w.Agrees) : w.runs.Nodup :=
  List.Nodup.of_map Task.ticket (h.tickets.imp fun hlt => Nat.ne_of_lt hlt)

/-- **On an open connection no reply is lost**: a task that has ended has replied or is at work. -/
theorem mem_replied (h : w.Agrees) (hopen : w.connection.isOpen = true) {e : Ending}
    (he : e ∈ w.endings) (htask : e.task ∉ w.connection.tasks) : e ∈ w.replied := by
  -- its task has replied, and a task ends only once, so it was with this ending
  have hreplied : e.task ∈ w.replied.map (·.task) := by
    by_contra hnot
    exact htask ((h.mem_tasks hopen).mpr ⟨h.endings_runs e he, hnot⟩)
  obtain ⟨f, hf, heq⟩ := List.mem_map.mp hreplied
  obtain rfl : f = e :=
    List.inj_on_of_nodup_map h.endings_nodup (h.replied_endings f hf) he heq
  exact hf

theorem isServed (h : w.Agrees) : w.IsServed where
  requests := Wire.isLongestRun_iff.mpr h.messages
  tickets := h.tickets
  endings_runs := h.endings_runs
  endings_nodup := h.endings_nodup
  replied_endings := h.replied_endings
  replied_nodup := h.replied_nodup
  replies hfits _ hs := h.replies hfits hs
  at_rest hopen hrest :=
    (List.perm_ext_iff_of_nodup (.of_map _ h.replied_nodup) (.of_map _ h.endings_nodup)).mpr
      fun e => ⟨h.replied_endings e, fun he => h.mem_replied hopen he (hrest e he)⟩
  complete hopen hnone :=
    (List.perm_ext_iff_of_nodup h.replied_nodup h.runs_nodup).mpr fun task =>
      ⟨h.replied_runs, fun htask => by
        by_contra hnot
        have hwork := (h.mem_tasks hopen).mpr ⟨htask, hnot⟩
        rw [hnone] at hwork
        cases hwork⟩

end Agrees

/-- **A connection is served**, whatever its client sends and in whatever order its tasks end. -/
theorem served (events : List Event) : (({} : Serving).run events).IsServed :=
  (agrees_start.run events).isServed

/-- Two requests with the same call id, cut somewhere. The second breaks down and replies, then
the first is given up and replies. -/
def repeated : List Event :=
  let request : Request := ⟨some "room", 1, .empty⟩
  let bytes := Wire.requestBytes [(5, request), (5, request)]
  [.receive (bytes.take 50), .receive (bytes.drop 50), .finish 1 (.crashed (some "out of order")),
    .write 1, .take 30, .finish 0 (.finished notSent), .write 0]

theorem served_repeated :
    (({} : Serving).run repeated).replied.map (·.task.ticket) = [1, 0] ∧
    ((({} : Serving).run repeated).replied.map (·.task)).Perm (({} : Serving).run repeated).runs ∧
    ∃ envelopes rest,
      Wire.readAll Wire.readReply
          [(({} : Serving).run repeated).taken ++ (({} : Serving).run repeated).connection.outbound]
        = (envelopes, none, rest)
      ∧ envelopes.map (·.header.callId) = [5, 5] := by
  have h := served repeated
  have hopen : (({} : Serving).run repeated).connection.isOpen = true := by decide +kernel
  have hnone : (({} : Serving).run repeated).connection.tasks = [] := by decide +kernel
  have hfits : ∀ e ∈ (({} : Serving).run repeated).endings, e.answered.Fits := by decide +kernel
  have hcallIds : (({} : Serving).run repeated).replied.map (·.task.callId) = [5, 5] := by
    decide +kernel
  obtain ⟨envelopes, rest, hread, -, hcarried⟩ := h.replies hfits [_] (List.append_nil _)
  refine ⟨by decide +kernel, h.complete hopen hnone, envelopes, rest, hread, ?_⟩
  rw [← hcallIds, ← List.forall₂_eq_eq_eq, List.forall₂_map_left_iff, List.forall₂_map_right_iff]
  exact hcarried.flip.imp fun _ _ hcarried => hcarried.callId

end Serving

end Switchboard
