import Mathlib.Data.List.Nodup
import Switchboard.Proofs.Conversation.Basic
import Switchboard.Proofs.Server.Tasks

/-!
# The server in a conversation

The tasks of a server are the requests that it has read, numbered in the order
in which they were written (`Connection.mem_tasksFor`), so that the ticket of a
task says which request it is for. `ServerAgrees` says how the connection stands to the
record: the tasks that are at work are those that were handed out and have not
been replied to. It is kept when requests come in, when a reply is produced and
when one is written.
-/

namespace Switchboard.Conversation

open Wire (Request Reply)
open Server (Task Connection)

/-! ## The tasks at work -/

/-- **The connection of the server agrees with the record**: what has been read was handed out,
what has been produced was handed out before and at most once each, and the tasks at work are
those without a reply. -/
structure ServerAgrees (c : Connection) (runs : List Task) (done : List Sent)
    (produced replied : List Produced) : Prop where
  isOpen : c.isOpen = true
  runs_eq : runs = Connection.tasksFor 0 (done.map Sent.message)
  produced_nodup : (produced.map (·.task)).Nodup
  produced_runs : ∀ p ∈ produced, p.task ∈ runs
  replied_nodup : (replied.map (·.task)).Nodup
  replied_produced : ∀ p ∈ replied, p ∈ produced
  tasks_eq : c.tasks = runs.filter fun task => task ∉ replied.map (·.task)

namespace ServerAgrees

variable {c : Connection} {runs : List Task} {done : List Sent} {produced replied : List Produced}

theorem replied_runs (h : ServerAgrees c runs done produced replied) {task : Task}
    (htask : task ∈ replied.map (·.task)) : task ∈ runs := by
  obtain ⟨p, hp, rfl⟩ := List.mem_map.mp htask
  exact h.produced_runs p (h.replied_produced p hp)

theorem mem_tasks (h : ServerAgrees c runs done produced replied) {task : Task} :
    task ∈ c.tasks ↔ task ∈ runs ∧ task ∉ replied.map (·.task) := by
  rw [h.tasks_eq, List.mem_filter, decide_eq_true_iff]

/-- **Requests come in**: each starts a task. -/
theorem receive (h : ServerAgrees c runs done produced replied) {bytes pending : List UInt8}
    {more : List Sent} (hread : Wire.arrivals Wire.readRequest (c.inbound ++ bytes)
      = ⟨more.map Sent.message, pending, none⟩) :
    ∃ c' started, c.receive runs.length bytes = (c', started) ∧ c'.inbound = pending
      ∧ c'.outbound = c.outbound
      ∧ ServerAgrees c' (runs ++ started) (done ++ more) produced replied := by
  have hlength : runs.length = (done.map Sent.message).length := by
    rw [h.runs_eq, Connection.length_tasksFor]
  have hruns : runs ++ Connection.tasksFor runs.length (more.map Sent.message)
      = Connection.tasksFor 0 ((done ++ more).map Sent.message) := by
    rw [List.map_append, Connection.tasksFor_append, Nat.zero_add, ← hlength, ← h.runs_eq]
  refine ⟨{ c with
      inbound := pending
      tasks := c.tasks ++ Connection.tasksFor runs.length (more.map Sent.message) },
    Connection.tasksFor runs.length (more.map Sent.message), ?_, rfl, rfl, ?_⟩
  · unfold Connection.receive
    rw [if_pos h.isOpen, hread]
  · refine ⟨h.isOpen, hruns, h.produced_nodup,
      fun p hp => List.mem_append_left _ (h.produced_runs p hp), h.replied_nodup,
      h.replied_produced, ?_⟩
    have hstarted : ∀ task ∈ Connection.tasksFor runs.length (more.map Sent.message),
        task ∉ replied.map (·.task) := by
      intro task htask hold
      -- a task that has been replied to has an earlier ticket
      have hlt := (Connection.ticket_mem_tasksFor (h.runs_eq ▸ h.replied_runs hold)).2
      rw [Nat.zero_add, ← hlength] at hlt
      exact Nat.not_lt.mpr (Connection.ticket_mem_tasksFor htask).1 hlt
    rw [List.filter_append, ← h.tasks_eq, List.filter_eq_self.mpr]
    exact fun task htask => decide_eq_true (hstarted task htask)

/-- **A reply is produced** for a task at work. -/
theorem produce (h : ServerAgrees c runs done produced replied) {task : Task} (reply : Reply)
    (htask : task ∈ c.tasks) (hnew : task ∉ produced.map (·.task)) :
    ServerAgrees c runs done (produced ++ [⟨task, reply⟩]) replied := by
  refine ⟨h.isOpen, h.runs_eq, ?_, ?_, h.replied_nodup,
    fun p hp => List.mem_append_left _ (h.replied_produced p hp), h.tasks_eq⟩
  · rw [List.map_append, List.map_singleton, ← List.concat_eq_append]
    exact h.produced_nodup.concat hnew
  · intro p hp
    rcases List.mem_append.mp hp with hp | hp
    · exact h.produced_runs p hp
    · rw [List.mem_singleton.mp hp]
      exact (h.mem_tasks.mp htask).1

/-- **A reply is written**, and its task is over. -/
theorem answer (h : ServerAgrees c runs done produced replied) {p : Produced} (hp : p ∈ produced)
    (htask : p.task ∈ c.tasks) :
    ∃ c', c.answer p.task.ticket p.reply = c' ∧ c'.inbound = c.inbound
      ∧ c'.outbound = c.outbound ++ p.answered.written.bytes
      ∧ ServerAgrees c' runs done produced (replied ++ [p]) := by
  obtain ⟨hrun, hnew⟩ := h.mem_tasks.mp htask
  -- tickets differ, so that no other task goes with this one
  have hunique : ∀ task ∈ c.tasks, task.ticket = p.task.ticket → task = p.task := by
    intro task hmem
    have hmem := (h.mem_tasks.mp hmem).1
    rw [h.runs_eq] at hmem hrun
    exact Connection.eq_of_ticket_eq hmem hrun
  refine ⟨_, rfl, ?_⟩
  rw [Connection.answer_eq htask hunique]
  refine ⟨rfl, rfl, h.isOpen, h.runs_eq, h.produced_nodup, h.produced_runs, ?_, ?_, ?_⟩
  · rw [List.map_append, List.map_singleton, ← List.concat_eq_append]
    exact h.replied_nodup.concat hnew
  · intro q hq
    rcases List.mem_append.mp hq with hq | hq
    · exact h.replied_produced q hq
    · rwa [List.mem_singleton.mp hq]
  · show c.tasks.filter (· ≠ p.task) = _
    rw [h.tasks_eq, List.filter_filter]
    refine List.filter_congr fun task _ => ?_
    rw [← Bool.decide_and, decide_eq_decide, List.map_append, List.mem_append,
      List.map_singleton, List.mem_singleton, not_or, and_comm]

end ServerAgrees

end Switchboard.Conversation
