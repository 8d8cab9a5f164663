import Mathlib.Data.List.Nodup
import Switchboard.Server.Connection

/-!
# Tasks and their tickets

A server counts the requests that it is sent, and the task for a request has
its number as a ticket. So the tasks for some requests have tickets in a row
(`map_ticket_tasksFor`), are for these requests in their order
(`map_message_tasksFor`), and no two of them have the same ticket. As long as
tickets differ, the reply to a task is a reply to that task and no other
(`answer_eq`).
-/

namespace Switchboard.Server

open Wire (Request Reply)

/-- What a task is about: a request and its call id. -/
def Task.message (task : Task) : UInt64 × Request := (task.callId, task.request)

namespace Connection

/-! ## The tasks for some requests -/

theorem tasksFor_append (ticket : Nat) (first second : List (UInt64 × Request)) :
    tasksFor ticket (first ++ second)
      = tasksFor ticket first ++ tasksFor (ticket + first.length) second := by
  induction first generalizing ticket with
  | nil => rfl
  | cons request first ih =>
    rw [List.cons_append, tasksFor, tasksFor, ih, List.length_cons,
      Nat.add_right_comm, Nat.add_assoc, List.cons_append]

/-- Tickets are counted up, one for each request. -/
theorem map_ticket_tasksFor (ticket : Nat) (requests : List (UInt64 × Request)) :
    (tasksFor ticket requests).map (·.ticket) = List.range' ticket requests.length := by
  induction requests generalizing ticket with
  | nil => rfl
  | cons request requests ih =>
    rw [tasksFor, List.map_cons, ih, List.length_cons, List.range'_succ]

/-- **The tasks are for the requests**, in the same order. -/
theorem map_message_tasksFor (ticket : Nat) (requests : List (UInt64 × Request)) :
    (tasksFor ticket requests).map Task.message = requests := by
  induction requests generalizing ticket with
  | nil => rfl
  | cons request requests ih =>
    rw [tasksFor, List.map_cons, ih]
    rfl

theorem length_tasksFor (ticket : Nat) (requests : List (UInt64 × Request)) :
    (tasksFor ticket requests).length = requests.length := by
  conv_rhs => rw [← map_message_tasksFor ticket requests, List.length_map]

/-- The task at a place is for the request there. -/
theorem getElem?_tasksFor (ticket : Nat) (requests : List (UInt64 × Request)) (i : Nat) :
    (tasksFor ticket requests)[i]?
      = requests[i]?.map fun request => ⟨ticket + i, request.1, request.2⟩ := by
  induction requests generalizing ticket i with
  | nil => rfl
  | cons request requests ih =>
    cases i with
    | zero => rfl
    | succ i =>
      rw [tasksFor, List.getElem?_cons_succ, ih, List.getElem?_cons_succ,
        Nat.add_assoc, Nat.add_comm 1 i]

/-- **The task with a ticket is for the request with that number.** -/
theorem mem_tasksFor {task : Task} {requests : List (UInt64 × Request)} :
    task ∈ tasksFor 0 requests ↔ requests[task.ticket]? = some (task.callId, task.request) := by
  rw [List.mem_iff_getElem?]
  constructor
  · rintro ⟨i, hi⟩
    rw [getElem?_tasksFor, Nat.zero_add, Option.map_eq_some_iff] at hi
    obtain ⟨request, hrequest, rfl⟩ := hi
    exact hrequest
  · intro h
    refine ⟨task.ticket, ?_⟩
    rw [getElem?_tasksFor, h, Nat.zero_add, Option.map_some]

/-- The tickets of the tasks are those that are counted from the one that is given. -/
theorem ticket_mem_tasksFor {ticket : Nat} {task : Task} {requests : List (UInt64 × Request)}
    (h : task ∈ tasksFor ticket requests) :
    ticket ≤ task.ticket ∧ task.ticket < ticket + requests.length := by
  have hmem := List.mem_map_of_mem (f := Task.ticket) h
  rw [map_ticket_tasksFor, List.mem_range'_1] at hmem
  exact hmem

/-- No ticket is given twice. -/
theorem nodup_map_ticket_tasksFor (ticket : Nat) (requests : List (UInt64 × Request)) :
    ((tasksFor ticket requests).map (·.ticket)).Nodup := by
  rw [map_ticket_tasksFor]
  exact List.nodup_range'

/-- No task is handed out twice. -/
theorem nodup_tasksFor (ticket : Nat) (requests : List (UInt64 × Request)) :
    (tasksFor ticket requests).Nodup :=
  .of_map (·.ticket) (nodup_map_ticket_tasksFor ticket requests)

/-- A ticket stands for one task. -/
theorem eq_of_ticket_eq {ticket : Nat} {requests : List (UInt64 × Request)} {task task' : Task}
    (h : task ∈ tasksFor ticket requests) (h' : task' ∈ tasksFor ticket requests)
    (hticket : task.ticket = task'.ticket) : task = task' :=
  List.inj_on_of_nodup_map (nodup_map_ticket_tasksFor ticket requests) h h' hticket

/-! ## Replies to tasks -/

/-- **A reply to a task at work** ends the task and is written behind what has been written. -/
theorem answer_eq {c : Connection} {task : Task} (htask : task ∈ c.tasks)
    (hunique : ∀ other ∈ c.tasks, other.ticket = task.ticket → other = task) (reply : Reply) :
    c.answer task.ticket reply = { c with
      tasks := c.tasks.filter (· ≠ task)
      outbound := c.outbound ++ (Wire.writeReply task.callId task.request reply).bytes } := by
  have hfind : c.tasks.find? (·.ticket = task.ticket) = some task := by
    cases hfound : c.tasks.find? (·.ticket = task.ticket) with
    | none => exact absurd (decide_eq_true rfl) (List.find?_eq_none.mp hfound task htask)
    | some other =>
      have hticket : other.ticket = task.ticket := by simpa using List.find?_some hfound
      rw [hunique other (List.mem_of_find?_eq_some hfound) hticket]
  have hfilter : c.tasks.filter (·.ticket ≠ task.ticket) = c.tasks.filter (· ≠ task) :=
    List.filter_congr fun other hother => decide_eq_decide.mpr
      (not_congr ⟨hunique other hother, fun heq => heq ▸ rfl⟩)
  unfold answer
  rw [hfind, ← hfilter]

end Connection

end Switchboard.Server
