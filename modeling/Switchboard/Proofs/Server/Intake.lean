import Switchboard.Proofs.Server.Tasks
import Switchboard.Proofs.Wire.Oversized

/-!
# Requests in portions

The bytes of a connection come in portions that have nothing to do with
requests. A server that takes them one after another starts the same tasks,
with the same tickets, as if it had taken all of them at once
(`Connection.receiveAll_eq`). So what a server hears of some requests are those
before the first that is too large, and whatever is written behind that one ends
the connection (`Connection.receiveAll_requestBytes`).
-/

namespace Switchboard.Server.Connection

open Wire (Request requestBytes heard unheard)

/-- **The connection after bytes have come in portion by portion**, and the tasks for the requests
that were complete. -/
def receiveAll (c : Connection) (ticket : Nat) : List (List UInt8) → Connection × List Task
  | [] => (c, [])
  | bytes :: portions =>
    let (c, started) := c.receive ticket bytes
    let (c, more) := c.receiveAll (ticket + started.length) portions
    (c, started ++ more)

/-- What a connection makes of bytes, by what has arrived with them. -/
theorem receive_of_open {c : Connection} (hopen : c.isOpen = true) (ticket : Nat)
    {bytes : List UInt8} {arrived : Wire.Arrivals (UInt64 × Request)}
    (harrived : Wire.arrivals Wire.readRequest (c.inbound ++ bytes) = arrived) :
    c.receive ticket bytes = match arrived.error with
      | none => ({ c with
          inbound := arrived.pending
          tasks := c.tasks ++ tasksFor ticket arrived.values }, tasksFor ticket arrived.values)
      | some _ => (c.close, tasksFor ticket arrived.values) := by
  subst harrived
  exact if_pos hopen

theorem receive_of_closed {c : Connection} (hclosed : c.isOpen = false) (ticket : Nat)
    (bytes : List UInt8) : c.receive ticket bytes = (c, []) :=
  if_neg (by rw [hclosed]; exact Bool.false_ne_true)

/-- **Two portions are as good as one.** -/
theorem receive_append (c : Connection) (ticket : Nat) (bytes more : List UInt8) :
    c.receive ticket (bytes ++ more) =
      (((c.receive ticket bytes).1.receive (ticket + (c.receive ticket bytes).2.length) more).1,
        (c.receive ticket bytes).2
          ++ ((c.receive ticket bytes).1.receive (ticket + (c.receive ticket bytes).2.length)
            more).2) := by
  cases hopen : c.isOpen with
  | false => rw [receive_of_closed hopen, receive_of_closed hopen, receive_of_closed hopen]; rfl
  | true =>
    have happend := Wire.Read.steady_request.arrivals_append (by decide) (c.inbound ++ bytes) more
    rw [List.append_assoc] at happend
    rw [receive_of_open hopen ticket happend]
    generalize hfirst : Wire.arrivals Wire.readRequest (c.inbound ++ bytes) = first
    rw [receive_of_open hopen ticket hfirst]
    obtain ⟨values, pending, error⟩ := first
    cases error with
    | some error =>
      -- nothing is read behind an error
      dsimp only
      rw [receive_of_closed rfl, List.append_nil]
    | none =>
      dsimp only
      generalize hsecond : Wire.arrivals Wire.readRequest (pending ++ more) = second
      have hwaiting : ({ c with
          inbound := pending
          tasks := c.tasks ++ tasksFor ticket values } : Connection).isOpen = true := hopen
      rw [receive_of_open hwaiting _ hsecond, length_tasksFor, tasksFor_append]
      cases second.error with
      | some error => rfl
      | none =>
        dsimp only
        rw [List.append_assoc]

/-- **However the bytes are cut**, a server makes the same of them. -/
theorem receiveAll_eq {c : Connection} (hinbound : c.inbound = []) (ticket : Nat)
    (portions : List (List UInt8)) :
    c.receiveAll ticket portions = c.receive ticket portions.flatten := by
  have hnothing : c.receive ticket [] = (c, []) := by
    cases hopen : c.isOpen with
    | false => exact receive_of_closed hopen ticket []
    | true =>
      rw [receive_of_open hopen ticket rfl, hinbound]
      show ({ c with inbound := [], tasks := c.tasks ++ [] }, []) = (c, [])
      rw [List.append_nil, ← hinbound]
  suffices h : ∀ bytes, (((c.receive ticket bytes).1.receiveAll
        (ticket + (c.receive ticket bytes).2.length) portions).1,
      (c.receive ticket bytes).2 ++ ((c.receive ticket bytes).1.receiveAll
        (ticket + (c.receive ticket bytes).2.length) portions).2)
      = c.receive ticket (bytes ++ portions.flatten) by
    have hstart := h []
    rwa [hnothing] at hstart
  induction portions with
  | nil =>
    intro bytes
    rw [List.flatten_nil, List.append_nil]
    exact congrArg (Prod.mk _) (List.append_nil _)
  | cons portion rest ih =>
    intro bytes
    rw [List.flatten_cons, ← List.append_assoc, ← ih, receive_append, List.length_append,
      ← Nat.add_assoc, List.append_assoc]
    rfl

/-- **What a server hears of some requests** are those before the first that is too large. That one
is waited for as long as it is the last, and what comes behind it ends the connection. -/
theorem receiveAll_requestBytes (ticket : Nat) {messages : List (UInt64 × Request)}
    {portions : List (List UInt8)} (hportions : portions.flatten = requestBytes messages) :
    (({} : Connection).receiveAll ticket portions).2 = tasksFor ticket (heard messages) ∧
      ((({} : Connection).receiveAll ticket portions).1.isOpen = true
        ↔ (unheard messages).length ≤ 1) := by
  have harrived : Wire.arrivals Wire.readRequest
      (({} : Connection).inbound ++ requestBytes messages) = _ :=
    Wire.arrivals_requestBytes messages
  rw [receiveAll_eq rfl, hportions, receive_of_open rfl ticket harrived]
  by_cases hlater : 1 < (unheard messages).length
  · rw [if_pos hlater]
    exact ⟨rfl, iff_of_false Bool.false_ne_true (Nat.not_le.mpr hlater)⟩
  · rw [if_neg hlater]
    exact ⟨rfl, iff_of_true rfl (Nat.le_of_not_lt hlater)⟩

end Switchboard.Server.Connection
