import Switchboard.Dispatch.Dispatcher

/-!
# Backends

A server does not care who answers the requests it receives. It hands each
one, with a ticket for it, to a backend, and learns how far the request has
come. The result of a request that is kept waiting is handed out later, under
its ticket.
-/

namespace Switchboard

open Wire (Request)

/-- **What answers requests**, in a program with state `σ`. -/
class Backend (β : Type) (σ : outParam Type) where
  handle : β → Request → (ticket : Nat) → σ → σ × Progress
  /-- The results that have become known since they were last asked for. -/
  late : σ → List (Nat × CallResult ByteArray) × σ := fun s => ([], s)

end Switchboard
