import Switchboard.Dispatch.Backend
import Switchboard.Text.Lossy

/-!
# Echo

A backend without methods that sends payloads back, for trying out servers.
The number of the function says how:

* `0`, `2` and `3` break down, for a fixed reason, for the reason that the
  payload gives, and for none;
* `1` waits at a gate first, through which one call at a time is let;
* `4` fails for the reason that the payload gives;
* all others answer at once.
-/

namespace Switchboard.Rehearsal

open Wire (Request)

/-- The backend that sends payloads back. -/
structure Echo where
deriving Inhabited

/-- **The gate** at which calls wait. -/
structure Gate where
  /-- Whether the next call need not wait. -/
  isOpen : Bool := false
  /-- The calls that wait, the first first, with their payloads. -/
  waiting : List (Nat × ByteArray) := []
  /-- The results of calls that have been let through, since they were last asked for. -/
  results : List (Nat × CallResult ByteArray) := []
deriving Inhabited

namespace Gate

/-- **Lets the call through that has waited longest**, of those that still wait; if none
does, the next call need not wait. -/
def release (g : Gate) (isWaiting : Nat → Bool) : Gate :=
  match g.waiting.filter fun w => isWaiting w.1 with
  | [] => { g with isOpen := true, waiting := [] }
  | (ticket, payload) :: rest =>
    { g with waiting := rest, results := g.results ++ [(ticket, .ok payload)] }

/-- A call that comes to the gate. -/
def arrive (g : Gate) (ticket : Nat) (payload : ByteArray) : Gate × Progress :=
  if g.isOpen then ({ g with isOpen := false }, .finished (.ok payload))
  else ({ g with waiting := g.waiting ++ [(ticket, payload)] }, .waiting)

end Gate

/-- What becomes of a request. -/
def Echo.handle (request : Request) (ticket : Nat) (g : Gate) : Gate × Progress :=
  match request.functionId with
  | 0 => (g, .crashed (some "static message"))
  | 1 => g.arrive ticket request.payload
  | 2 => (g, .crashed (some (Text.ofBytes request.payload)))
  | 3 => (g, .crashed none)
  | 4 => (g, .finished (.error (.aborted (Text.ofBytes request.payload))))
  | _ => (g, .finished (.ok request.payload))

instance : Backend Echo Gate where
  handle _ := Echo.handle
  late g := (g.results, { g with results := [] })

end Switchboard.Rehearsal
