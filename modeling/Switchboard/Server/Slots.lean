/-!
# Connection slots

A server keeps only so many connections open. It counts them: a connection
takes a slot when it is accepted and gives it back when it is over, and one
for which there is no slot is turned away.
-/

namespace Switchboard.Server

/-- **How many connections are open**, of at most how many. -/
structure Slots where
  max : Nat
  active : Nat := 0
deriving DecidableEq, Repr, Inhabited

namespace Slots

/-- The slots after one has been taken, if one is free. -/
def acquire? (s : Slots) : Option Slots :=
  if s.active < s.max then some { s with active := s.active + 1 } else none

/-- The slots after one has been given back. -/
def release (s : Slots) : Slots := { s with active := s.active - 1 }

end Slots

end Switchboard.Server
