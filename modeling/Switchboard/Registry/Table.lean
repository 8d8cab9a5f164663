import Switchboard.Service

/-!
# The registration table

A registry remembers one location for each service type of each session. The
table has an entry for each known session, and in it an entry for each service
that is registered there. A session becomes known with its first service and is
taken out of the table with its last, so that no entry is ever empty.

What a session offers is told in the order of the service types, and the
sessions are told in ascending order, whatever the order of the entries.
-/

namespace Switchboard.Registry

section Entries

variable {κ α : Type} [BEq κ]

/-- The entries that are not under a key. -/
def without (key : κ) (entries : List (κ × α)) : List (κ × α) := entries.filter fun e => e.1 != key

/-- The entries with a value under a key, in place of an earlier one. -/
def put (key : κ) (value : α) (entries : List (κ × α)) : List (κ × α) :=
  (key, value) :: without key entries

end Entries

/-- **The locations known to a registry**, by session and then by service type. -/
structure Table where
  offers : List (String × List (ServiceType × String)) := []
deriving DecidableEq, Repr, Inhabited

namespace Table

/-- The table of a new registry. -/
def empty : Table := {}

/-- The locations of a session, by service type. There are none if it is not known. -/
def offer (t : Table) (comId : String) : List (ServiceType × String) :=
  (t.offers.lookup comId).getD []

/-- **Where a service of a session can be reached.** -/
def location? (t : Table) (comId : String) (serviceType : ServiceType) : Option String :=
  (t.offer comId).lookup serviceType

/-- **The table with a service at a location**, in place of an earlier one. The session is known
from now on, if it was not. -/
def register (t : Table) (comId : String) (serviceType : ServiceType) (location : String) : Table :=
  ⟨put comId (put serviceType location (t.offer comId)) t.offers⟩

/-- **The table without the service.** A session that has no other is taken out with it. -/
def unregister (t : Table) (comId : String) (serviceType : ServiceType) : Table :=
  match t.offers.lookup comId with
  | none => t
  | some offer =>
    let rest := without serviceType offer
    if rest.isEmpty then ⟨without comId t.offers⟩ else ⟨put comId rest t.offers⟩

/-- The table without any service of a session. -/
def evict (t : Table) (comId : String) : Table := ⟨without comId t.offers⟩

/-- How many services a session has. -/
def count (t : Table) (comId : String) : Nat := (t.offer comId).length

/-- **The services of a session**, in the order of their types. -/
def discover (t : Table) (comId : String) : List ServiceInformation :=
  ServiceType.all.filterMap fun serviceType =>
    (t.location? comId serviceType).map (⟨serviceType, ·⟩)

/-- The known sessions, in ascending order. -/
def sessions (t : Table) : List String := (t.offers.map (·.1)).mergeSort

/-! ## Commands -/

/-- **What a table can be told to do.** -/
inductive Command where
  | register (comId : String) (serviceType : ServiceType) (location : String)
  | unregister (comId : String) (serviceType : ServiceType)
  | evict (comId : String)
  | discover (comId : String)
  | sessions
deriving DecidableEq, Repr, Inhabited

/-- **What a table answers.** -/
inductive Answer where
  /-- The location that was replaced. -/
  | replaced (location : Option String)
  /-- Whether the service was there. -/
  | removed (was : Bool)
  /-- How many services there were. -/
  | evicted (count : Nat)
  | discovered (services : List ServiceInformation)
  | sessions (known : List String)
deriving DecidableEq, Repr, Inhabited

/-- **Does what a table is told**: the answer, and the table afterwards. -/
def perform (t : Table) : Command → Answer × Table
  | .register comId serviceType location =>
    (.replaced (t.location? comId serviceType), t.register comId serviceType location)
  | .unregister comId serviceType =>
    (.removed (t.location? comId serviceType).isSome, t.unregister comId serviceType)
  | .evict comId => (.evicted (t.count comId), t.evict comId)
  | .discover comId => (.discovered (t.discover comId), t)
  | .sessions => (.sessions t.sessions, t)

end Table

end Switchboard.Registry
