import Mathlib.Data.List.Induction
import Mathlib.Data.List.Sort
import Switchboard.Proofs.Registry.Table
import Switchboard.Proofs.Text.Bytes

/-!
# A table answers as a flat map

A table keeps its entries in two layers, and takes an entry of the outer layer
out when the inner one has become empty. Seen from outside there is one map from
sessions and service types to locations. Whatever a table has been told before,
it gives the answer that this map gives (`answers_as_flat_map`): what was there
and what is there, services in the order of their types, and sessions in the
order of their bytes, as long as something is registered in them.

Only the list of sessions depends on the outer layer. It is right because a
proper table stays proper (`Table.IsProper`), whichever command takes the last
service of a session out.
-/

namespace Switchboard.Registry.Table

variable {t : Table} {M : Locations}

theorem IsProper.sortedLT_sessions (h : t.IsProper) : t.sessions.SortedLT := by
  have hnodup : t.sessions.Nodup := (List.mergeSort_perm _ _).nodup_iff.mpr h.sessions_nodup
  exact List.sortedLT_iff_nodup_and_sortedLE.mpr ⟨hnodup, List.sortedLE_mergeSort⟩

/-- **Sessions are listed once and in the order of their bytes.** -/
theorem IsProper.pairwise_sessions (h : t.IsProper) :
    t.sessions.Pairwise fun c d => Text.bytes c < Text.bytes d :=
  h.sortedLT_sessions.pairwise.imp Text.bytes_lt_of_lt

/-! ## The map beside the table -/

/-- **What a command makes of a map.** -/
def Command.refer (M : Locations) : Command → Locations
  | .register comId serviceType location =>
    Function.update M (comId, serviceType) (some location)
  | .unregister comId serviceType => Function.update M (comId, serviceType) none
  | .evict comId => fun key => if key.1 = comId then none else M key
  | .discover _ => M
  | .sessions => M

/-- **The answer that a map gives to a command.** -/
def Command.IsAnswered (M : Locations) : Command → Answer → Prop
  | .register comId serviceType _, .replaced location => location = M (comId, serviceType)
  | .unregister comId serviceType, .removed was => was = (M (comId, serviceType)).isSome
  | .evict comId, .evicted count =>
    count = ServiceType.all.countP fun serviceType => (M (comId, serviceType)).isSome
  | .discover comId, .discovered services =>
    (∀ s, s ∈ services ↔ M (comId, s.serviceType) = some s.location)
      ∧ services.Pairwise fun s s' => s.serviceType.rank < s'.serviceType.rank
  | .sessions, .sessions known =>
    (∀ comId, comId ∈ known ↔ ∃ serviceType, (M (comId, serviceType)).isSome)
      ∧ known.Pairwise fun c d => Text.bytes c < Text.bytes d
  | _, _ => False

/-- **One command**: it is answered from the map, and the table stands for the map after it as
well. -/
theorem Follows.perform (h : t.Follows M) (command : Command) :
    command.IsAnswered M (t.perform command).1
      ∧ (t.perform command).2.Follows (command.refer M) := by
  cases command with
  | register comId serviceType location =>
    exact ⟨congrFun h.locations_eq (comId, serviceType), h.register comId serviceType location⟩
  | unregister comId serviceType =>
    exact ⟨congrArg Option.isSome (congrFun h.locations_eq (comId, serviceType)),
      h.unregister comId serviceType⟩
  | evict comId => exact ⟨h.count_eq comId, h.evict comId⟩
  | discover comId =>
    obtain ⟨rfl, -⟩ := id h
    exact ⟨⟨fun _ => mem_discover, pairwise_discover⟩, h⟩
  | sessions =>
    obtain ⟨rfl, hproper⟩ := id h
    exact ⟨⟨fun _ => hproper.mem_sessions, hproper.pairwise_sessions⟩, h⟩

/-! ## Any number of commands -/

/-- A table that was new before these commands. -/
def after (commands : List Command) : Table :=
  commands.foldl (fun t command => (t.perform command).2) .empty

/-- The map after these commands, if it was empty before. -/
def Command.referAll (commands : List Command) : Locations :=
  commands.foldl Command.refer fun _ => none

theorem after_follows (commands : List Command) :
    (after commands).Follows (Command.referAll commands) := by
  induction commands using List.reverseRecOn with
  | nil => exact follows_empty
  | append_singleton commands command ih =>
    unfold after Command.referAll
    rw [List.foldl_append, List.foldl_append]
    exact (ih.perform command).2

/-- **A table is a flat map to those who use it.** After any commands the next one is answered
from the map that they have made. -/
theorem answers_as_flat_map (commands : List Command) (command : Command) :
    command.IsAnswered (Command.referAll commands) ((after commands).perform command).1 :=
  ((after_follows commands).perform command).1

end Switchboard.Registry.Table
