import Mathlib.Data.List.Nodup
import Mathlib.Logic.Function.Basic
import Switchboard.Proofs.Entries
import Switchboard.Proofs.Registry.Message
import Switchboard.Registry.Table

/-!
# The table of a registry is a map

A table is read as the map `Table.locations`, and each of its operations changes
that map at the keys it is about and nowhere else. What a session offers is
read off from it (`mem_discover`, `locationOf_discover`), once for each type
and in the order of the types (`pairwise_discover`).

Two things look at the entries themselves. `Table.count` counts what the session
offers because no type is there twice, and the sessions with an entry are those
that offer something because no entry is empty (`Table.IsProper`).
-/

namespace Switchboard.Registry

/-! ## Entries under keys -/

section Entries

variable {κ α : Type} [BEq κ] [LawfulBEq κ] {entries : List (κ × α)}

theorem lookup_without [DecidableEq κ] (key k : κ) (entries : List (κ × α)) :
    (without key entries).lookup k = if k = key then none else entries.lookup k :=
  Entries.lookup_filter_ne key k entries

theorem lookup_put [DecidableEq κ] (key k : κ) (value : α) (entries : List (κ × α)) :
    (put key value entries).lookup k = if k = key then some value else entries.lookup k :=
  Entries.lookup_cons_filter_ne key k value entries

omit [LawfulBEq κ] in
theorem nodup_without (h : (entries.map (·.1)).Nodup) (key : κ) :
    ((without key entries).map (·.1)).Nodup :=
  Entries.nodup_filter_ne h key

theorem nodup_put (h : (entries.map (·.1)).Nodup) (key : κ) (value : α) :
    ((put key value entries).map (·.1)).Nodup :=
  Entries.nodup_cons_filter_ne h key value

end Entries

/-- **A map of services**: a location for each session and service type, or none. -/
abbrev Locations := String × ServiceType → Option String

namespace Table

/-- **The map that a table is.** -/
def locations (t : Table) : Locations :=
  fun key => t.location? key.1 key.2

variable (t : Table) (comId : String) (serviceType : ServiceType)

/-! ## What becomes of the offers -/

theorem offer_register (location other : String) :
    (t.register comId serviceType location).offer other
      = if other = comId then put serviceType location (t.offer comId) else t.offer other := by
  unfold offer register
  dsimp only
  rw [lookup_put]
  split <;> rfl

theorem offer_evict (other : String) :
    (t.evict comId).offer other = if other = comId then [] else t.offer other := by
  unfold offer evict
  dsimp only
  rw [lookup_without]
  split <;> rfl

/-- Whether or not the session is taken out, it offers what is left. -/
theorem offer_unregister (other : String) :
    (t.unregister comId serviceType).offer other
      = if other = comId then without serviceType (t.offer comId) else t.offer other := by
  unfold offer unregister
  cases hlookup : t.offers.lookup comId with
  | none =>
    dsimp only
    split
    · next hother =>
      rw [hother, hlookup]
      rfl
    · rfl
  | some services =>
    dsimp only
    by_cases hempty : (without serviceType services).isEmpty
    · rw [if_pos hempty, lookup_without]
      split
      · exact (List.isEmpty_iff.mp hempty).symm
      · rfl
    · rw [if_neg hempty, lookup_put]
      split <;> rfl

/-! ## What becomes of the map -/

theorem locations_empty : empty.locations = fun _ => none := rfl

theorem locations_unregister :
    (t.unregister comId serviceType).locations
      = Function.update t.locations (comId, serviceType) none := by
  funext ⟨other, otherType⟩
  show ((t.unregister comId serviceType).offer other).lookup otherType = _
  rw [offer_unregister, Function.update_apply]
  by_cases hother : other = comId
  · subst hother
    rw [if_pos rfl, lookup_without]
    exact if_congr ⟨fun h => h ▸ rfl, fun h => (Prod.mk.inj h).2⟩ rfl rfl
  · rw [if_neg hother, if_neg fun h => hother (Prod.mk.inj h).1]
    rfl

theorem locations_register (location : String) :
    (t.register comId serviceType location).locations
      = Function.update t.locations (comId, serviceType) (some location) := by
  funext ⟨other, otherType⟩
  show ((t.register comId serviceType location).offer other).lookup otherType = _
  rw [offer_register, Function.update_apply]
  by_cases hother : other = comId
  · subst hother
    rw [if_pos rfl, lookup_put]
    exact if_congr ⟨fun h => h ▸ rfl, fun h => (Prod.mk.inj h).2⟩ rfl rfl
  · rw [if_neg hother, if_neg fun h => hother (Prod.mk.inj h).1]
    rfl

theorem locations_evict :
    (t.evict comId).locations = fun key => if key.1 = comId then none else t.locations key := by
  funext ⟨other, otherType⟩
  show ((t.evict comId).offer other).lookup otherType = _
  rw [offer_evict]
  by_cases hother : other = comId
  · rw [if_pos hother, if_pos hother]
    rfl
  · rw [if_neg hother, if_neg hother]
    rfl

/-! ## What a session offers -/

variable {t comId}

theorem mem_discover {s : ServiceInformation} :
    s ∈ t.discover comId ↔ t.locations (comId, s.serviceType) = some s.location := by
  unfold discover
  rw [List.mem_filterMap]
  constructor
  · rintro ⟨serviceType, -, hs⟩
    obtain ⟨location, hlocation, rfl⟩ := Option.map_eq_some_iff.mp hs
    exact hlocation
  · intro hlocation
    have hsame : t.location? comId s.serviceType = some s.location := hlocation
    exact ⟨s.serviceType, s.serviceType.mem_all, by rw [hsame, Option.map_some]⟩

/-- **Services are told of once and in the order of their types.** -/
theorem pairwise_discover :
    (t.discover comId).Pairwise fun s s' => s.serviceType.rank < s'.serviceType.rank := by
  refine ServiceType.pairwise_all.filterMap _ fun serviceType serviceType' hlt s hs s' hs' => ?_
  obtain ⟨location, -, rfl⟩ := Option.map_eq_some_iff.mp hs
  obtain ⟨location', -, rfl⟩ := Option.map_eq_some_iff.mp hs'
  exact hlt

/-- **A service is found where it was registered.** -/
theorem locationOf_discover (serviceType : ServiceType) :
    (⟨comId, t.discover comId⟩ : Discovered).locationOf serviceType
      = t.locations (comId, serviceType) := by
  unfold Discovered.locationOf
  dsimp only
  cases hfind : (t.discover comId).find? fun s => s.serviceType == serviceType with
  | none =>
    cases hlocation : t.locations (comId, serviceType) with
    | none => rfl
    | some location =>
      have hmem : (⟨serviceType, location⟩ : ServiceInformation) ∈ t.discover comId :=
        mem_discover.mpr hlocation
      exact absurd (beq_self_eq_true serviceType) (List.find?_eq_none.mp hfind _ hmem)
  | some s =>
    have htype : s.serviceType = serviceType :=
      eq_of_beq (List.find?_some (p := fun s : ServiceInformation => s.serviceType == _) hfind)
    rw [Option.map_some, ← htype, mem_discover.mp (List.mem_of_find?_eq_some hfind)]

/-! ## Proper tables -/

/-- **No key is there twice, and no session is there without a service.** -/
structure IsProper (t : Table) : Prop where
  sessions_nodup : (t.offers.map (·.1)).Nodup
  types_nodup : ∀ comId, ((t.offer comId).map (·.1)).Nodup
  offer_ne_nil : ∀ comId, t.offers.lookup comId ≠ some []

theorem isProper_empty : empty.IsProper := ⟨List.nodup_nil, fun _ => List.nodup_nil, nofun⟩

theorem IsProper.register (h : t.IsProper) (comId : String) (serviceType : ServiceType)
    (location : String) : (t.register comId serviceType location).IsProper where
  sessions_nodup := nodup_put h.sessions_nodup _ _
  types_nodup other := by
    rw [offer_register]
    split
    · exact nodup_put (h.types_nodup comId) _ _
    · exact h.types_nodup other
  offer_ne_nil other := by
    unfold Table.register
    rw [lookup_put]
    split
    · nofun
    · exact h.offer_ne_nil other

theorem IsProper.evict (h : t.IsProper) (comId : String) : (t.evict comId).IsProper where
  sessions_nodup := nodup_without h.sessions_nodup _
  types_nodup other := by
    rw [offer_evict]
    split
    · exact List.nodup_nil
    · exact h.types_nodup other
  offer_ne_nil other := by
    unfold Table.evict
    rw [lookup_without]
    split
    · nofun
    · exact h.offer_ne_nil other

/-- **A session goes with its last service**, so that no empty entry is left behind. -/
theorem IsProper.unregister (h : t.IsProper) (comId : String) (serviceType : ServiceType) :
    (t.unregister comId serviceType).IsProper where
  sessions_nodup := by
    unfold Table.unregister
    split
    · exact h.sessions_nodup
    · dsimp only
      split
      · exact nodup_without h.sessions_nodup _
      · exact nodup_put h.sessions_nodup _ _
  types_nodup other := by
    rw [offer_unregister]
    split
    · exact nodup_without (h.types_nodup comId) _
    · exact h.types_nodup other
  offer_ne_nil other := by
    unfold Table.unregister
    split
    · exact h.offer_ne_nil other
    · dsimp only
      split
      · rw [lookup_without]
        split
        · nofun
        · exact h.offer_ne_nil other
      -- what is put back is not empty: this is what the branch has asked
      · next hrest =>
        rw [lookup_put]
        split
        · exact fun hnil => hrest (List.isEmpty_iff.mpr (Option.some_inj.mp hnil))
        · exact h.offer_ne_nil other

/-- The types of what a session offers are those with a location. -/
theorem mem_types {serviceType : ServiceType} :
    serviceType ∈ (t.offer comId).map (·.1) ↔ (t.locations (comId, serviceType)).isSome :=
  Entries.mem_keys

/-- **A session has as many services as it has types with a location.** -/
theorem IsProper.count_eq (h : t.IsProper) (comId : String) :
    t.count comId = ServiceType.all.countP fun serviceType =>
      (t.locations (comId, serviceType)).isSome := by
  have hperm : ((t.offer comId).map (·.1)).Perm
      (ServiceType.all.filter fun serviceType => (t.locations (comId, serviceType)).isSome) := by
    refine (List.perm_ext_iff_of_nodup (h.types_nodup comId)
      (ServiceType.nodup_all.filter _)).mpr fun serviceType => ?_
    rw [mem_types, List.mem_filter]
    exact (and_iff_right serviceType.mem_all).symm
  rw [count, ← List.length_map (·.1), hperm.length_eq, List.countP_eq_length_filter]

/-- **The known sessions are those that offer something.** -/
theorem IsProper.mem_sessions (h : t.IsProper) :
    comId ∈ t.sessions ↔ ∃ serviceType, (t.locations (comId, serviceType)).isSome := by
  unfold sessions
  rw [List.mem_mergeSort, Entries.mem_keys]
  constructor
  · intro hsome
    obtain ⟨offer, hlookup⟩ := Option.isSome_iff_exists.mp hsome
    have hoffer : t.offer comId = offer := by rw [Table.offer, hlookup, Option.getD_some]
    cases offer with
    | nil => exact absurd hlookup (h.offer_ne_nil comId)
    | cons service rest =>
      refine ⟨service.1, mem_types.mp ?_⟩
      rw [hoffer]
      exact List.mem_cons_self
  · rintro ⟨serviceType, hsome⟩
    rw [← mem_types, Table.offer] at hsome
    cases hlookup : t.offers.lookup comId with
    | some offer => rfl
    | none =>
      rw [hlookup] at hsome
      exact absurd hsome List.not_mem_nil

/-! ## Tables beside maps -/

/-- **A table that stands for a map.** -/
structure Follows (t : Table) (M : Locations) : Prop where
  locations_eq : t.locations = M
  proper : t.IsProper

theorem follows_empty : empty.Follows fun _ => none := ⟨locations_empty, isProper_empty⟩

variable {M : Locations}

theorem Follows.register (h : t.Follows M) (comId : String) (serviceType : ServiceType)
    (location : String) : (t.register comId serviceType location).Follows
      (Function.update M (comId, serviceType) (some location)) :=
  ⟨by rw [t.locations_register, h.locations_eq], h.proper.register ..⟩

theorem Follows.unregister (h : t.Follows M) (comId : String) (serviceType : ServiceType) :
    (t.unregister comId serviceType).Follows (Function.update M (comId, serviceType) none) :=
  ⟨by rw [t.locations_unregister, h.locations_eq], h.proper.unregister ..⟩

theorem Follows.evict (h : t.Follows M) (comId : String) :
    (t.evict comId).Follows fun key => if key.1 = comId then none else M key :=
  ⟨by rw [t.locations_evict, h.locations_eq], h.proper.evict comId⟩

theorem Follows.count_eq (h : t.Follows M) (comId : String) :
    t.count comId = ServiceType.all.countP fun serviceType => (M (comId, serviceType)).isSome := by
  rw [h.proper.count_eq, h.locations_eq]

end Table

end Switchboard.Registry
