import Mathlib.Data.List.Nodup

/-!
# Entries under keys

The table of a registry and the files of a host are lists of entries, each of
which has a key. What is under a key is the first entry with it. Something is
put under a key in front of the other entries, and what was there before is
taken out, so that no key has two entries (`nodup_cons_filter_ne`) and what is
under any other key stays (`lookup_cons_filter_ne`).
-/

namespace Switchboard.Entries

variable {κ α : Type} [BEq κ] [LawfulBEq κ] {entries : List (κ × α)}

/-- **What is found when everything under a key has been taken out.** -/
theorem lookup_filter_ne [DecidableEq κ] (key k : κ) (entries : List (κ × α)) :
    (entries.filter (·.1 != key)).lookup k = if k = key then none else entries.lookup k := by
  induction entries with
  | nil => exact (ite_self none).symm
  | cons e entries ih =>
    obtain ⟨k', value⟩ := e
    rw [List.filter_cons, List.lookup_cons]
    by_cases hleft : k' = key
    · -- the first entry is taken out, and was not the one that is looked for unless `k` is the key
      subst hleft
      rw [bne_self_eq_false, if_neg Bool.false_ne_true, ih]
      by_cases hk : k = k'
      · rw [if_pos hk, if_pos hk]
      · rw [if_neg hk, if_neg hk, beq_false_of_ne hk]
    · rw [if_pos (bne_iff_ne.mpr hleft), List.lookup_cons]
      by_cases hk : k = k'
      · subst hk
        rw [beq_self_eq_true, if_neg hleft]
      · rw [beq_false_of_ne hk]
        exact ih

/-- **What is found when something has been put under a key.** -/
theorem lookup_cons_filter_ne [DecidableEq κ] (key k : κ) (value : α) (entries : List (κ × α)) :
    ((key, value) :: entries.filter (·.1 != key)).lookup k
      = if k = key then some value else entries.lookup k := by
  rw [List.lookup_cons]
  by_cases hk : k = key
  · rw [if_pos hk, hk, beq_self_eq_true]
  · rw [if_neg hk, beq_false_of_ne hk]
    exact (lookup_filter_ne key k entries).trans (if_neg hk)

omit [LawfulBEq κ] in
theorem nodup_filter_ne (h : (entries.map (·.1)).Nodup) (key : κ) :
    ((entries.filter (·.1 != key)).map (·.1)).Nodup :=
  h.sublist (List.filter_sublist.map _)

theorem nodup_cons_filter_ne (h : (entries.map (·.1)).Nodup) (key : κ) (value : α) :
    (((key, value) :: entries.filter (·.1 != key)).map (·.1)).Nodup := by
  refine List.nodup_cons.mpr ⟨fun hmem => ?_, nodup_filter_ne h key⟩
  obtain ⟨e, he, hkey⟩ := List.mem_map.mp hmem
  exact bne_iff_ne.mp (List.mem_filter.mp he).2 hkey

/-- The keys are those under which something is found. -/
theorem mem_keys {key : κ} : key ∈ entries.map (·.1) ↔ (entries.lookup key).isSome = true := by
  rw [List.lookup_isSome_iff, List.mem_map]
  constructor
  · rintro ⟨e, he, rfl⟩
    exact ⟨e, he, beq_self_eq_true e.1⟩
  · rintro ⟨e, he, hkey⟩
    exact ⟨e, he, (eq_of_beq hkey).symm⟩

end Switchboard.Entries
