import Switchboard.Host.Files
import Switchboard.Proofs.Entries

/-!
# Where paths lead

Servers put sockets at paths and remove them, and every other path has to lead
where it led before. Two things make that true. A socket can only be the last
thing on a path, so what lies at one place matters to no path that leads
elsewhere, as long as it is neither a directory nor a link
(`DifferAt.walk_eq_ok`, `DifferAt.inspect_eq_ok`). And the three ways to look at
a path agree on one that ends in a name: what `Files.inspect` finds there,
where `Files.walk` leads if that is not a link (`EndsAt.walk_eq_ok`), and where
`Files.vacancy` puts something if nothing is there (`vacancy_eq_ok`).
-/

namespace Switchboard.Files

variable {f g : Files} {path : String} {place q : Place} {node : Node}

/-! ## One place -/

theorem node?_remove (f : Files) (hplace : place ≠ []) (q : Place) :
    (f.remove place).node? q = if q = place then none else f.node? q := by
  by_cases hq : q = []
  · subst hq
    rw [if_neg (Ne.symm hplace)]
    rfl
  · simp only [node?, if_neg hq]
    exact Entries.lookup_filter_ne place q f.nodes

theorem node?_put (f : Files) (node : Node) (hplace : place ≠ []) (q : Place) :
    (f.put place node).node? q = if q = place then some node else f.node? q := by
  by_cases hq : q = []
  · subst hq
    rw [if_neg (Ne.symm hplace)]
    rfl
  · simp only [node?, if_neg hq]
    exact Entries.lookup_cons_filter_ne place q node f.nodes

/-! ## Following names -/

/-- The first of some names is followed to a place that is no link, if it can be. -/
theorem follow_cons_of_node {onLink : Place → List String → Except HostError Place}
    {name : String} {here : Place} (hhere : f.node? here = some .directory) (hdot : name ≠ ".")
    (hdots : name ≠ "..") (hsize : name.utf8ByteSize ≤ maxName)
    (hnode : f.node? (here ++ [name]) = some node) (hlink : ∀ target, node ≠ .link target)
    (rest : List String) :
    f.follow onLink here (name :: rest) = f.follow onLink (here ++ [name]) rest := by
  rw [follow, if_neg (not_not_intro hhere), if_neg hdot, if_neg hdots,
    if_neg (Nat.not_lt.mpr hsize), hnode]
  cases node with
  | link target => exact absurd rfl (hlink target)
  | directory | file | socket => rfl

/-- **Names lead on from a directory to what is in it.** Links on the way do not matter: what
is behind one is followed by the same name. -/
theorem follow_append {onLink : Place → List String → Except HostError Place} {name : String}
    {directory : Place}
    (honLink : ∀ here names, onLink here names = .ok directory →
      onLink here (names ++ [name]) = .ok (directory ++ [name]))
    (hlast : f.follow onLink directory [name] = .ok (directory ++ [name])) :
    ∀ (names : List String) (here : Place), f.follow onLink here names = .ok directory →
      f.follow onLink here (names ++ [name]) = .ok (directory ++ [name]) := by
  intro names
  induction names with
  | nil =>
    intro here h
    obtain rfl := Except.ok.inj h
    exact hlast
  | cons first rest ih =>
    intro here h
    rw [follow] at h
    rw [List.cons_append, follow]
    split_ifs at h ⊢ with hhere hdot hdots hsize
    · exact ih here h
    · exact ih _ h
    · split at h
      · cases h
      · rw [← List.append_assoc]
        exact honLink _ _ h
      · exact ih _ h

/-- The same with as many links as are allowed. -/
theorem walkWithin_append {links : Nat} {name : String} {directory : Place}
    (hdirectory : f.node? directory = some .directory) (hdot : name ≠ ".") (hdots : name ≠ "..")
    (hsize : name.utf8ByteSize ≤ maxName) (hnode : f.node? (directory ++ [name]) = some node)
    (hlink : ∀ target, node ≠ .link target) {names : List String} {here : Place}
    (h : f.walkWithin links here names = .ok directory) :
    f.walkWithin links here (names ++ [name]) = .ok (directory ++ [name]) := by
  induction links generalizing here names with
  | zero =>
    exact follow_append (fun _ _ h => absurd h (by simp))
      (follow_cons_of_node hdirectory hdot hdots hsize hnode hlink []) _ _ h
  | succ links ih =>
    exact follow_append (fun _ _ => ih)
      (follow_cons_of_node hdirectory hdot hdots hsize hnode hlink []) _ _ h

/-! ## Files that differ at one place -/

/-- What lies at a place can only be the last thing on a path. -/
def IsEnd (node : Option Node) : Prop :=
  node ≠ some .directory ∧ ∀ target, node ≠ some (.link target)

theorem isEnd_none : IsEnd none := ⟨nofun, nofun⟩

theorem isEnd_socket (identity : Nat) : IsEnd (some (.socket identity)) := ⟨nofun, nofun⟩

/-- **Two states of the files that differ at most at one place**, where nothing leads on. -/
structure DifferAt (f g : Files) (place : Place) : Prop where
  agree : ∀ q, q ≠ place → f.node? q = g.node? q
  isEnd_left : IsEnd (f.node? place)
  isEnd_right : IsEnd (g.node? place)

namespace DifferAt

theorem symm (h : DifferAt f g place) : DifferAt g f place :=
  ⟨fun q hq => (h.agree q hq).symm, h.isEnd_right, h.isEnd_left⟩

/-- Directories are the same on both sides. -/
theorem directory_iff (h : DifferAt f g place) :
    f.node? q = some .directory ↔ g.node? q = some .directory := by
  by_cases hq : q = place
  · subst hq
    exact iff_of_false h.isEnd_left.1 h.isEnd_right.1
  · rw [h.agree q hq]

/-- Names that lead elsewhere on one side do on the other. -/
theorem follow_eq_ok {onLeft onRight : Place → List String → Except HostError Place}
    (h : DifferAt f g place) (hq : q ≠ place)
    (honLink : ∀ here names, onLeft here names = .ok q → onRight here names = .ok q) :
    ∀ (names : List String) (here : Place),
      f.follow onLeft here names = .ok q → g.follow onRight here names = .ok q := by
  intro names
  induction names with
  | nil => exact fun _ => id
  | cons name rest ih =>
    intro here hf
    rw [follow] at hf
    split_ifs at hf with hhere hdot hdots hsize
    all_goals rw [follow, if_neg (not_not_intro (h.directory_iff.mp (not_not.mp hhere)))]
    · rw [if_pos hdot]
      exact ih here hf
    · rw [if_neg hdot, if_pos hdots]
      exact ih _ hf
    · rw [if_neg hdot, if_neg hdots, if_neg hsize]
      -- nothing leads on from the place, so the names have not come to it
      have hnext : here ++ [name] ≠ place := by
        rintro rfl
        split at hf
        · cases hf
        · next target hnode => exact h.isEnd_left.2 target hnode
        · next node hnode hlink =>
          cases rest with
          | nil => exact hq (Except.ok.inj hf).symm
          | cons second rest =>
            rw [follow, if_pos h.isEnd_left.1] at hf
            cases hf
      rw [← h.agree _ hnext]
      split at hf
      · cases hf
      · exact honLink _ _ hf
      · exact ih _ hf

theorem walkWithin_eq_ok {links : Nat} (h : DifferAt f g place) (hq : q ≠ place)
    {names : List String} {here : Place} (hf : f.walkWithin links here names = .ok q) :
    g.walkWithin links here names = .ok q := by
  induction links generalizing here names with
  | zero => exact h.follow_eq_ok hq (fun _ _ h => h) names here hf
  | succ links ih => exact h.follow_eq_ok hq (fun _ _ => ih) names here hf

/-- **A path that leads elsewhere is not touched.** -/
theorem walk_eq_ok (h : DifferAt f g place) (hq : q ≠ place) (hf : f.walk path = .ok q) :
    g.walk path = .ok q := by
  rw [walk] at hf ⊢
  cases hwalk : f.walkWithin maxLinks [] (names path) with
  | error e => simp [hwalk] at hf
  | ok r =>
    simp only [hwalk] at hf
    split_ifs at hf with hwants
    obtain rfl := Except.ok.inj hf
    rw [h.walkWithin_eq_ok hq hwalk]
    exact if_neg (by rwa [← h.agree r hq])

/-- Every last name is looked up where it was before. -/
theorem parent_eq_ok (h : DifferAt f g place) (hf : f.parent path = .ok q) :
    g.parent path = .ok q := by
  rw [parent] at hf ⊢
  cases hwalk : f.walkWithin maxLinks [] (names path).dropLast with
  | error e => simp [hwalk] at hf
  | ok r =>
    simp only [hwalk] at hf
    split_ifs at hf with hdirectory
    obtain rfl := Except.ok.inj hf
    have hr : r ≠ place := fun heq => h.isEnd_left.1 (heq ▸ hdirectory)
    rw [h.walkWithin_eq_ok hr hwalk]
    exact if_pos (h.directory_iff.mp hdirectory)

/-- Every path ends where it ended before. -/
theorem entry?_eq_some (h : DifferAt f g place) (hf : f.entry? path = some q) :
    g.entry? path = some q := by
  unfold entry? at hf ⊢
  cases hparent : f.parent path with
  | error e => simp [hparent] at hf
  | ok directory =>
    rw [h.parent_eq_ok hparent]
    rwa [hparent] at hf

/-- **What is found elsewhere is found as before.** -/
theorem inspect_eq_ok (h : DifferAt f g place) (hq : q ≠ place)
    (hf : f.inspect path = .ok (q, node)) : g.inspect path = .ok (q, node) := by
  rw [inspect] at hf ⊢
  split_ifs at hf ⊢ with hlength hwants
  · cases hwalk : f.walk path with
    | error e => simp [hwalk] at hf
    | ok r =>
      simp only [hwalk, Except.ok.injEq, Prod.mk.injEq] at hf
      obtain ⟨rfl, rfl⟩ := hf
      rw [h.walk_eq_ok hq hwalk]
  · cases hparent : f.parent path with
    | error e => simp [hparent] at hf
    | ok directory =>
      rw [h.parent_eq_ok hparent]
      rw [hparent] at hf
      cases hlast : (names path).getLast? with
      | none => rwa [hlast] at hf
      | some name =>
        simp only [hlast] at hf ⊢
        split_ifs at hf ⊢ with hsize
        cases hnode : f.node? (directory ++ [name]) with
        | none => simp [hnode] at hf
        | some n =>
          simp only [hnode, Except.ok.injEq, Prod.mk.injEq] at hf
          obtain ⟨rfl, rfl⟩ := hf
          rw [← h.agree _ hq, hnode]

end DifferAt

/-- Removing what nothing leads on from makes a difference there only. -/
theorem differAt_remove (hend : IsEnd (f.node? place)) : DifferAt f (f.remove place) place := by
  have hplace : place ≠ [] := fun heq => hend.1 (heq ▸ rfl)
  refine ⟨fun q hq => ?_, hend, ?_⟩
  · rw [node?_remove f hplace, if_neg hq]
  · rw [node?_remove f hplace, if_pos rfl]
    exact isEnd_none

/-- A socket makes a difference where it is put only. -/
theorem differAt_put_socket (hend : IsEnd (f.node? place)) (identity : Nat) :
    DifferAt f (f.put place (.socket identity)) place := by
  have hplace : place ≠ [] := fun heq => hend.1 (heq ▸ rfl)
  refine ⟨fun q hq => ?_, hend, ?_⟩
  · rw [node?_put f _ hplace, if_neg hq]
  · rw [node?_put f _ hplace, if_pos rfl]
    exact isEnd_socket identity

/-! ## What lies at a path -/

/-- **A path ends in a name, and that name stands for a place.** -/
structure EndsAt (f : Files) (path : String) (place : Place) : Prop where
  wantsDirectory_eq : wantsDirectory path = false
  entry?_eq : f.entry? path = some place

/-- A path whose last name stands for nothing else ends in the place of that name. -/
theorem entry?_eq_of_parent {directory : Place} {name : String}
    (hparent : f.parent path = .ok directory) (hlast : (names path).getLast? = some name)
    (hdot : name ≠ ".") (hdots : name ≠ "..") (hsize : name.utf8ByteSize ≤ maxName) :
    f.entry? path = some (directory ++ [name]) := by
  unfold entry?
  rw [hparent, hlast]
  exact if_neg (by simp [hdot, hdots, hsize])

/-- The place at which a path ends is a name in a directory. -/
theorem EndsAt.cases (h : f.EndsAt path place) :
    ∃ directory name, f.parent path = .ok directory ∧ (names path).getLast? = some name
      ∧ name ≠ "." ∧ name ≠ ".." ∧ name.utf8ByteSize ≤ maxName ∧ place = directory ++ [name] := by
  have hentry := h.entry?_eq
  unfold entry? at hentry
  split at hentry
  · next directory name hparent hlast =>
    split_ifs at hentry with hname
    simp only [not_or, Nat.not_lt] at hname
    exact ⟨directory, name, hparent, hlast, hname.1, hname.2.1, hname.2.2,
      (Option.some.inj hentry).symm⟩
  · cases hentry

/-- A place at which a path ends is not the root. -/
theorem EndsAt.ne_nil (h : f.EndsAt path place) : place ≠ [] := by
  obtain ⟨directory, name, -, -, -, -, -, rfl⟩ := h.cases
  exact List.append_ne_nil_of_right_ne_nil _ (List.cons_ne_nil _ _)

/-- Paths end where they ended before a socket came or went. -/
theorem EndsAt.of_differAt (h : f.EndsAt path q) (hdiffer : DifferAt f g place) :
    g.EndsAt path q :=
  ⟨h.wantsDirectory_eq, hdiffer.entry?_eq_some h.entry?_eq⟩

/-- Where a path ends, what is found is what lies there. -/
theorem EndsAt.inspect_eq (h : f.EndsAt path place) (hlength : path.utf8ByteSize ≤ maxPath) :
    f.inspect path = match f.node? place with
      | none => .error .notFound
      | some node => .ok (place, node) := by
  obtain ⟨directory, name, hparent, hlast, -, -, hsize, rfl⟩ := h.cases
  rw [inspect, if_neg (Nat.not_lt.mpr hlength), h.wantsDirectory_eq, hparent, hlast]
  exact (if_neg Bool.false_ne_true).trans (if_neg (Nat.not_lt.mpr hsize))

/-- **Where a path ends, something can be put** unless something is there. -/
theorem vacancy_eq_ok :
    f.vacancy path = .ok place ↔ f.EndsAt path place ∧ f.node? place = none := by
  constructor
  · intro h
    rw [vacancy] at h
    cases hparent : f.parent path with
    | error e => simp [hparent] at h
    | ok directory =>
      cases hlast : (names path).getLast? with
      | none => simp [hparent, hlast] at h
      | some name =>
        simp only [hparent, hlast] at h
        split_ifs at h with hsize htaken hwants
        obtain rfl := Except.ok.inj h
        simp only [not_or, Bool.not_eq_true, Option.isSome_eq_false_iff,
          Option.isNone_iff_eq_none] at htaken hwants
        exact ⟨⟨hwants, entry?_eq_of_parent hparent hlast htaken.1 htaken.2.1
          (Nat.not_lt.mp hsize)⟩, htaken.2.2⟩
  · rintro ⟨h, hnode⟩
    obtain ⟨directory, name, hparent, hlast, hdot, hdots, hsize, rfl⟩ := h.cases
    rw [vacancy, hparent]
    simp only [hlast, if_neg (Nat.not_lt.mpr hsize)]
    rw [if_neg (by simp [hdot, hdots, hnode]), h.wantsDirectory_eq]
    rfl

/-- The last of the names in a path that ends in a name is none of those that stand for a
directory. -/
theorem getLast?_ne_of_wantsDirectory {name : String} (hwants : wantsDirectory path = false)
    (hlast : (names path).getLast? = some name) : name ≠ "." ∧ name ≠ ".." := by
  simp only [wantsDirectory, hlast, Bool.or_eq_false_iff, decide_eq_false_iff_not,
    Option.some.injEq] at hwants
  exact ⟨hwants.1.2, hwants.2⟩

/-- **What is found at a path and is no directory lies where the path ends.** -/
theorem endsAt_of_inspect (h : f.inspect path = .ok (place, node)) (hnode : node ≠ .directory) :
    f.EndsAt path place ∧ f.node? place = some node ∧ path.utf8ByteSize ≤ maxPath := by
  rw [inspect] at h
  split_ifs at h with hlength hwants
  · cases hwalk : f.walk path with
    | error e => simp [hwalk] at h
    | ok r =>
      simp only [hwalk, Except.ok.injEq, Prod.mk.injEq] at h
      exact absurd h.2.symm hnode
  · rw [Bool.not_eq_true] at hwants
    split at h
    · cases h
    · exact absurd (Prod.mk.inj (Except.ok.inj h)).2.symm hnode
    · next directory name hparent hlast =>
      split_ifs at h with hsize
      split at h
      · cases h
      · next n hn =>
        obtain ⟨rfl, rfl⟩ := Prod.mk.inj (Except.ok.inj h)
        obtain ⟨hdot, hdots⟩ := getLast?_ne_of_wantsDirectory hwants hlast
        exact ⟨⟨hwants, entry?_eq_of_parent hparent hlast hdot hdots (Nat.not_lt.mp hsize)⟩, hn,
          Nat.not_lt.mp hlength⟩

/-- **A path leads to where it ends**, if what lies there is no link. -/
theorem EndsAt.walk_eq_ok (h : f.EndsAt path place) (hnode : f.node? place = some node)
    (hlink : ∀ target, node ≠ .link target) : f.walk path = .ok place := by
  obtain ⟨directory, name, hparent, hlast, hdot, hdots, hsize, rfl⟩ := h.cases
  rw [parent] at hparent
  cases hwalk : f.walkWithin maxLinks [] (names path).dropLast with
  | error e => simp [hwalk] at hparent
  | ok r =>
    simp only [hwalk] at hparent
    split_ifs at hparent with hdirectory
    obtain rfl := Except.ok.inj hparent
    have hnames : names path = (names path).dropLast ++ [name] :=
      (List.dropLast_append_getLast? name hlast).symm
    rw [walk, hnames, walkWithin_append hdirectory hdot hdots hsize hnode hlink hwalk,
      h.wantsDirectory_eq]
    rfl

end Switchboard.Files
