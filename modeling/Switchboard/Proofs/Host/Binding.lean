import Switchboard.Proofs.Host.Actions
import Switchboard.Proofs.Host.Paths

/-!
# Binding a local socket

A server that binds a path must not harm what lies there. A socket that a dead
server has left behind is in the way and is removed first, and whether its
server is dead is found out by connecting to it. On a path that a socket can
have this works (`listenEmbedded_spares`): the only thing that is ever removed
is a socket on which nobody listens, a failure changes nothing at all, and a
success leaves a new socket at the path and everything else as it was.

A path of more bytes than the address of a socket holds cannot be connected to,
whoever listens there, and that is taken for a dead server too. Such a path is
not bound in the end, but the socket that lay there is gone by then, also the
one of a server that is alive. A server does not make its socket at such a path,
but a socket can be moved there, and a long path can be another way to a short
one.
-/

namespace Switchboard.Host

variable {h h' : Host} {path : String} {place : Place} {identity : Nat}

/-! ## Connecting to a socket -/

/-- A socket can be connected to if a path that is short enough leads to it and somebody
listens. -/
theorem openSocket_eq_ok {endpoint : Endpoint} : h.openSocket path = .ok endpoint
    ↔ path.utf8ByteSize ≤ maxPath ∧ ∃ place identity, h.files.walk path = .ok place
      ∧ h.files.node? place = some (.socket identity) ∧ endpoint = .socket identity
      ∧ endpoint ∈ h.listening := by
  constructor
  · intro hopen
    rw [openSocket] at hopen
    split_ifs at hopen with hlength
    refine ⟨Nat.not_lt.mp hlength, ?_⟩
    split at hopen
    · cases hopen
    · next place hwalk =>
      split at hopen
      · next identity hnode =>
        split_ifs at hopen with hlistening
        obtain rfl := Except.ok.inj hopen
        exact ⟨place, identity, hwalk, hnode, rfl, hlistening⟩
      · cases hopen
  · rintro ⟨hlength, place, identity, hwalk, hnode, rfl, hlistening⟩
    simp only [openSocket, if_neg (Nat.not_lt.mpr hlength), hwalk, hnode, if_pos hlistening]

/-- **On a short path, connecting tells whether somebody listens** on the socket that lies
there. -/
theorem openSocket_of_endsAt (hlength : path.utf8ByteSize ≤ maxPath)
    (hends : h.files.EndsAt path place) (hnode : h.files.node? place = some (.socket identity)) :
    h.openSocket path
      = if .socket identity ∈ h.listening then .ok (.socket identity)
        else .error .connectionRefused := by
  have hwalk := hends.walk_eq_ok hnode nofun
  simp only [openSocket, if_neg (Nat.not_lt.mpr hlength), hwalk, hnode]

/-- A path that a socket can have is one that can be looked at. -/
theorem le_filesMaxPath (hlength : path.utf8ByteSize ≤ maxPath) :
    path.utf8ByteSize ≤ Files.maxPath :=
  Nat.le_trans hlength (by decide)

/-! ## A place for a new socket -/

/-- **A socket may be made at a place**: nothing is there but possibly a socket on which nobody
listens. -/
def IsFree (h : Host) (place : Place) : Prop :=
  h.files.node? place = none
    ∨ ∃ identity, h.files.node? place = some (.socket identity) ∧ .socket identity ∉ h.listening

theorem IsFree.isEnd (hfree : h.IsFree place) : Files.IsEnd (h.files.node? place) := by
  obtain hnone | ⟨identity, hnode, -⟩ := hfree
  · exact hnone ▸ Files.isEnd_none
  · exact hnode ▸ Files.isEnd_socket identity

/-- **A host on which a server has bound a path.** -/
structure HasBound (h h' : Host) (a : Address) (l : Listening) (place : Place) : Prop where
  /-- The server has made a socket that is new, and remembers it. -/
  listening_eq : l = ⟨a, .socket h.nextIdentity, some ⟨a.path, h.nextIdentity⟩⟩
  /-- The socket lies at exactly the path. -/
  inspect_eq : h'.files.inspect a.path = .ok (place, .socket h.nextIdentity)
  /-- Clients reach the server there. -/
  openSocket_eq : h'.openSocket a.path = .ok (.socket h.nextIdentity)
  /-- Nothing has been lost but possibly a socket on which nobody listened. -/
  isFree : h.IsFree place
  /-- At every other place there is what was there. -/
  node?_eq : ∀ q, q ≠ place → h'.files.node? q = h.files.node? q
  /-- At every other path there is what was there. -/
  inspect_iff : ∀ path q node, q ≠ place →
    (h'.files.inspect path = .ok (q, node) ↔ h.files.inspect path = .ok (q, node))
  /-- The server listens, and so does everybody who did. -/
  listens : h'.listening = .socket h.nextIdentity :: h.listening

/-- **A path that ends where nothing is in the way can be bound.** Whether a dead socket has
been cleared away before makes no difference. -/
theorem makeSocket_hasBound {a : Address} {g : Files} (hlength : a.path.utf8ByteSize ≤ maxPath)
    (hends : h.files.EndsAt a.path place) (hfree : h.IsFree place)
    (hcleared : Files.DifferAt h.files g place) (hnone : g.node? place = none) :
    ∃ h', { h with files := g }.makeSocket a.path = .ok (h.nextIdentity, h')
      ∧ HasBound h h' a ⟨a, .socket h.nextIdentity, some ⟨a.path, h.nextIdentity⟩⟩ place := by
  have hvacancy : g.vacancy a.path = .ok place :=
    Files.vacancy_eq_ok.mpr ⟨hends.of_differAt hcleared, hnone⟩
  have hput := Files.differAt_put_socket (f := g) (hnone ▸ Files.isEnd_none) h.nextIdentity
  have hnode : (g.put place (.socket h.nextIdentity)).node? place
      = some (.socket h.nextIdentity) := by
    rw [Files.node?_put g _ hends.ne_nil, if_pos rfl]
  have hends' := (hends.of_differAt hcleared).of_differAt hput
  -- away from the place neither step has changed anything
  have hsame : ∀ q, q ≠ place →
      (g.put place (.socket h.nextIdentity)).node? q = h.files.node? q := fun q hq =>
    (hput.agree q hq).symm.trans (hcleared.agree q hq).symm
  have hdiffer : Files.DifferAt h.files (g.put place (.socket h.nextIdentity)) place :=
    ⟨fun q hq => (hsame q hq).symm, hcleared.isEnd_left, hput.isEnd_right⟩
  refine ⟨{ h with
    files := g.put place (.socket h.nextIdentity)
    nextIdentity := h.nextIdentity + 1
    listening := .socket h.nextIdentity :: h.listening }, ?_, ?_⟩
  · simp only [makeSocket, if_neg (Nat.not_lt.mpr hlength), hvacancy]
  · exact {
      listening_eq := rfl
      inspect_eq := by rw [hends'.inspect_eq (le_filesMaxPath hlength), hnode]
      openSocket_eq := by
        rw [openSocket_of_endsAt hlength hends' hnode, if_pos (List.mem_cons_self ..)]
      isFree := hfree
      node?_eq := hsame
      inspect_iff := fun path q node hq => ⟨hdiffer.symm.inspect_eq_ok hq, hdiffer.inspect_eq_ok hq⟩
      listens := rfl }

/-! ## Clearing away -/

/-- **What clearing away does to a short path**: it takes a dead socket away, and it complains
about a living one. -/
theorem perform_clearStale_of_endsAt (hlength : path.utf8ByteSize ≤ maxPath)
    (hends : h.files.EndsAt path place) (hnode : h.files.node? place = some (.socket identity)) :
    h.perform (clearStale path)
      = if .socket identity ∈ h.listening then (.error .occupied, h)
        else (.ok (), h.withFiles (·.remove place)) := by
  have hinspect := hends.inspect_eq (le_filesMaxPath hlength)
  rw [hnode] at hinspect
  show clearStale path h = _
  simp only [clearStale, hinspect, openSocket_of_endsAt hlength hends hnode]
  split_ifs <;> rfl

/-- Where no socket is, nothing is cleared away. -/
theorem perform_clearStale_of_no_socket
    (hno : ∀ place identity, h.files.inspect path ≠ .ok (place, .socket identity)) :
    ∃ r, h.perform (clearStale path) = (r, h) := by
  show ∃ r, clearStale path h = (r, h)
  rw [clearStale]
  split
  · exact ⟨_, rfl⟩
  · exact ⟨_, rfl⟩
  · next place identity hfound => exact absurd hfound (hno place identity)
  · exact ⟨_, rfl⟩

/-- A socket is not made where something is or where no directory is. -/
theorem makeSocket_error (hno : ∀ place, h.files.EndsAt path place → h.files.node? place ≠ none) :
    ∃ e, h.makeSocket path = .error e := by
  rw [makeSocket]
  split_ifs
  · exact ⟨_, rfl⟩
  · split
    · exact ⟨_, rfl⟩
    · next place hvacancy =>
      obtain ⟨hends, hnode⟩ := Files.vacancy_eq_ok.mp hvacancy
      exact absurd hnode (hno place hends)

/-! ## Binding -/

section

variable {a : Address}

/-- Binding is clearing away and then making the socket, unless there is no path. -/
theorem perform_listenEmbedded (hpath : a.path ≠ "") :
    h.perform (listenEmbedded a) = match h.perform (clearStale a.path) with
      | (.error e, h₁) => (.error (.bind a.text e.message), h₁)
      | (.ok (), h₁) => match h₁.makeSocket a.path with
        | .error e => (.error (.bind a.text e.message), h₁)
        | .ok (identity, h₂) => (.ok ⟨a, .socket identity, some ⟨a.path, identity⟩⟩, h₂) := by
  rw [listenEmbedded, if_neg hpath]
  simp only [perform_bind, perform_bindError, perform_attempt, perform_pure]
  rcases h.perform (clearStale a.path) with ⟨_ | _, h₁⟩
  · rfl
  · dsimp only
    cases h₁.makeSocket a.path <;> rfl

/-- Without a path nothing is bound. -/
theorem perform_listenEmbedded_of_no_path (hpath : a.path = "") :
    h.perform (listenEmbedded a)
      = (.error (.validation "location" (a.text ++ " has no socket path")), h) := by
  rw [listenEmbedded, if_pos hpath, perform_bind, perform_throw]

/-- A path that ends somewhere is not empty. -/
theorem ne_empty_of_endsAt {f : Files} (hends : f.EndsAt path place) : path ≠ "" := by
  rintro rfl
  obtain ⟨directory, name, -, hlast, -⟩ := hends.cases
  have hnames : Files.names "" = [] := rfl
  rw [hnames] at hlast
  cases hlast

/-- **A path is bound where a socket may be made.** -/
theorem perform_listenEmbedded_of_isFree (hlength : a.path.utf8ByteSize ≤ maxPath)
    (hends : h.files.EndsAt a.path place) (hfree : h.IsFree place) :
    ∃ l h', h.perform (listenEmbedded a) = (.ok l, h') ∧ HasBound h h' a l place := by
  rw [perform_listenEmbedded (ne_empty_of_endsAt hends)]
  obtain hnone | ⟨identity, hnode, hdead⟩ := id hfree
  · have hno : h.files.inspect a.path = .error .notFound := by
      rw [hends.inspect_eq (le_filesMaxPath hlength), hnone]
    have hclear : h.perform (clearStale a.path) = (.ok (), h) := by
      show clearStale a.path h = _
      rw [clearStale, hno]
    obtain ⟨h', hmake, hbound⟩ := makeSocket_hasBound (g := h.files) hlength hends hfree
      ⟨fun _ _ => rfl, hfree.isEnd, hfree.isEnd⟩ hnone
    rw [hclear]
    exact ⟨_, h', by simp only [hmake], hbound⟩
  · obtain ⟨h', hmake, hbound⟩ := makeSocket_hasBound (g := h.files.remove place) hlength hends
      hfree (Files.differAt_remove hfree.isEnd)
      (by rw [Files.node?_remove _ hends.ne_nil, if_pos rfl])
    rw [perform_clearStale_of_endsAt hlength hends hnode, if_neg hdead]
    exact ⟨_, h', by simp only [withFiles, hmake], hbound⟩

/-- **A path is not bound where no socket may be made**, and nothing changes then. -/
theorem perform_listenEmbedded_of_not_isFree (hlength : a.path.utf8ByteSize ≤ maxPath)
    (hno : ∀ place, h.files.EndsAt a.path place → ¬ h.IsFree place) :
    ∃ e, h.perform (listenEmbedded a) = (.error e, h) := by
  by_cases hpath : a.path = ""
  · exact ⟨_, perform_listenEmbedded_of_no_path hpath⟩
  rw [perform_listenEmbedded hpath]
  by_cases hsocket : ∃ place identity, h.files.inspect a.path = .ok (place, .socket identity)
  · obtain ⟨place, identity, hfound⟩ := hsocket
    obtain ⟨hends, hnode, -⟩ := Files.endsAt_of_inspect hfound nofun
    have halive : .socket identity ∈ h.listening := by
      by_contra hdead
      exact hno place hends (.inr ⟨identity, hnode, hdead⟩)
    rw [perform_clearStale_of_endsAt hlength hends hnode, if_pos halive]
    exact ⟨_, rfl⟩
  · obtain ⟨r, hclear⟩ := perform_clearStale_of_no_socket
      fun place identity hfound => hsocket ⟨place, identity, hfound⟩
    obtain ⟨e, hmake⟩ := makeSocket_error fun place hends hnone => hno place hends (.inl hnone)
    rw [hclear]
    cases r with
    | error e => exact ⟨_, rfl⟩
    | ok _ => exact ⟨.bind a.text e.message, by simp only [hmake]⟩

/-- **The host without the socket that lies at a path**, if there is one. -/
def withoutSocketAt (h : Host) (path : String) : Host :=
  match h.files.inspect path with
  | .ok (place, .socket _) => h.withFiles (·.remove place)
  | _ => h

/-- **A path that is too long is not bound**, and a socket that lies there is gone. -/
theorem perform_listenEmbedded_of_long (hlength : maxPath < a.path.utf8ByteSize) :
    ∃ e, h.perform (listenEmbedded a) = (.error e, h.withoutSocketAt a.path) := by
  have hpath : a.path ≠ "" := fun hempty => by simp [hempty] at hlength
  have hopen : h.openSocket a.path = .error .pathTooLong := if_pos hlength
  obtain ⟨r, hclear⟩ : ∃ r, h.perform (clearStale a.path) = (r, h.withoutSocketAt a.path) := by
    show ∃ r, clearStale a.path h = (r, h.withoutSocketAt a.path)
    rw [clearStale, withoutSocketAt]
    cases hfound : h.files.inspect a.path with
    | error e => cases e <;> exact ⟨_, rfl⟩
    | ok found =>
      obtain ⟨place, _ | _ | _ | _⟩ := found
      all_goals simp only [hopen]
      all_goals exact ⟨_, rfl⟩
  rw [perform_listenEmbedded hpath, hclear]
  cases r with
  | error e => exact ⟨_, rfl⟩
  | ok _ =>
    have hmake : (h.withoutSocketAt a.path).makeSocket a.path = .error .pathTooLong :=
      if_pos hlength
    exact ⟨.bind a.text HostError.pathTooLong.message, by simp only [hmake]⟩

/-- **Binding spares what is alive on every path that a socket can have.** Such a path is bound
exactly if it ends where nothing is but possibly a socket on which nobody listens; then the
new socket lies at the path and nothing else has changed, and otherwise nothing has changed
at all. A longer path is never bound, and the socket that lies there is removed whoever
listens on it, and nothing else. -/
theorem listenEmbedded_spares (h : Host) (a : Address) :
    (a.path.utf8ByteSize ≤ maxPath →
      (∃ place l h', h.files.EndsAt a.path place
        ∧ h.perform (listenEmbedded a) = (.ok l, h') ∧ HasBound h h' a l place)
      ∨ ((∀ place, h.files.EndsAt a.path place → ¬ h.IsFree place)
        ∧ ∃ e, h.perform (listenEmbedded a) = (.error e, h)))
    ∧ (maxPath < a.path.utf8ByteSize →
      ∃ e, h.perform (listenEmbedded a) = (.error e, h.withoutSocketAt a.path)) := by
  refine ⟨fun hlength => ?_, perform_listenEmbedded_of_long⟩
  by_cases hplace : ∃ place, h.files.EndsAt a.path place ∧ h.IsFree place
  · obtain ⟨place, hends, hfree⟩ := hplace
    obtain ⟨l, h', hbind, hbound⟩ := perform_listenEmbedded_of_isFree hlength hends hfree
    exact .inl ⟨place, l, h', hends, hbind, hbound⟩
  · have hno : ∀ place, h.files.EndsAt a.path place → ¬ h.IsFree place := fun place hends hfree =>
      hplace ⟨place, hends, hfree⟩
    exact .inr ⟨hno, perform_listenEmbedded_of_not_isFree hlength hno⟩

/-- A dead socket at a short path is taken for what it is: the path is bound. -/
theorem listenEmbedded_spares_dead_socket :
    ∃ l h', Host.perform { files := ⟨[(["s"], .socket 0)]⟩, nextIdentity := 1 }
        (listenEmbedded ⟨"unix", "", 0, "/s"⟩) = (.ok l, h')
      ∧ l.endpoint = .socket 1 ∧ h'.openSocket "/s" = .ok (.socket 1) := by
  obtain ⟨place, l, h', -, hbind, hbound⟩ | ⟨hno, -⟩ := (listenEmbedded_spares
    { files := ⟨[(["s"], .socket 0)]⟩, nextIdentity := 1 } ⟨"unix", "", 0, "/s"⟩).1 (by decide)
  · exact ⟨l, h', hbind, by rw [hbound.listening_eq], hbound.openSocket_eq⟩
  · have hends : Files.EndsAt ⟨[(["s"], .socket 0)]⟩ "/s" ["s"] :=
      ⟨by decide +kernel, by decide +kernel⟩
    exact absurd (.inr ⟨0, rfl, List.not_mem_nil⟩) (hno ["s"] hends)

/-- A name that a socket can be given, but under which it cannot be connected to. -/
def longName : String := String.ofList (List.replicate 120 'n')

/-- The host of a server that has bound `/s`. -/
def bound : Host :=
  { files := ⟨[(["s"], .socket 0)]⟩, nextIdentity := 1, listening := [.socket 0] }

/-- **A living server loses its socket.** It has bound `/s`, its socket is given a long name,
and another server that is started at the long name fails and leaves nothing there. -/
theorem living_socket_removed :
    ({} : Host).perform (listenEmbedded ⟨"unix", "", 0, "/s"⟩)
        = (.ok ⟨⟨"unix", "", 0, "/s"⟩, .socket 0, some ⟨"/s", 0⟩⟩, bound)
      ∧ bound.files.rename? "/s" ("/" ++ longName) = some ⟨[([longName], .socket 0)]⟩
      ∧ Host.perform { bound with files := ⟨[([longName], .socket 0)]⟩ }
          (listenEmbedded ⟨"unix", "", 0, "/" ++ longName⟩)
        = (.error (.bind ("unix:///" ++ longName) "path must be shorter than SUN_LEN"),
          { bound with files := ⟨[]⟩ }) := by
  refine ⟨?_, ?_, ?_⟩
  all_goals decide +kernel

end

end Switchboard.Host
