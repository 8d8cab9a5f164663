import Switchboard.Proofs.Host.Binding
import Switchboard.Proofs.Server.Location

/-!
# The sockets of servers

What a server does with sockets when it begins to listen and when it stops. A
start that fails takes away a socket at most, one that succeeds makes a socket or
opens a port (`Host.Listens`), and a release takes away the socket of its own
server at most (`Host.files_release_cases`). All of it is told by identities: a
socket comes to be only with the next identity (`Host.Listens.holds`), and the
other sockets stay where they are and can be connected to as before
(`Host.node?_release`, `Host.openSocket_release`).
-/

namespace Switchboard

/-! ## Identities -/

/-- A socket with an identity lies somewhere. -/
def Files.Holds (f : Files) (identity : Nat) : Prop :=
  ∃ place, f.node? place = some (.socket identity)

/-- **An identity is in use**: a socket has it, or somebody listens on one that has it. -/
def Host.Uses (h : Host) (identity : Nat) : Prop :=
  h.files.Holds identity ∨ .socket identity ∈ h.listening

/-- What lies somewhere is among the nodes. -/
theorem Files.Holds.exists_mem {f : Files} {identity : Nat} (hholds : f.Holds identity) :
    ∃ e ∈ f.nodes, e.2 = .socket identity := by
  obtain ⟨place, hplace⟩ := hholds
  rw [node?] at hplace
  split_ifs at hplace
  · simp at hplace
  · obtain ⟨first, second, hsplit, -⟩ := List.lookup_eq_some_iff.mp hplace
    exact ⟨(place, .socket identity), by simp [hsplit], rfl⟩

theorem Files.Holds.of_remove {f : Files} {place : Place} {identity : Nat} (hplace : place ≠ [])
    (hholds : (f.remove place).Holds identity) : f.Holds identity := by
  obtain ⟨q, hq⟩ := hholds
  rw [Files.node?_remove f hplace] at hq
  split_ifs at hq
  exact ⟨q, hq⟩

namespace Host

variable {h h' : Host} {l : Listening}

/-! ## Releasing a socket -/

/-- Whoever listens elsewhere goes on. -/
theorem listening_release (h : Host) (l : Listening) :
    (h.release l).listening = h.listening.filter (· ≠ l.endpoint) := by
  unfold release
  cases hfile : l.socketFile with
  | none => rfl
  | some file =>
    have hkept : (h.perform (removeOwned file)).2.listening = h.listening := by
      show (removeOwned file h).2.listening = h.listening
      rw [removeOwned]
      split
      · rfl
      · rfl
      · split_ifs <;> rfl
    show (h.perform (removeOwned file)).2.listening.filter (· ≠ l.endpoint) = _
    rw [hkept]

/-- **A socket that lies at the path of its server is removed**, and only that. -/
theorem files_release_of_found {file : SocketFile} {place : Place}
    (hfile : l.socketFile = some file)
    (hfound : h.files.inspect file.path = .ok (place, .socket file.identity)) :
    (h.release l).files = h.files.remove place := by
  unfold release
  rw [hfile]
  show (removeOwned file h).2.files = _
  simp only [removeOwned, hfound, if_pos]
  rfl

/-- **Otherwise nothing is removed.** -/
theorem files_release_of_not_found (hno : ∀ file place, l.socketFile = some file →
      h.files.inspect file.path ≠ .ok (place, .socket file.identity)) :
    (h.release l).files = h.files := by
  unfold release
  cases hfile : l.socketFile with
  | none => rfl
  | some file =>
    show (removeOwned file h).2.files = _
    rw [removeOwned]
    split
    · rfl
    · rfl
    · next place node hfound =>
      split_ifs with hnode
      · exact absurd (hnode ▸ hfound) (hno file place hfile)
      · rfl

/-- What a release does to the files. -/
theorem files_release_cases (h : Host) (l : Listening) :
    (h.release l).files = h.files
    ∨ ∃ file place, l.socketFile = some file
      ∧ h.files.inspect file.path = .ok (place, .socket file.identity)
      ∧ (h.release l).files = h.files.remove place := by
  by_cases hfound : ∃ file place, l.socketFile = some file
      ∧ h.files.inspect file.path = .ok (place, .socket file.identity)
  · obtain ⟨file, place, hfile, hfound⟩ := hfound
    exact .inr ⟨file, place, hfile, hfound, files_release_of_found hfile hfound⟩
  · exact .inl (files_release_of_not_found fun file place hfile hat =>
      hfound ⟨file, place, hfile, hat⟩)

/-- No socket comes to be by a release. -/
theorem holds_of_release {identity : Nat} (hholds : (h.release l).files.Holds identity) :
    h.files.Holds identity := by
  obtain hsame | ⟨file, place, -, hfound, hremoved⟩ := files_release_cases h l
  · rwa [hsame] at hholds
  · rw [hremoved] at hholds
    exact hholds.of_remove (Files.endsAt_of_inspect hfound nofun).1.ne_nil

/-- **Other sockets stay where they are** when one is released. -/
theorem node?_release {place : Place} {identity : Nat}
    (hother : ∀ file, l.socketFile = some file → file.identity ≠ identity)
    (hnode : h.files.node? place = some (.socket identity)) :
    (h.release l).files.node? place = some (.socket identity) := by
  obtain hsame | ⟨file, q, hfile, hfound, hremoved⟩ := files_release_cases h l
  · rwa [hsame]
  · obtain ⟨hends, hq, -⟩ := Files.endsAt_of_inspect hfound nofun
    rw [hremoved, Files.node?_remove _ hends.ne_nil, if_neg, hnode]
    rintro rfl
    rw [hnode, Option.some.injEq, Node.socket.injEq] at hq
    exact hother file hfile hq.symm

/-- **Other sockets can be connected to as before**, at every path. -/
theorem openSocket_release {path : String} {identity : Nat}
    (hother : ∀ file, l.socketFile = some file → file.identity ≠ identity)
    (hendpoint : l.endpoint ≠ .socket identity)
    (hopen : h.openSocket path = .ok (.socket identity)) :
    (h.release l).openSocket path = .ok (.socket identity) := by
  obtain ⟨hlength, place, identity', hwalk, hnode, hidentity, hlistens⟩ := openSocket_eq_ok.mp hopen
  obtain rfl := Endpoint.socket.inj hidentity
  refine openSocket_eq_ok.mpr ⟨hlength, place, identity, ?_, node?_release hother hnode, rfl, ?_⟩
  · obtain hsame | ⟨file, q, hfile, hfound, hremoved⟩ := files_release_cases h l
    · rwa [hsame]
    · obtain ⟨-, hq, -⟩ := Files.endsAt_of_inspect hfound nofun
      rw [hremoved]
      refine (Files.differAt_remove (hq ▸ Files.isEnd_socket _)).walk_eq_ok ?_ hwalk
      rintro rfl
      rw [hnode, Option.some.injEq, Node.socket.injEq] at hq
      exact hother file hfile hq.symm
  · rw [listening_release]
    exact List.mem_filter.mpr ⟨hlistens, by simpa using hendpoint.symm⟩

/-! ## Starting to listen -/

/-- Listening at a URL is listening at its address. -/
theorem perform_listen {url : String} {a : Address} (hurl : Address.resolve url = .ok a) :
    h.perform (listen url) = h.perform (listenAt a) := by
  rw [listen, hurl]

/-- **How an attempt to listen can end.** -/
inductive Listens (h : Host) (url : String) : Except SetupError Listening × Host → Prop
  /-- It fails, and at most a socket is gone. -/
  | refused (e : SetupError) {h' : Host} (hless : h' = h ∨ ∃ path, h' = h.withoutSocketAt path) :
      Listens h url (.error e, h')
  /-- A path is bound. -/
  | socket {a : Address} {l : Listening} {h' : Host} {place : Place}
      (hurl : Address.resolve url = .ok a) (htransport : a.transport = .embedded)
      (hlength : a.path.utf8ByteSize ≤ maxPath) (hends : h.files.EndsAt a.path place)
      (hbound : HasBound h h' a l place) : Listens h url (.ok l, h')
  /-- A port is opened. -/
  | port {address : String} {port : UInt16} {l : Listening} {h' : Host}
      (hendpoint : l.endpoint = .port address port) (hfile : l.socketFile = none)
      (hfiles : h'.files = h.files) (hlistens : h'.listening = l.endpoint :: h.listening) :
      Listens h url (.ok l, h')

/-- Opening a port does nothing else. -/
theorem openPort_cases {name : String} {port : UInt16} {e : Endpoint}
    (ho : h.openPort name port = .ok (e, h')) :
    (∃ address given, e = .port address given) ∧ h'.files = h.files
      ∧ h'.listening = e :: h.listening := by
  rw [openPort] at ho
  split at ho
  · cases ho
  · dsimp only at ho
    split_ifs at ho
    all_goals
      obtain ⟨rfl, rfl⟩ := Prod.mk.inj (Except.ok.inj ho)
      exact ⟨⟨_, _, rfl⟩, rfl, rfl⟩

theorem listens_listenRaw {url : String} (a : Address) :
    Listens h url (h.perform (listenRaw a)) := by
  rw [listenRaw, perform_bind, perform_bindError, perform_attempt]
  cases hopen : h.openPort a.host a.port with
  | error e => exact .refused _ (.inl rfl)
  | ok r =>
    obtain ⟨e, h'⟩ := r
    obtain ⟨⟨address, given, rfl⟩, hfiles, hlistens⟩ := openPort_cases hopen
    exact @Listens.port h url address given _ h' rfl rfl hfiles hlistens

theorem listens_listenEmbedded {url : String} {a : Address} (hurl : Address.resolve url = .ok a)
    (htransport : a.transport = .embedded) : Listens h url (h.perform (listenEmbedded a)) := by
  by_cases hlength : a.path.utf8ByteSize ≤ maxPath
  · by_cases hplace : ∃ place, h.files.EndsAt a.path place ∧ h.IsFree place
    · obtain ⟨place, hends, hfree⟩ := hplace
      obtain ⟨l, h', hperform, hbound⟩ := perform_listenEmbedded_of_isFree hlength hends hfree
      rw [hperform]
      exact .socket hurl htransport hlength hends hbound
    · obtain ⟨e, hperform⟩ := perform_listenEmbedded_of_not_isFree hlength
        fun place hends hfree => hplace ⟨place, hends, hfree⟩
      rw [hperform]
      exact .refused e (.inl rfl)
  · obtain ⟨e, hperform⟩ := perform_listenEmbedded_of_long (h := h) (Nat.not_le.mp hlength)
    rw [hperform]
    exact .refused e (.inr ⟨_, rfl⟩)

theorem listens_listen (h : Host) (url : String) : Listens h url (h.perform (listen url)) := by
  cases hurl : Address.resolve url with
  | error e =>
    rw [listen, hurl, perform_throw]
    exact .refused e (.inl rfl)
  | ok a =>
    rw [perform_listen hurl, listenAt]
    cases htransport : a.transport with
    | embedded => exact listens_listenEmbedded hurl htransport
    | rawSocket => exact listens_listenRaw a
    | unknown => exact absurd htransport (Address.resolve_eq_ok.mp hurl).2

/-- Clearing a path changes nothing but the files. -/
theorem listening_withoutSocketAt (h : Host) (path : String) :
    (h.withoutSocketAt path).listening = h.listening := by
  rw [withoutSocketAt]
  split <;> rfl

theorem holds_of_withoutSocketAt {path : String} {identity : Nat}
    (hholds : (h.withoutSocketAt path).files.Holds identity) : h.files.Holds identity := by
  rw [withoutSocketAt] at hholds
  cases hfound : h.files.inspect path with
  | error => rwa [hfound] at hholds
  | ok found =>
    obtain ⟨place, node⟩ := found
    rw [hfound] at hholds
    cases node with
    | socket => exact hholds.of_remove (Files.endsAt_of_inspect hfound (by simp)).1.ne_nil
    | _ => exact hholds

/-- No socket comes to be with an identity that is in use. -/
theorem Listens.holds {url : String} {r : Except SetupError Listening × Host} {identity : Nat}
    (hl : Listens h url r) (hnew : h.nextIdentity ≠ identity) (hholds : r.2.files.Holds identity) :
    h.files.Holds identity := by
  cases hl with
  | refused e hless =>
    obtain rfl | ⟨path, rfl⟩ := hless
    · exact hholds
    · exact holds_of_withoutSocketAt hholds
  | @socket a l h' place _ _ _ _ hbound =>
    obtain ⟨q, hq⟩ := hholds
    by_cases hplace : q = place
    · subst hplace
      rw [(Files.endsAt_of_inspect hbound.inspect_eq nofun).2.1, Option.some.injEq,
        Node.socket.injEq] at hq
      exact absurd hq hnew
    · rw [hbound.node?_eq q hplace] at hq
      exact ⟨q, hq⟩
  | port _ _ hfiles _ => rwa [hfiles] at hholds

/-- Whoever listens goes on when somebody else begins. -/
theorem Listens.mem_listening {url : String} {r : Except SetupError Listening × Host}
    {e : Endpoint} (hl : Listens h url r) (he : e ∈ h.listening) : e ∈ r.2.listening := by
  cases hl with
  | refused _ hless =>
    obtain rfl | ⟨path, rfl⟩ := hless
    · exact he
    · rwa [listening_withoutSocketAt]
  | socket _ _ _ _ hbound =>
    rw [hbound.listens]
    exact List.mem_cons_of_mem _ he
  | port _ _ _ hlistens =>
    rw [hlistens]
    exact List.mem_cons_of_mem _ he

end Host

end Switchboard
