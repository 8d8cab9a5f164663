import Switchboard.Proofs.Server.Sockets

/-!
# Servers that come and go on a host

A `Site` is a host with the servers that have been started on it. Servers are
started at any URLs, often at the same one, and shut down, possibly more than
once, while others rename and remove files and make new ones.

Nobody makes a file with the identity of a socket whose server runs
(`Site.Allows`). Under this assumption a running server listens on the socket
whose identity it remembers, and no two running servers remember the same
(`Site.IsSound`, `Site.isSound_run`).
-/

namespace Switchboard

/-! ## Servers on a host -/

/-- **A host and the servers that have been started on it**, in the order of their starts. -/
structure Site where
  host : Host := {}
  servers : List Server := []

namespace Site

/-- What happens on a host with servers. -/
inductive Event where
  | start (url : String)
  | shutdown (number : Nat)
  /-- Others rename files, remove them and make new ones. -/
  | meddle (files : Files) (nextIdentity : Nat)

/-- The site after something has happened. A start that fails may have changed the host. -/
def step (s : Site) : Event → Site
  | .start url =>
    match s.host.perform (Server.start url) with
    | (.ok server, h) => ⟨h, s.servers ++ [server]⟩
    | (.error _, h) => ⟨h, s.servers⟩
  | .shutdown number =>
    match s.servers[number]? with
    | some server =>
      let (stopped, h) := server.shutdown s.host
      ⟨h, s.servers.set number stopped⟩
    | none => s
  | .meddle files nextIdentity => ⟨{ s.host with files, nextIdentity }, s.servers⟩

/-- The site after some events. -/
def run (s : Site) (events : List Event) : Site := events.foldl step s

/-- **No file gets the identity of a socket whose server runs**: not the next socket, and none
that others make. -/
def Allows (s : Site) : Event → Prop
  | .start _ => ¬ s.host.Uses s.host.nextIdentity
  | .shutdown _ => True
  | .meddle files _ => ∀ identity, files.Holds identity →
      s.host.files.Holds identity ∨ .socket identity ∉ s.host.listening

/-- Every one of some events is allowed when it happens. -/
def AllowsAll (s : Site) : List Event → Prop
  | [] => True
  | event :: events => s.Allows event ∧ (s.step event).AllowsAll events

variable {s : Site}

theorem run_append (s : Site) (first second : List Event) :
    s.run (first ++ second) = (s.run first).run second := List.foldl_append

theorem allowsAll_append {first second : List Event} :
    s.AllowsAll (first ++ second) ↔ s.AllowsAll first ∧ (s.run first).AllowsAll second := by
  induction first generalizing s with
  | nil => simp [AllowsAll, run]
  | cons event first ih =>
    rw [List.cons_append, AllowsAll, AllowsAll, ih, and_assoc]
    rfl

/-! ## What a running server has -/

/-- **A server runs and remembers a socket**, as the one with a number. -/
structure Runs (s : Site) (number : Nat) (server : Server) (file : SocketFile) : Prop where
  getElem?_eq : s.servers[number]? = some server
  isRunning : server.isRunning = true
  socketFile_eq : server.listening.socketFile = some file

/-- **A server has the socket that it remembers**: it listens on it, and has made it at the path
of its location. -/
structure HasSocket (h : Host) (server : Server) (file : SocketFile) : Prop where
  endpoint_eq : server.listening.endpoint = .socket file.identity
  path_eq : file.path = server.location.path
  transport_eq : server.location.transport = .embedded
  length_le : file.path.utf8ByteSize ≤ Host.maxPath
  listens : .socket file.identity ∈ h.listening

/-- **The servers of a site are as they should be.** -/
structure IsSound (s : Site) : Prop where
  /-- A running server has the socket that it remembers. -/
  hasSocket : ∀ {number : Nat} {server : Server} {file : SocketFile},
    s.Runs number server file → HasSocket s.host server file
  /-- A running server remembers the socket on which it listens. -/
  remembers : ∀ {number identity : Nat} {server : Server}, s.servers[number]? = some server →
    server.isRunning = true → server.listening.endpoint = .socket identity →
    ∃ file, server.listening.socketFile = some file
  /-- No two running servers remember the same socket. -/
  distinct : ∀ {m n : Nat} {first second : Server} {file file' : SocketFile}, m ≠ n →
    s.Runs m first file → s.Runs n second file' → file.identity ≠ file'.identity

theorem isSound_init (h : Host) : IsSound ⟨h, []⟩ where
  hasSocket hruns := absurd hruns.getElem?_eq (by simp)
  remembers hserver := absurd hserver (by simp)
  distinct _ hruns := absurd hruns.getElem?_eq (by simp)

theorem Runs.of_servers {s' : Site} {n : Nat} {server : Server} {file : SocketFile}
    (hsame : s'.servers = s.servers) (hruns : s'.Runs n server file) : s.Runs n server file :=
  { hruns with getElem?_eq := hsame ▸ hruns.getElem?_eq }

theorem HasSocket.of_mem {h h' : Host} {server : Server} {file : SocketFile}
    (hs : HasSocket h server file) (hlistens : .socket file.identity ∈ h'.listening) :
    HasSocket h' server file :=
  { hs with listens := hlistens }

/-- **Servers stay as they should be** while everybody who listens goes on. -/
theorem IsSound.of_listening {s' : Site} (hs : s.IsSound) (hsame : s'.servers = s.servers)
    (hkept : ∀ e ∈ s.host.listening, e ∈ s'.host.listening) : s'.IsSound where
  hasSocket hruns :=
    (hs.hasSocket (hruns.of_servers hsame)).of_mem
      (hkept _ (hs.hasSocket (hruns.of_servers hsame)).listens)
  remembers hserver := hs.remembers (hsame ▸ hserver)
  distinct hne hm hn := hs.distinct hne (hm.of_servers hsame) (hn.of_servers hsame)

/-! ## Starts -/

theorem step_start (s : Site) (url : String) :
    s.step (.start url) = match s.host.perform (Host.listen url) with
      | (.ok l, h) => ⟨h, s.servers ++ [{ listening := l }]⟩
      | (.error _, h) => ⟨h, s.servers⟩ := by
  rw [step, Server.start, Host.perform_bind]
  rcases s.host.perform (Host.listen url) with ⟨_ | l, h⟩ <;> rfl

/-- The last server of some, or one of those before. -/
theorem getElem?_concat_cases {α : Type} {xs : List α} {x y : α} {n : Nat}
    (h : (xs ++ [x])[n]? = some y) : xs[n]? = some y ∨ n = xs.length ∧ y = x := by
  rw [List.getElem?_append] at h
  split_ifs at h with hn
  · exact .inl h
  · have hzero : n - xs.length = 0 := by
      by_contra hne
      rw [List.getElem?_eq_none (by rw [List.length_singleton]; omega)] at h
      cases h
    rw [hzero, List.getElem?_cons_zero, Option.some.injEq] at h
    exact .inr ⟨by omega, h.symm⟩

theorem Runs.of_concat {h h' : Host} {servers : List Server} {new server : Server} {n : Nat}
    {file : SocketFile} (hruns : Runs ⟨h', servers ++ [new]⟩ n server file) :
    Runs ⟨h, servers⟩ n server file
      ∨ n = servers.length ∧ server = new ∧ new.listening.socketFile = some file := by
  obtain hold | ⟨hn, rfl⟩ := getElem?_concat_cases hruns.getElem?_eq
  · exact .inl ⟨hold, hruns.isRunning, hruns.socketFile_eq⟩
  · exact .inr ⟨hn, rfl, hruns.socketFile_eq⟩

/-- Who runs after a start has run before, or has just been started. -/
theorem Runs.of_start {url : String} {n : Nat} {server : Server} {file : SocketFile}
    (hruns : (s.step (.start url)).Runs n server file) :
    s.Runs n server file ∨ n = s.servers.length ∧ ∃ l h',
      s.host.perform (Host.listen url) = (.ok l, h') ∧ server = { listening := l }
        ∧ l.socketFile = some file := by
  rw [step_start] at hruns
  rcases hperform : s.host.perform (Host.listen url) with ⟨_ | l, h'⟩
  · rw [hperform] at hruns
    exact .inl (hruns.of_servers (by rfl))
  · rw [hperform] at hruns
    exact (hruns.of_concat (h := s.host)).imp_right fun ⟨hn, hserver, hfile⟩ =>
      ⟨hn, l, h', rfl, hserver, hfile⟩

/-- A server that has been started has its socket, and its identity was in no use before. -/
theorem hasSocket_of_listens {h h' : Host} {url : String} {l : Listening} {file : SocketFile}
    (hl : Host.Listens h url (.ok l, h')) (hfile : l.socketFile = some file) :
    HasSocket h' { listening := l } file ∧ file.identity = h.nextIdentity := by
  cases hl with
  | socket hurl htransport hlength hends hbound =>
    obtain rfl := hbound.listening_eq
    obtain rfl := Option.some.inj hfile
    refine ⟨⟨rfl, rfl, htransport, hlength, ?_⟩, rfl⟩
    rw [hbound.listens]
    exact List.mem_cons_self ..
  | port _ hnone =>
    rw [hnone] at hfile
    cases hfile

theorem isSound_start (hs : s.IsSound) {url : String} (hallowed : s.Allows (.start url)) :
    (s.step (.start url)).IsSound := by
  have hl := Host.listens_listen s.host url
  rw [step_start]
  generalize s.host.perform (Host.listen url) = r at hl
  obtain ⟨e | l, h'⟩ := r
  · exact hs.of_listening rfl fun _ => hl.mem_listening
  · -- the identity of the new socket is not that of one with a running server
    have hnew : ∀ {n server file file'}, s.Runs n server file → l.socketFile = some file' →
        file.identity ≠ file'.identity := by
      intro n server file file' hruns hfile hsame
      refine hallowed (.inr ?_)
      rw [← (hasSocket_of_listens hl hfile).2, ← hsame]
      exact (hs.hasSocket hruns).listens
    refine ⟨?_, ?_, ?_⟩
    · intro n server file hruns
      obtain hold | ⟨-, rfl, hfile⟩ := hruns.of_concat (h := s.host)
      · exact (hs.hasSocket hold).of_mem (hl.mem_listening (hs.hasSocket hold).listens)
      · exact (hasSocket_of_listens hl hfile).1
    · intro n identity server hserver hrunning hendpoint
      obtain hold | ⟨-, rfl⟩ := getElem?_concat_cases hserver
      · exact hs.remembers hold hrunning hendpoint
      · cases hl with
        | socket _ _ _ _ hbound => exact ⟨_, by rw [hbound.listening_eq]⟩
        | port hport =>
          have hsocket : l.endpoint = .socket identity := hendpoint
          rw [hport] at hsocket
          cases hsocket
    · intro m n first second file file' hne hm hn
      -- two servers from before, or one of them and the new one
      obtain hm | ⟨rfl, -, hfile⟩ := hm.of_concat (h := s.host)
      · obtain hn | ⟨-, -, hfile'⟩ := hn.of_concat (h := s.host)
        · exact hs.distinct hne hm hn
        · exact hnew hm hfile'
      · obtain hn | ⟨rfl, -, -⟩ := hn.of_concat (h := s.host)
        · exact (hnew hn hfile).symm
        · exact absurd rfl hne

/-! ## Shutdowns -/

theorem isRunning_shutdown (server : Server) (h : Host) :
    (server.shutdown h).1.isRunning = false := by
  unfold Server.shutdown
  split_ifs with hrunning
  · rfl
  · simpa using hrunning

theorem step_shutdown {n : Nat} {server : Server} (hserver : s.servers[n]? = some server) :
    s.step (.shutdown n)
      = ⟨if server.isRunning then s.host.release server.listening else s.host,
          s.servers.set n (server.shutdown s.host).1⟩ := by
  simp only [step, hserver, Server.shutdown]
  split_ifs <;> rfl

/-- There is nothing to shut down under a number that has not been given. -/
theorem step_shutdown_of_none {n : Nat} (hnone : s.servers[n]? = none) :
    s.step (.shutdown n) = s := by
  simp only [step, hnone]

/-- **After a shutdown the others run**, and they ran before. -/
theorem Runs.of_set {h h' : Host} {servers : List Server} {stopped server : Server} {m n : Nat}
    {file : SocketFile} (hstopped : stopped.isRunning = false)
    (hruns : Runs ⟨h', servers.set n stopped⟩ m server file) :
    m ≠ n ∧ Runs ⟨h, servers⟩ m server file := by
  have hget : (servers.set n stopped)[m]? = some server := hruns.getElem?_eq
  by_cases hmn : n = m
  · subst hmn
    rw [List.getElem?_set_self'] at hget
    obtain ⟨_, -, rfl⟩ := Option.map_eq_some_iff.mp hget
    exact absurd hruns.isRunning (by simp [hstopped])
  · rw [List.getElem?_set_ne hmn] at hget
    exact ⟨Ne.symm hmn, hget, hruns.isRunning, hruns.socketFile_eq⟩

/-- **A running server does not listen on the socket of another.** -/
theorem IsSound.endpoint_ne (hs : s.IsSound) {m n : Nat} {server other : Server}
    {file : SocketFile} (hserver : s.servers[n]? = some server) (hrunning : server.isRunning = true)
    (hmn : m ≠ n) (hother : s.Runs m other file) :
    server.listening.endpoint ≠ .socket file.identity := by
  intro hendpoint
  obtain ⟨own, hown⟩ := hs.remembers hserver hrunning hendpoint
  have hruns : s.Runs n server own := ⟨hserver, hrunning, hown⟩
  have hsame := (hs.hasSocket hruns).endpoint_eq.symm.trans hendpoint
  exact hs.distinct hmn hother hruns (Endpoint.socket.inj hsame).symm

theorem isSound_shutdown (hs : s.IsSound) (n : Nat) : (s.step (.shutdown n)).IsSound := by
  cases hserver : s.servers[n]? with
  | none => rwa [step_shutdown_of_none hserver]
  | some server =>
    rw [step_shutdown hserver]
    have hstopped := isRunning_shutdown server s.host
    refine ⟨?_, ?_, ?_⟩
    · intro m other file hruns
      obtain ⟨hmn, hold⟩ := hruns.of_set (h := s.host) hstopped
      refine (hs.hasSocket hold).of_mem ?_
      show _ ∈ (if server.isRunning then s.host.release server.listening else s.host).listening
      split_ifs with hrunning
      · rw [Host.listening_release]
        exact List.mem_filter.mpr ⟨(hs.hasSocket hold).listens,
          by simpa using (hs.endpoint_ne hserver hrunning hmn hold).symm⟩
      · exact (hs.hasSocket hold).listens
    · intro m identity other hother hrunning hendpoint
      have hget : (s.servers.set n (server.shutdown s.host).1)[m]? = some other := hother
      by_cases hmn : n = m
      · subst hmn
        rw [List.getElem?_set_self'] at hget
        obtain ⟨_, -, rfl⟩ := Option.map_eq_some_iff.mp hget
        exact absurd hrunning (by simp [hstopped])
      · rw [List.getElem?_set_ne hmn] at hget
        exact hs.remembers hget hrunning hendpoint
    · intro m m' first second file file' hne hm hm'
      exact hs.distinct hne (hm.of_set hstopped).2 (hm'.of_set hstopped).2

theorem isSound_step (hs : s.IsSound) {event : Event} (hallowed : s.Allows event) :
    (s.step event).IsSound := by
  cases event with
  | start url => exact isSound_start hs hallowed
  | shutdown n => exact isSound_shutdown hs n
  | meddle files nextIdentity => exact hs.of_listening rfl fun _ => id

/-- **Every site that is reached is sound.** -/
theorem isSound_run (hs : s.IsSound) {events : List Event} (hallowed : s.AllowsAll events) :
    (s.run events).IsSound := by
  induction events generalizing s with
  | nil => exact hs
  | cons event events ih => exact ih (isSound_step hs hallowed.1) hallowed.2

end Site

end Switchboard
