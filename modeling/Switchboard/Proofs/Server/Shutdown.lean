import Switchboard.Proofs.Server.Site

/-!
# A shutdown takes away the server's own socket

A server that stops removes the socket it has made, if it is still the one at
its path. Several servers can have made sockets at one path, one after the
other, while others rename and remove them, so what lies at the path is not
enough to go by. It is the identity that decides, and it is that of no other
running server's socket.

Whether a socket at a path is the very one that a server has made cannot be seen
from its identity at one moment. It is the same one because it has been
somewhere all the time since it was made (`Site.MadeBy`): moved about perhaps,
but never removed and made anew.
-/

namespace Switchboard.Site

variable {s : Site}

/-! ## The socket that a server has made -/

/-- **No socket comes to be with the identity of one that is listened on.** -/
theorem holds_of_step {event : Event} (hallowed : s.Allows event) {identity : Nat}
    (hlistens : .socket identity ∈ s.host.listening)
    (hholds : (s.step event).host.files.Holds identity) : s.host.files.Holds identity := by
  cases event with
  | start url =>
    have hl := Host.listens_listen s.host url
    rw [step_start] at hholds
    have hnew : s.host.nextIdentity ≠ identity := by
      rintro rfl
      exact hallowed (.inr hlistens)
    generalize s.host.perform (Host.listen url) = r at hl hholds
    obtain ⟨_ | _, h'⟩ := r
    · exact hl.holds hnew hholds
    · exact hl.holds hnew hholds
  | shutdown n =>
    cases hserver : s.servers[n]? with
    | none => rwa [step_shutdown_of_none hserver] at hholds
    | some server =>
      rw [step_shutdown hserver] at hholds
      dsimp only at hholds
      split_ifs at hholds
      · exact Host.holds_of_release hholds
      · exact hholds
  | meddle files nextIdentity =>
    exact (hallowed identity hholds).resolve_right (not_not_intro hlistens)

/-- **Whose socket it is.** The server has made it with one of the starts, at its path and
nowhere else, and as long as the server has run it has lain somewhere. -/
structure MadeBy (s₀ : Site) (before : List Event) (url : String) (after : List Event)
    (number : Nat) (server : Server) (file : SocketFile) : Prop where
  /-- The server got its number then. -/
  number_eq : (s₀.run before).servers.length = number
  /-- It was started at a URL of its location. -/
  location_eq : Address.resolve url = .ok server.location
  /-- Nothing had the identity of the socket before. -/
  isNew : ¬ (s₀.run before).host.Uses file.identity
  /-- Then the socket lay at the path. -/
  made : ∃ place,
    (s₀.run (before ++ [.start url])).host.files.inspect file.path
      = .ok (place, .socket file.identity)
    ∧ ∀ q, (s₀.run (before ++ [.start url])).host.files.node? q = some (.socket file.identity) →
      q = place
  /-- If it is somewhere now, then it has been somewhere ever since. -/
  lasting : (s₀.run (before ++ .start url :: after)).host.files.Holds file.identity →
    ∀ since later, after = since ++ later →
      (s₀.run (before ++ .start url :: since)).host.files.Holds file.identity

/-- A server has just made its socket. -/
theorem madeBy_start {s₀ : Site} {before : List Event} {url : String} {l : Listening} {h' : Host}
    {file : SocketFile} (hallowed : (s₀.run before).Allows (.start url))
    (hperform : (s₀.run before).host.perform (Host.listen url) = (.ok l, h'))
    (hfile : l.socketFile = some file) :
    MadeBy s₀ before url [] (s₀.run before).servers.length { listening := l } file := by
  have hl := Host.listens_listen (s₀.run before).host url
  have hhost : (s₀.run (before ++ [.start url])).host = h' := by
    rw [run_append]
    show ((s₀.run before).step (.start url)).host = h'
    rw [step_start, hperform]
  rw [hperform] at hl
  cases hl with
  | @socket a l h' place hurl htransport hlength hends hbound =>
    obtain rfl := hbound.listening_eq
    obtain rfl := Option.some.inj hfile
    refine ⟨rfl, hurl, hallowed, ⟨place, ?_, fun q hq => ?_⟩, fun hholds since later hafter => ?_⟩
    · rw [hhost]
      exact hbound.inspect_eq
    · rw [hhost] at hq
      by_contra hne
      rw [hbound.node?_eq q hne] at hq
      exact hallowed (.inl ⟨q, hq⟩)
    · obtain ⟨rfl, -⟩ := List.nil_eq_append_iff.mp hafter
      exact hholds
  | port _ hnone =>
    rw [hnone] at hfile
    cases hfile

/-- A server that has just been started is the one of its number. -/
theorem madeBy_of_started {s₀ : Site} {before : List Event} {url : String} {server : Server}
    {file : SocketFile} (hallowed : (s₀.run before).Allows (.start url))
    (hruns : (s₀.run (before ++ [.start url])).Runs (s₀.run before).servers.length server file) :
    MadeBy s₀ before url [] (s₀.run before).servers.length server file := by
  rw [run_append] at hruns
  obtain hold | ⟨-, l, h', hperform, rfl, hfile⟩ := Runs.of_start (s := s₀.run before) hruns
  · exact absurd (List.getElem?_eq_some_iff.mp hold.getElem?_eq).1 (Nat.lt_irrefl _)
  · exact madeBy_start hallowed hperform hfile

/-- What a server has made stays what it has made. -/
theorem MadeBy.step {s₀ : Site} {before after : List Event} {url : String} {n : Nat}
    {server : Server} {file : SocketFile} (hm : MadeBy s₀ before url after n server file)
    {event : Event} (hallowed : (s₀.run (before ++ .start url :: after)).Allows event)
    (hlistens : .socket file.identity ∈ (s₀.run (before ++ .start url :: after)).host.listening) :
    MadeBy s₀ before url (after ++ [event]) n server file where
  number_eq := hm.number_eq
  location_eq := hm.location_eq
  isNew := hm.isNew
  made := hm.made
  lasting := by
    intro hholds since later hsplit
    obtain rfl | ⟨later', rfl⟩ : later = [] ∨ ∃ later', later = later' ++ [event] := by
      obtain rfl | ⟨later', last, rfl⟩ := List.eq_nil_or_concat later
      · exact .inl rfl
      · refine .inr ⟨later', ?_⟩
        rw [List.concat_eq_append, ← List.append_assoc] at hsplit
        rw [List.concat_eq_append, ← (List.append_inj' hsplit rfl).2]
    · rw [List.append_nil] at hsplit
      rw [← hsplit]
      exact hholds
    · rw [← List.append_assoc] at hsplit
      refine hm.lasting ?_ since later' (List.append_inj' hsplit rfl).1
      rw [← List.cons_append, ← List.append_assoc, run_append] at hholds
      exact holds_of_step hallowed hlistens hholds

/-- **A running server has made the socket that it remembers.** -/
theorem madeBy_of_runs {h : Host} {events : List Event} (hallowed : AllowsAll ⟨h, []⟩ events)
    {n : Nat} {server : Server} {file : SocketFile}
    (hruns : (run ⟨h, []⟩ events).Runs n server file) :
    ∃ before url after, events = before ++ .start url :: after
      ∧ MadeBy ⟨h, []⟩ before url after n server file := by
  -- read from the end: the last event is the start, or the server ran before it
  induction events using List.reverseRecOn generalizing server file with
  | nil => exact absurd hruns.getElem?_eq (by simp [run])
  | append_singleton events event ih =>
    obtain ⟨hbefore, hevent, -⟩ := allowsAll_append.mp hallowed
    have hsound := isSound_run (isSound_init h) hbefore
    have hkept (hold : (run ⟨h, []⟩ events).Runs n server file) :
        ∃ before url after, events ++ [event] = before ++ .start url :: after
          ∧ MadeBy ⟨h, []⟩ before url after n server file := by
      obtain ⟨before, url, after, rfl, hmade⟩ := ih hbefore hold
      exact ⟨before, url, after ++ [event], by simp,
        hmade.step hevent (hsound.hasSocket hold).listens⟩
    rw [run_append] at hruns
    change ((run ⟨h, []⟩ events).step event).Runs n server file at hruns
    cases event with
    | start url =>
      obtain hold | ⟨rfl, l, h', hperform, rfl, hfile⟩ := hruns.of_start
      · exact hkept hold
      · exact ⟨events, url, [], rfl, madeBy_start hevent hperform hfile⟩
    | shutdown m =>
      cases hserver : (run ⟨h, []⟩ events).servers[m]? with
      | none => exact hkept (by rwa [step_shutdown_of_none hserver] at hruns)
      | some stopped =>
        rw [step_shutdown hserver] at hruns
        exact hkept (hruns.of_set (isRunning_shutdown _ _)).2
    | meddle files nextIdentity => exact hkept (hruns.of_servers (by rfl))

/-! ## What a shutdown does -/

/-- **A server that has been stopped stays so.** -/
theorem stopped_run {n : Nat} {server : Server} (hserver : s.servers[n]? = some server)
    (hstopped : server.isRunning = false) (events : List Event) :
    ∃ server, (s.run events).servers[n]? = some server ∧ server.isRunning = false := by
  induction events generalizing s server with
  | nil => exact ⟨server, hserver, hstopped⟩
  | cons event events ih =>
    suffices h : ∃ server, (s.step event).servers[n]? = some server ∧ server.isRunning = false by
      obtain ⟨server, hserver, hstopped⟩ := h
      exact ih hserver hstopped
    cases event with
    | start url =>
      rw [step_start]
      rcases s.host.perform (Host.listen url) with ⟨_ | l, h'⟩
      · exact ⟨server, hserver, hstopped⟩
      · refine ⟨server, ?_, hstopped⟩
        rw [List.getElem?_append_left (List.getElem?_eq_some_iff.mp hserver).1]
        exact hserver
    | shutdown m =>
      cases hother : s.servers[m]? with
      | none =>
        rw [step_shutdown_of_none hother]
        exact ⟨server, hserver, hstopped⟩
      | some other =>
        rw [step_shutdown hother]
        -- also the one that is stopped again stays stopped
        by_cases hmn : m = n
        · subst hmn
          exact ⟨_, by rw [List.getElem?_set_self', hother]; rfl, isRunning_shutdown other s.host⟩
        · exact ⟨server, by rwa [List.getElem?_set_ne hmn], hstopped⟩
    | meddle files nextIdentity => exact ⟨server, hserver, hstopped⟩

/-- There is nothing to shut down twice. -/
theorem step_shutdown_of_stopped {n : Nat} {server : Server} (hserver : s.servers[n]? = some server)
    (hstopped : server.isRunning = false) : s.step (.shutdown n) = s := by
  have hsame : server.shutdown s.host = (server, s.host) := by
    rw [Server.shutdown, if_neg (by simp [hstopped])]
  simp only [step, hserver, hsame]
  have hset : s.servers.set n server = s.servers := by
    obtain ⟨hn, rfl⟩ := List.getElem?_eq_some_iff.mp hserver
    exact List.set_getElem_self hn
  rw [hset]

/-- The host after a running server has been shut down. -/
theorem host_shutdown {n : Nat} {server : Server} {file : SocketFile}
    (hruns : s.Runs n server file) :
    (s.step (.shutdown n)).host = s.host.release server.listening := by
  rw [step_shutdown hruns.getElem?_eq]
  exact if_pos hruns.isRunning

/-- **A path from which a server has removed its socket can be bound again.** -/
theorem restart_of_found {n : Nat} {server : Server} {file : SocketFile} {place : Place}
    (hs : s.IsSound) (hruns : s.Runs n server file)
    (hfound : s.host.files.inspect file.path = .ok (place, .socket file.identity)) :
    (s.step (.shutdown n)).host.files.inspect file.path = .error .notFound
      ∧ ∀ url, Address.resolve url = .ok server.location →
        ∃ again h', (s.step (.shutdown n)).host.perform (Server.start url) = (.ok again, h')
          ∧ h'.openSocket file.path = .ok again.listening.endpoint := by
  have hhas := hs.hasSocket hruns
  obtain ⟨hends, hnode, hlength⟩ := Files.endsAt_of_inspect hfound nofun
  rw [host_shutdown hruns]
  have hfiles := Host.files_release_of_found hruns.socketFile_eq hfound
  have hends' : (s.host.release server.listening).files.EndsAt file.path place := by
    rw [hfiles]
    exact hends.of_differAt (Files.differAt_remove (hnode ▸ Files.isEnd_socket _))
  have hnone : (s.host.release server.listening).files.node? place = none := by
    rw [hfiles, Files.node?_remove _ hends.ne_nil, if_pos rfl]
  refine ⟨by rw [hends'.inspect_eq hlength, hnone], fun url hurl => ?_⟩
  obtain ⟨l, h', hperform, hbound⟩ := Host.perform_listenEmbedded_of_isFree (a := server.location)
    (hhas.path_eq ▸ hhas.length_le) (hhas.path_eq ▸ hends') (.inl hnone)
  refine ⟨{ listening := l }, h', ?_, ?_⟩
  · rw [Server.perform_start_eq_ok]
    refine ⟨l, ?_, rfl⟩
    rw [Host.perform_listen hurl, Host.listenAt, hhas.transport_eq]
    exact hperform
  · rw [hhas.path_eq, hbound.openSocket_eq, hbound.listening_eq]

/-- **A shutdown is tidy.** -/
structure Tidy (s₀ : Site) (events : List Event) (n : Nat) : Prop where
  /-- It removes nothing, or one socket: the one that the server has made, at its path. -/
  removes : ((s₀.run events).step (.shutdown n)).host.files = (s₀.run events).host.files
    ∨ ∃ server file place before url after, (s₀.run events).Runs n server file
      ∧ file.path = server.location.path
      ∧ (s₀.run events).host.files.inspect file.path = .ok (place, .socket file.identity)
      ∧ ((s₀.run events).step (.shutdown n)).host.files = (s₀.run events).host.files.remove place
      ∧ events = before ++ .start url :: after
      ∧ MadeBy s₀ before url after n server file
  /-- The sockets of the other servers that run stay where they are, at whatever path, and
  whoever could connect to them still can. -/
  spares : ∀ m other file, m ≠ n → (s₀.run events).Runs m other file →
    (∀ place, (s₀.run events).host.files.node? place = some (.socket file.identity) →
      ((s₀.run events).step (.shutdown n)).host.files.node? place = some (.socket file.identity))
    ∧ ∀ path, (s₀.run events).host.openSocket path = .ok (.socket file.identity) →
      ((s₀.run events).step (.shutdown n)).host.openSocket path = .ok (.socket file.identity)
  /-- A second shutdown does nothing, whatever has happened since. -/
  once : n < (s₀.run events).servers.length → ∀ later,
    (((s₀.run events).step (.shutdown n)).run later).step (.shutdown n)
      = ((s₀.run events).step (.shutdown n)).run later
  /-- If it has just been started, then its socket is at its path. -/
  started : ∀ before url server file, events = before ++ [.start url] →
    (s₀.run before).servers.length = n → (s₀.run events).Runs n server file →
    Address.resolve url = .ok server.location
      ∧ ∃ place, (s₀.run events).host.files.inspect file.path = .ok (place, .socket file.identity)
  /-- If the server's socket is at its path, then afterwards nothing is, and a server can be
  started there again. -/
  restart : ∀ server file place, (s₀.run events).Runs n server file →
    (s₀.run events).host.files.inspect file.path = .ok (place, .socket file.identity) →
    ((s₀.run events).step (.shutdown n)).host.files.inspect file.path = .error .notFound
      ∧ ∀ url, Address.resolve url = .ok server.location →
        ∃ again h', ((s₀.run events).step (.shutdown n)).host.perform (Server.start url)
            = (.ok again, h')
          ∧ h'.openSocket file.path = .ok again.listening.endpoint

/-- **A shutdown removes only the server's own socket**, whatever servers have been started and
stopped before and whatever others have done with their files, as long as no file gets the
identity of a socket whose server runs. -/
theorem shutdown_tidy {h : Host} {events : List Event} (hallowed : AllowsAll ⟨h, []⟩ events)
    (n : Nat) : Tidy ⟨h, []⟩ events n := by
  have hs := isSound_run (isSound_init h) hallowed
  refine ⟨?_, ?_, fun hn later => ?_, ?_, fun server file place => restart_of_found hs⟩
  -- without such a server, or with one that is stopped, nothing happens
  · cases hserver : (run ⟨h, []⟩ events).servers[n]? with
    | none => exact .inl (by rw [step_shutdown_of_none hserver])
    | some server =>
      rw [step_shutdown hserver]
      by_cases hrunning : server.isRunning = true
      · rw [if_pos hrunning]
        obtain hsame | ⟨file, place, hfile, hfound, hremoved⟩ :=
          Host.files_release_cases (run ⟨h, []⟩ events).host server.listening
        · exact .inl hsame
        · have hruns : (run ⟨h, []⟩ events).Runs n server file := ⟨hserver, hrunning, hfile⟩
          obtain ⟨before, url, after, hsplit, hmade⟩ := madeBy_of_runs hallowed hruns
          exact .inr ⟨server, file, place, before, url, after, hruns,
            (hs.hasSocket hruns).path_eq, hfound, hremoved, hsplit, hmade⟩
      · exact .inl (by rw [if_neg hrunning])
  · intro m other file hmn hother
    cases hserver : (run ⟨h, []⟩ events).servers[n]? with
    | none =>
      rw [step_shutdown_of_none hserver]
      exact ⟨fun _ => id, fun _ => id⟩
    | some server =>
      rw [step_shutdown hserver]
      by_cases hrunning : server.isRunning = true
      -- sockets of servers that run have different identities, so the other one is not released
      · have hfile : ∀ own, server.listening.socketFile = some own →
            own.identity ≠ file.identity := fun own hown =>
          hs.distinct hmn.symm ⟨hserver, hrunning, hown⟩ hother
        rw [if_pos hrunning]
        exact ⟨fun _ => Host.node?_release hfile,
          fun _ => Host.openSocket_release hfile (hs.endpoint_ne hserver hrunning hmn hother)⟩
      · rw [if_neg hrunning]
        exact ⟨fun _ => id, fun _ => id⟩
  · obtain ⟨server, hserver⟩ : ∃ server, (run ⟨h, []⟩ events).servers[n]? = some server :=
      ⟨_, List.getElem?_eq_getElem hn⟩
    obtain ⟨stopped, hstopped, hnot⟩ : ∃ stopped,
        ((run ⟨h, []⟩ events).step (.shutdown n)).servers[n]? = some stopped
        ∧ stopped.isRunning = false := by
      rw [step_shutdown hserver]
      exact ⟨_, by rw [List.getElem?_set_self', hserver]; rfl, isRunning_shutdown server _⟩
    obtain ⟨stopped', hstopped', hnot'⟩ := stopped_run hstopped hnot later
    exact step_shutdown_of_stopped hstopped' hnot'
  · rintro before url server file rfl rfl hruns
    have hmade := madeBy_of_started (allowsAll_append.mp hallowed).2.1 hruns
    exact ⟨hmade.location_eq, hmade.made.imp fun _ => And.left⟩

/-- Two servers that have been started at the same URL, the socket of the first having been
moved out of the way. -/
def replaced : List Event :=
  [.start "unix:///s", .meddle ⟨[(["t"], .socket 0)]⟩ 1, .start "unix:///s"]

/-- The first of the two is shut down, and the second can still be connected to. -/
theorem shutdown_tidy_replaced :
    (run {} replaced).host.files.inspect "/t" = .ok (["t"], .socket 0)
      ∧ (run {} replaced).host.openSocket "/s" = .ok (.socket 1)
      ∧ ((run {} replaced).step (.shutdown 0)).host.openSocket "/s" = .ok (.socket 1) := by
  have hallowed : AllowsAll {} replaced := by
    have hfirst : (step {} (.start "unix:///s")).host
        = { files := ⟨[(["s"], .socket 0)]⟩, nextIdentity := 1, listening := [.socket 0] } := by
      decide +kernel
    refine ⟨?_, fun identity hholds => .inl ⟨["s"], ?_⟩, ?_, trivial⟩
    · rintro (hholds | hlistens)
      · obtain ⟨e, he, -⟩ := hholds.exists_mem
        cases he
      · cases hlistens
    · obtain ⟨e, he, hidentity⟩ := hholds.exists_mem
      obtain rfl := List.mem_singleton.mp he
      rw [hfirst, ← hidentity]
      rfl
    · have hmoved : (step (step {} (.start "unix:///s"))
            (.meddle ⟨[(["t"], .socket 0)]⟩ 1)).host
          = { files := ⟨[(["t"], .socket 0)]⟩, nextIdentity := 1, listening := [.socket 0] } := by
        decide +kernel
      show ¬ Host.Uses (step (step {} _) _).host _
      rw [hmoved]
      rintro (hholds | hlistens)
      · obtain ⟨e, he, hidentity⟩ := hholds.exists_mem
        obtain rfl := List.mem_singleton.mp he
        cases hidentity
      · simp at hlistens
  have hopen : (run {} replaced).host.openSocket "/s" = .ok (.socket 1) := by decide +kernel
  have hservers : (run {} replaced).servers.map (fun s => (s.isRunning, s.listening.socketFile))
      = [(true, some ⟨"/s", 0⟩), (true, some ⟨"/s", 1⟩)] := by decide +kernel
  have hsecond := congrArg (·[1]?) hservers
  simp only [List.getElem?_map, Option.map_eq_some_iff, List.getElem?_cons_succ,
    List.getElem?_cons_zero, Prod.mk.injEq] at hsecond
  obtain ⟨second, hget, hrunning, hfile⟩ := hsecond
  exact ⟨by decide +kernel, hopen,
    ((shutdown_tidy hallowed 0).spares 1 second ⟨"/s", 1⟩ (by decide) ⟨hget, hrunning, hfile⟩).2 _
      hopen⟩

end Switchboard.Site
