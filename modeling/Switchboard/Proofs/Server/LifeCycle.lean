import Mathlib.Data.List.Induction
import Switchboard.Client.Basic
import Switchboard.Proofs.Address.Text
import Switchboard.Proofs.Host.Actions
import Switchboard.Server.Provider

/-!
# Providers and clients that are started and stopped

A start can fail for many reasons, which come up in different places: the
provider may have been started before, the URL may be no address or name no
transport, the socket or the port may not be there for the taking. What has been
done by then must not be left half done.

A `Station` is a provider and a client. Whoever has them commands what they like
at any time and with any texts as URLs, while others do with the host what they
like: it is given anew with each command. A command that fails leaves the
station as it was, so a history reads the same without it
(`failed_starts_leave_no_trace`). That a provider or a client is started means
that the last start of it that has succeeded was not followed by a stop, and
this is read off the log, in which every command stands with what came of it.
-/

namespace Switchboard

/-! ## One start -/

theorem Address.resolve_of_malformed {url : String} (h : Address.parse? url = none) :
    Address.resolve url = .error (.malformedAddress url) := by
  rw [resolve, parse, h]
  rfl

theorem Address.resolve_of_unknown {url : String} {a : Address} (h : Address.parse? url = some a)
    (htransport : a.transport = .unknown) :
    Address.resolve url = .error (.unsupportedTransport a.scheme url) := by
  rw [resolve, parse, h]
  dsimp only
  rw [htransport]

/-- **A URL that cannot be used is refused** whatever the host is like, and nothing changes. -/
theorem Server.perform_start_of_refused {url : String} {e : SetupError}
    (hurl : Address.resolve url = .error e) (h : Host) :
    h.perform (Server.start url) = (.error e, h) := by
  rw [Server.start, Host.perform_bind, Host.listen, hurl]
  rfl

namespace Provider

variable {β : Type} {p : Provider β} {h : Host} {url : String}

/-- **A provider that has been started is not started again.** -/
theorem perform_start_of_running {server : Server} (hserver : p.server = some server) :
    h.perform (p.start url) = (.error (.alreadyStarted server.location.text), h) := by
  rw [start, hserver]
  rfl

/-- A provider without a server starts one. -/
theorem perform_start_of_stopped (hserver : p.server = none) :
    h.perform (p.start url) = match h.perform (Server.start url) with
      | (.ok server, h') => (.ok { p with server := some server }, h')
      | (.error e, h') => (.error e, h') := by
  rw [start, hserver]
  dsimp only
  rw [Host.perform_bind]
  rcases h.perform (Server.start url) with ⟨_ | server, h'⟩ <;> rfl

end Provider

/-! ## Commands -/

/-- **A provider and a client** that are started and stopped. -/
structure Station (β χ : Type) where
  provider : Provider β
  client : Client χ

namespace Station

/-- Which of the two is meant. -/
inductive Role where
  | provider
  | client
deriving DecidableEq

inductive Command where
  | start (role : Role) (url : String)
  | stop (role : Role)
deriving DecidableEq

/-- **What comes of a command.** -/
structure Effect where
  /-- Why a start has failed, or where a provider is reached now. -/
  answer : Except SetupError (Option Address)
  /-- What has become of the host. -/
  host : Host
deriving DecidableEq

variable {β χ : Type} {connect : Address → χ} {s : Station β χ} {h : Host} {url : String}

/-- **The station after a command**, given what a client is bound to for an address. -/
def obey (connect : Address → χ) (s : Station β χ) (h : Host) : Command → Effect × Station β χ
  | .start .provider url =>
    match h.perform (s.provider.start url) with
    | (.ok provider, h) => (⟨.ok provider.location?, h⟩, { s with provider })
    | (.error e, h) => (⟨.error e, h⟩, s)
  | .stop .provider =>
    let (provider, h) := s.provider.stop h
    (⟨.ok none, h⟩, { s with provider })
  | .start .client url =>
    match s.client.start (fun address => ((), connect address)) url with
    | .ok ((), client) => (⟨.ok none, h⟩, { s with client })
    | .error e => (⟨.error e, h⟩, s)
  | .stop .client => (⟨.ok none, h⟩, { s with client := s.client.stop })

/-- **All that a command can do.** -/
inductive Obeys (connect : Address → χ) (s : Station β χ) (h : Host) :
    Command → Effect × Station β χ → Prop
  /-- A start fails, and the station is as it was. -/
  | refuses {role : Role} {url : String} (e : SetupError) (h' : Host) :
      Obeys connect s h (.start role url) (⟨.error e, h'⟩, s)
  /-- A provider that had no server has one. -/
  | serves {url : String} (server : Server) (h' : Host) (hserver : s.provider.server = none) :
      Obeys connect s h (.start .provider url)
        (⟨.ok (some server.location), h'⟩,
          { s with provider := { s.provider with server := some server } })
  | unserves (h' : Host) :
      Obeys connect s h (.stop .provider)
        (⟨.ok none, h'⟩, { s with provider := { s.provider with server := none } })
  | connects {url : String} {a : Address} (hurl : Address.resolve url = .ok a) :
      Obeys connect s h (.start .client url)
        (⟨.ok none, h⟩, { s with client := s.client.bindTo (connect a) })
  | disconnects :
      Obeys connect s h (.stop .client) (⟨.ok none, h⟩, { s with client := s.client.stop })

theorem obeys (connect : Address → χ) (s : Station β χ) (h : Host) (command : Command) :
    Obeys connect s h command (s.obey connect h command) := by
  match command with
  | .start .provider url =>
    rw [obey]
    cases hserver : s.provider.server with
    | some server =>
      rw [Provider.perform_start_of_running hserver]
      exact .refuses _ h
    | none =>
      rw [Provider.perform_start_of_stopped hserver]
      rcases h.perform (Server.start url) with ⟨e | server, h'⟩
      · exact .refuses e h'
      · exact .serves server h' hserver
  | .stop .provider =>
    rw [obey, Provider.stop]
    cases hserver : s.provider.server with
    | some server => exact .unserves _
    | none =>
      -- a provider that is not served stops all the same, and stays as it is
      have hsame : s.provider = { s.provider with server := none } := by rw [← hserver]
      have hobeys : Obeys connect s h (.stop .provider)
          (⟨.ok none, h⟩, { s with provider := { s.provider with server := none } }) := .unserves h
      rwa [← hsame] at hobeys
  | .start .client url =>
    rw [obey, Client.start]
    cases hurl : Address.resolve url with
    | error e => exact .refuses e h
    | ok a => exact .connects hurl
  | .stop .client => exact .disconnects

/-! ## What is refused -/

/-- **A start at a URL that cannot be used is refused**, and neither the host nor the station
has changed. -/
theorem obey_start_of_refused {role : Role} {e : SetupError}
    (hfree : role = .provider → s.provider.server = none)
    (hurl : Address.resolve url = .error e) :
    s.obey connect h (.start role url) = (⟨.error e, h⟩, s) := by
  cases role with
  | provider =>
    rw [obey, Provider.perform_start_of_stopped (hfree rfl), Server.perform_start_of_refused hurl]
  | client =>
    rw [obey, Client.start, hurl]
    rfl

/-- **What a station refuses, and that it makes no difference.** -/
structure Refuses (connect : Address → χ) (s : Station β χ) : Prop where
  /-- A provider that has been started cannot be started again, at no URL whatever. The report
  names its location, and nothing happens to the host or to the server that runs. -/
  running : ∀ location, s.provider.location? = some location → ∀ h url,
    s.obey connect h (.start .provider url)
      = (⟨.error (.alreadyStarted location.text), h⟩, s)
  /-- Otherwise a text that is no URL is quoted in the report, and nothing happens to the host,
  whatever it is like. -/
  malformed : ∀ role, (role = .provider → s.provider.location? = none) → ∀ h url,
    Address.parse? url = none →
    s.obey connect h (.start role url) = (⟨.error (.malformedAddress url), h⟩, s)
  /-- So is a URL whose scheme names no transport. -/
  unsupported : ∀ role, (role = .provider → s.provider.location? = none) → ∀ h url a,
    Address.parse? url = some a → a.transport = .unknown →
    s.obey connect h (.start role url) = (⟨.error (.unsupportedTransport a.scheme url), h⟩, s)
  /-- For whatever reason a command fails, the station is as it was. -/
  unchanged : ∀ h command e, (s.obey connect h command).1.answer = .error e →
    (s.obey connect h command).2 = s

theorem refuses (connect : Address → χ) (s : Station β χ) : Refuses connect s where
  running location hlocation h url := by
    obtain ⟨server, hserver, rfl⟩ := Option.map_eq_some_iff.mp hlocation
    rw [obey, Provider.perform_start_of_running hserver]
  malformed role hfree h url hnone :=
    obey_start_of_refused (fun hrole => Option.map_eq_none_iff.mp (hfree hrole))
      (Address.resolve_of_malformed hnone)
  unsupported role hfree h url a hparse htransport :=
    obey_start_of_refused (fun hrole => Option.map_eq_none_iff.mp (hfree hrole))
      (Address.resolve_of_unknown hparse htransport)
  unchanged h command e herror := by
    have hobeys := s.obeys connect h command
    generalize s.obey connect h command = outcome at hobeys herror
    cases hobeys with
    | refuses => rfl
    | serves | unserves | connects | disconnects => cases herror

/-! ## Histories -/

/-- The station after some commands, each with the host as it is by then. -/
def run (connect : Address → χ) (s : Station β χ) (history : List (Host × Command)) :
    Station β χ :=
  history.foldl (fun s call => (s.obey connect call.1 call.2).2) s

/-- **The commands of a history and what came of them.** -/
def log (connect : Address → χ) (s : Station β χ) :
    List (Host × Command) → List (Command × Effect)
  | [] => []
  | (h, command) :: history =>
    (command, (s.obey connect h command).1) :: (s.obey connect h command).2.log connect history

theorem run_append (connect : Address → χ) (s : Station β χ)
    (history later : List (Host × Command)) :
    s.run connect (history ++ later) = (s.run connect history).run connect later :=
  List.foldl_append

theorem log_append (connect : Address → χ) (s : Station β χ)
    (history later : List (Host × Command)) :
    s.log connect (history ++ later)
      = s.log connect history ++ (s.run connect history).log connect later := by
  induction history generalizing s with
  | nil => rfl
  | cons call history ih => exact congrArg (_ :: ·) (ih _)

theorem length_log (connect : Address → χ) (s : Station β χ) (history : List (Host × Command)) :
    (s.log connect history).length = history.length := by
  induction history generalizing s with
  | nil => rfl
  | cons call history ih => exact congrArg (· + 1) (ih _)

/-- **A failed command leaves no trace**: without it the station is the same in the end, and all
other commands have the same effects. -/
theorem run_log_without {before after : List (Host × Command)} {command : Command}
    {e : SetupError}
    (herror : ((s.run connect before).obey connect h command).1.answer = .error e) :
    s.run connect (before ++ after) = s.run connect (before ++ (h, command) :: after)
      ∧ s.log connect (before ++ after)
        = (s.log connect (before ++ (h, command) :: after)).eraseIdx before.length := by
  have hsame := (refuses connect _).unchanged h command e herror
  constructor
  · rw [run_append, run_append]
    exact congrArg (run connect · after) hsame.symm
  · rw [log_append, log_append, List.eraseIdx_append_of_length_le (length_log ..).le,
      length_log, Nat.sub_self]
    exact congrArg (_ ++ log connect · after) hsame.symm

/-! ## The last start that has succeeded -/

/-- **The last start that has succeeded was not followed by a stop**: the provider or client was
started at a URL, with some answer, and since then it has not been stopped and no start of it
has succeeded. -/
def IsUp (role : Role) (log : List (Command × Effect)) (url : String)
    (answer : Option Address) : Prop :=
  ∃ before h after, log = before ++ (.start role url, ⟨.ok answer, h⟩) :: after
    ∧ ∀ entry ∈ after, entry.1 ≠ .stop role
      ∧ ∀ url, entry.1 = .start role url → ∃ e, entry.2.answer = .error e

variable {role : Role} {entries : List (Command × Effect)} {answer : Option Address}

theorem not_isUp_nil : ¬ IsUp role [] url answer := by
  rintro ⟨before, h, after, hlog, -⟩
  cases before <;> cases hlog

/-- **How one more command changes what is up.** -/
theorem isUp_append {command : Command} {effect : Effect} :
    IsUp role (entries ++ [(command, effect)]) url answer
      ↔ command = .start role url ∧ effect.answer = .ok answer
        ∨ command ≠ .stop role
          ∧ (∀ url, command = .start role url → ∃ e, effect.answer = .error e)
          ∧ IsUp role entries url answer := by
  constructor
  · rintro ⟨before, h, after, hlog, hafter⟩
    obtain rfl | ⟨after, last, rfl⟩ := List.eq_nil_or_concat after
    · obtain ⟨-, hlast⟩ := List.append_inj' hlog rfl
      obtain ⟨rfl, rfl⟩ := Prod.mk.inj (List.head_eq_of_cons_eq hlast)
      exact .inl ⟨rfl, rfl⟩
    · rw [List.concat_eq_append, ← List.cons_append, ← List.append_assoc] at hlog
      obtain ⟨rfl, hlast⟩ := List.append_inj' hlog rfl
      obtain rfl := List.head_eq_of_cons_eq hlast
      have hnow := hafter (command, effect) (by simp)
      exact .inr ⟨hnow.1, hnow.2, before, h, after, rfl, fun entry hentry =>
        hafter entry (by simp [hentry])⟩
  · rintro (⟨rfl, heffect⟩ | ⟨hstop, hstart, before, h, after, rfl, hafter⟩)
    · obtain ⟨given, h⟩ := effect
      obtain rfl : given = .ok answer := heffect
      exact ⟨entries, h, [], rfl, nofun⟩
    · refine ⟨before, h, after ++ [(command, effect)], by simp, fun entry hentry => ?_⟩
      obtain hentry | hentry := List.mem_append.mp hentry
      · exact hafter entry hentry
      · obtain rfl := List.mem_singleton.mp hentry
        exact ⟨hstop, hstart⟩

/-! ## What holds at every time -/

/-- A provider and a client that have never been started. -/
def fresh (χ : Type) (backend : β) (service : ServiceType) : Station β χ :=
  ⟨⟨backend, none⟩, ⟨service, none⟩⟩

/-- **The station is as its log says.** -/
structure Agrees (connect : Address → χ) (s : Station β χ) (entries : List (Command × Effect)) :
    Prop where
  /-- The provider has the location with which its last start has been answered. -/
  location?_iff : ∀ location, s.provider.location? = some location
    ↔ ∃ url, IsUp .provider entries url (some location)
  /-- The client is bound to the address at the URL of its last start. -/
  channel_iff : ∀ channel, s.client.channel = some channel
    ↔ ∃ url a, IsUp .client entries url none ∧ Address.resolve url = .ok a ∧ connect a = channel
  isStarted_iff : s.client.isStarted = true ↔ ∃ url, IsUp .client entries url none

theorem agrees_fresh (connect : Address → χ) (backend : β) (service : ServiceType) :
    Agrees connect (fresh χ backend service) [] where
  location?_iff _ := ⟨nofun, fun ⟨_, hup⟩ => absurd hup not_isUp_nil⟩
  channel_iff _ := ⟨nofun, fun ⟨_, _, hup, _⟩ => absurd hup not_isUp_nil⟩
  isStarted_iff := ⟨nofun, fun ⟨_, hup⟩ => absurd hup not_isUp_nil⟩

/-- **A command and its entry in the log belong together.** -/
theorem Agrees.obey (ha : Agrees connect s entries) (h : Host) (command : Command) :
    Agrees connect (s.obey connect h command).2
      (entries ++ [(command, (s.obey connect h command).1)]) := by
  obtain ⟨hlocation, hchannel, hstarted⟩ := ha
  have hobeys := s.obeys connect h command
  generalize s.obey connect h command = outcome at hobeys
  cases hobeys with
  | refuses e h' =>
    exact ⟨by simpa [isUp_append] using hlocation, by simpa [isUp_append] using hchannel,
      by simpa [isUp_append] using hstarted⟩
  | serves server h' =>
    exact ⟨by simp [isUp_append, Provider.location?], by simpa [isUp_append] using hchannel,
      by simpa [isUp_append] using hstarted⟩
  | unserves h' =>
    exact ⟨by simp [isUp_append, Provider.location?], by simpa [isUp_append] using hchannel,
      by simpa [isUp_append] using hstarted⟩
  | connects hurl =>
    exact ⟨by simpa [isUp_append] using hlocation, by simp [isUp_append, Client.bindTo, hurl],
      by simp [isUp_append, Client.bindTo, Client.isStarted]⟩
  | disconnects =>
    exact ⟨by simpa [isUp_append] using hlocation, by simp [isUp_append, Client.stop],
      by simp [isUp_append, Client.stop, Client.isStarted]⟩

theorem agrees_run (connect : Address → χ) (backend : β) (service : ServiceType)
    (history : List (Host × Command)) :
    Agrees connect ((fresh χ backend service).run connect history)
      ((fresh χ backend service).log connect history) := by
  induction history using List.reverseRecOn with
  | nil => exact agrees_fresh connect backend service
  | append_singleton history call ih =>
    rw [run_append, log_append]
    exact ih.obey call.1 call.2

/-- Whatever is commanded, the backend stays. -/
theorem backend_obey (connect : Address → χ) (s : Station β χ) (h : Host) (command : Command) :
    (s.obey connect h command).2.provider.backend = s.provider.backend := by
  have hobeys := s.obeys connect h command
  generalize s.obey connect h command = outcome at hobeys
  cases hobeys <;> rfl

theorem backend_run (connect : Address → χ) (s : Station β χ)
    (history : List (Host × Command)) :
    (s.run connect history).provider.backend = s.provider.backend := by
  induction history generalizing s with
  | nil => rfl
  | cons call history ih => exact (ih _).trans (s.backend_obey connect call.1 call.2)

/-- **Failed starts leave no trace.** After any history the provider and the client are as their
last starts that have succeeded have left them, unless they have been stopped since, and the
backend answers as ever. What cannot be started is refused and nothing changes, so a history
without one of its commands that have failed leads to the same station, and every other command
does the same to the host and has the same answer. -/
theorem failed_starts_leave_no_trace (connect : Address → χ) (backend : β) (service : ServiceType)
    (history : List (Host × Command)) :
    Agrees connect ((fresh χ backend service).run connect history)
        ((fresh χ backend service).log connect history)
      ∧ ((fresh χ backend service).run connect history).provider.backend = backend
      ∧ Refuses connect ((fresh χ backend service).run connect history)
      ∧ ∀ before h command after e, history = before ++ (h, command) :: after →
        (((fresh χ backend service).run connect before).obey connect h command).1.answer
          = .error e →
        (fresh χ backend service).run connect (before ++ after)
            = (fresh χ backend service).run connect history
          ∧ (fresh χ backend service).log connect (before ++ after)
            = ((fresh χ backend service).log connect history).eraseIdx before.length := by
  refine ⟨agrees_run connect backend service history, backend_run connect _ history,
    refuses connect _, ?_⟩
  rintro before h command after e rfl herror
  exact run_log_without herror

/-- A provider that fails for want of a path, starts, and is not started again, and a client that
keeps its address when no other one can be used. -/
example :
    ((fresh Address () .chatIn).log id
        [({}, .start .provider "unix://"), ({}, .start .provider "tcp+tv://127.0.0.1"),
          ({}, .start .client "tcp+tv://127.0.0.1:49152"), ({}, .start .provider "nowhere"),
          ({}, .start .client "http://127.0.0.1"), ({}, .stop .provider)]).map (·.2.answer)
      = [.error (.validation "location" "unix:// has no socket path"),
        .ok (some ⟨"tcp+tv", "127.0.0.1", 49152, ""⟩), .ok none,
        .error (.alreadyStarted "tcp+tv://127.0.0.1:49152"),
        .error (.unsupportedTransport "http" "http://127.0.0.1"), .ok none] := by
  decide +kernel

end Station

end Switchboard
