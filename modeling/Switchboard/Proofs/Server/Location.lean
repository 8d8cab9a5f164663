import Switchboard.Client.Basic
import Switchboard.Client.Channel
import Switchboard.Proofs.Address.Text
import Switchboard.Proofs.Host.Actions
import Switchboard.Server.Basic

/-!
# The location that a server reports

A server that has been started reports the address under which it is reached,
and clients are started with the text of that address. On a local socket it is
the address that the URL spells. On a port it is that address with the port
that was given, and this is not an address that a URL has spelled: one port has
taken the place of another, or of none.

With a host in the URL the difference does not matter, because a host may be
followed by any port. A URL without a host, by contrast, makes a server listen
on the loopback interface and report a port that follows no host. Nobody reads
such a text as an address, so a client cannot be started with it, although the
server is there and listens. Nothing else keeps a client from it.
-/

namespace Switchboard

/-! ## Addresses of transports -/

/-- An address is resolved from the URLs that spell it, if its scheme names a transport. -/
theorem Address.resolve_eq_ok {url : String} {a : Address} :
    Address.resolve url = .ok a ↔ Address.parse url = .ok a ∧ a.transport ≠ .unknown := by
  unfold Address.resolve
  cases Address.parse url with
  | error e => simp
  | ok b =>
    rw [Except.ok.injEq]
    constructor
    · intro h
      dsimp only at h
      split at h
      · cases h
      · next hknown =>
        obtain rfl := Except.ok.inj h
        exact ⟨rfl, hknown⟩
    · rintro ⟨rfl, hknown⟩
      dsimp only
      split
      · exact absurd ‹_› hknown
      · rfl

/-! ## Where a server listens -/

namespace Host

variable {h h' : Host}

/-- Who listens on a port listens on the one that was asked for, or on the next one. -/
theorem openPort_eq_ok {name : String} {port : UInt16} {e : Endpoint}
    (ho : h.openPort name port = .ok (e, h')) :
    ∃ address, e = .port address (if port = 0 then h.nextPort else port) := by
  rw [openPort] at ho
  cases hname : h.resolve name with
  | error reason => simp [hname] at ho
  | ok address =>
    simp only [hname] at ho
    split_ifs at ho
    all_goals exact ⟨address, by simp_all⟩

variable {a : Address} {l : Listening}

/-- On a local socket the location is the address. -/
theorem location_listenEmbedded (hl : h.perform (listenEmbedded a) = (.ok l, h')) :
    l.location = a := by
  rw [listenEmbedded] at hl
  split_ifs at hl with hpath
  · simp only [perform_bind_eq_ok] at hl
    obtain ⟨_, _, hthrow, -⟩ := hl
    exact absurd hthrow perform_throw_ne_ok
  · simp only [perform_bind_eq_ok, perform_pure_eq_ok] at hl
    obtain ⟨_, _, -, _, _, -, rfl, -⟩ := hl
    rfl

/-- On a port the location is the address at the port that was given. -/
theorem location_listenRaw (hl : h.perform (listenRaw a) = (.ok l, h')) :
    ∃ address, l.endpoint = .port address (if a.port = 0 then h.nextPort else a.port)
      ∧ l.location = a.withPort (if a.port = 0 then h.nextPort else a.port) := by
  rw [listenRaw, perform_bind_eq_ok] at hl
  obtain ⟨endpoint, h₁, hopen, hl⟩ := hl
  rw [perform_bindError_eq_ok, perform_attempt_eq_ok] at hopen
  obtain ⟨address, rfl⟩ := openPort_eq_ok hopen
  obtain ⟨rfl, -⟩ := perform_pure_eq_ok.mp hl
  exact ⟨address, rfl, rfl⟩

/-- **The location that is reported for an address**: the address itself on a local socket,
else the address at the port that was asked for, or at the next one. -/
def Reports (h : Host) (l : Listening) (a : Address) : Prop :=
  match a.transport with
  | .embedded => l.location = a
  | .rawSocket =>
    ∃ address, l.endpoint = .port address (if a.port = 0 then h.nextPort else a.port)
      ∧ l.location = a.withPort (if a.port = 0 then h.nextPort else a.port)
  | .unknown => False

/-- Who listens at a URL listens at an address that it spells. -/
theorem reports_listen {url : String} (hl : h.perform (listen url) = (.ok l, h')) :
    ∃ a, Address.parse url = .ok a ∧ h.Reports l a := by
  rw [listen] at hl
  cases hurl : Address.resolve url with
  | error e =>
    simp only [hurl] at hl
    exact absurd hl perform_throw_ne_ok
  | ok a =>
    simp only [hurl, listenAt] at hl
    refine ⟨a, (Address.resolve_eq_ok.mp hurl).1, ?_⟩
    rw [Reports]
    cases htransport : a.transport with
    | embedded => exact location_listenEmbedded (by simpa only [htransport] using hl)
    | rawSocket => exact location_listenRaw (by simpa only [htransport] using hl)
    | unknown => exact absurd htransport (Address.resolve_eq_ok.mp hurl).2

end Host

/-! ## Dialling the location -/

namespace Address

/-- A scheme is that of an address whatever its port. -/
theorem IsSpelled.withPort {a : Address} (h : a.IsSpelled) {port : UInt16}
    (hport : a.host = "" → port = 0) : (a.withPort port).IsSpelled :=
  { h with port_of_host := hport }

end Address

namespace Host.Reports

variable {h : Host} {l : Listening} {a : Address}

/-- What is reported for an address that is on a local socket or has a host is spelled by a
URL, of a scheme that names a transport. -/
theorem isSpelled_location (hr : h.Reports l a) (ha : a.IsSpelled)
    (hdialled : a.transport = .embedded ∨ a.host ≠ "") :
    l.location.IsSpelled ∧ l.location.transport ≠ .unknown := by
  rw [Reports] at hr
  split at hr
  · next hembedded =>
    rw [hr]
    exact ⟨ha, by simp [hembedded]⟩
  · next hraw =>
    obtain ⟨-, -, hlocation⟩ := hr
    have hhost : a.host ≠ "" := hdialled.resolve_left (by simp [hraw])
    rw [hlocation]
    exact ⟨ha.withPort (absurd · hhost), show a.transport ≠ .unknown by simp [hraw]⟩
  · exact hr.elim

/-- What is reported for a port without a host is not spelled by any URL. -/
theorem parse?_location (hr : h.Reports l a) (ha : a.IsSpelled) (hraw : a.transport = .rawSocket)
    (hhost : a.host = "") (hport : l.location.port ≠ 0) :
    Address.parse? l.location.text = none := by
  simp only [Reports, hraw] at hr
  obtain ⟨-, -, hlocation⟩ := hr
  refine Address.parse?_text_of_port_without_host ?_ ?_ hport
  · rw [hlocation]
    exact ha.isScheme
  · rw [hlocation]
    exact hhost

end Host.Reports

variable {χ τ : Type}

/-- A client that is started with the text of an address is bound to that address. -/
theorem Client.start_text {a : Address} (h : a.IsSpelled) (htransport : a.transport ≠ .unknown)
    (c : Client χ) (connect : Address → τ × χ) :
    c.start connect a.text = .ok ((connect a).1, c.bindTo (connect a).2) := by
  have hresolve : Address.resolve a.text = .ok a :=
    Address.resolve_eq_ok.mpr ⟨Address.parse_eq_ok.mpr h.parse?_text, htransport⟩
  rw [Client.start, hresolve]
  rfl

/-- A client cannot be started with a malformed text. -/
theorem Client.start_malformed {url : String} (h : Address.parse? url = none) (c : Client χ)
    (connect : Address → τ × χ) : c.start connect url = .error (.malformedAddress url) := by
  rw [Client.start, Address.resolve, Address.parse, h]
  rfl

namespace Server

variable {h h' : Host} {url : String} {s : Server}

/-- A server is started exactly if it can listen. -/
theorem perform_start_eq_ok : h.perform (start url) = (.ok s, h')
    ↔ ∃ l, h.perform (Host.listen url) = (.ok l, h') ∧ s = { listening := l } := by
  rw [start, Host.perform_bind_eq_ok]
  constructor
  · rintro ⟨l, h₁, hl, hs⟩
    obtain ⟨rfl, rfl⟩ := Host.perform_pure_eq_ok.mp hs
    exact ⟨l, hl, rfl⟩
  · rintro ⟨l, hl, rfl⟩
    exact ⟨l, h', hl, Host.perform_pure_eq_ok.mpr ⟨rfl, rfl⟩⟩

/-- A server that has been started listens. -/
theorem listen_of_start (hs : h.perform (start url) = (.ok s, h')) :
    h.perform (Host.listen url) = (.ok s.listening, h') := by
  obtain ⟨l, hl, rfl⟩ := perform_start_eq_ok.mp hs
  exact hl

/-- **The location of a server can be dialled, unless it has a port without a host.** A server
that has been started at a URL reports the address that the URL spells, with the port that
was given where there are ports. On a local socket, and on a port if the URL names a host,
its text spells that very location, and every client that is started with it is bound to
the location. On a port of a URL without a host the text is malformed, and no client can be
started with it. -/
theorem start_location (hs : h.perform (start url) = (.ok s, h')) (c : Client χ)
    (connect : Address → τ × χ) :
    ∃ a, Address.parse url = .ok a ∧ h.Reports s.listening a
      ∧ (a.transport = .embedded ∨ a.host ≠ "" →
          Address.parse s.location.text = .ok s.location
          ∧ c.start connect s.location.text
              = .ok ((connect s.location).1, c.bindTo (connect s.location).2))
      ∧ (a.transport = .rawSocket → a.host = "" → s.location.port ≠ 0 →
          Address.parse s.location.text = .error ⟨s.location.text⟩
          ∧ c.start connect s.location.text = .error (.malformedAddress s.location.text)) := by
  obtain ⟨a, hparse, hreports⟩ := Host.reports_listen (listen_of_start hs)
  have hspelled := Address.isSpelled_of_parse? (Address.parse_eq_ok.mp hparse)
  refine ⟨a, hparse, hreports, fun hdialled => ?_, fun hraw hhost hport => ?_⟩
  · obtain ⟨hlocation, htransport⟩ := hreports.isSpelled_location hspelled hdialled
    exact ⟨Address.parse_eq_ok.mpr hlocation.parse?_text,
      Client.start_text hlocation htransport c connect⟩
  · have hnone := hreports.parse?_location hspelled hraw hhost hport
    exact ⟨by rw [Address.parse, location, hnone], Client.start_malformed hnone c connect⟩

/-- A server on the next port of `127.0.0.1`, and a client that is started with what the
server reports. -/
theorem start_location_loopback :
    ∃ s h', ({} : Host).perform (start "tcp+tv://127.0.0.1") = (.ok s, h')
      ∧ s.location.text = "tcp+tv://127.0.0.1:49152"
      ∧ Address.parse s.location.text = .ok s.location
      ∧ Client.start ⟨.chatIn, none⟩ (fun a => ((), Client.Channel.withRetry a 3)) s.location.text
          = .ok ((), ⟨.chatIn, some (Client.Channel.withRetry s.location 3)⟩) := by
  have hl : ({} : Host).perform (Host.listen "tcp+tv://127.0.0.1")
      = (.ok ⟨⟨"tcp+tv", "127.0.0.1", 49152, ""⟩, .port "127.0.0.1" 49152, none⟩,
        { nextPort := 49153, listening := [.port "127.0.0.1" 49152] }) := by decide +kernel
  have hs := perform_start_eq_ok.mpr ⟨_, hl, rfl⟩
  refine ⟨_, _, hs, by decide +kernel, ?_⟩
  obtain ⟨a, hparse, -, hdialled, -⟩ := start_location hs ⟨.chatIn, none⟩
    fun a => ((), Client.Channel.withRetry a 3)
  have ha : Address.parse "tcp+tv://127.0.0.1" = .ok ⟨"tcp+tv", "127.0.0.1", 0, ""⟩ := by
    decide +kernel
  obtain rfl := Except.ok.inj (hparse.symm.trans ha)
  exact hdialled (.inr (by decide))

/-- A server that is started without a host is there, and what it reports is no URL. -/
theorem hostless_location_malformed :
    ∃ s h', ({} : Host).perform (start "tv+tcp://") = (.ok s, h')
      ∧ s.location = ⟨"tv+tcp", "", 49152, ""⟩
      ∧ h'.listening = [.port "127.0.0.1" 49152]
      ∧ Address.parse s.location.text = .error ⟨"tv+tcp://:49152"⟩ := by
  have hl : ({} : Host).perform (Host.listen "tv+tcp://")
      = (.ok ⟨⟨"tv+tcp", "", 49152, ""⟩, .port "127.0.0.1" 49152, none⟩,
        { nextPort := 49153, listening := [.port "127.0.0.1" 49152] }) := by decide +kernel
  exact ⟨_, _, perform_start_eq_ok.mpr ⟨_, hl, rfl⟩, rfl, rfl, by decide +kernel⟩

end Server

end Switchboard
