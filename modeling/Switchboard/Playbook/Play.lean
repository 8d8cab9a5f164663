import Switchboard.Playbook.Calls
import Switchboard.Playbook.Setting
import Switchboard.Rehearsal.Network

/-!
# Plays on a network

Most playbooks are played on a network. The play remembers what the playbook
has given names to: calls that were begun and requests that were handed to a
backend directly. A call whose result is asked for must have it by then, and
soon enough; otherwise the play comes to a halt.
-/

namespace Switchboard.Playbook

open Rehearsal

/-- **A play on a network.** -/
structure Play (β σ : Type) where
  setting : Setting
  network : Network β σ
  /-- The calls that were begun, under their names. -/
  calls : List (String × Network.Started Json) := []
  /-- The requests that were handed to a backend directly, under their names. -/
  tickets : List (String × Nat) := []

/-- The provider or client that is meant when no name is given. -/
def leading : String := "main"

namespace Play

variable {β σ : Type} [Backend β σ]

/-- The client with a name; one that has not been seen before is not started. -/
def client (p : Play β σ) (name : String) (service : ServiceType) : Client Route :=
  (p.network.client? name).getD ⟨service, none⟩

/-- Where a provider can be reached. -/
def location? (p : Play β σ) (site : String) : Option Address :=
  (p.network.provider? site).bind Provider.location?

/-- What a call has ended in, reported. -/
def result (p : Play β σ) (started : Network.Started Json) : Reads Json :=
  if p.network.elapsed > patience then throw .stall
  else
    match p.network.outcome started with
    | .finished r => return Report.result id r
    | .crashed => throw .breakdown
    | .underWay => throw .stall

/-- Makes a call and reports its result. -/
def call (p : Play β σ) (client : Client Route) (invocation : Invocation Json) (pause : Nat) :
    Reads (Play β σ × Json) := do
  let (network, started) := p.network.begin client invocation pause
  let p := { p with network }
  return (p, ← p.result started)

/-- Begins a call under a name. -/
def begin (p : Play β σ) (name : String) (client : Client Route) (invocation : Invocation Json)
    (pause : Nat) : Play β σ :=
  let (network, started) := p.network.begin client invocation pause
  { p with network, calls := (name, started) :: p.calls }

/-- The call that was begun under a name. -/
def callNamed (p : Play β σ) (name : String) : Reads (Network.Started Json) :=
  match p.calls.lookup name with
  | some started => .ok started
  | none => .error .breakdown

/-- Hands a request to the backend of the leading provider. -/
def dispatch (p : Play β σ) (request : Wire.Request) : Play β σ × Nat :=
  let (network, ticket) := p.network.dispatch leading request
  ({ p with network }, ticket)

/-- The request that was handed to a backend under a name. -/
def ticketNamed (p : Play β σ) (name : String) : Reads Nat :=
  match p.tickets.lookup name with
  | some ticket => .ok ticket
  | none => .error .breakdown

/-- The reply to a request that was handed to a backend, reported. -/
def replyTo (p : Play β σ) (ticket : Nat) : Reads Json :=
  match p.network.ending? ticket with
  | some (.finished r) => return Report.reply (.ofResult r)
  | some (.crashed _) => throw .breakdown
  | _ => throw .stall

/-- Starts a provider at a URL and reports where it can be reached. -/
def serve (p : Play β σ) (site url : String) : Play β σ × Json :=
  match p.network.serve site url with
  | (.ok a, network) => ({ p with network, setting := p.setting.see a }, Report.location a)
  | (.error e, network) => ({ p with network }, Report.setupError e)

/-- Starts a client at a URL. -/
def startClient (p : Play β σ) (name : String) (client : Client Route) (url : String) :
    Except SetupError (Play β σ) :=
  (p.network.startClient name client url).map fun network => { p with network }

/-- Binds a client to the backend of the leading provider. -/
def bindDirect (p : Play β σ) (name : String) (client : Client Route) : Play β σ :=
  { p with network := p.network.bindDirect name client leading }

/-- Stops a client. -/
def stopClient (p : Play β σ) (name : String) (client : Client Route) : Play β σ :=
  { p with network := p.network.stopClient name client }

/-- Stops a provider. -/
def unserve (p : Play β σ) (site : String) : Play β σ :=
  { p with network := p.network.unserve site }

/-- A report with marks in its texts. -/
def marked (p : Play β σ) (report : Json) : Json := p.setting.markedIn report

end Play

/-- How long a call waits between two tries: not at all if the step says that time stands
still. -/
def pauseIn (j : Json) : Nat := if flagIn j "paused" false then 0 else Limits.retryDelay

end Switchboard.Playbook
