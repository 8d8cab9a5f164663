import Switchboard.Playbook.Play
import Switchboard.Playbook.Staging

/-!
# Plays of services

The handlers of a service are played from scripts. The service is either
called directly, or served at a URL and called by clients that have been
started at one. Every report goes with the notes that have been taken since the
last one, so that it shows which handlers were called and with what.
-/

namespace Switchboard.Playbook

open Rehearsal

/-- A play in which handlers play parts. -/
abbrev Staged := Play (Dispatcher Stage) Stage

namespace Staged

/-- The kept responders, reported: whose they are and whether nobody waits for them. -/
def held (p : Staged) : Json :=
  .ofFields (p.network.state.held.map fun (key, h) =>
    (key, .ofFields
      [("method", Report.text h.responder.method.name),
        ("closed", .bool (!p.network.isWaiting h.responder.ticket))]))

/-- Casts a part of a provider. One that cannot take it, since the part belongs to another
service, breaks down and remains as it was. -/
def cast (p : Staged) (site : String) (step : Json) : Reads (Staged × Json) := do
  let part ← partIn step
  let script ← script part (member step "behavior")
  match p.network.changeBackend? site fun d => part.cast d (Stage.play part script) with
  | some network => return ({ p with network }, .null)
  | none => return (p, Report.breakdown)

/-- Uses a responder that was kept, if there is one, and reports whether nobody waited. -/
def complete (p : Staged) (step : Json) : Reads (Staged × Json) := do
  let key ← textIn step "key"
  match p.network.state.held? key with
  | none => return (p, .null)
  | some h =>
    match ← behaviour h.part (member step "behavior") with
    | .crash _ => throw .breakdown
    | behaviour =>
      let closed := !p.network.isWaiting h.responder.ticket
      let state := p.network.state.complete key h.responder behaviour
      return ({ p with network := { p.network with state }.settle },
        .ofFields [("closed", .bool closed)])

/-- A report with the notes that have been taken. -/
def noted (p : Staged) (report : Json) : Staged × Json :=
  let (notes, state) := p.network.state.takeNotes
  ({ p with network := { p.network with state } },
    p.marked (.ofFields [("result", report), ("log", .array (notes.map note))]))

/-! ## Direct calls -/

/-- The network of a sample service that is called directly. -/
def directNetwork (host : Host) : Network (Dispatcher Stage) Stage :=
  { host, state := {}, providers := [(leading, ⟨sampleDispatcher, none⟩)] }

/-- What a step of direct calls does. -/
def directAction (p : Staged) (step : Json) : Reads (Staged × Json) := do
  let client := p.client leading .image
  match ← textIn step "do" with
  | "bind" => p.cast leading step
  | "start" => return (p.bindDirect leading client, .bool true)
  | "stop" => return (p.stopClient leading client, .bool false)
  | "call" => p.call client (← invocation step) 0
  | "wire" =>
    let (p, ticket) := p.dispatch (← request step)
    return (p, ← p.replyTo ticket)
  | "begin" =>
    let (p, ticket) := p.dispatch (← request step)
    return ({ p with tickets := (← textIn step "id", ticket) :: p.tickets },
      .ofFields [("finished", .bool (p.network.ending? ticket).isSome)])
  | "await" =>
    let ticket ← p.ticketNamed (← textIn step "id")
    match p.network.ending? ticket with
    | some (.crashed _) => return (p, Report.breakdown)
    | _ => return (p, ← p.replyTo ticket)
  | "cancel" =>
    let ticket ← p.ticketNamed (← textIn step "id")
    return ({ p with network := p.network.giveUp ticket }, .null)
  | "complete" => p.complete step
  | "state" =>
    return (p, .ofFields
      [("service", Report.text ServiceType.image.label),
        ("client", Report.text client.service.label), ("held", p.held),
        ("running", .bool (p.network.server? leading).isSome),
        ("started", .bool client.isStarted)])
  | other => throw (.unreadable ("step " ++ other))

/-- **A step of direct calls.** -/
def directStep (p : Staged) (step : Json) : Reads (Staged × Json) := do
  let (p, report) ← p.directAction step
  return p.noted report

/-! ## Calls over a network -/

/-- The play in which a provider is there. -/
def withProvider (p : Staged) (site : String) (fresh : Dispatcher Stage) : Staged :=
  match p.network.provider? site with
  | some _ => p
  | none => { p with network := p.network.putProvider site ⟨fresh, none⟩ }

/-- Sends a request to an address over a channel of its own and reports what came back. -/
def sendTo (p : Staged) (destination : Address) (request : Wire.Request) (pause : Nat) :
    Reads (Staged × Json) :=
  let (network, channel) := p.network.addChannel { destination }
  let (network, call) := network.send channel request pause
  let network := network.letGo channel
  if network.elapsed > patience then throw .stall
  else
    match (network.channels[channel]?).bind (·.outcome? call) with
    | none => throw .stall
    | some (.ok r) => return ({ p with network }, Report.reply r)
    | some (.error e) => return ({ p with network }, Report.transportError e)

/-- What a step does that concerns a provider and a client. -/
def action (service : ServiceType) (site name : String) (p : Staged) (step : Json) :
    Reads (Staged × Json) := do
  let client := p.client name service
  let location := p.location? site
  match ← textIn step "do" with
  | "bind" => p.cast site step
  | "serve" => return p.serve site (← p.setting.urlIn step "url")
  | "stop_server" => return (p.unserve site, .null)
  | "connect" =>
    let url ← match member? step "url" with
      | some _ => p.setting.urlIn step "url"
      | none => pure ((location.map Address.text).getD "")
    match p.startClient name client url with
    | .ok p => return (p, .bool true)
    | .error e => return (p, Report.setupError e)
  | "stop_client" => return (p.stopClient name client, .bool false)
  | "call" => p.call client (← invocation step) (pauseIn step)
  | "wire" =>
    match location with
    | none => throw .breakdown
    | some a => p.sendTo a (← request step) (pauseIn step)
  | "begin" =>
    return (p.begin (← textIn step "id") client (← invocation step) (pauseIn step), .null)
  | "await" => return (p, ← p.result (← p.callNamed (← textIn step "id")))
  | "cancel" =>
    let started ← p.callNamed (← textIn step "id")
    return ({ p with network := p.network.cancel started }, .null)
  | "complete" => p.complete step
  | "state" =>
    return (p, .ofFields
      [("service", Report.text service.label), ("running", .bool location.isSome),
        ("location", Report.optional (fun a => Report.text a.text) location),
        ("started", .bool client.isStarted), ("held", p.held)])
  | other => throw (.unreadable ("step " ++ other))

/-- **A step of calls over a network**, which may name a provider and a client. -/
def step (service : ServiceType) (fresh : Dispatcher Stage) (p : Staged) (step : Json) :
    Reads (Staged × Json) := do
  let site := (← textIn? step "server").getD leading
  let name := (← textIn? step "client").getD leading
  let (p, report) ← action service site name (p.withProvider site fresh) step
  return p.noted report

end Staged

/-- **A play of direct calls.** -/
def directCalls (j : Json) : Reads Json :=
  let setting := Setting.of j
  stepsIn Staged.directStep { setting, network := Staged.directNetwork setting.host } j "steps"

/-- **A play of a service.** -/
def serviceCalls (j : Json) : Reads Json := do
  let (service, fresh) ← serviceIn j
  let setting := Setting.of j
  let network : Network (Dispatcher Stage) Stage := { host := setting.host, state := {} }
  stepsIn (Staged.step service fresh) { setting, network } j "steps"

end Switchboard.Playbook
