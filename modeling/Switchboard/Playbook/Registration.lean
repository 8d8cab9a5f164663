import Switchboard.Playbook.Play
import Switchboard.Registry.Service

/-!
# Plays of the registry

The registry is called directly or over a network, and its table can be looked
at and changed from behind.
-/

namespace Switchboard.Playbook

open Rehearsal

/-- A play of a registry. -/
abbrev Registering := Play (Dispatcher Registry.Table) Registry.Table

/-- The network of a registry that announces a version. -/
def registryNetwork (host : Host) (version : String) :
    Network (Dispatcher Registry.Table) Registry.Table :=
  { host, state := {}, providers := [(leading, ⟨Registry.dispatcher version, none⟩)] }

namespace Registering

/-- The play with another table. -/
def withTable (p : Registering) (t : Registry.Table) : Registering :=
  { p with network := { p.network with state := t } }

/-- The services that were found, reported with the location of one. -/
def found (wanted : Option ServiceType) (d : Registry.Discovered) : Json :=
  .ofFields
    [("discovered", Report.discovered d),
      ("location_of", Report.optional Report.text (wanted.bind d.locationOf))]

/-- What a step does. -/
def action (version : String) (p : Registering) (step : Json) : Reads (Registering × Json) := do
  let client := p.client leading .registration
  let direct : Client Route := ⟨.registration, some (.direct leading)⟩
  let table := p.network.state
  let comId ← textIn step "com_id"
  let type := serviceTypeIn step "type"
  let location := textIn step "location"
  match ← textIn step "do" with
  | "start" => return (p.bindDirect leading client, .bool true)
  | "start_url" =>
    let url ← p.setting.urlIn step "url"
    match p.startClient leading client url with
    | .error e => return (p, Report.setupError e)
    | .ok p =>
      return (p, Report.optional (fun a => Report.text a.text) (Address.resolve url).toOption)
  | "stop" => return (p.stopClient leading client, .bool false)
  | "version" =>
    let call := (Registry.exchangeVersion (← textIn step "version")).on ""
    p.call client (call.map Report.text) Limits.retryDelay
  | "register" =>
    let call := (Registry.registerService (← type) (← location)).on comId
    p.call client (call.map nothing) Limits.retryDelay
  | "discover" =>
    let wanted ← (member? step "type").mapM fun _ => type
    p.call client ((Registry.discover.on comId).map (found wanted)) Limits.retryDelay
  | "register_raw" =>
    let entry : Registry.Entry := ⟨.ofInt (← intIn step "wire"), ← location⟩
    p.call direct (((Registry.registerEntry entry).on comId).map nothing) 0
  | "discover_raw" => p.call direct ((Registry.discoverListing.on comId).map Report.jsonText) 0
  | "wire" =>
    let (p, ticket) := p.dispatch (← request step)
    return (p, ← p.replyTo ticket)
  | "unregister" =>
    let type ← type
    return (p.withTable (table.unregister comId type), .bool (table.location? comId type).isSome)
  | "evict" => return (p.withTable (table.evict comId), Report.number (table.count comId))
  | "sessions" => return (p, .array (table.sessions.map Report.text))
  | "own_version" => return (p, Report.text version)
  | "serve" => return p.serve leading (← p.setting.urlIn step "url")
  | "stop_serving" => return (p.unserve leading, .null)
  | "location" =>
    return (p, Report.optional (fun a => Report.text a.text) (p.location? leading))
  | "join" =>
    match p.location? leading with
    | none => throw .breakdown
    | some a =>
      match p.startClient leading client a.text with
      | .error e => return (p, Report.setupError e)
      | .ok p => return (p, .bool true)
  | other => throw (.unreadable ("step " ++ other))

/-- **A step of a play of the registry.** -/
def step (version : String) (p : Registering) (step : Json) : Reads (Registering × Json) := do
  let (p, report) ← action version p step
  return (p, p.marked report)

end Registering

/-- **A play of the registry.** -/
def registryCalls (j : Json) : Reads Json := do
  let version ← textIn j "version"
  let setting := Setting.of j
  stepsIn (Registering.step version) { setting, network := registryNetwork setting.host version } j
    "steps"

/-! ## The table alone -/

/-- What a step tells the table. -/
def commandIn (step : Json) : Reads Registry.Table.Command := do
  let comId ← textIn step "com_id"
  match ← textIn step "do" with
  | "register" => return .register comId (← serviceTypeIn step "type") (← textIn step "location")
  | "discover" => return .discover comId
  | "unregister" => return .unregister comId (← serviceTypeIn step "type")
  | "evict" => return .evict comId
  | "sessions" => return .sessions
  | other => throw (.unreadable ("step " ++ other))

/-- What the table answers, reported. -/
def tableAnswer : Registry.Table.Answer → Json
  | .replaced location => Report.optional Report.text location
  | .removed was => .bool was
  | .evicted count => Report.number count
  | .discovered services => Report.services services
  | .sessions known => .array (known.map Report.text)

/-- A step of a play of a table. -/
def tableStep (t : Registry.Table) (step : Json) : Reads (Registry.Table × Json) := do
  let (answer, t) := t.perform (← commandIn step)
  return (t, tableAnswer answer)

/-- **A play of a table.** -/
def tableSteps (j : Json) : Reads Json := stepsIn tableStep .empty j "steps"

end Switchboard.Playbook
