import Switchboard.Host.Listening
import Switchboard.Playbook.Setting
import Switchboard.Server.Basic

/-!
# Plays with sockets

Addresses are listened on and given up, while files come and go around the
sockets. Somebody who only listens does so on the socket of an address whatever
its scheme, unless the scheme is one of a port; a server is particular about
it. A listener can be dropped without being stopped: a server then removes its
socket all the same, somebody who only listens leaves it behind.
-/

namespace Switchboard.Playbook

/-- **Somebody who listens.** -/
inductive Listener where
  | plain (listening : Listening)
  | server (server : Server)

namespace Listener

/-- Where one listens. -/
def location : Listener → Address
  | plain l => l.location
  | server s => s.location

/-- The host after a listener has been dropped. A server removes its socket then, somebody
who only listens leaves it. -/
def drop (h : Host) : Listener → Host
  | plain l => h.stopListening l.endpoint
  | server s => (s.shutdown h).2

end Listener

/-- **A play with sockets.** -/
structure SocketPlay where
  setting : Setting
  host : Host
  /-- Those who listen, under their names. -/
  listeners : List (String × Listener) := []

namespace SocketPlay

/-- The listener with a name. -/
def named? (p : SocketPlay) (id : String) : Option Listener := p.listeners.lookup id

/-- The play without the listener with a name, who is dropped. -/
def drop (p : SocketPlay) (id : String) : SocketPlay :=
  { p with
    host := match p.named? id with
      | some l => l.drop p.host
      | none => p.host
    listeners := p.listeners.filter (·.1 ≠ id) }

/-- The play with a listener under a name, in place of an earlier one, and where that is. -/
def put (p : SocketPlay) (id : String) (l : Listener) : SocketPlay × Json :=
  let p := p.drop id
  ({ p with listeners := (id, l) :: p.listeners, setting := p.setting.see l.location },
    Report.location l.location)

/-- Starts to listen under a name. -/
def start (p : SocketPlay) (id : String) (act : Host → Except SetupError Listener × Host) :
    SocketPlay × Json :=
  match act p.host with
  | (.ok l, host) => { p with host }.put id l
  | (.error e, host) => ({ p with host }, Report.setupError e)

/-- Listens at a URL: on the socket of its address, unless the scheme is one of a port. -/
def listen (url : String) : Host.Action SetupError Listening :=
  match Address.parse url with
  | .error e => throw (.ofMalformed e)
  | .ok a =>
    match a.transport with
    | .rawSocket => Host.listenRaw a
    | _ => Host.listenEmbedded a

/-- Dials an address in the same way. -/
def dial (h : Host) (a : Address) : Except String Endpoint :=
  match a.transport with
  | .rawSocket => h.dialRaw a
  | _ => h.dialEmbedded a

/-- The path in a member, which leads from the directory unless it leads from the root. -/
def pathIn (p : SocketPlay) (j : Json) (name : String) : Reads String := do
  let path ← textIn j name
  return if path.startsWith "/" then path else p.setting.path ++ "/" ++ path

/-- The play after a change to the files, which has to be possible. -/
def changed (p : SocketPlay) (files : Option Files) : Reads (SocketPlay × Json) :=
  match files with
  | some files => .ok ({ p with host := p.host.withFiles fun _ => files }, .null)
  | none => .error .breakdown

/-- What is in the directory, in the order of the names. -/
def listing (p : SocketPlay) : Json :=
  let found := (p.host.files.list p.setting.directory).mergeSort fun a b => a.1 ≤ b.1
  .array (found.map fun (name, node) =>
    let what := match node with
      | .socket _ => "socket"
      | .directory => "dir"
      | _ => "file"
    .array [Report.text name, Report.text what])

/-- Removes a socket as its owner, and reports whether it was still there. -/
def removeOwned (p : SocketPlay) (file : SocketFile) : SocketPlay × Json :=
  match p.host.perform (Host.removeOwned file) with
  | (.ok removed, host) =>
    ({ p with host }, .ofFields [("removed", .bool removed), ("path", Report.text file.path)])
  | (.error e, host) =>
    ({ p with host },
      .ofFields [("error", Report.text "Io"), ("message", Report.message e.message)])

/-- What a step does. -/
def action (p : SocketPlay) (step : Json) : Reads (SocketPlay × Json) := do
  let id ← textIn step "id"
  let url := p.setting.urlIn step "url"
  let files := p.host.files
  match ← textIn step "do" with
  | "bind" =>
    let url ← url
    return p.start id fun h =>
      let (r, h) := h.perform (listen url)
      (r.map .plain, h)
  | "serve" =>
    let url ← url
    return p.start id fun h =>
      let (r, h) := h.perform (Server.start url)
      (r.map .server, h)
  | "connect" =>
    match Address.parse? (← url) with
    | none => throw .breakdown
    | some a =>
      match dial p.host a with
      | .ok _ => return (p, Report.text "connected")
      | .error reason => return (p, Report.transportError (.connect a.text reason))
  | "unlisten" =>
    match p.named? id with
    | some (.plain l) => return ({ p with host := p.host.stopListening l.endpoint }, .null)
    | _ => return (p, .null)
  | "remove" =>
    match p.named? id with
    | some (.plain { socketFile := some file, .. }) => return p.removeOwned file
    | _ => return (p, .null)
  | "shutdown" =>
    match p.named? id with
    | some (.server s) =>
      let (s, host) := s.shutdown p.host
      let listeners := (id, .server s) :: p.listeners.filter (·.1 ≠ id)
      return ({ p with host, listeners }, .null)
    | _ => return (p.drop id, .null)
  | "drop" => return (p.drop id, .null)
  | "file" => p.changed (files.write? (← p.pathIn step "name"))
  | "mkdir" => p.changed (files.makeDirectory? (← p.pathIn step "name"))
  | "rename" => p.changed (files.rename? (← p.pathIn step "name") (← p.pathIn step "to"))
  | "ls" => return (p, p.listing)
  | other => throw (.unreadable ("step " ++ other))

/-- **A step of a play with sockets.** -/
def step (p : SocketPlay) (step : Json) : Reads (SocketPlay × Json) := do
  let (p, report) ← p.action step
  return (p, p.setting.markedIn report)

end SocketPlay

/-- **A play with sockets.** -/
def socketSteps (j : Json) : Reads Json :=
  let setting := Setting.of j
  stepsIn SocketPlay.step { setting, host := setting.host } j "steps"

end Switchboard.Playbook
