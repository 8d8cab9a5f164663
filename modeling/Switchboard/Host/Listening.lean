import Switchboard.Error
import Switchboard.Host.Basic
import Switchboard.Limits

/-!
# Listening and dialling at an address

A server listens at an address and clients dial it. On a local socket,
listening first clears away a socket that a dead server has left behind: what
lies at the path is looked at without following a link, and if it is a socket
that cannot be connected to, it is removed. Whatever else is there is left
alone, and then the host itself refuses.

A server remembers the identity of the socket it has made. When it stops, it
removes the socket only if it is still the one that lies at the path.
-/

namespace Switchboard

/-- **The socket a server has made**, by path and identity. -/
structure SocketFile where
  path : String
  identity : Nat
deriving DecidableEq, Repr, Inhabited

/-- Where a server has begun to listen. -/
structure Listening where
  /-- The address under which the server is reached. -/
  location : Address
  endpoint : Endpoint
  socketFile : Option SocketFile
deriving DecidableEq, Repr, Inhabited

namespace Host

/-- What is done with a host, which may fail and leaves the host in some state. -/
abbrev Action (ε α : Type) := ExceptT ε (StateM Host) α

/-- The outcome of an action on a host, and the host afterwards. -/
def perform {ε α : Type} (h : Host) (a : Action ε α) : Except ε α × Host := a.run.run h

/-- Clears away a socket at a path on which nobody listens. -/
def clearStale (path : String) : Action HostError Unit := fun h =>
  match h.files.inspect path with
  | .error .notFound => (.ok (), h)
  | .error e => (.error e, h)
  | .ok (place, .socket _) =>
    match h.openSocket path with
    | .ok _ => (.error .occupied, h)
    | .error _ => (.ok (), h.withFiles (·.remove place))
  | .ok _ => (.ok (), h)

/-- An action whose failure is reported as a failure to listen at an address. -/
def bindError {α : Type} (address : Address) (a : Action HostError α) :
    Action SetupError α := fun h =>
  match a h with
  | (.ok a, h) => (.ok a, h)
  | (.error e, h) => (.error (.bind address.text e.message), h)

/-- An attempt that changes the host only if it succeeds. -/
def attempt {α : Type} (act : Host → Except HostError (α × Host)) : Action HostError α := fun h =>
  match act h with
  | .ok (a, h) => (.ok a, h)
  | .error e => (.error e, h)

/-- **Listens on the socket of an address.** -/
def listenEmbedded (address : Address) : Action SetupError Listening := do
  if address.path = "" then
    throw (.validation "location" (address.text ++ " has no socket path"))
  bindError address (clearStale address.path)
  let identity ← bindError address (attempt fun h => h.makeSocket address.path)
  return ⟨address, .socket identity, some ⟨address.path, identity⟩⟩

/-- **Listens on the port of an address.** The location tells the port that was given. -/
def listenRaw (address : Address) : Action SetupError Listening := do
  let endpoint ← bindError address (attempt fun h => h.openPort address.host address.port)
  match endpoint with
  | .port _ port => return ⟨address.withPort port, endpoint, none⟩
  | .socket _ => return ⟨address, endpoint, none⟩

/-- Listens at an address, as its transport demands. -/
def listenAt (address : Address) : Action SetupError Listening :=
  match address.transport with
  | .embedded => listenEmbedded address
  | .rawSocket => listenRaw address
  | .unknown => throw (.unsupportedTransport address.scheme address.text)

/-- **Listens at a URL.** A URL that is no address, or whose scheme names no transport, is
refused before anything is touched. -/
def listen (url : String) : Action SetupError Listening :=
  match Address.resolve url with
  | .error e => throw e
  | .ok address => listenAt address

/-- Dials the socket of an address. -/
def dialEmbedded (h : Host) (address : Address) : Except String Endpoint :=
  if address.path = "" then .error "no socket path given"
  else (h.openSocket address.path).mapError HostError.message

/-- Dials the port of an address. -/
def dialRaw (h : Host) (address : Address) : Except String Endpoint :=
  if address.port = 0 then .error "no port given"
  else (h.reachPort address.host address.port).mapError HostError.message

/-- Whether an address says where to connect to. If it does not, that is noticed at once. -/
def isDialled (address : Address) : Bool :=
  match address.transport with
  | .embedded => address.path ≠ ""
  | .rawSocket => address.port ≠ 0
  | .unknown => false

/-- **Dials an address**: the endpoint that accepts the connection, or the reason why none
does. Nobody waits longer than `Limits.connectTimeout`. -/
def dial (h : Host) (address : Address) : Except String Endpoint :=
  if isDialled address && Limits.connectTimeout < h.connectDelay then .error "connect timed out"
  else
    match address.transport with
    | .embedded => h.dialEmbedded address
    | .rawSocket => h.dialRaw address
    | .unknown => .error (Transport.unknown.name ++ " transport is not available")

/-- **Removes the socket a server has made**, if it still lies at its path. Tells whether
something was removed. -/
def removeOwned (file : SocketFile) : Action HostError Bool := fun h =>
  match h.files.inspect file.path with
  | .error .notFound => (.ok false, h)
  | .error e => (.error e, h)
  | .ok (place, node) =>
    if node = .socket file.identity then (.ok true, h.withFiles (·.remove place))
    else (.ok false, h)

/-- Stops listening and leaves no socket behind. -/
def release (h : Host) (l : Listening) : Host :=
  let h := match l.socketFile with
    | some file => (h.perform (removeOwned file)).2
    | none => h
  h.stopListening l.endpoint

end Host

end Switchboard
