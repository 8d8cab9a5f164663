import Switchboard.Host.Files

/-!
# Hosts

A host has files, sockets in them, and TCP ports. Listening on a socket and
the socket itself are two things: a socket stays where it is, or wherever it is
moved, when nobody listens any more, and can be removed while somebody does.
-/

namespace Switchboard

/-- What connections are accepted on. -/
inductive Endpoint where
  | socket (identity : Nat)
  | port (host : String) (port : UInt16)
deriving DecidableEq, Repr, Inhabited

/-- **The state of a host** as far as servers and clients can see it. -/
structure Host where
  files : Files := {}
  /-- The identity of the next socket. -/
  nextIdentity : Nat := 0
  /-- The port that is given next to a server that does not ask for one. -/
  nextPort : UInt16 := 49152
  /-- Where somebody listens. -/
  listening : List Endpoint := []
  /-- Whether TCP connections find a way at all. -/
  isConnected : Bool := true
  /-- The names of hosts that are known here, and the addresses they stand for. -/
  names : List (String × String) := [("localhost", "127.0.0.1")]
  /-- The addresses under which others know this host. -/
  addresses : List String := []
  /-- How long it takes to connect to somebody, in milliseconds. -/
  connectDelay : Nat := 0
deriving DecidableEq, Repr, Inhabited

namespace Host

/-- The host after a change to its files. -/
def withFiles (h : Host) (change : Files → Files) : Host := { h with files := change h.files }

/-- Nobody listens at an endpoint any more. -/
def stopListening (h : Host) (endpoint : Endpoint) : Host :=
  { h with listening := h.listening.filter (· ≠ endpoint) }

/-! ## Sockets -/

/-- The longest path of a socket, in bytes. -/
def maxPath : Nat := 107

/-- **The socket at a path that can be connected to**, links followed. -/
def openSocket (h : Host) (path : String) : Except HostError Endpoint :=
  if maxPath < path.utf8ByteSize then .error .pathTooLong
  else
    match h.files.walk path with
    | .error e => .error e
    | .ok place =>
      match h.files.node? place with
      | some (.socket identity) =>
        if Endpoint.socket identity ∈ h.listening then .ok (.socket identity)
        else .error .connectionRefused
      | _ => .error .connectionRefused

/-- **Makes a socket at a path and listens on it.** -/
def makeSocket (h : Host) (path : String) : Except HostError (Nat × Host) :=
  if maxPath < path.utf8ByteSize then .error .pathTooLong
  else
    match h.files.vacancy path with
    | .error e => .error e
    | .ok place =>
      let identity := h.nextIdentity
      .ok (identity,
        { h with
          files := h.files.put place (.socket identity)
          nextIdentity := identity + 1
          listening := .socket identity :: h.listening })

/-! ## Ports -/

/-- The address by which every host knows itself. -/
def loopback : String := "127.0.0.1"

/-- The address that the name of a host stands for. The host itself needs no name, and what is
written as an address stands for itself. -/
def resolve (h : Host) (name : String) : Except HostError String :=
  if name = "" then .ok loopback
  else
    match h.names.lookup name with
    | some address => .ok address
    | none =>
      if name.toList.all fun c => c.isDigit || c == '.' then .ok name else .error .unknownHost

/-- **Whether servers can listen at an address**: at all addresses of the host at once, at one of
those by which it knows itself, or at one of those under which others know it. -/
def isLocal (h : Host) (address : String) : Bool :=
  address == "0.0.0.0" || address.startsWith "127." || h.addresses.contains address

/-- Whether an endpoint leaves no room for a port at an address. -/
def clashes (address : String) (port : UInt16) : Endpoint → Bool
  | .socket _ => false
  | .port other taken =>
    taken == port && (other == address || other == "0.0.0.0" || address == "0.0.0.0")

/-- **Listens on a port**, on the next free one if the port is `0`. -/
def openPort (h : Host) (name : String) (port : UInt16) : Except HostError (Endpoint × Host) :=
  match h.resolve name with
  | .error e => .error e
  | .ok address =>
    if h.isLocal address = false then .error .addressNotLocal
    else
      let given := if port = 0 then h.nextPort else port
      if h.listening.any (clashes address given) then .error .addressInUse
      else
        .ok (.port address given,
          { h with
            nextPort := if port = 0 then h.nextPort + 1 else h.nextPort
            listening := .port address given :: h.listening })

/-- The endpoint that accepts connections to a port. -/
def reachPort (h : Host) (name : String) (port : UInt16) : Except HostError Endpoint :=
  match h.resolve name with
  | .error e => .error e
  | .ok address =>
    if h.isConnected = false then .error .unreachable
    else
      match h.listening.find? (clashes address port) with
      | some endpoint => .ok endpoint
      | none => .error .connectionRefused

end Host

end Switchboard
