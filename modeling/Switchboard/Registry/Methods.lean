import Switchboard.Dispatch.Call
import Switchboard.Dispatch.Dispatcher
import Switchboard.Registry.Message

/-!
# The methods of a registry

For each method there is the call that a peer makes, in terms of sessions,
service types and locations, and the handler that a registry binds, in the same
terms. Peers do not register services of unknown type or without location.
-/

namespace Switchboard.Registry

/-- Peer and registry tell each other their versions. -/
def exchangeVersionMethod : Method VersionMessage VersionMessage :=
  .json ⟨.registration, "ExchangeVersion", 1, false⟩

/-- A peer tells where it serves. -/
def registerServiceMethod : Method Entry Unit :=
  .json ⟨.registration, "RegisterService", 2, true⟩

/-- A peer asks what is served. -/
def discoverMethod : Method Unit Listing :=
  .json ⟨.registration, "Discover", 3, true⟩

/-- The methods of a registry. -/
def methods : List MethodKind :=
  [exchangeVersionMethod.kind, registerServiceMethod.kind, discoverMethod.kind]

/-! ## Calls -/

/-- Tells the own version and asks for that of the registry. -/
def exchangeVersion (version : String) : Call VersionMessage VersionMessage String where
  method := exchangeVersionMethod
  request := ⟨version⟩
  interpret response := .ok response.version

/-- Whether an entry has a known type and a location. -/
def Entry.isComplete (e : Entry) : Bool :=
  e.location ≠ "" && ServiceType.ofWire e.serviceType ≠ .unknown

/-- **Registers a service** at a location, in place of an earlier one. -/
def registerService (serviceType : ServiceType) (location : String) : Call Entry Unit Unit where
  method := registerServiceMethod
  request := ⟨serviceType.toWire, location⟩
  accepts := Entry.isComplete
  interpret _ := .ok ()

/-- **Asks for the services of a session.** -/
def discover : Call Unit Listing Discovered where
  method := discoverMethod
  request := ()
  interpret response := .ok response.toDiscovered

/-! ## Calls by number

The same calls in terms of what travels, without any check. -/

/-- Registers an entry, whatever it says. -/
def registerEntry (entry : Entry) : Call Entry Unit Unit where
  method := registerServiceMethod
  request := entry
  interpret := .ok

/-- Asks for the services of a session and takes the answer as it comes. -/
def discoverListing : Call Unit Listing Listing where
  method := discoverMethod
  request := ()
  interpret := .ok

/-! ## Handlers -/

variable {σ : Type}

/-- A handler of versions. -/
def onExchangeVersion (h : Handler σ String String) : Handler σ VersionMessage VersionMessage :=
  h.adapt VersionMessage.version VersionMessage.mk

/-- A handler of registrations. -/
def onRegisterService (h : Handler σ ServiceInformation Unit) : Handler σ Entry Unit :=
  h.adapt Entry.toInformation id

/-- A handler of questions about a session. -/
def onDiscover (h : Handler σ Unit Discovered) : Handler σ Unit Listing :=
  h.adapt id Discovered.toListing

/-- **A handler for each method.** -/
structure Handlers (σ : Type) where
  exchangeVersion : Handler σ String String
  registerService : Handler σ ServiceInformation Unit
  discover : Handler σ Unit Discovered

/-- **The dispatcher of registrations** on which all handlers are bound. -/
def Handlers.dispatcher (h : Handlers σ) : Dispatcher σ :=
  let bare : Dispatcher σ := { service := .registration, methods }
  let withVersion := bare.bind exchangeVersionMethod (onExchangeVersion h.exchangeVersion) rfl
  let withEntries :=
    withVersion.bind registerServiceMethod (onRegisterService h.registerService) rfl
  withEntries.bind discoverMethod (onDiscover h.discover) rfl

end Switchboard.Registry
