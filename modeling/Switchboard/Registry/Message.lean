import Switchboard.Service

/-!
# What peers and a registry tell each other

A peer tells the registry its version and the places where it serves, and asks
what other peers serve in the same session. A service type travels as its
number, and a number without a service type is no fault: it reads as
`ServiceType.unknown`, so that a registry can hold services this library does
not know.
-/

namespace Switchboard.Registry

/-- The version of a peer, sent in both directions. -/
structure VersionMessage where
  version : String
deriving DecidableEq, Repr, Inhabited

/-- **A service and its location, by number**: what a peer asks to have registered, and
what a registry answers with. -/
structure Entry where
  serviceType : Int32
  location : String
deriving DecidableEq, Repr, Inhabited

/-- What a registry answers when asked about a session. -/
structure Listing where
  communicationId : String
  services : List Entry
deriving DecidableEq, Repr, Inhabited

/-- **The services of a session.** -/
structure Discovered where
  communicationId : String
  services : List ServiceInformation
deriving DecidableEq, Repr, Inhabited

/-! ## From numbers to service types and back -/

/-- The entry for a service. -/
def Entry.ofInformation (s : ServiceInformation) : Entry := ⟨s.serviceType.toWire, s.location⟩

/-- The service of an entry. -/
def Entry.toInformation (e : Entry) : ServiceInformation := ⟨.ofWire e.serviceType, e.location⟩

/-- The services that a listing tells of. -/
def Listing.toDiscovered (l : Listing) : Discovered :=
  ⟨l.communicationId, l.services.map Entry.toInformation⟩

/-- The listing that tells of the services of a session. -/
def Discovered.toListing (d : Discovered) : Listing :=
  ⟨d.communicationId, d.services.map Entry.ofInformation⟩

/-- Where a service of the given type can be reached; of several, the first. -/
def Discovered.locationOf (d : Discovered) (serviceType : ServiceType) : Option String :=
  (d.services.find? fun s => s.serviceType == serviceType).map (·.location)

/-! ## In JSON -/

instance : JsonCodec VersionMessage where
  toJson m := .ofFields [("version", JsonCodec.toJson m.version)]
  ofJson? depth value := do
    let [version] ← Json.fields? ["version"] value | none
    return { version := ← JsonCodec.ofJson? (depth + 1) (← version) }

instance : JsonCodec Entry where
  toJson e := .ofFields
    [("service_type", JsonCodec.toJson e.serviceType), ("location", JsonCodec.toJson e.location)]
  ofJson? depth value := do
    let [serviceType, location] ← Json.fields? ["service_type", "location"] value | none
    return { serviceType := ← JsonCodec.ofJson? (depth + 1) (← serviceType)
             location := ← JsonCodec.ofJson? (depth + 1) (← location) }

instance : JsonCodec Listing where
  toJson l := .ofFields
    [("communication_id", JsonCodec.toJson l.communicationId),
      ("services", .array (l.services.map JsonCodec.toJson))]
  ofJson? depth value := do
    let [communicationId, services] ← Json.fields? ["communication_id", "services"] value | none
    return { communicationId := ← JsonCodec.ofJson? (depth + 1) (← communicationId)
             services :=
               ← Json.orDefault [] (Json.listOf? (JsonCodec.ofJson? (depth + 2))) services }

instance : JsonCodec Discovered where
  toJson d := .ofFields
    [("communication_id", JsonCodec.toJson d.communicationId),
      ("services", .array (d.services.map JsonCodec.toJson))]
  ofJson? depth value := do
    let [communicationId, services] ← Json.fields? ["communication_id", "services"] value | none
    return { communicationId := ← JsonCodec.ofJson? (depth + 1) (← communicationId)
             services := ← Json.listOf? (JsonCodec.ofJson? (depth + 2)) (← services) }

end Switchboard.Registry
