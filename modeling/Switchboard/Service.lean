import Switchboard.Json.Codec

/-!
# Service types

A peer offers services of certain types, and a registry records by type where
they can be reached. On the wire a service type is its place in the list of
all types; a number beyond the list is a type this library does not know yet
and reads as `unknown`. The order of the list is also the order in which a
registry reports its entries.
-/

namespace Switchboard

/-- **The type of a service.** -/
inductive ServiceType where
  | unknown
  | registration
  | image
  | imageNotification
  | connectivity
  | input
  | sessionControl
  | sessionStatus
  | accessControlIn
  | accessControlOut
  | instantSupport
  | viewGeometry
  | instantSupportNotification
  | chatIn
  | chatOut
  | connectionConfirmationRequest
  | connectionConfirmationResponse
deriving DecidableEq, Repr, Inhabited

namespace ServiceType

/-- All service types, in order. -/
def all : List ServiceType :=
  [unknown, registration, image, imageNotification, connectivity, input, sessionControl,
    sessionStatus, accessControlIn, accessControlOut, instantSupport, viewGeometry,
    instantSupportNotification, chatIn, chatOut, connectionConfirmationRequest,
    connectionConfirmationResponse]

/-- The place of a service type among all of them. -/
def rank (t : ServiceType) : Nat := all.idxOf t

/-- The number of a service type on the wire. -/
def toWire (t : ServiceType) : Int32 := Int32.ofNat t.rank

/-- The service type with a number, if there is one. -/
def ofWire? (n : Int32) : Option ServiceType := all.find? fun t => t.toWire == n

/-- The service type with a number, `unknown` if there is none. -/
def ofWire (n : Int32) : ServiceType := (ofWire? n).getD unknown

/-- The name of a service type in messages. -/
def label : ServiceType → String
  | unknown => "unknown"
  | registration => "registration"
  | image => "image"
  | imageNotification => "image_notification"
  | connectivity => "connectivity"
  | input => "input"
  | sessionControl => "session_control"
  | sessionStatus => "session_status"
  | accessControlIn => "access_control_in"
  | accessControlOut => "access_control_out"
  | instantSupport => "instant_support"
  | viewGeometry => "view_geometry"
  | instantSupportNotification => "instant_support_notification"
  | chatIn => "chat_in"
  | chatOut => "chat_out"
  | connectionConfirmationRequest => "connection_confirmation_request"
  | connectionConfirmationResponse => "connection_confirmation_response"

/-- The name of a service type in JSON. -/
def name : ServiceType → String
  | unknown => "Unknown"
  | registration => "Registration"
  | image => "Image"
  | imageNotification => "ImageNotification"
  | connectivity => "Connectivity"
  | input => "Input"
  | sessionControl => "SessionControl"
  | sessionStatus => "SessionStatus"
  | accessControlIn => "AccessControlIn"
  | accessControlOut => "AccessControlOut"
  | instantSupport => "InstantSupport"
  | viewGeometry => "ViewGeometry"
  | instantSupportNotification => "InstantSupportNotification"
  | chatIn => "ChatIn"
  | chatOut => "ChatOut"
  | connectionConfirmationRequest => "ConnectionConfirmationRequest"
  | connectionConfirmationResponse => "ConnectionConfirmationResponse"

end ServiceType

instance : JsonCodec ServiceType where
  toJson t := .ofString t.name
  ofJson? _ := Json.enum? ServiceType.all ServiceType.name

/-- Where a service of a given type can be reached. -/
structure ServiceInformation where
  serviceType : ServiceType
  location : String
deriving DecidableEq, Repr, Inhabited

instance : JsonCodec ServiceInformation where
  toJson s := .ofFields
    [("service_type", JsonCodec.toJson s.serviceType), ("location", JsonCodec.toJson s.location)]
  ofJson? depth value := do
    let [serviceType, location] ← Json.fields? ["service_type", "location"] value | none
    return { serviceType := ← JsonCodec.ofJson? (depth + 1) (← serviceType)
             location := ← JsonCodec.ofJson? (depth + 1) (← location) }

end Switchboard
