import Switchboard.Failure
import Switchboard.Service

/-!
# Methods

A service is a list of methods. Client and server know a method by the same
`Method`: a number within the service, whether calls belong to a session, and
how its requests and responses travel as payloads. Packing may refuse a value,
with a reason; unpacking may refuse bytes.
-/

namespace Switchboard

/-- **How the values of a type travel as a payload.** -/
structure Packing (α : Type) where
  pack : α → Except String ByteArray
  unpack? : ByteArray → Option α

/-- Values that travel as JSON, of which none is refused. -/
def Packing.json (α : Type) [JsonCodec α] : Packing α where
  pack a := .ok (encode a).toByteArray
  unpack? payload := decode? payload.data.toList

/-- What tells a method from others. -/
structure MethodKind where
  service : ServiceType
  name : String
  /-- The number of the method, used once in a service. -/
  functionId : UInt32
  /-- Whether a call has to name the session it belongs to. -/
  needsComId : Bool
deriving DecidableEq, Repr, Inhabited

/-- The method with a number in a list of methods. -/
def MethodKind.find? (methods : List MethodKind) (functionId : UInt32) : Option MethodKind :=
  methods.find? fun kind => kind.functionId == functionId

/-- **A method** with its types of requests and responses. -/
structure Method (Req Resp : Type) where
  kind : MethodKind
  request : Packing Req
  response : Packing Resp

namespace Method

variable {Req Resp : Type}

/-- A method whose requests and responses travel as JSON. -/
def json [JsonCodec Req] [JsonCodec Resp] (kind : MethodKind) : Method Req Resp :=
  ⟨kind, .json Req, .json Resp⟩

/-- What is said about a request or response that could not be packed or unpacked. -/
def complaint (action : String) (kind : MethodKind) (part reason : String) : String :=
  "failed to " ++ action ++ " " ++ kind.name ++ " " ++ part ++ ": " ++ reason

/-- The reason given for every payload that could not be unpacked. -/
def unreadable : String := "the payload could not be read"

end Method

end Switchboard
