import Switchboard.Dispatch.Call
import Switchboard.Dispatch.Handler

/-!
# A sample service

A small service on which every feature of dispatch can be tried out: methods
with and without a session, a method whose numbers may not be negative, so
that packing can fail, one that can be bound but is not offered, and one that
belongs to another service.
-/

namespace Switchboard.Sample

/-- Whom to greet. -/
structure Greeting where
  name : String
deriving DecidableEq, Repr, Inhabited

instance : JsonCodec Greeting where
  toJson g := .ofFields [("name", JsonCodec.toJson g.name)]
  ofJson? depth value := do
    let [name] ← Json.fields? ["name"] value | none
    return { name := ← JsonCodec.ofJson? (depth + 1) (← name) }

/-- Numbers that travel as JSON unless they are negative. -/
def notNegative : Packing Int64 where
  pack n := if n < 0 then .error "negative value" else (Packing.json Int64).pack n
  unpack? := (Packing.json Int64).unpack?

/-- Greets somebody. -/
def greetMethod : Method Greeting String := .json ⟨.image, "Greet", 1, true⟩

/-- Tells a version. -/
def versionMethod : Method Unit String := .json ⟨.image, "Version", 2, false⟩

/-- Answers a number with a number. -/
def oddMethod : Method Int64 Int64 := ⟨⟨.image, "Odd", 3, true⟩, notNegative, notNegative⟩

/-- Does nothing, and is not offered. -/
def hiddenMethod : Method Unit Unit := .json ⟨.image, "Hidden", 9, false⟩

/-- A method of another service. -/
def foreignMethod : Method Unit Unit := .json ⟨.input, "Foreign", 1, false⟩

/-- The methods that are offered. -/
def methods : List MethodKind := [greetMethod.kind, versionMethod.kind, oddMethod.kind]

/-! ## Calls -/

/-- Asks to greet somebody. -/
def greet (name : String) : Call Greeting String String where
  method := greetMethod
  request := ⟨name⟩
  interpret := .ok

/-- Asks for the version. -/
def version : Call Unit String String where
  method := versionMethod
  request := ()
  interpret := .ok

/-- Asks for the version and throws it away. -/
def versionDiscard : Call Unit String Unit where
  method := versionMethod
  request := ()
  interpret _ := .ok ()

/-- Sends a number for another. -/
def odd (value : Int64) : Call Int64 Int64 Int64 where
  method := oddMethod
  request := value
  interpret := .ok

/-- Sends a number other than `0` and wants a flag, `0` or `1`. -/
def oddFlag (value : Int64) : Call Int64 Int64 Bool where
  method := oddMethod
  request := value
  accepts request := request ≠ 0
  interpret response :=
    if response = 0 then .ok false
    else if response = 1 then .ok true
    else .error (.of .invalidResponseValue)

/-- Calls the method that is not offered. -/
def hidden : Call Unit Unit Unit where
  method := hiddenMethod
  request := ()
  interpret := .ok

end Switchboard.Sample
