import Switchboard.Json.Magnitude
import Switchboard.Json.Printer
import Switchboard.Json.Reader

/-!
# Typed values as JSON

`JsonCodec α` says how a type is written as a JSON value and which values are
read as one of its elements. Reading is wider than writing: a structure is
written as an object with its fields in order, and read from an object in any
order and with other members besides, or from an array of its fields. A member
that belongs to no field is skipped, but its name has to be a text.

`encode` and `decode?` are the two directions between a type and bytes.
-/

namespace Switchboard

/-- **The JSON form of a type.** -/
class JsonCodec (α : Type) where
  /-- The value that an element is written as. -/
  toJson : α → Json
  /-- The element that a value is read as, given how many arrays and objects enclose it. -/
  ofJson? : (depth : Nat) → Json → Option α

/-- The bytes an element is written as. -/
def encode {α : Type} [JsonCodec α] (a : α) : List UInt8 := (JsonCodec.toJson a).render

/-- The element that bytes are read as. -/
def decode? {α : Type} [JsonCodec α] (s : List UInt8) : Option α := do
  JsonCodec.ofJson? 0 (← Json.parse? s)

namespace Json

/-! ## Structures -/

/-- The members of an object, their names read as texts. -/
def namedMembers? (members : List (Text × Json)) : Option (List (String × Json)) :=
  members.mapM fun (name, value) => return (← name.string?, value)

/-- **The fields of a structure**, in the order of `names`: in an object each is found
by its name, which must not occur twice, and in an array by its place. -/
def fields? (names : List String) : Json → Option (List (Option Json))
  | .object members => do
    let members ← namedMembers? members
    if names.all fun name => (members.filter (·.1 == name)).length ≤ 1 then
      some (names.map fun name => members.lookup name)
    else none
  | .array items =>
    if items.length ≤ names.length then
      some (items.map some ++ List.replicate (names.length - items.length) none)
    else none
  | _ => none

/-- A field that may be left out, and then has the value `default`. -/
def orDefault {α : Type} (default : α) (read : Json → Option α) : Option Json → Option α
  | none => some default
  | some value => read value

/-- A value that may be `null`. -/
def orNull? {α : Type} (read : Json → Option α) : Json → Option (Option α)
  | .null => some none
  | value => (read value).map some

/-- The elements of an array. -/
def listOf? {α : Type} (read : Json → Option α) : Json → Option (List α)
  | .array items => items.mapM read
  | _ => none

/-! ## Enumerations -/

/-- The element of `all` with the given name. -/
def named? {α : Type} (all : List α) (name : α → String) (s : String) : Option α :=
  all.find? fun a => name a == s

/-- An element of an enumeration, from its name or from an object that maps its name to
`null`. -/
def enum? {α : Type} (all : List α) (name : α → String) : Json → Option α
  | .string text => do named? all name (← text.string?)
  | .object [(text, .null)] => do named? all name (← text.string?)
  | _ => none

/-! ## Values kept for later -/

/-- The deepest nesting of a value that is kept for later. -/
def maxDepth : Nat := 127

mutual

/-- **Whether a value can be kept for later**, given how many arrays and objects enclose
it: unlike a skipped value its texts must be texts, its numbers finite and its nesting
bounded. -/
def isKept (depth : Nat) : Json → Bool
  | .null => true
  | .bool _ => true
  | .number n => n.isFinite
  | .string text => text.string?.isSome
  | .array items => depth < maxDepth && areKept (depth + 1) items
  | .object members => depth < maxDepth && membersAreKept (depth + 1) members

/-- Whether the items of an array can be kept. -/
def areKept (depth : Nat) : List Json → Bool
  | [] => true
  | item :: rest => isKept depth item && areKept depth rest

/-- Whether the members of an object can be kept. -/
def membersAreKept (depth : Nat) : List (Text × Json) → Bool
  | [] => true
  | (name, value) :: rest => name.string?.isSome && isKept depth value && membersAreKept depth rest

end

/-- An element of an enumeration from a value that was kept: here the name may also be
mapped to an empty object. -/
def keptEnum? {α : Type} (all : List α) (name : α → String) : Json → Option α
  | .object [(text, .object [])] => do named? all name (← text.string?)
  | value => enum? all name value

end Json

/-! ## Plain types -/

instance : JsonCodec Unit where
  toJson _ := .null
  ofJson? _
    | .null => some ()
    | _ => none

instance : JsonCodec Bool where
  toJson := .bool
  ofJson? _ := Json.bool?

instance : JsonCodec String where
  toJson := .ofString
  ofJson? _ := Json.string?

instance : JsonCodec UInt16 where
  toJson n := .ofInt n.toNat
  ofJson? _ value := (value.intBetween? 0 (UInt16.size - 1)).map fun i => UInt16.ofNat i.toNat

instance : JsonCodec UInt32 where
  toJson n := .ofInt n.toNat
  ofJson? _ value := (value.intBetween? 0 (UInt32.size - 1)).map fun i => UInt32.ofNat i.toNat

instance : JsonCodec UInt64 where
  toJson n := .ofInt n.toNat
  ofJson? _ value := (value.intBetween? 0 (UInt64.size - 1)).map fun i => UInt64.ofNat i.toNat

instance : JsonCodec Int32 where
  toJson n := .ofInt n.toInt
  ofJson? _ value := (value.intBetween? Int32.minValue.toInt Int32.maxValue.toInt).map Int32.ofInt

instance : JsonCodec Int64 where
  toJson n := .ofInt n.toInt
  ofJson? _ value := (value.intBetween? Int64.minValue.toInt Int64.maxValue.toInt).map Int64.ofInt

end Switchboard
