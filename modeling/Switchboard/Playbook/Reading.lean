import Switchboard.Service
import Switchboard.Wire.Envelope

/-!
# Reading playbooks

A playbook is a rehearsal written down as JSON: what is set up, what is done
step after step. Bytes are written as what they spell, or as an object with one
member that says how they are made,

    {"hex": "00ff"}   {"u32": 7}   {"repeat": ["x", 3]}   {"cat": ["a", "b"]}   {"frame": "body"}

and so are texts, whose bytes have to be UTF-8. What is `null` counts as left
out, and a text that is left out is empty.
-/

namespace Switchboard.Playbook

open Wire (Request Reply)

/-- **Why a playbook could not be played.** -/
inductive Trouble where
  /-- Something is not written as it should be. -/
  | unreadable (what : String)
  /-- Something broke down and took the whole play with it. -/
  | breakdown
  /-- Something was waited for that does not come, or does not come soon enough. -/
  | stall
deriving DecidableEq, Repr, Inhabited

/-- What is made of a playbook. -/
abbrev Reads (α : Type) := Except Trouble α

/-! ## Members and numbers -/

/-- Whether an object has a member, even one that is `null`. -/
def has (j : Json) (name : String) : Bool :=
  match j with
  | .object members => members.any fun m => m.1.string? == some name
  | _ => false

/-- The member of an object, unless it is left out. -/
def member? (j : Json) (name : String) : Option Json :=
  match j with
  | .object members =>
    match members.find? fun m => m.1.string? == some name with
    | some (_, .null) => none
    | some (_, value) => some value
    | none => none
  | _ => none

/-- The member of an object, `null` if it is left out. -/
def member (j : Json) (name : String) : Json := (member? j name).getD .null

/-- The items of an array; nothing else has any. -/
def items : Json → List Json
  | .array items => items
  | _ => []

/-- A whole number. -/
def int (j : Json) : Reads Int :=
  match j with
  | .number n =>
    match n.int? with
    | some i => .ok i
    | none => .error (.unreadable "a whole number")
  | _ => .error (.unreadable "a number")

/-- The whole number in a member. -/
def intIn (j : Json) (name : String) : Reads Int := int (member j name)

/-- The natural number in a member that may be left out. -/
def natIn (j : Json) (name : String) (default : Nat) : Reads Nat :=
  match member? j name with
  | none => .ok default
  | some value => return (← int value).toNat

/-- The word in a member, `0` if it is left out. -/
def wordIn (j : Json) (name : String) : Reads UInt32 := return .ofNat (← natIn j name 0)

/-- A truth value. -/
def flag (j : Json) : Reads Bool :=
  match j.bool? with
  | some b => .ok b
  | none => .error (.unreadable "a truth value")

/-- The truth value in a member that may be left out. -/
def flagIn (j : Json) (name : String) (default : Bool) : Bool :=
  ((member? j name).bind Json.bool?).getD default

/-! ## Bytes and texts -/

/-- The value of a hexadecimal digit. -/
def hexDigit (c : Char) : Nat :=
  if c.isDigit then c.toNat - '0'.toNat else c.toLower.toNat - 'a'.toNat + 10

/-- The bytes that hexadecimal digits spell, two for each. -/
def hexBytes : List Char → List UInt8
  | a :: b :: rest => UInt8.ofNat (16 * hexDigit a + hexDigit b) :: hexBytes rest
  | _ => []

/-- The same bytes several times. -/
def repeated (b : ByteArray) (times : Nat) : ByteArray :=
  match b.data.toList with
  | [byte] => ⟨Array.replicate times byte⟩
  | _ => times.fold (fun _ _ all => all ++ b) .empty

/-- A frame with the given bytes, whatever their number. -/
def framed (b : ByteArray) : ByteArray := (Wire.wordBytes (.ofNat b.size)).toByteArray ++ b

mutual

/-- **The bytes that are written.** -/
def bytes : Json → Reads ByteArray
  | .null => .ok .empty
  | .string text =>
    match text.bytes? with
    | some bs => .ok bs.toByteArray
    | none => .error (.unreadable "a text")
  | .object [(name, value)] =>
    match name.string?, value with
    | some "hex", .string digits => .ok (hexBytes (digits.string?.getD "").toList).toByteArray
    | some "u32", n => return (Wire.wordBytes (.ofNat (← int n).toNat)).toByteArray
    | some "repeat", .array [b, n] => return repeated (← bytes b) (← int n).toNat
    | some "cat", .array parts => allBytes parts
    | some "frame", b => return framed (← bytes b)
    | _, _ => .error (.unreadable "bytes")
  | _ => .error (.unreadable "bytes")

/-- The bytes that are written one after the other. -/
def allBytes : List Json → Reads ByteArray
  | [] => .ok .empty
  | part :: rest => return (← bytes part) ++ (← allBytes rest)

end

/-- The bytes in a member. -/
def bytesIn (j : Json) (name : String) : Reads ByteArray := bytes (member j name)

/-- **The text that is written.** -/
def text (j : Json) : Reads String := do
  match String.fromUTF8? (← bytes j) with
  | some s => return s
  | none => throw (.unreadable "a text")

/-- The text in a member. -/
def textIn (j : Json) (name : String) : Reads String := text (member j name)

/-- The text in a member, if it is not left out. -/
def textIn? (j : Json) (name : String) : Reads (Option String) := (member? j name).mapM text

/-- The element of `all` that is named in a member. -/
def namedIn {α : Type} (all : List α) (nameOf : α → String) (j : Json) (name : String) :
    Reads α := do
  let wanted ← textIn j name
  match Json.named? all nameOf wanted with
  | some a => return a
  | none => throw (.unreadable (name ++ " " ++ wanted))

/-! ## Values -/

/-- The service type in a member. -/
def serviceTypeIn (j : Json) (name : String) : Reads ServiceType :=
  namedIn ServiceType.all ServiceType.name j name

/-- A kind of failure. -/
def failureKind (name : String) : Reads FailureKind :=
  match Json.named? FailureKind.all FailureKind.name name with
  | some kind => .ok kind
  | none => .error (.unreadable name)

/-- A failure, written as its kind and its reason. -/
def callFailure (j : Json) : Reads CallFailure := do
  match items j with
  | [kind, reason] => return .because (← failureKind (← text kind)) (← text reason)
  | _ => throw (.unreadable "a failure")

/-- A status, taken as it is; the one of success if it is left out. -/
def status : Option Json → Reads Wire.Status
  | none => .ok .ok
  | some j => do
    let state ← namedIn CallState.all CallState.name j "state"
    return ⟨⟨state, ← textIn j "message"⟩, ← (← textIn? j "kind").mapM failureKind⟩

/-- A request. -/
def request (j : Json) : Reads Request :=
  return ⟨← textIn? j "com_id", ← wordIn j "function_id", ← bytesIn j "payload"⟩

/-- A reply: of success with a payload, of a failure, or with any status. -/
def reply (j : Json) : Reads Reply := do
  if has j "ok" then return .ok (← bytesIn j "ok")
  else if has j "fail" then return .failed (← callFailure (member j "fail"))
  else return ⟨← status (member? j "status"), ← bytesIn j "payload"⟩

/-! ## Steps -/

/-- **Takes the steps that are written**, one after the other, and reports on each. -/
def steps {σ : Type} (step : σ → Json → Reads (σ × Json)) : σ → List Json → Reads (List Json)
  | _, [] => return []
  | s, j :: rest => do
    let (s, report) ← step s j
    return report :: (← steps step s rest)

/-- The steps in a member, reported as an array. -/
def stepsIn {σ : Type} (step : σ → Json → Reads (σ × Json)) (s : σ) (j : Json) (name : String) :
    Reads Json :=
  return .array (← steps step s (items (member j name)))

end Switchboard.Playbook
