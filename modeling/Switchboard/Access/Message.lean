import Switchboard.Json.Codec

/-!
# What is said about access to features

A host asks whether a feature may be used, and tells of changes in the rule for
one. Features and rules travel as numbers. A receiver takes a number it does
not know as `undefined` and leaves it to its handler what to make of it; a
sender refuses to send `undefined`.
-/

namespace Switchboard.Access

/-- **A feature that is not open to everybody.** -/
inductive Feature where
  | fileTransfer
  | allowPartnerViewDesktop
  | remoteControl
  | undefined
deriving DecidableEq, Repr, Inhabited

namespace Feature

/-- All features. -/
def all : List Feature := [fileTransfer, allowPartnerViewDesktop, remoteControl, undefined]

/-- The number of a feature on the wire. -/
def toWire : Feature → Int32
  | fileTransfer => 0
  | allowPartnerViewDesktop => 1
  | remoteControl => 2
  | undefined => -1

/-- The feature with a number, `undefined` if there is none. -/
def ofWire (n : Int32) : Feature := (all.find? fun f => f.toWire == n).getD undefined

/-- The name of a feature in JSON. -/
def name : Feature → String
  | fileTransfer => "FileTransfer"
  | allowPartnerViewDesktop => "AllowPartnerViewDesktop"
  | remoteControl => "RemoteControl"
  | undefined => "Undefined"

end Feature

/-- **Who may use a feature.** -/
inductive Rule where
  | allowed
  | afterConfirmation
  | denied
  | undefined
deriving DecidableEq, Repr, Inhabited

namespace Rule

/-- All rules. -/
def all : List Rule := [allowed, afterConfirmation, denied, undefined]

/-- The number of a rule on the wire. -/
def toWire : Rule → Int32
  | allowed => 0
  | afterConfirmation => 1
  | denied => 2
  | undefined => -1

/-- The rule with a number, `undefined` if there is none. -/
def ofWire (n : Int32) : Rule := (all.find? fun r => r.toWire == n).getD undefined

/-- The name of a rule in JSON. -/
def name : Rule → String
  | allowed => "Allowed"
  | afterConfirmation => "AfterConfirmation"
  | denied => "Denied"
  | undefined => "Undefined"

end Rule

/-- The question whether a feature may be used. -/
structure Question where
  feature : Int32
  /-- How many seconds the user has to decide, for whoever asks the user. -/
  timeout : UInt32
deriving DecidableEq, Repr, Inhabited

/-- The answer to a question. -/
structure Answer where
  confirmed : Bool
deriving DecidableEq, Repr, Inhabited

/-- The news that a feature has a new rule. -/
structure Change where
  feature : Int32
  rule : Int32
deriving DecidableEq, Repr, Inhabited

/-! ## In JSON -/

instance : JsonCodec Feature where
  toJson f := .ofString f.name
  ofJson? _ := Json.enum? Feature.all Feature.name

instance : JsonCodec Rule where
  toJson r := .ofString r.name
  ofJson? _ := Json.enum? Rule.all Rule.name

instance : JsonCodec Question where
  toJson q := .ofFields
    [("feature", JsonCodec.toJson q.feature), ("timeout", JsonCodec.toJson q.timeout)]
  ofJson? depth value := do
    let [feature, timeout] ← Json.fields? ["feature", "timeout"] value | none
    return { feature := ← JsonCodec.ofJson? (depth + 1) (← feature)
             timeout := ← JsonCodec.ofJson? (depth + 1) (← timeout) }

instance : JsonCodec Answer where
  toJson a := .ofFields [("confirmed", JsonCodec.toJson a.confirmed)]
  ofJson? depth value := do
    let [confirmed] ← Json.fields? ["confirmed"] value | none
    return { confirmed := ← JsonCodec.ofJson? (depth + 1) (← confirmed) }

instance : JsonCodec Change where
  toJson c := .ofFields
    [("feature", JsonCodec.toJson c.feature), ("access", JsonCodec.toJson c.rule)]
  ofJson? depth value := do
    let [feature, rule] ← Json.fields? ["feature", "access"] value | none
    return { feature := ← JsonCodec.ofJson? (depth + 1) (← feature)
             rule := ← JsonCodec.ofJson? (depth + 1) (← rule) }

end Switchboard.Access
