import Switchboard.Access.Message
import Switchboard.Dispatch.Call
import Switchboard.Dispatch.Dispatcher

/-!
# The methods of access control

For each method there is the call that a host makes, and the handler of the
other side, both in terms of features and rules. Nothing undefined is sent.
-/

namespace Switchboard.Access

/-- Asks whether a feature may be used. -/
def askForConfirmationMethod : Method Question Answer :=
  .json ⟨.accessControlOut, "AskForConfirmation", 1, true⟩

/-- Tells of a new rule. -/
def notifyChangeMethod : Method Change Unit :=
  .json ⟨.accessControlOut, "NotifyChange", 2, true⟩

/-- The methods of access control. -/
def methods : List MethodKind := [askForConfirmationMethod.kind, notifyChangeMethod.kind]

/-! ## Calls -/

/-- **Asks whether a feature may be used.** -/
def askForConfirmation (feature : Feature) (timeout : UInt32) : Call Question Answer Bool where
  method := askForConfirmationMethod
  request := ⟨feature.toWire, timeout⟩
  accepts request := Feature.ofWire request.feature ≠ .undefined
  interpret response := .ok response.confirmed

/-- **Tells of the new rule for a feature.** -/
def notifyChange (feature : Feature) (rule : Rule) : Call Change Unit Unit where
  method := notifyChangeMethod
  request := ⟨feature.toWire, rule.toWire⟩
  accepts request :=
    Feature.ofWire request.feature ≠ .undefined && Rule.ofWire request.rule ≠ .undefined
  interpret := .ok

/-! ## Handlers -/

variable {σ : Type}

/-- A handler that decides about a feature, given how many seconds that may take. -/
def onAskForConfirmation (h : Handler σ (Feature × UInt32) Bool) : Handler σ Question Answer :=
  h.adapt (fun question => (.ofWire question.feature, question.timeout)) Answer.mk

/-- A handler of new rules. -/
def onNotifyChange (h : Handler σ (Feature × Rule) Unit) : Handler σ Change Unit :=
  h.adapt (fun change => (.ofWire change.feature, .ofWire change.rule)) id

/-- **A handler for each method.** -/
structure Handlers (σ : Type) where
  askForConfirmation : Handler σ (Feature × UInt32) Bool
  notifyChange : Handler σ (Feature × Rule) Unit

/-- **The dispatcher of access control** on which all handlers are bound. -/
def Handlers.dispatcher (h : Handlers σ) : Dispatcher σ :=
  let bare : Dispatcher σ := { service := .accessControlOut, methods }
  let withQuestions :=
    bare.bind askForConfirmationMethod (onAskForConfirmation h.askForConfirmation) rfl
  withQuestions.bind notifyChangeMethod (onNotifyChange h.notifyChange) rfl

end Switchboard.Access
