import Switchboard.Dispatch.Backend
import Switchboard.Rehearsal.Part

/-!
# Playing parts

A handler in a rehearsal does what its script says: it answers, keeps its
responder under a key, gives it up, or breaks down. The stage records that it
was called, before anything else, and keeps the responders. A kept responder
can be used later; when another is put under its key, it is given up.
-/

namespace Switchboard.Rehearsal

/-- **What a handler does** with its responder. -/
inductive Behaviour (α : Type) where
  | answer (result : CallResult α)
  | hold (key : String)
  | drop
  | crash (reason : Option String)
deriving Inhabited

/-- A script: what to do with a call. -/
abbrev Script (part : Part) :=
  (comId : String) → part.Request → Responder part.Response → Behaviour part.Response

/-- The record of a call that a handler was given. -/
structure Note where
  part : Part
  comId : String
  request : part.Request

/-- A responder that has been kept. -/
structure Held where
  part : Part
  responder : Responder part.Response

/-- **The state of a rehearsal.** -/
structure Stage where
  /-- What has been recorded, the first call first. -/
  notes : List Note := []
  /-- The responders that are kept, by key. -/
  held : List (String × Held) := []
  /-- The results of calls whose responders were kept, since they were last asked for. -/
  results : List (Nat × CallResult ByteArray) := []
deriving Inhabited

namespace Stage

/-- The stage with a call recorded. -/
def record (s : Stage) (note : Note) : Stage := { s with notes := s.notes ++ [note] }

/-- The stage with a call answered late. -/
def settle (s : Stage) (ticket : Nat) (result : CallResult ByteArray) : Stage :=
  { s with results := s.results ++ [(ticket, result)] }

/-- The responder kept under a key. -/
def held? (s : Stage) (key : String) : Option Held := s.held.lookup key

/-- The stage without what is kept under a key. -/
def remove (s : Stage) (key : String) : Stage := { s with held := s.held.filter (·.1 ≠ key) }

/-- **Keeps a responder under a key** and gives up the one that was there. -/
def keep (s : Stage) (key : String) (held : Held) : Stage :=
  let s := match s.held? key with
    | none => s
    | some earlier => s.settle earlier.responder.ticket notSent
  { s.remove key with held := (key, held) :: (s.remove key).held }

/-- **The handler that plays a part** from a script. -/
def play (part : Part) (script : Script part) : Handler Stage part.Request part.Response :=
  fun comId request responder s =>
    let s := s.record ⟨part, comId, request⟩
    match script comId request responder with
    | .answer result => (s, .answered result)
    | .hold key => (s.keep key ⟨part, responder⟩, .kept)
    | .drop => (s, .dropped)
    | .crash reason => (s, .crashed reason)

/-- **Uses a responder that is kept under a key.** It may be kept again, under any key. -/
def complete {part : Part} (s : Stage) (key : String) (responder : Responder part.Response)
    (behaviour : Behaviour part.Response) : Stage :=
  let s := s.remove key
  match behaviour with
  | .answer result => s.settle responder.ticket (responder.answer result)
  | .hold other => s.keep other ⟨part, responder⟩
  | .drop => s.settle responder.ticket notSent
  | .crash _ => s.settle responder.ticket notSent

/-- The stage with its notes read and cleared. -/
def takeNotes (s : Stage) : List Note × Stage := (s.notes, { s with notes := [] })

end Stage

instance : Backend (Dispatcher Stage) Stage where
  handle := Dispatcher.handle
  late s := (s.results, { s with results := [] })

/-! ## Some scripts -/

/-- Does the same with every call. -/
def Script.always {part : Part} (behaviour : Behaviour part.Response) : Script part :=
  fun _ _ _ => behaviour

/-- Greets by name and session. -/
def Script.hello : Script .greet := fun comId name _ =>
  .answer (.ok ("hello " ++ name ++ " in " ++ comId))

/-- Answers with as many letters as the name has bytes. -/
def Script.length : Script .greet := fun _ name _ =>
  .answer (.ok (String.ofList (List.replicate name.utf8ByteSize 'x')))

/-- Answers with a description of the responder. -/
def Script.describe : Script .greet := fun _ _ responder =>
  .answer (.ok ("Responder \x7b method: " ++ Text.quoted responder.method.name ++ ", .. \x7d"))

end Switchboard.Rehearsal
