import Switchboard.Access.Message
import Switchboard.Proofs.Json.Codec

/-!
# What is said about access arrives

Questions, answers and changes survive their JSON form. Features and rules travel
as numbers, and the number of each is read as itself – that of the undefined ones
too, which a sender refuses to send.
-/

namespace Switchboard.Access

/-! ## Back and forth -/

@[simp] theorem Feature.ofWire_toWire (f : Feature) : ofWire f.toWire = f := by cases f <;> decide

@[simp] theorem Rule.ofWire_toWire (r : Rule) : ofWire r.toWire = r := by cases r <;> decide

/-! ## In JSON -/

instance : LawfulJsonCodec Feature :=
  .ofNames Feature.all Feature.name (fun _ => rfl) (fun _ _ => rfl) (by decide)
    fun f => by cases f <;> decide

instance : LawfulJsonCodec Rule :=
  .ofNames Rule.all Rule.name (fun _ => rfl) (fun _ _ => rfl) (by decide)
    fun r => by cases r <;> decide

/-- The fields of a question. -/
def Question.record : JsonRecord Question where
  names := ["feature", "timeout"]
  values q := [JsonCodec.toJson q.feature, JsonCodec.toJson q.timeout]
  read := _
  ofJson?_eq _ _ := rfl

instance : LawfulJsonCodec Question := Question.record.lawful

/-- The fields of an answer. -/
def Answer.record : JsonRecord Answer where
  names := ["confirmed"]
  values a := [JsonCodec.toJson a.confirmed]
  read := _
  ofJson?_eq _ _ := rfl

instance : LawfulJsonCodec Answer := Answer.record.lawful

/-- The fields of a change. -/
def Change.record : JsonRecord Change where
  names := ["feature", "access"]
  values c := [JsonCodec.toJson c.feature, JsonCodec.toJson c.rule]
  read := _
  ofJson?_eq _ _ := rfl

instance : LawfulJsonCodec Change := Change.record.lawful

end Switchboard.Access
