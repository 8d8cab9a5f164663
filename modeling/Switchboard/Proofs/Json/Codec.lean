import Switchboard.Proofs.Json.Value

/-!
# Types that survive their JSON form

A codec is lawful if it writes values that can be read back (`Json.Written`)
and reads from each of them the element it was written from. Then nothing is
lost between `encode` and `decode?` (`decode?_encode`).

The depth at which a value is read only ever limits values that are kept for
later, and no lawful codec writes one that is nested at all deeply; so the law
is asked for at every depth.

Most types are of two forms. An enumeration is written by name
(`LawfulJsonCodec.ofNames`). A structure is a `JsonRecord`: it says under which
names it is written, as which values, and how it is read from what is found
under these names. All that is to be shown of it is that its values can be read;
that they are found again where they were put is shown here once
(`JsonRecord.lawful`).
-/

namespace Switchboard

/-- **A codec that loses nothing.** -/
class LawfulJsonCodec (α : Type) [JsonCodec α] : Prop where
  written : ∀ a : α, Json.Written (JsonCodec.toJson a)
  ofJson?_toJson : ∀ (depth : Nat) (a : α), JsonCodec.ofJson? depth (JsonCodec.toJson a) = some a

attribute [simp] LawfulJsonCodec.written LawfulJsonCodec.ofJson?_toJson

/-- **What was encoded is decoded again.** -/
theorem decode?_encode {α : Type} [JsonCodec α] [LawfulJsonCodec α] (a : α) :
    decode? (encode a) = some a := by
  rw [decode?, encode, Json.parse?_render (LawfulJsonCodec.written a)]
  exact LawfulJsonCodec.ofJson?_toJson 0 a

namespace Json

/-! ## Structures -/

theorem namedMembers?_membersOf (fields : List (String × Json)) :
    namedMembers? (membersOf fields) = some fields := by
  unfold namedMembers?
  induction fields with
  | nil => rfl
  | cons field fields ih =>
    rw [membersOf, List.map_cons, List.mapM_cons]
    dsimp only
    rw [Text.string?_ofString, ih]
    rfl

/-- **The fields of an object that was written field by field**, if no name occurs twice. -/
theorem fields?_ofFields (names : List String) (fields : List (String × Json)) :
    fields? names (ofFields fields)
      = if names.all fun name => (fields.filter (·.1 == name)).length ≤ 1 then
          some (names.map fun name => fields.lookup name)
        else none := by
  show (namedMembers? (membersOf fields)).bind _ = _
  rw [namedMembers?_membersOf]
  rfl

/-- Names that differ are put before values, so that each name has at most one value. -/
theorem length_filter_zip_le {names : List String} (hnodup : names.Nodup) (values : List Json)
    (name : String) : ((names.zip values).filter (·.1 == name)).length ≤ 1 := by
  induction names generalizing values with
  | nil => exact Nat.zero_le 1
  | cons first names ih =>
    obtain ⟨hfirst, hnodup⟩ := List.nodup_cons.mp hnodup
    cases values with
    | nil => exact Nat.zero_le 1
    | cons value values =>
      rw [List.zip_cons_cons, List.filter_cons]
      by_cases hname : first = name
      · have hnone : (names.zip values).filter (·.1 == name) = [] :=
          List.filter_eq_nil_iff.mpr fun field hfield hsame =>
            hfirst (hname.trans (eq_of_beq hsame).symm ▸ (List.of_mem_zip hfield).1)
        simp [hname, hnone]
      · simpa [hname] using ih hnodup values

theorem map_lookup_zip {names : List String} (hnodup : names.Nodup) (values : List Json)
    (hlength : values.length = names.length) :
    (names.map fun name => (names.zip values).lookup name) = values.map some := by
  induction names generalizing values with
  | nil => rw [List.eq_nil_of_length_eq_zero hlength]; rfl
  | cons first names ih =>
    obtain ⟨hfirst, hnodup⟩ := List.nodup_cons.mp hnodup
    cases values with
    | nil => nomatch hlength
    | cons value values =>
      rw [List.map_cons, List.zip_cons_cons, List.lookup_cons_self, List.map_cons,
        ← ih hnodup values (Nat.succ.inj hlength)]
      refine congrArg _ (List.map_congr_left fun name hname => ?_)
      have hne : (name == first) = false := beq_false_of_ne fun h => hfirst (h ▸ hname)
      rw [List.lookup_cons, hne]

/-- **What was put into an object under names that differ is found there again.** -/
theorem fields?_ofFields_zip {names : List String} (hnodup : names.Nodup) {values : List Json}
    (hlength : values.length = names.length) :
    fields? names (ofFields (names.zip values)) = some (values.map some) := by
  rw [fields?_ofFields, if_pos, map_lookup_zip hnodup values hlength]
  exact List.all_eq_true.mpr fun name _ =>
    decide_eq_true (length_filter_zip_le hnodup values name)

/-! ## Members that may be left out -/

/-- The member for something that may be absent, and is left out then. -/
def optionMember {α : Type} [JsonCodec α] (name : String) : Option α → List (String × Json)
  | none => []
  | some a => [(name, JsonCodec.toJson a)]

theorem written_of_mem_optionMember {α : Type} [JsonCodec α] [LawfulJsonCodec α] {name : String}
    {o : Option α} {f : String × Json} (hf : f ∈ optionMember name o) : Written f.2 := by
  cases o with
  | none => exact absurd hf List.not_mem_nil
  | some a =>
    obtain rfl := List.mem_singleton.mp hf
    exact LawfulJsonCodec.written a

/-- **What was left out is absent again**, and what was not left out is read back. -/
theorem orDefault_orNull? {α : Type} (read : Json → Option α) (write : α → Json)
    (hread : ∀ a, read (write a) = some a) (hnull : ∀ a, write a ≠ .null) (o : Option α) :
    orDefault none (orNull? read) (o.map write) = some o := by
  cases o with
  | none => rfl
  | some a =>
    show orNull? read (write a) = some (some a)
    rw [orNull?, hread]
    · rfl
    · exact hnull a

/-! ## Lists -/

/-- **The elements of a list are read back** one by one. -/
theorem listOf?_map {α : Type} (read : Json → Option α) (write : α → Json)
    (hread : ∀ a, read (write a) = some a) (items : List α) :
    listOf? read (.array (items.map write)) = some items := by
  show (items.map write).mapM read = some items
  induction items with
  | nil => rfl
  | cons item items ih =>
    rw [List.map_cons, List.mapM_cons, hread, ih]
    rfl

/-- The list of a structure is read back wherever it stands. -/
@[simp] theorem listOf?_toJson {α : Type} [JsonCodec α] [LawfulJsonCodec α] (depth : Nat)
    (items : List α) :
    listOf? (JsonCodec.ofJson? depth) (.array (items.map JsonCodec.toJson)) = some items :=
  listOf?_map _ _ (LawfulJsonCodec.ofJson?_toJson depth) items

@[simp] theorem written_array {α : Type} [JsonCodec α] [LawfulJsonCodec α] (items : List α) :
    Written (.array (items.map JsonCodec.toJson)) :=
  .array _ (List.forall_mem_map.mpr fun a _ => LawfulJsonCodec.written a)

/-- A field that may be left out is read like any other if it is there. -/
@[simp] theorem orDefault_some {α : Type} (default : α) (read : Json → Option α) (value : Json) :
    orDefault default read (some value) = read value := rfl

/-! ## Enumerations -/

/-- An element of an enumeration is found under its name, if the names differ. -/
theorem named?_name {α : Type} {all : List α} {name : α → String}
    (hname : ∀ a ∈ all, ∀ b ∈ all, name a = name b → a = b) {a : α} (ha : a ∈ all) :
    named? all name (name a) = some a := by
  rw [named?]
  obtain ⟨b, hb⟩ : ∃ b, all.find? (fun b => name b == name a) = some b :=
    Option.isSome_iff_exists.mp (List.find?_isSome.mpr ⟨a, ha, beq_self_eq_true _⟩)
  have hsame := List.find?_some hb
  rw [hb, hname b (List.mem_of_find?_eq_some hb) a ha (eq_of_beq hsame)]

theorem enum?_ofString {α : Type} {all : List α} {name : α → String}
    (hname : ∀ a ∈ all, ∀ b ∈ all, name a = name b → a = b) {a : α} (ha : a ∈ all) :
    enum? all name (.ofString (name a)) = some a := by
  show ((Text.ofString (name a)).string?).bind (named? all name) = _
  rw [Text.string?_ofString]
  exact named?_name hname ha

/-! ## Whole numbers -/

theorem intBetween?_ofInt {low high n : Int} (hlow : low ≤ n) (hhigh : n ≤ high)
    (hsize : n.natAbs < UInt64.size) : (ofInt n).intBetween? low high = some n := by
  show (Number.ofInt n).int?.filter _ = _
  rw [Number.int?_ofInt hsize, Option.filter_some, if_pos]
  rw [decide_eq_true hlow, decide_eq_true hhigh]
  rfl

/-- The number of a word is read as such. -/
theorem intBetween?_ofInt_natCast {n size : Nat} (hn : n < size) (hsize : size ≤ UInt64.size) :
    (ofInt n).intBetween? 0 (size - 1) = some (n : Int) :=
  intBetween?_ofInt (by omega) (by omega) (by omega)

end Json

/-! ## Enumerations and structures -/

section

variable {α : Type} [JsonCodec α]

/-- **An enumeration that is written by name is lawful**, if the names differ. -/
theorem LawfulJsonCodec.ofNames (all : List α) (name : α → String)
    (toJson_eq : ∀ a, JsonCodec.toJson a = .ofString (name a))
    (ofJson?_eq : ∀ depth value, JsonCodec.ofJson? depth value = Json.enum? all name value)
    (hname : ∀ a ∈ all, ∀ b ∈ all, name a = name b → a = b) (mem_all : ∀ a, a ∈ all) :
    LawfulJsonCodec α where
  written a := toJson_eq a ▸ .string (name a)
  ofJson?_toJson depth a := by
    rw [ofJson?_eq, toJson_eq]
    exact Json.enum?_ofString hname (mem_all a)

variable (α) in
/-- **A structure that is written field by field.** -/
structure JsonRecord where
  names : List String
  values : α → List Json
  /-- How an element is made of what is found under the names. -/
  read : Nat → List (Option Json) → Option α
  ofJson?_eq : ∀ depth value,
    JsonCodec.ofJson? depth value = (Json.fields? names value).bind (read depth)
  toJson_eq : ∀ a, JsonCodec.toJson a = .ofFields (names.zip (values a)) := by exact fun _ => rfl
  nodup : names.Nodup := by decide
  length_eq : ∀ a, (values a).length = names.length := by exact fun _ => rfl
  written : ∀ a, ∀ value ∈ values a, Json.Written value := by simp
  read_values : ∀ depth a, read depth ((values a).map some) = some a := by simp

namespace JsonRecord

/-- **A structure of fields that can be read back is lawful.** -/
theorem lawful (r : JsonRecord α) : LawfulJsonCodec α where
  written a := by
    rw [r.toJson_eq]
    exact .object _ fun f hf => r.written a f.2 (List.of_mem_zip hf).2
  ofJson?_toJson depth a := by
    rw [r.toJson_eq, r.ofJson?_eq, Json.fields?_ofFields_zip r.nodup (r.length_eq a),
      Option.bind_some, r.read_values]

end JsonRecord

end

/-! ## Plain types -/

instance : LawfulJsonCodec Unit where
  written _ := .null
  ofJson?_toJson _ _ := rfl

instance : LawfulJsonCodec Bool where
  written := .bool
  ofJson?_toJson _ _ := rfl

instance : LawfulJsonCodec String where
  written := .string
  ofJson?_toJson _ := Json.Text.string?_ofString

instance : LawfulJsonCodec UInt16 where
  written n := .int n.toNat
  ofJson?_toJson _ n := by
    show ((Json.ofInt n.toNat).intBetween? 0 (UInt16.size - 1)).map _ = _
    rw [Json.intBetween?_ofInt_natCast n.toNat_lt (by decide), Option.map_some, Int.toNat_natCast,
      UInt16.ofNat_toNat]

instance : LawfulJsonCodec UInt32 where
  written n := .int n.toNat
  ofJson?_toJson _ n := by
    show ((Json.ofInt n.toNat).intBetween? 0 (UInt32.size - 1)).map _ = _
    rw [Json.intBetween?_ofInt_natCast n.toNat_lt (by decide), Option.map_some, Int.toNat_natCast,
      UInt32.ofNat_toNat]

instance : LawfulJsonCodec UInt64 where
  written n := .int n.toNat
  ofJson?_toJson _ n := by
    show ((Json.ofInt n.toNat).intBetween? 0 (UInt64.size - 1)).map _ = _
    rw [Json.intBetween?_ofInt_natCast n.toNat_lt (by decide), Option.map_some, Int.toNat_natCast,
      UInt64.ofNat_toNat]

instance : LawfulJsonCodec Int32 where
  written n := .int n.toInt
  ofJson?_toJson _ n := by
    have hlow : Int32.minValue.toInt ≤ n.toInt := n.minValue_le_toInt
    have hhigh : n.toInt ≤ Int32.maxValue.toInt := n.toInt_le
    have hsize : n.toInt.natAbs < UInt64.size := by
      rw [show Int32.minValue.toInt = -2147483648 from rfl] at hlow
      rw [show Int32.maxValue.toInt = 2147483647 from rfl] at hhigh
      rw [show UInt64.size = 18446744073709551616 from rfl]
      omega
    show ((Json.ofInt n.toInt).intBetween? _ _).map Int32.ofInt = _
    rw [Json.intBetween?_ofInt hlow hhigh hsize, Option.map_some, Int32.ofInt_toInt]

end Switchboard
