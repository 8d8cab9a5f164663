import Switchboard.Proofs.Json.Codec
import Switchboard.Wire.Header

/-!
# Headers survive their JSON form

The status of a call leaves out what is at its default: an empty message, a
kind that is absent, the session of a call outside sessions. What is left out
when a header is written must be exactly what is put back when it is read, for
every status and not only for those that servers send – a success may carry a
message or a kind, and a failure neither.

The status is flat, and read in two steps. What is shown of the first is that
setting aside the members of the outcome neither loses one nor keeps the kind
among them (`Json.filter_membersOf`), and that all of them can be kept.
-/

namespace Switchboard

namespace Json

/-- Members that are sorted by their names are members of sorted fields. -/
theorem filter_membersOf (fields : List (String × Json)) (name : String) :
    (membersOf fields).filter (fun (n, _) => n.string? != some name)
      = membersOf (fields.filter (·.1 != name)) := by
  rw [membersOf, List.filter_map]
  refine congrArg _ (List.filter_congr fun field _ => ?_)
  show ((Text.ofString field.1).string? != some name) = (field.1 != name)
  rw [Text.string?_ofString]
  rfl

/-- Fields can be kept for later if their values can. -/
theorem membersAreKept_membersOf (depth : Nat) {fields : List (String × Json)}
    (h : ∀ f ∈ fields, isKept depth f.2 = true) :
    membersAreKept depth (membersOf fields) = true := by
  induction fields with
  | nil => rfl
  | cons field fields ih =>
    rw [membersOf, List.map_cons, membersAreKept, Text.string?_ofString,
      h field List.mem_cons_self, ih fun f hf => h f (List.mem_cons_of_mem _ hf)]
    rfl

theorem isKept_ofString (depth : Nat) (s : String) : isKept depth (ofString s) = true := by
  rw [ofString, isKept, Text.string?_ofString]
  rfl

end Json

/-! ## The outcome of a call -/

theorem FailureKind.mem_all (k : FailureKind) : k ∈ all := by cases k <;> decide

theorem CallState.mem_all (s : CallState) : s ∈ all := by cases s <;> decide

instance : LawfulJsonCodec FailureKind :=
  .ofNames FailureKind.all FailureKind.name (fun _ => rfl) (fun _ _ => rfl) (by decide)
    FailureKind.mem_all

instance : LawfulJsonCodec CallState :=
  .ofNames CallState.all CallState.name (fun _ => rfl) (fun _ _ => rfl) (by decide)
    CallState.mem_all

/-- The fields of a failure. -/
def CallFailure.record : JsonRecord CallFailure where
  names := ["kind", "message"]
  values f := [JsonCodec.toJson f.kind, JsonCodec.toJson f.message]
  read := _
  ofJson?_eq _ _ := rfl

instance : LawfulJsonCodec CallFailure := CallFailure.record.lawful

theorem CallState.enum?_name (s : CallState) :
    Json.enum? CallState.all CallState.name (.ofString s.name) = some s :=
  Json.enum?_ofString (by decide) s.mem_all

/-- What is looked up for the members of an outcome. -/
theorem CallStatus.fields?_members (s : CallStatus) :
    Json.fields? ["state", "error_message"] (.ofFields s.members)
      = some [some (.ofString s.state.name),
          if s.errorMessage = "" then none else some (.ofString s.errorMessage)] := by
  rw [Json.fields?_ofFields, CallStatus.members]
  by_cases h : s.errorMessage = ""
  · rw [if_pos h, if_pos h]
    rfl
  · rw [if_neg h, if_neg h]
    rfl

/-- All members of an outcome are strings. -/
theorem CallStatus.string_of_mem_members {s : CallStatus} {f : String × Json}
    (hf : f ∈ s.members) : ∃ t, f.2 = .ofString t := by
  rw [CallStatus.members] at hf
  rcases List.mem_cons.mp hf with rfl | hf
  · exact ⟨_, rfl⟩
  · split at hf
    · exact absurd hf List.not_mem_nil
    · obtain rfl := List.mem_singleton.mp hf
      exact ⟨_, rfl⟩

theorem CallStatus.written_of_mem_members {s : CallStatus} {f : String × Json}
    (hf : f ∈ s.members) : Json.Written f.2 := by
  obtain ⟨t, ht⟩ := string_of_mem_members hf
  rw [ht]
  exact .string t

/-- **Every outcome survives.** An empty message is left out, and is what is put back. -/
instance : LawfulJsonCodec CallStatus where
  written s := .object _ fun _ hf => CallStatus.written_of_mem_members hf
  ofJson?_toJson depth s := by
    show (Json.fields? ["state", "error_message"] (.ofFields s.members)).bind _ = _
    rw [CallStatus.fields?_members, Option.bind_some]
    show (JsonCodec.ofJson? (depth + 1) (JsonCodec.toJson s.state)).bind _ = _
    rw [LawfulJsonCodec.ofJson?_toJson, Option.bind_some]
    obtain ⟨state, message⟩ := s
    by_cases h : message = ""
    · rw [if_pos h, Json.orDefault, h]
      rfl
    · rw [if_neg h, Json.orDefault_some]
      show (JsonCodec.ofJson? (depth + 1) (JsonCodec.toJson message)).bind _ = _
      rw [LawfulJsonCodec.ofJson?_toJson]
      rfl

namespace Wire

namespace Status

/-- The fields of a status. -/
def fields (s : Status) : List (String × Json) :=
  s.outcome.members ++ Json.optionMember "kind" s.kind

theorem toJson_eq (s : Status) : JsonCodec.toJson s = .ofFields s.fields := by
  obtain ⟨outcome, _ | kind⟩ := s <;> rfl

/-- **The outcome that was set aside is read back.** -/
theorem outcome?_members (s : CallStatus) : outcome? (Json.membersOf s.members) = some s := by
  show (Json.fields? ["state", "error_message"] (.ofFields s.members)).bind _ = _
  rw [CallStatus.fields?_members, Option.bind_some]
  show (Json.enum? CallState.all CallState.name (.ofString s.state.name)).bind _ = _
  rw [CallState.enum?_name, Option.bind_some]
  by_cases h : s.errorMessage = ""
  · rw [if_pos h, Json.orDefault]
    show some (⟨s.state, ""⟩ : CallStatus) = some ⟨s.state, s.errorMessage⟩
    rw [h]
  · rw [if_neg h, Json.orDefault]
    show (Json.Text.string? (Json.Text.ofString s.errorMessage)).bind _ = _
    rw [Json.Text.string?_ofString]
    rfl

/-- What is set aside when a status is read. -/
def aside (s : Status) : List (Json.Text × Json) :=
  (Json.membersOf s.fields).filter fun (name, _) => name.string? != some "kind"

theorem aside_eq (s : Status) : s.aside = Json.membersOf s.outcome.members := by
  rw [aside, Json.filter_membersOf, fields, List.filter_append]
  -- no member of an outcome has the name of the kind
  have houtcome : s.outcome.members.filter (·.1 != "kind") = s.outcome.members := by
    rw [CallStatus.members]
    split <;> rfl
  have hkind : (Json.optionMember "kind" s.kind).filter (·.1 != "kind") = [] := by
    cases s.kind <;> rfl
  rw [houtcome, hkind, List.append_nil]

theorem aside_areKept (s : Status) (depth : Nat) : Json.membersAreKept depth s.aside = true := by
  rw [aside_eq]
  refine Json.membersAreKept_membersOf _ fun f hf => ?_
  obtain ⟨t, ht⟩ := CallStatus.string_of_mem_members hf
  rw [ht]
  exact Json.isKept_ofString _ _

theorem fields?_fields (s : Status) :
    Json.fields? ["kind"] (.ofFields s.fields) = some [s.kind.map JsonCodec.toJson] := by
  rw [Json.fields?_ofFields, fields, CallStatus.members]
  split <;> cases s.kind <;> rfl

/-- **Every status survives**, whether or not its parts belong together. -/
instance : LawfulJsonCodec Status where
  written s := by
    rw [toJson_eq]
    refine .object _ fun f hf => ?_
    rcases List.mem_append.mp hf with hf | hf
    · exact CallStatus.written_of_mem_members hf
    · exact Json.written_of_mem_optionMember hf
  ofJson?_toJson depth s := by
    rw [toJson_eq]
    show (Json.fields? ["kind"] (.ofFields s.fields)).bind _ = _
    rw [fields?_fields, Option.bind_some]
    show (if Json.membersAreKept (depth + 1) s.aside = true then
      (outcome? s.aside).bind fun outcome =>
        (Json.orDefault none (Json.orNull? (JsonCodec.ofJson? depth))
          (s.kind.map JsonCodec.toJson)).bind fun kind => some (⟨outcome, kind⟩ : Status)
      else none) = _
    rw [if_pos (aside_areKept s _), aside_eq, outcome?_members,
      Json.orDefault_orNull? _ (JsonCodec.toJson (α := FailureKind))
        (LawfulJsonCodec.ofJson?_toJson depth) fun _ => nofun]
    rfl

end Status

/-! ## Headers -/

/-- The fields of a header. -/
def Header.fields (h : Header) : List (String × Json) :=
  ("call_id", JsonCodec.toJson h.callId) :: (Json.optionMember "com_id" h.comId ++
    [("function_id", JsonCodec.toJson h.functionId), ("status", JsonCodec.toJson h.status)])

theorem Header.toJson_eq (h : Header) : JsonCodec.toJson h = .ofFields h.fields := by
  obtain ⟨callId, _ | comId, functionId, status⟩ := h <;> rfl

theorem Header.fields?_fields (h : Header) :
    Json.fields? ["call_id", "com_id", "function_id", "status"] (.ofFields h.fields)
      = some [some (JsonCodec.toJson h.callId), h.comId.map JsonCodec.toJson,
          some (JsonCodec.toJson h.functionId), some (JsonCodec.toJson h.status)] := by
  rw [Json.fields?_ofFields, Header.fields]
  cases h.comId <;> rfl

/-- **Every header survives.** A call outside sessions and a call in the session with the
empty name are different calls. -/
instance : LawfulJsonCodec Header where
  written h := by
    rw [Header.toJson_eq]
    refine .object _ fun f hf => ?_
    rcases List.mem_cons.mp hf with rfl | hf
    · exact LawfulJsonCodec.written h.callId
    rcases List.mem_append.mp hf with hf | hf
    · exact Json.written_of_mem_optionMember hf
    · rcases List.mem_cons.mp hf with rfl | hf
      · exact LawfulJsonCodec.written h.functionId
      · obtain rfl := List.mem_singleton.mp hf
        exact LawfulJsonCodec.written h.status
  ofJson?_toJson depth h := by
    rw [Header.toJson_eq]
    show (Json.fields? ["call_id", "com_id", "function_id", "status"]
      (.ofFields h.fields)).bind _ = _
    rw [Header.fields?_fields, Option.bind_some]
    show (JsonCodec.ofJson? (depth + 1) (JsonCodec.toJson h.callId)).bind _ = _
    rw [LawfulJsonCodec.ofJson?_toJson, Option.bind_some,
      Json.orDefault_orNull? Json.string? (JsonCodec.toJson (α := String))
        Json.Text.string?_ofString fun _ => nofun]
    show (JsonCodec.ofJson? (depth + 1) (JsonCodec.toJson h.functionId)).bind _ = _
    rw [LawfulJsonCodec.ofJson?_toJson, Option.bind_some]
    show (JsonCodec.ofJson? (depth + 1) (JsonCodec.toJson h.status)).bind _ = _
    rw [LawfulJsonCodec.ofJson?_toJson]
    rfl

end Wire

end Switchboard
