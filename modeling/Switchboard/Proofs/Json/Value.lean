import Switchboard.Proofs.Json.Lexeme

/-!
# Values are read back as written

What the types of this library are written as is `Written`: `null`, truth
values, whole numbers, strings, and arrays and objects of such. The reader
returns every such value from its text (`parse?_render`), although it accepts
far more than the printer ever writes.

The proof follows the value. In the middle of a text the reader is left with
what stands behind the value, so the statement that is carried through says
what it takes and what it leaves, for all that may follow (`takeValue_render`).
Its fuel is counted against the length of the text: every call that goes one
step deeper has passed a bracket, a brace or a comma by then.
-/

namespace Switchboard.Json

/-- **A value that is written by this library.** -/
inductive Written : Json → Prop
  | null : Written .null
  | bool (b : Bool) : Written (.bool b)
  | int (n : Int) : Written (.ofInt n)
  | string (s : String) : Written (.ofString s)
  | array (items : List Json) (h : ∀ item ∈ items, Written item) : Written (.array items)
  | object (fields : List (String × Json)) (h : ∀ f ∈ fields, Written f.2) :
    Written (.ofFields fields)

/-! ## The first byte -/

/-- A byte that stands for itself in front of a value: no blank, and no closing bracket. -/
def Opens (b : UInt8) : Prop := isBlank b = false ∧ b ≠ ']'.toUInt8

theorem skipBlanks_cons {b : UInt8} (h : isBlank b = false) (s : List UInt8) :
    skipBlanks (b :: s) = b :: s :=
  List.dropWhile_cons_of_neg (by rw [h]; decide)

/-- A sign that stands at the front is taken. -/
theorem takeSymbol_cons {c : Char} (h : isBlank c.toUInt8 = false) (s : List UInt8) :
    takeSymbol c (c.toUInt8 :: s) = some s := by
  rw [takeSymbol, skipBlanks_cons h]
  exact if_pos rfl

/-- A sign is not taken if another byte stands at the front. -/
theorem takeSymbol_cons_ne {c : Char} {b : UInt8} (h : isBlank b = false) (hb : b ≠ c.toUInt8)
    (s : List UInt8) : takeSymbol c (b :: s) = none := by
  rw [takeSymbol, skipBlanks_cons h]
  exact if_neg hb

/-- The bytes with which a whole number can begin. -/
def LeadsNumber (b : UInt8) : Prop := b = '-'.toUInt8 ∨ isDigit b = true

theorem Number.render_ofInt_eq_cons (n : Int) :
    ∃ b s, (Number.ofInt n).render = b :: s ∧ LeadsNumber b := by
  rw [Number.render_ofInt]
  by_cases hn : n < 0
  · rw [if_pos hn]
    exact ⟨_, _, rfl, .inl rfl⟩
  · obtain ⟨c, digits, hc, hdigit⟩ := Number.exists_toDigits_eq_cons n.natAbs
    rw [if_neg hn, hc]
    exact ⟨_, _, rfl, .inr (isDigit_toUInt8 hdigit).1⟩

/-- What leads a number leads no other value. -/
theorem LeadsNumber.opens {b : UInt8} (h : LeadsNumber b) : Opens b ∧ b ≠ '"'.toUInt8
    ∧ b ≠ '['.toUInt8 ∧ b ≠ '\x7b'.toUInt8 ∧ b ≠ 'n'.toUInt8 ∧ b ≠ 't'.toUInt8
    ∧ b ≠ 'f'.toUInt8 := by
  have all : ∀ m < 58, 45 ≤ m → Opens (UInt8.ofNat m) ∧ UInt8.ofNat m ≠ '"'.toUInt8
      ∧ UInt8.ofNat m ≠ '['.toUInt8 ∧ UInt8.ofNat m ≠ '\x7b'.toUInt8
      ∧ UInt8.ofNat m ≠ 'n'.toUInt8 ∧ UInt8.ofNat m ≠ 't'.toUInt8
      ∧ UInt8.ofNat m ≠ 'f'.toUInt8 := by unfold Opens; decide
  have hrange : 45 ≤ b.toNat ∧ b.toNat < 58 := by
    rcases h with rfl | h
    · decide
    · obtain ⟨hlow, hhigh⟩ : (0x30 : UInt8) ≤ b ∧ b ≤ 0x39 := by
        simpa only [isDigit, Bool.and_eq_true, decide_eq_true_eq] using h
      have hlow : 48 ≤ b.toNat := hlow
      have hhigh : b.toNat ≤ 57 := hhigh
      omega
  simpa only [UInt8.ofNat_toNat] using all b.toNat hrange.2 hrange.1

/-- What is written of a value begins with a byte of its own. -/
theorem Written.render_eq_cons {v : Json} (h : Written v) : ∃ b s, v.render = b :: s ∧ Opens b := by
  cases h with
  | null => exact ⟨_, _, rfl, by decide, by decide⟩
  | bool b => cases b <;> exact ⟨_, _, rfl, by decide, by decide⟩
  | int n =>
    obtain ⟨b, s, hs, hb⟩ := Number.render_ofInt_eq_cons n
    exact ⟨b, s, by rw [ofInt, render, hs], hb.opens.1⟩
  | string s => exact ⟨_, _, by rw [ofString, render, Text.render], by decide, by decide⟩
  | array items _ => exact ⟨_, _, by rw [render], by decide, by decide⟩
  | object fields _ => exact ⟨_, _, by rw [ofFields, render], by decide, by decide⟩

/-! ## Values -/

/-- The value is taken off the front of any text that begins with it, with as much fuel as
the value has bytes. -/
def IsTaken (v : Json) : Prop :=
  ∀ (fuel : Nat) (rest : List UInt8), v.render.length ≤ fuel → Stops rest →
    takeValue fuel (v.render ++ rest) = some (v, rest)

theorem takeValue_int (n : Int) (fuel : Nat) {rest : List UInt8} (hrest : Stops rest) :
    takeValue (fuel + 1) ((ofInt n).render ++ rest) = some (ofInt n, rest) := by
  have hn := Number.takeNumber_ofInt n hrest
  obtain ⟨b, s, hs, hb⟩ := Number.render_ofInt_eq_cons n
  obtain ⟨⟨hblank, -⟩, hquote, hbracket, hbrace, hnull, htrue, hfalse⟩ := hb.opens
  rw [hs, List.cons_append] at hn
  rw [ofInt, render, hs, List.cons_append, takeValue, skipBlanks_cons hblank]
  dsimp only
  -- the other kinds of value are tried first, and none of them begins like this
  split
  · exact absurd ‹_› (Text.ofUInt8_ne hquote)
  · exact absurd ‹_› (Text.ofUInt8_ne hbracket)
  · exact absurd ‹_› (Text.ofUInt8_ne hbrace)
  · exact absurd ‹_› (Text.ofUInt8_ne hnull)
  · exact absurd ‹_› (Text.ofUInt8_ne htrue)
  · exact absurd ‹_› (Text.ofUInt8_ne hfalse)
  · rw [hn]
    rfl

theorem takeValue_string (s : String) (fuel : Nat) (rest : List UInt8) :
    takeValue (fuel + 1) ((ofString s).render ++ rest) = some (ofString s, rest) := by
  rw [ofString, render, Text.render, List.cons_append, List.append_assoc, takeValue,
    skipBlanks_cons (by decide)]
  show (takeText [] ((Text.ofString s).flatMap Piece.render ++ '"'.toUInt8 :: rest)).map _ = _
  rw [Text.takeText_ofString]
  rfl

theorem takeValue_array (fuel : Nat) (s : List UInt8) :
    takeValue (fuel + 1) ('['.toUInt8 :: s)
      = match takeSymbol ']' s with
        | some rest => some (.array [], rest)
        | none => (takeItems fuel s).map fun (items, rest) => (.array items, rest) := by
  rw [takeValue, skipBlanks_cons (by decide)]
  rfl

theorem takeValue_object (fuel : Nat) (s : List UInt8) :
    takeValue (fuel + 1) ('\x7b'.toUInt8 :: s)
      = match takeSymbol '\x7d' s with
        | some rest => some (.object [], rest)
        | none => (takeMembers fuel s).map fun (members, rest) => (.object members, rest) := by
  rw [takeValue, skipBlanks_cons (by decide)]
  rfl

/-! ## Items and members

Behind an item or a member stands a comma or the closing sign, and neither
continues a number. -/

theorem stops_comma (s : List UInt8) : Stops (','.toUInt8 :: s) := stops_cons s (by decide)

theorem stops_bracket (s : List UInt8) : Stops (']'.toUInt8 :: s) := stops_cons s (by decide)

theorem stops_brace (s : List UInt8) : Stops ('\x7d'.toUInt8 :: s) := stops_cons s (by decide)

/-- One item, and what then decides whether there is another. -/
theorem takeItems_succ (fuel : Nat) (s : List UInt8) :
    takeItems (fuel + 1) s = (takeValue fuel s).bind fun (item, s) =>
      match takeSymbol ',' s with
      | some s => (takeItems fuel s).bind fun (items, s) => some (item :: items, s)
      | none => (takeSymbol ']' s).bind fun s => some ([item], s) := by
  rw [takeItems]
  rfl

theorem takeItems_render (items : List Json) (hne : items ≠ [])
    (hitems : ∀ item ∈ items, IsTaken item) :
    ∀ (fuel : Nat) (rest : List UInt8), (renderItems items).length ≤ fuel →
      takeItems fuel (renderItems items ++ rest) = some (items, rest) := by
  induction items with
  | nil => exact absurd rfl hne
  | cons item items ih =>
    intro fuel rest hfuel
    obtain ⟨fuel, rfl⟩ : ∃ k, fuel = k + 1 := by
      refine Nat.exists_eq_succ_of_ne_zero ?_
      cases items <;> simp [renderItems] at hfuel <;> omega
    have hitem := hitems item List.mem_cons_self
    cases items with
    | nil =>
      -- the last item: no comma, and the bracket
      have htake := hitem fuel (']'.toUInt8 :: rest)
        (by simp [renderItems] at hfuel; omega) (stops_bracket rest)
      rw [renderItems, List.append_assoc, List.singleton_append, takeItems_succ, htake,
        Option.bind_some]
      dsimp only
      rw [takeSymbol_cons_ne (by decide) (by decide), takeSymbol_cons (by decide),
        Option.bind_some]
    | cons next items =>
      have htake := hitem fuel (','.toUInt8 :: (renderItems (next :: items) ++ rest))
        (by simp [renderItems] at hfuel; omega) (stops_comma _)
      have hmore := ih (List.cons_ne_nil _ _) (fun i hi => hitems i (List.mem_cons_of_mem _ hi))
        fuel rest (by rw [renderItems] at hfuel; simp at hfuel; omega)
      rw [renderItems, List.append_assoc, List.cons_append, takeItems_succ, htake,
        Option.bind_some]
      dsimp only
      rw [takeSymbol_cons (by decide)]
      dsimp only
      rw [hmore, Option.bind_some]

/-- The members of an object with named fields. -/
abbrev membersOf (fields : List (String × Json)) : List (Text × Json) :=
  fields.map fun (name, value) => (.ofString name, value)

/-- One member, and what then decides whether there is another. -/
theorem takeMembers_name (fuel : Nat) (name : String) (s : List UInt8) :
    takeMembers (fuel + 1) ((Text.ofString name).render ++ ':'.toUInt8 :: s)
      = (takeValue fuel s).bind fun (value, s) =>
        match takeSymbol ',' s with
        | some s => (takeMembers fuel s).bind fun (members, s) =>
            some ((.ofString name, value) :: members, s)
        | none => (takeSymbol '\x7d' s).bind fun s => some ([(.ofString name, value)], s) := by
  rw [Text.render, List.cons_append, List.append_assoc, takeMembers, takeSymbol_cons (by decide)]
  show (takeText [] ((Text.ofString name).flatMap Piece.render
    ++ '"'.toUInt8 :: ':'.toUInt8 :: s)).bind _ = _
  rw [Text.takeText_ofString, Option.bind_some]
  dsimp only
  rw [takeSymbol_cons (by decide)]
  rfl

theorem takeMembers_render (fields : List (String × Json)) (hne : fields ≠ [])
    (hfields : ∀ f ∈ fields, IsTaken f.2) :
    ∀ (fuel : Nat) (rest : List UInt8), (renderMembers (membersOf fields)).length ≤ fuel →
      takeMembers fuel (renderMembers (membersOf fields) ++ rest)
        = some (membersOf fields, rest) := by
  induction fields with
  | nil => exact absurd rfl hne
  | cons field fields ih =>
    intro fuel rest hfuel
    obtain ⟨name, value⟩ := field
    obtain ⟨fuel, rfl⟩ : ∃ k, fuel = k + 1 := by
      refine Nat.exists_eq_succ_of_ne_zero ?_
      cases fields <;> simp [renderMembers] at hfuel <;> omega
    have hvalue : IsTaken value := hfields (name, value) List.mem_cons_self
    cases fields with
    | nil =>
      -- the last member: no comma, and the brace
      have htake := hvalue fuel ('\x7d'.toUInt8 :: rest)
        (by simp [renderMembers] at hfuel; omega) (stops_brace rest)
      rw [membersOf, List.map_cons, List.map_nil, renderMembers, List.append_assoc,
        List.cons_append, List.append_assoc, List.singleton_append, takeMembers_name, htake,
        Option.bind_some]
      dsimp only
      rw [takeSymbol_cons_ne (by decide) (by decide), takeSymbol_cons (by decide),
        Option.bind_some]
    | cons next fields =>
      have htake := hvalue fuel
        (','.toUInt8 :: (renderMembers (membersOf (next :: fields)) ++ rest))
        (by simp [renderMembers] at hfuel; omega) (stops_comma _)
      have hmore := ih (List.cons_ne_nil _ _) (fun f hf => hfields f (List.mem_cons_of_mem _ hf))
        fuel rest (by
          rw [membersOf, List.map_cons, List.map_cons, renderMembers] at hfuel
          simp at hfuel ⊢
          omega)
      rw [membersOf, List.map_cons] at htake hmore
      rw [membersOf, List.map_cons, List.map_cons, renderMembers, List.append_assoc,
        List.cons_append, List.append_assoc, List.cons_append, takeMembers_name, htake,
        Option.bind_some]
      dsimp only
      rw [takeSymbol_cons (by decide)]
      dsimp only
      rw [hmore, Option.bind_some]

/-! ## All values -/

/-- Fuel that covers the bytes of a value is at least one unit. -/
theorem Written.exists_fuel {v : Json} (h : Written v) {fuel : Nat}
    (hfuel : v.render.length ≤ fuel) : ∃ k, fuel = k + 1 := by
  obtain ⟨b, s, hs, -⟩ := h.render_eq_cons
  rw [hs, List.length_cons] at hfuel
  exact Nat.exists_eq_succ_of_ne_zero (by omega)

/-- **A written value is taken off the front of a text**, whatever follows it, unless that
continues a number. -/
theorem takeValue_render {v : Json} (h : Written v) : IsTaken v := by
  induction h with
  | null =>
    intro fuel rest hfuel _
    obtain ⟨fuel, rfl⟩ := Written.null.exists_fuel hfuel
    rfl
  | bool b =>
    intro fuel rest hfuel _
    obtain ⟨fuel, rfl⟩ := (Written.bool b).exists_fuel hfuel
    cases b <;> rfl
  | int n =>
    intro fuel rest hfuel hrest
    obtain ⟨fuel, rfl⟩ := (Written.int n).exists_fuel hfuel
    exact takeValue_int n fuel hrest
  | string s =>
    intro fuel rest hfuel _
    obtain ⟨fuel, rfl⟩ := (Written.string s).exists_fuel hfuel
    exact takeValue_string s fuel rest
  | array items hw ih =>
    intro fuel rest hfuel _
    obtain ⟨fuel, rfl⟩ := (Written.array items hw).exists_fuel hfuel
    rw [render, List.cons_append, takeValue_array]
    cases items with
    | nil =>
      rw [renderItems, List.singleton_append, takeSymbol_cons (by decide)]
    | cons item items =>
      -- an item does not begin with the closing bracket
      obtain ⟨b, s, hs, hblank, hb⟩ : ∃ b s, renderItems (item :: items) = b :: s ∧ Opens b := by
        obtain ⟨b, s, hs, hb⟩ := (hw item List.mem_cons_self).render_eq_cons
        cases items with
        | nil => exact ⟨b, _, by rw [renderItems, hs, List.cons_append], hb⟩
        | cons next items => exact ⟨b, _, by rw [renderItems, hs, List.cons_append], hb⟩
      have htake := takeItems_render (item :: items) (List.cons_ne_nil _ _) ih fuel rest
        (by rw [render, List.length_cons] at hfuel; omega)
      rw [hs, List.cons_append] at htake ⊢
      rw [takeSymbol_cons_ne hblank hb]
      dsimp only
      rw [htake]
      rfl
  | object fields hw ih =>
    intro fuel rest hfuel _
    obtain ⟨fuel, rfl⟩ := (Written.object fields hw).exists_fuel hfuel
    rw [ofFields, render, List.cons_append, takeValue_object]
    cases fields with
    | nil =>
      rw [List.map_nil, renderMembers, List.singleton_append, takeSymbol_cons (by decide)]
    | cons field fields =>
      -- a member begins with the quote of its name
      obtain ⟨s, hs⟩ : ∃ s, renderMembers (membersOf (field :: fields)) = '"'.toUInt8 :: s := by
        cases fields with
        | nil => exact ⟨_, by rw [membersOf, List.map_cons, List.map_nil, renderMembers,
            Text.render, List.cons_append]⟩
        | cons next fields => exact ⟨_, by rw [membersOf, List.map_cons, List.map_cons,
            renderMembers, Text.render, List.cons_append]⟩
      have htake := takeMembers_render (field :: fields) (List.cons_ne_nil _ _) ih fuel rest
        (by rw [ofFields, render, List.length_cons] at hfuel; exact Nat.le_of_succ_le_succ hfuel)
      rw [hs, List.cons_append] at htake
      rw [hs, List.cons_append, takeSymbol_cons_ne (by decide) (by decide)]
      dsimp only
      rw [htake]
      rfl

/-- **Reading inverts writing.** -/
theorem parse?_render {v : Json} (h : Written v) : parse? v.render = some v := by
  have htake := takeValue_render h (2 * v.render.length + 2) [] (by omega) stops_nil
  rw [List.append_nil] at htake
  rw [parse?, htake]
  rfl

end Switchboard.Json
