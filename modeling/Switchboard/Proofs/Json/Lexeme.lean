import Mathlib.Tactic.Common
import Switchboard.Json.Codec

/-!
# Strings and numbers are read back as written

The printer escapes a string byte by byte and writes a whole number in decimal
digits. Here it is shown that the reader takes exactly these bytes off the
front of what it is given and hands out the string and the number again.

The two differ in what may follow. A string ends with its own quote, so that
anything may stand behind it. A number ends where its digits do, and is read
back only in front of something that cannot belong to a number – `Stops` says
what that is, and every sign of punctuation and the end of the text are such.
-/

namespace Switchboard.Json

/-! ## Strings -/

namespace Text

theorem bytesAfter_plain (done : List UInt8) (b : UInt8) (rest : Text) :
    bytesAfter done (.plain b :: rest) = bytesAfter (b :: done) rest := by
  cases rest <;> simp only [bytesAfter]

theorem bytesAfter_short (done : List UInt8) (b : UInt8) (rest : Text) :
    bytesAfter done (.short b :: rest) = bytesAfter (b :: done) rest := by
  cases rest <;> simp only [bytesAfter]

/-- A control character is its own UTF-8. -/
theorem utf8EncodeChar_control {b : UInt8} (h : b < 0x20) :
    String.utf8EncodeChar (Char.ofNat b.toUInt16.toNat) = [b] := by
  have all : ∀ n < 0x20, String.utf8EncodeChar (Char.ofNat (UInt8.ofNat n).toUInt16.toNat)
      = [UInt8.ofNat n] := by decide
  simpa only [UInt8.ofNat_toNat] using all b.toNat h

/-- A control character is no half of a surrogate pair. -/
theorem not_surrogate_control {b : UInt8} (h : b < 0x20) :
    isHigh b.toUInt16 = false ∧ isLow b.toUInt16 = false := by
  have all : ∀ n < 0x20, isHigh (UInt8.ofNat n).toUInt16 = false
      ∧ isLow (UInt8.ofNat n).toUInt16 = false := by decide
  simpa only [UInt8.ofNat_toNat] using all b.toNat h

theorem bytesAfter_control (done : List UInt8) {b : UInt8} (h : b < 0x20) (rest : Text) :
    bytesAfter done (.unit b.toUInt16 :: rest) = bytesAfter (b :: done) rest := by
  obtain ⟨hhigh, hlow⟩ := not_surrogate_control h
  cases rest with
  | nil =>
    simp only [bytesAfter, hhigh, hlow, utf8EncodeChar_control h, List.reverse_cons]
    rfl
  | cons next rest =>
    rw [bytesAfter.eq_def]
    simp only [hhigh, hlow, utf8EncodeChar_control h]
    rfl

/-- The piece written for a byte stands for that byte. -/
theorem bytesAfter_pieceOf (done : List UInt8) (b : UInt8) (rest : Text) :
    bytesAfter done (pieceOf b :: rest) = bytesAfter (b :: done) rest := by
  unfold pieceOf
  split
  · exact bytesAfter_short done b rest
  split
  · next h => exact bytesAfter_control done h rest
  · exact bytesAfter_plain done b rest

theorem bytesAfter_map_pieceOf (done bytes : List UInt8) :
    bytesAfter done (bytes.map pieceOf) = some (done.reverse ++ bytes) := by
  induction bytes generalizing done with
  | nil => rw [List.map_nil, bytesAfter, List.append_nil]
  | cons b rest ih =>
    rw [List.map_cons, bytesAfter_pieceOf, ih, List.reverse_cons, List.append_assoc]
    rfl

/-- **A text is the string it was written from.** -/
@[simp] theorem string?_ofString (s : String) : (ofString s).string? = some s := by
  have hbytes : (ofString s).bytes? = some s.toByteArray.data.toList := by
    rw [bytes?, ofString, bytesAfter_map_pieceOf]
    rfl
  have hback : s.toByteArray.data.toList.toByteArray = s.toByteArray :=
    ByteArray.ext (by rw [List.data_toByteArray, Array.toArray_toList])
  rw [string?, hbytes]
  show String.fromUTF8? s.toByteArray.data.toList.toByteArray = some s
  rw [hback, String.fromUTF8?, dif_pos s.isValidUTF8]
  rfl

/-! ## Strings on the page -/

theorem ofUInt8_ne {b : UInt8} {c : Char} (h : b ≠ c.toUInt8) : Char.ofUInt8 b ≠ c := by
  rintro rfl
  refine h (UInt8.toNat_inj.mp ?_)
  show b.toNat = b.toUInt32.toUInt8.toNat
  simp

/-- The escape of a control character is read as that character. -/
theorem hexCode?_control {b : UInt8} (h : b < 0x20) :
    hexCode? (hexDigit (b.toUInt16.toNat / 4096)) (hexDigit (b.toUInt16.toNat / 256))
        (hexDigit (b.toUInt16.toNat / 16)) (hexDigit b.toUInt16.toNat)
      = some b.toUInt16 := by
  have all : ∀ n < 0x20,
      hexCode? (hexDigit ((UInt8.ofNat n).toUInt16.toNat / 4096))
          (hexDigit ((UInt8.ofNat n).toUInt16.toNat / 256))
          (hexDigit ((UInt8.ofNat n).toUInt16.toNat / 16))
          (hexDigit (UInt8.ofNat n).toUInt16.toNat)
        = some (UInt8.ofNat n).toUInt16 := by decide
  simpa only [UInt8.ofNat_toNat] using all b.toNat h

/-! The four ways in which the reader goes on. -/

theorem takeText_quote (done : Text) (rest : List UInt8) :
    takeText done ('"'.toUInt8 :: rest) = some (done.reverse, rest) := by
  rw [takeText.eq_def]
  rfl

theorem takeText_short (done : Text) {sign byte : UInt8} (rest : List UInt8)
    (hsign : sign ≠ 'u'.toUInt8) (hbyte : escapedByte? sign = some byte) :
    takeText done ('\\'.toUInt8 :: sign :: rest) = takeText (.short byte :: done) rest := by
  conv_lhs => rw [takeText.eq_def]
  refine (if_neg hsign).trans ?_
  rw [hbyte]

theorem takeText_unit (done : Text) {a b c d : UInt8} {code : UInt16} (rest : List UInt8)
    (hcode : hexCode? a b c d = some code) :
    takeText done ('\\'.toUInt8 :: 'u'.toUInt8 :: a :: b :: c :: d :: rest)
      = takeText (.unit code :: done) rest := by
  conv_lhs => rw [takeText.eq_def]
  refine (if_pos rfl).trans ?_
  dsimp only
  rw [hcode]

theorem takeText_plain (done : Text) {b : UInt8} (rest : List UInt8) (hquote : b ≠ '"'.toUInt8)
    (hslash : b ≠ '\\'.toUInt8) (hcontrol : ¬ b < 0x20) :
    takeText done (b :: rest) = takeText (.plain b :: done) rest := by
  conv_lhs => rw [takeText.eq_def]
  dsimp only
  split
  · exact absurd ‹_› (ofUInt8_ne hquote)
  · exact absurd ‹_› (ofUInt8_ne hslash)
  · exact if_neg hcontrol

/-- **A piece is read back**: the reader that meets the piece written for a byte goes on
behind it with that piece gathered. -/
theorem takeText_pieceOf (done : Text) (b : UInt8) (rest : List UInt8) :
    takeText done ((pieceOf b).render ++ rest) = takeText (pieceOf b :: done) rest := by
  unfold pieceOf
  split
  · next h =>
    rcases h with rfl | rfl | rfl | rfl | rfl | rfl | rfl <;>
      exact takeText_short done rest (by decide) (by decide)
  split
  · next h => exact takeText_unit done rest (hexCode?_control h)
  · next hshort hcontrol =>
    exact takeText_plain done rest (fun h => hshort (.inl h)) (fun h => hshort (.inr (.inl h)))
      hcontrol

theorem takeText_pieces (done : Text) (bytes rest : List UInt8) :
    takeText done ((bytes.map pieceOf).flatMap Piece.render ++ '"'.toUInt8 :: rest)
      = some (done.reverse ++ bytes.map pieceOf, rest) := by
  induction bytes generalizing done with
  | nil =>
    rw [List.map_nil, List.flatMap_nil, List.nil_append, List.append_nil, takeText_quote]
  | cons b bytes ih =>
    rw [List.map_cons, List.flatMap_cons, List.append_assoc, takeText_pieceOf, ih,
      List.reverse_cons, List.append_assoc]
    rfl

/-- **A string is read back** behind its opening quote, whatever follows its closing one. -/
theorem takeText_ofString (s : String) (rest : List UInt8) :
    takeText [] ((ofString s).flatMap Piece.render ++ '"'.toUInt8 :: rest)
      = some (ofString s, rest) :=
  takeText_pieces [] s.toByteArray.data.toList rest

end Text

/-! ## Numbers -/

/-- Nothing in front of these bytes that is read as a number can be continued by them. -/
def Stops (s : List UInt8) : Prop :=
  ∀ b ∈ s.head?, isDigit b = false ∧ b ≠ '.'.toUInt8 ∧ b ≠ 'e'.toUInt8 ∧ b ≠ 'E'.toUInt8

theorem stops_nil : Stops [] := fun _ h => nomatch h

theorem stops_cons {b : UInt8} (s : List UInt8)
    (h : isDigit b = false ∧ b ≠ '.'.toUInt8 ∧ b ≠ 'e'.toUInt8 ∧ b ≠ 'E'.toUInt8) :
    Stops (b :: s) := by
  intro c hc
  obtain rfl := Option.mem_some_iff.mp hc
  exact h

/-- A decimal digit is one byte, and is meant by it. -/
theorem isDigit_toUInt8 {c : Char} (h : c.isDigit = true) :
    isDigit c.toUInt8 = true ∧ Char.ofUInt8 c.toUInt8 = c := by
  have hlow : 48 ≤ c.toNat := (Char.isDigit_iff_toNat.mp h).1
  have hhigh : c.toNat ≤ 57 := (Char.isDigit_iff_toNat.mp h).2
  have all : ∀ n < 58, 48 ≤ n → isDigit (Char.ofNat n).toUInt8 = true
      ∧ Char.ofUInt8 (Char.ofNat n).toUInt8 = Char.ofNat n := by decide
  simpa only [Char.ofNat_toNat] using all c.toNat (by omega) hlow

theorem takeDigits_append {digits : List Char} (hdigits : ∀ c ∈ digits, c.isDigit = true)
    {rest : List UInt8} (hrest : Stops rest) :
    takeDigits (digits.map Char.toUInt8 ++ rest) = (digits, rest) := by
  have hall : ∀ b ∈ digits.map Char.toUInt8, isDigit b = true := by
    intro b hb
    obtain ⟨c, hc, rfl⟩ := List.mem_map.mp hb
    exact (isDigit_toUInt8 (hdigits c hc)).1
  have hback : (digits.map Char.toUInt8).map Char.ofUInt8 = digits := by
    rw [List.map_map]
    exact (List.map_congr_left fun c hc => (isDigit_toUInt8 (hdigits c hc)).2).trans
      (List.map_id digits)
  have hnone : rest.takeWhile isDigit = [] ∧ rest.dropWhile isDigit = rest := by
    cases rest with
    | nil => exact ⟨rfl, rfl⟩
    | cons b rest =>
      have hb : isDigit b = false := (hrest b rfl).1
      exact ⟨List.takeWhile_cons_of_neg (by rw [hb]; decide),
        List.dropWhile_cons_of_neg (by rw [hb]; decide)⟩
  rw [takeDigits, List.takeWhile_append_of_pos hall, List.dropWhile_append_of_pos hall, hnone.1,
    hnone.2, List.append_nil, hback]

theorem takeFraction_of_stops {s : List UInt8} (h : Stops s) : takeFraction s = some ([], s) := by
  cases s with
  | nil => rfl
  | cons b s => exact if_neg (h b rfl).2.1

theorem takeExponent_of_stops {s : List UInt8} (h : Stops s) : takeExponent s = some (none, s) := by
  cases s with
  | nil => rfl
  | cons b s => exact if_neg (not_or.mpr (h b rfl).2.2)

namespace Number

/-- Decimal digits start with a zero only if they are the digit zero. -/
theorem head?_toDigits_ne_zero {n : Nat} (h : 0 < n) : (Nat.toDigits 10 n).head? ≠ some '0' := by
  induction n using Nat.strongRecOn with
  | ind n ih =>
    by_cases hn : n < 10
    · rw [Nat.toDigits_of_lt_base hn]
      have all : ∀ m < 10, 0 < m → [Nat.digitChar m].head? ≠ some '0' := by decide
      exact all n hn h
    · -- the first digit is that of the tenth part, which is not zero either
      have hsome : (Nat.toDigits 10 (n / 10)).head?.isSome = true :=
        List.isSome_head?.mpr Nat.toDigits_ne_nil
      rw [Nat.toDigits_of_base_le (by decide) (by omega), List.head?_append,
        Option.or_of_isSome hsome]
      exact ih (n / 10) (by omega) (by omega)

theorem head?_toDigits_zero_length {n : Nat} (h : (Nat.toDigits 10 n).head? = some '0') :
    (Nat.toDigits 10 n).length = 1 := by
  obtain rfl : n = 0 := by
    by_contra hn
    exact head?_toDigits_ne_zero (by omega) h
  rfl

/-- The bytes of a whole number: a sign if it is negative, and its digits. -/
theorem render_ofInt (n : Int) :
    (ofInt n).render = (if n < 0 then ['-'.toUInt8] else [])
      ++ (Nat.toDigits 10 n.natAbs).map Char.toUInt8 := by
  unfold render ofInt
  by_cases hn : n < 0
  · simp [hn]
  · simp [hn]

/-- There is a digit at the front. -/
theorem exists_toDigits_eq_cons (n : Nat) :
    ∃ c digits, Nat.toDigits 10 n = c :: digits ∧ c.isDigit = true := by
  obtain ⟨c, digits, hc⟩ := List.exists_cons_of_ne_nil (Nat.toDigits_ne_nil (b := 10) (n := n))
  exact ⟨c, digits, hc,
    Nat.isDigit_of_mem_toDigits (by decide) (by decide) (hc ▸ List.mem_cons_self)⟩

theorem takeMinus_render_ofInt (n : Int) (rest : List UInt8) :
    takeMinus ((ofInt n).render ++ rest)
      = (decide (n < 0), (Nat.toDigits 10 n.natAbs).map Char.toUInt8 ++ rest) := by
  rw [render_ofInt]
  by_cases hn : n < 0
  · rw [if_pos hn, decide_eq_true hn]
    rfl
  · rw [if_neg hn, decide_eq_false hn, List.nil_append]
    obtain ⟨c, digits, hc, hdigit⟩ := exists_toDigits_eq_cons n.natAbs
    have hminus : c.toUInt8 ≠ '-'.toUInt8 := by
      intro h
      have hno := (isDigit_toUInt8 hdigit).1
      rw [h] at hno
      exact absurd hno (by decide)
    rw [hc]
    exact if_neg hminus

/-- **A whole number is read back**, unless it is continued by what follows. -/
theorem takeNumber_ofInt (n : Int) {rest : List UInt8} (hrest : Stops rest) :
    takeNumber ((ofInt n).render ++ rest) = some (ofInt n, rest) := by
  have hdigits : takeDigits ((Nat.toDigits 10 n.natAbs).map Char.toUInt8 ++ rest)
      = (Nat.toDigits 10 n.natAbs, rest) :=
    takeDigits_append (fun c hc => Nat.isDigit_of_mem_toDigits (by decide) (by decide) hc) hrest
  have hfine : ¬ (Nat.toDigits 10 n.natAbs = [] ∨ (Nat.toDigits 10 n.natAbs).head? = some '0'
      ∧ (Nat.toDigits 10 n.natAbs).length ≠ 1) := by
    rintro (hnil | ⟨hzero, hlen⟩)
    · exact Nat.toDigits_ne_nil hnil
    · exact hlen (head?_toDigits_zero_length hzero)
  rw [takeNumber, takeMinus_render_ofInt]
  dsimp only
  rw [hdigits]
  dsimp only
  rw [if_neg hfine, takeFraction_of_stops hrest]
  show (takeExponent rest).bind _ = _
  rw [takeExponent_of_stops hrest]
  rfl

/-- **A whole number means itself**, if a word has room for it. -/
theorem int?_ofInt {n : Int} (h : n.natAbs < UInt64.size) : (ofInt n).int? = some n := by
  have hvalue : Text.valueUpTo tooLarge (Nat.toDigits 10 n.natAbs) = n.natAbs := by
    rw [Text.valueUpTo_eq_min, Nat.ofDigitChars_ten_toDigits]
    exact Nat.min_eq_right (Nat.le_of_lt h)
  have hplain : ¬ ((ofInt n).fraction ≠ [] ∨ (ofInt n).exponent.isSome
      ∨ ((ofInt n).negative ∧ (ofInt n).integer = ['0'])) := by
    rintro (hf | he | ⟨hneg, hzero⟩)
    · exact hf rfl
    · exact Bool.false_ne_true he
    · -- a negative number is not written as `-0`
      have hn : n < 0 := of_decide_eq_true hneg
      exact head?_toDigits_ne_zero (n := n.natAbs) (by omega) (congrArg List.head? hzero)
  rw [int?, if_neg hplain]
  show (let size := Text.valueUpTo tooLarge (Nat.toDigits 10 n.natAbs)
    if size = tooLarge then none else some (if decide (n < 0) then -(size : Int) else size)) = _
  rw [hvalue]
  show (if n.natAbs = UInt64.size then none else _) = _
  rw [if_neg (Nat.ne_of_lt h)]
  by_cases hn : n < 0
  · rw [decide_eq_true hn, if_pos rfl]
    exact congrArg some (by omega)
  · rw [decide_eq_false hn, if_neg (by decide)]
    exact congrArg some (by omega)

end Number

end Switchboard.Json
