import Mathlib.Data.String.Basic

/-!
# The order of texts is that of their bytes

Texts are compared character by character. Their UTF-8 bytes compare the same
way (`bytes_lt_of_lt`), although a character takes one byte or several: the
first byte of a longer form is larger than that of any shorter one, and among
forms of one length the digits of the character decide, in base 64 and the most
significant first.
-/

namespace Switchboard.Text

/-- The bytes of a text. -/
def bytes (s : String) : List UInt8 := s.toUTF8.data.toList

theorem bytes_eq (s : String) : bytes s = s.toList.flatMap String.utf8EncodeChar := by
  rw [bytes, String.toUTF8_eq_toByteArray, ← String.utf8Encode_toList, List.utf8Encode,
    List.toList_data_toByteArray]

/-- Of two numbers the quotient decides, and then the remainder. -/
theorem div_lt_or_mod_lt {m n : Nat} (h : m < n) (base : Nat) :
    m / base < n / base ∨ m / base = n / base ∧ m % base < n % base := by
  rcases Nat.lt_or_eq_of_le (Nat.div_le_div_right (c := base) (Nat.le_of_lt h)) with hlt | heq
  · exact .inl hlt
  · refine .inr ⟨heq, ?_⟩
    have hm := Nat.div_add_mod m base
    have hn := Nat.div_add_mod n base
    rw [heq] at hm
    omega

/-- **A smaller character has smaller bytes**, whatever follows. -/
theorem utf8EncodeChar_lt {c d : Char} (h : c < d) (more more' : List UInt8) :
    String.utf8EncodeChar c ++ more < String.utf8EncodeChar d ++ more' := by
  have hlt : c.val.toNat < d.val.toNat := h
  have hmax : d.val.toNat < 1114112 := by
    obtain hd | ⟨-, hd⟩ := d.valid
    · exact Nat.lt_trans hd (by decide)
    · exact hd
  unfold String.utf8EncodeChar
  dsimp only
  generalize c.val.toNat = m at *
  generalize d.val.toNat = n at *
  -- the digits, each of the quotient of the one behind it; there are at most four of them
  have hm : m / 4096 = m / 64 / 64 ∧ m / 262144 = m / 64 / 64 / 64 := by
    simp only [Nat.div_div_eq_div_mul, and_self]
  have hn : n / 4096 = n / 64 / 64 ∧ n / 262144 = n / 64 / 64 / 64 := by
    simp only [Nat.div_div_eq_div_mul, and_self]
  have hlead : m / 64 / 64 / 64 < 8 ∧ n / 64 / 64 / 64 < 8 := by omega
  rw [hm.1, hm.2, hn.1, hn.2, Nat.mod_eq_of_lt hlead.1, Nat.mod_eq_of_lt hlead.2]
  have hfirst := div_lt_or_mod_lt hlt 64
  have hsecond (h : m / 64 < n / 64) := div_lt_or_mod_lt h 64
  have hthird (h : m / 64 / 64 < n / 64 / 64) := div_lt_or_mod_lt h 64
  have hbyte {b : Nat} (hb : b < 256) : (UInt8.ofNat b).toNat = b := UInt8.toNat_ofNat_of_lt' hb
  split_ifs <;>
  simp (disch := omega) only [List.cons_append, List.nil_append, List.cons_lt_cons_iff,
    UInt8.lt_iff_toNat_lt, ← UInt8.toNat_inj, hbyte] <;> omega

/-- **Texts in order have their bytes in order.** -/
theorem bytes_lt_of_lt {s t : String} (h : s < t) : bytes s < bytes t := by
  rw [bytes_eq, bytes_eq]
  have hchars := String.lt_iff_toList_lt.mp h
  generalize s.toList = cs at hchars
  generalize t.toList = ds at hchars
  induction hchars with
  | @nil d ds =>
    cases hbytes : (d :: ds).flatMap String.utf8EncodeChar with
    | nil =>
      have hempty := List.append_eq_nil_iff.mp hbytes
      exact absurd hempty.1 String.utf8EncodeChar_ne_nil
    | cons => exact .nil
  | rel hlt => exact utf8EncodeChar_lt hlt _ _
  | cons _ ih =>
    rw [List.flatMap_cons, List.flatMap_cons]
    exact List.append_left_lt ih

end Switchboard.Text
