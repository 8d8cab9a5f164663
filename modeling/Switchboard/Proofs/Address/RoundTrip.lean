import Switchboard.Proofs.Address.Grammar

/-!
# Addresses and their texts

`Address.text` writes an address as if it were a URL. If it is the address of a
URL, then what is written is that URL again, except for the case of its scheme
(`Url.text_address`). Two facts carry this. The digits of a port are the very
digits in which its number is written, because they do not begin with `0`
(`Url.toDigits_number`); and what is absent from a URL is what is not written of
an address.

Addresses come about in other ways as well: a server puts another port into one,
and what arrives as JSON is not looked at. So an address may hold anything, and
its text may still be a URL, that of another address. `Address.text_inverts_parse`
says of every address whether it is read back from its text, by what its fields
would have to be in a URL.
-/

namespace Switchboard

namespace Url

/-! ## Numbers and their digits -/

/-- The value of a digit, which is written as that digit. -/
theorem digitChar_digitValue {c : Char} (h : IsDigit c) :
    Text.digitValue c < 10 ∧ Nat.digitChar (Text.digitValue c) = c := by
  have hbounds : 48 ≤ c.toNat ∧ c.toNat ≤ 57 := by
    simpa [IsDigit, Char.le_def, UInt32.le_iff_toNat_le] using h
  have hvalue : Text.digitValue c = c.toNat - 48 := rfl
  have hlt : Text.digitValue c < 10 := by omega
  have hwritten : ∀ n < 10, (Nat.digitChar n).toNat = 48 + n := by decide
  refine ⟨hlt, Char.toNat_inj.mp ?_⟩
  rw [hwritten _ hlt]
  omega

/-- One more digit makes ten times the number and the value of the digit. -/
theorem number_append_digit (digits : List Char) (c : Char) :
    number (digits ++ [c]) = 10 * number digits + Text.digitValue c := by
  rw [number, Nat.ofDigitChars_append, Nat.ofDigitChars_cons, Nat.ofDigitChars_nil]
  rfl

/-- Digits that do not begin with `0` stand for a positive number, and this number is written in
them. -/
theorem toDigits_number_cons {c : Char} (hc : '1' ≤ c ∧ c ≤ '9') {rest : List Char}
    (hrest : ∀ x ∈ rest, IsDigit x) :
    0 < number (c :: rest) ∧ Nat.toDigits 10 (number (c :: rest)) = c :: rest := by
  have hdigit : IsDigit c := ⟨le_trans (by decide) hc.1, hc.2⟩
  -- the number is made from the front, so the digits are taken off at the end
  induction rest using List.reverseRecOn with
  | nil =>
    obtain ⟨hlt, hwritten⟩ := digitChar_digitValue hdigit
    have hnumber : number [c] = Text.digitValue c := by
      simpa [number] using number_append_digit [] c
    have hone : 49 ≤ c.toNat := by simpa [Char.le_def, UInt32.le_iff_toNat_le] using hc.1
    have hvalue : Text.digitValue c = c.toNat - 48 := rfl
    rw [hnumber, Nat.toDigits_of_lt_base hlt, hwritten]
    exact ⟨by omega, rfl⟩
  | append_singleton rest x ih =>
    obtain ⟨hinit, hx⟩ := List.forall_mem_append.mp hrest
    obtain ⟨hpos, ih⟩ := ih hinit
    obtain ⟨hlt, hwritten⟩ := digitChar_digitValue (hx x (List.mem_singleton_self x))
    rw [← List.cons_append, number_append_digit]
    refine ⟨by omega, ?_⟩
    rw [← Nat.toDigits_append_toDigits (by decide) hpos hlt, ih, Nat.toDigits_of_lt_base hlt,
      hwritten]

/-- **The digits of a port are those in which its number is written**, which is not `0`. -/
theorem toDigits_number {digits : List Char} (h : IsPort digits) :
    0 < number digits ∧ Nat.toDigits 10 (number digits) = digits := by
  obtain ⟨⟨c, rest, rfl, hone, hnine, hrest⟩, -⟩ := h
  exact toDigits_number_cons ⟨hone, hnine⟩ hrest

/-- **The port of a URL is written as it stands there.** -/
theorem toList_portText (port : Option {cs : List Char // IsPort cs}) :
    (Address.portText (portNumber port)).toList = portWritten port := by
  rw [Address.toList_portText]
  cases port with
  | none => rfl
  | some port =>
    obtain ⟨hpos, hdigits⟩ := toDigits_number port.2
    have hnumber : (portNumber (some port)).toNat = number port.1 := by
      have hsmall := port.2.2
      show (UInt16.ofNat (number port.1)).toNat = _
      rw [UInt16.toNat_ofNat']
      omega
    have hne : portNumber (some port) ≠ 0 := by
      intro h
      rw [h] at hnumber
      exact absurd hnumber.symm (Nat.ne_of_gt hpos)
    rw [if_neg hne, hnumber, hdigits]
    rfl

/-! ## A URL with its scheme in lower case -/

/-- The URL with its scheme in lower case. -/
def lower (u : Url) : Url :=
  { u with scheme := ⟨u.scheme.1.map Char.toLower,
      isScheme_iff.mp (Address.isScheme_map_toLower (isScheme_iff.mpr u.scheme.2))⟩ }

/-- **The text of the address of a URL is the URL**, with its scheme in lower case. -/
theorem text_address (u : Url) : u.address.text = u.lower.text := by
  rw [← String.toList_inj, Address.toList_text, Url.toList_text]
  simp only [address, String.toList_ofList, toList_portText]
  rfl

/-- A URL with its scheme in lower case spells the same address. -/
theorem address_lower (u : Url) : u.lower.address = u.address := by
  have htwice : Char.toLower ∘ Char.toLower = Char.toLower := by
    funext c
    simp
  simp only [address, lower, List.map_map, htwice]

end Url

namespace Address

/-- **Writing and reading undo each other, on the addresses of URLs and on no others.** The text
of an address that has been read is the URL that was read, except that its scheme is in lower
case, and is read as the same address. And of all addresses, those are read back from their texts
whose fields are what a URL has: a scheme in lower case, a host or none, no port without a host,
and a path or none. -/
theorem text_inverts_parse :
    (∀ url a, parse url = .ok a →
      (∃ scheme rest : String, Url.IsScheme scheme.toList ∧ url = scheme ++ "://" ++ rest
        ∧ a.text = scheme.map Char.toLower ++ "://" ++ rest)
      ∧ parse a.text = .ok a)
    ∧ ∀ a : Address, parse a.text = .ok a ↔
      (Url.IsScheme a.scheme.toList ∧ ∀ c ∈ a.scheme.toList, ¬ ('A' ≤ c ∧ c ≤ 'Z'))
      ∧ (∀ c ∈ a.host.toList, Url.IsHostChar c)
      ∧ (a.port = 0 ∨ a.host ≠ "")
      ∧ (a.path = "" ∨ Url.IsPath a.path.toList) := by
  refine ⟨fun url a ha => ?_, fun a => ?_⟩
  · obtain ⟨u, rfl, rfl⟩ := Url.exists_of_parse? (parse_eq_ok.mp ha)
    refine ⟨⟨String.ofList u.scheme.1, String.ofList (Url.written u.host ++
      (Url.portWritten u.port ++ Url.written u.path)), ?_, ?_, ?_⟩, ?_⟩
    · simpa using u.scheme.2
    · simp [← String.toList_inj, Url.chars]
    · simp [← String.toList_inj, u.text_address, Url.lower, Url.chars]
    · rw [parse_eq_ok, u.text_address, Url.parse?_text, u.address_lower]
  -- the conditions of `parse?_text_eq_some`, in the words of the grammar
  · have hlower : ∀ c : Char, c.isUpper = false ↔ ¬ ('A' ≤ c ∧ c ≤ 'Z') := fun c => by
      simp [Char.isUpper, Char.le_def]
    have hport : (a.host = "" → a.port = 0) ↔ a.port = 0 ∨ a.host ≠ "" := by
      rw [imp_iff_not_or, or_comm]
    have hpath : isPath a.path.toList = true ↔ a.path = "" ∨ Url.IsPath a.path.toList := by
      rw [Url.isPath_iff, String.toList_eq_nil_iff]
    rw [parse_eq_ok, parse?_text_eq_some]
    constructor
    · intro h
      exact ⟨⟨Url.isScheme_iff.mp h.isScheme, fun c hc => (hlower c).mp (h.scheme_lower c hc)⟩,
        fun c hc => Url.isHostChar_iff.mp (h.host c hc), hport.mp h.port_of_host,
        hpath.mp h.isPath⟩
    · rintro ⟨⟨hscheme, hsmall⟩, hhost, hnumber, hspelled⟩
      exact
        { isScheme := Url.isScheme_iff.mpr hscheme
          scheme_lower := fun c hc => (hlower c).mpr (hsmall c hc)
          host := fun c hc => Url.isHostChar_iff.mpr (hhost c hc)
          port_of_host := hport.mpr hnumber
          isPath := hpath.mpr hspelled }

end Address

end Switchboard
