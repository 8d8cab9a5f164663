import Mathlib
import Switchboard.Address
import Switchboard.Proofs.Json.Lexeme

/-!
# Which addresses have a URL

`Address.text` writes any address, but not everything it writes is a URL: the
fields of an address may hold what no URL spells, and a port without a host has
no place in a URL at all. `Address.IsSpelled` collects what the parts of a URL
have to be, and three facts say that this is the right collection.

* Whatever `Address.parse?` reads is spelled (`isSpelled_of_parse?`).
* What is spelled is read back from its text (`IsSpelled.parse?_text`), so an
  address is read back exactly if it is spelled (`parse?_text_eq_some`).
* A port without a host is not read as some other address either: then the text
  is malformed (`parse?_text_of_port_without_host`).

The reader takes the parts off the front one after the other. For each of them
one lemma says that it takes a part that is followed by what may follow it, and
one that what it has taken is such a part.
-/

namespace Switchboard.Address

/-! ## Schemes -/

/-- A scheme: a letter and what may follow it. -/
def isScheme : List Char → Bool
  | [] => false
  | c :: cs => isLetter c && cs.all isSchemeChar

/-- A scheme is taken off a URL. -/
theorem takeScheme_append {scheme : List Char} (h : isScheme scheme = true) (rest : List Char) :
    takeScheme (scheme ++ ':' :: '/' :: '/' :: rest) = some (scheme, rest) := by
  obtain _ | ⟨c, cs⟩ := scheme
  · simp [isScheme] at h
  obtain ⟨hc, hcs⟩ : isLetter c = true ∧ ∀ x ∈ cs, isSchemeChar x = true := by
    simpa [isScheme] using h
  have hcolon : isSchemeChar ':' = false := by decide
  simp [takeScheme, hc, List.dropWhile_append_of_pos hcs, List.takeWhile_append_of_pos hcs,
    List.dropWhile, List.takeWhile, hcolon]

/-- What is taken off a URL first is a scheme. -/
theorem isScheme_of_takeScheme {cs scheme rest : List Char}
    (h : takeScheme cs = some (scheme, rest)) : isScheme scheme = true := by
  obtain _ | ⟨c, cs⟩ := cs
  · simp [takeScheme] at h
  rw [takeScheme] at h
  split_ifs at h with hc
  split at h
  · obtain ⟨rfl, -⟩ : c :: cs.takeWhile isSchemeChar = scheme ∧ _ = rest := by simpa using h
    simp [isScheme, hc]
  · cases h

/-- The lower case of what may stand in a scheme may stand there too. -/
theorem isSchemeChar_toLower {c : Char} (h : isSchemeChar c = true) :
    isSchemeChar c.toLower = true := by
  by_cases hc : c.isUpper = true
  · have halpha : c.toLower.isAlpha = true := by simp [Char.isAlpha, hc]
    simp [isSchemeChar, Char.isAlphanum, halpha]
  · rwa [Char.toLower_eq_of_not_isUpper hc]

/-- The lower case of a scheme is a scheme. -/
theorem isScheme_map_toLower {scheme : List Char} (h : isScheme scheme = true) :
    isScheme (scheme.map Char.toLower) = true := by
  obtain _ | ⟨c, cs⟩ := scheme
  · exact h
  obtain ⟨hc, hcs⟩ : isLetter c = true ∧ ∀ x ∈ cs, isSchemeChar x = true := by
    simpa [isScheme] using h
  simpa [isScheme, isLetter] using ⟨hc, fun x hx => isSchemeChar_toLower (hcs x hx)⟩

/-- A text without upper case is its own lower case. -/
theorem map_toLower_eq_self {cs : List Char} (h : ∀ c ∈ cs, c.isUpper = false) :
    cs.map Char.toLower = cs := by
  conv_rhs => rw [← List.map_id cs]
  exact List.map_congr_left fun c hc => Char.toLower_eq_of_not_isUpper (by simp [h c hc])

/-! ## Ports -/

/-- A port as it is written. -/
theorem toList_portText (port : UInt16) :
    (portText port).toList = if port = 0 then [] else ':' :: Nat.toDigits 10 port.toNat := by
  rw [portText]
  split_ifs with h
  · rfl
  · simp

/-- The digits of a port other than `0` are read as that port. -/
theorem readPort_toDigits {port : UInt16} (h : port ≠ 0) :
    readPort (Nat.toDigits 10 port.toNat) = some port := by
  have hpos : 0 < port.toNat := by
    rcases Nat.eq_zero_or_pos port.toNat with h0 | h0
    · exact absurd (UInt16.toNat_inj.mp h0) h
    · exact h0
  have hlt := port.toNat_lt
  have hvalue : Text.valueUpTo 65536 (Nat.toDigits 10 port.toNat) = port.toNat := by
    rw [Text.valueUpTo_eq_min, Nat.ofDigitChars_ten_toDigits]
    omega
  have hfine : ¬ (Nat.toDigits 10 port.toNat = []
      ∨ (Nat.toDigits 10 port.toNat).head? = some '0' ∨ 65535 < port.toNat) := by
    rintro (hnil | hzero | hlarge)
    · exact Nat.toDigits_ne_nil hnil
    · exact Json.Number.head?_toDigits_ne_zero hpos hzero
    · omega
  rw [readPort, hvalue, if_neg hfine, UInt16.ofNat_toNat]

theorem isPath_cons {c : Char} {cs : List Char} :
    isPath (c :: cs) = true ↔ c = '/' ∧ isSegments true cs = true := by
  simp [isPath]

/-- A path is empty or begins with a slash. -/
theorem head?_of_isPath {path : List Char} (h : isPath path = true) {c : Char}
    (hc : path.head? = some c) : c = '/' := by
  obtain _ | ⟨d, cs⟩ := path
  · cases hc
  · obtain rfl : d = c := by simpa using hc
    exact (isPath_cons.mp h).1

/-- A part ends where a character follows that does not belong to it. -/
theorem takeWhile_append_of_head? {p : Char → Bool} {part rest : List Char}
    (hpart : ∀ c ∈ part, p c = true) (hrest : ∀ c, rest.head? = some c → p c = false) :
    (part ++ rest).takeWhile p = part ∧ (part ++ rest).dropWhile p = rest := by
  rw [List.takeWhile_append_of_pos hpart, List.dropWhile_append_of_pos hpart]
  obtain _ | ⟨c, cs⟩ := rest
  · simp
  · simp [List.takeWhile, List.dropWhile, hrest c rfl]

/-- A path is no port. -/
theorem takePort_of_isPath {path : List Char} (hpath : isPath path = true) :
    takePort path = some (0, path) := by
  obtain _ | ⟨c, cs⟩ := path
  · rfl
  · obtain rfl := (isPath_cons.mp hpath).1
    rfl

/-- Digits behind a colon and before a path are read as a port. -/
theorem takePort_cons {digits path : List Char} (hdigits : ∀ c ∈ digits, c.isDigit = true)
    (hpath : isPath path = true) :
    takePort (':' :: (digits ++ path)) = (readPort digits).map (·, path) := by
  obtain ⟨htake, hdrop⟩ := takeWhile_append_of_head? hdigits
    (fun c hc => by rw [head?_of_isPath hpath hc]; decide)
  rw [takePort, htake, hdrop]

/-- A port is taken off what is before a path. -/
theorem takePort_append (port : UInt16) {path : List Char} (hpath : isPath path = true) :
    takePort ((portText port).toList ++ path) = some (port, path) := by
  rw [toList_portText]
  split_ifs with h
  · subst h
    exact takePort_of_isPath hpath
  · rw [List.cons_append, takePort_cons (fun c hc =>
      Nat.isDigit_of_mem_toDigits (b := 10) (by decide) (by decide) hc) hpath, readPort_toDigits h]
    rfl

/-! ## Host and port -/

/-- What follows a host begins with a colon or a slash. -/
theorem isHostChar_after_host (port : UInt16) {path : List Char} (hpath : isPath path = true)
    {c : Char} (hc : ((portText port).toList ++ path).head? = some c) : isHostChar c = false := by
  rw [toList_portText] at hc
  split_ifs at hc with h
  · rw [head?_of_isPath hpath hc]
    decide
  · obtain rfl : ':' = c := by simpa using hc
    decide

/-- The characters of a host are taken off, and then the port, if there was a host. -/
theorem takeAuthority_of_takePort {host rest path : List Char} {port : UInt16}
    (hhost : ∀ c ∈ host, isHostChar c = true)
    (hrest : ∀ c, rest.head? = some c → isHostChar c = false)
    (hport : takePort rest = some (port, path)) (hnone : host = [] → port = 0 ∧ rest = path) :
    takeAuthority (host ++ rest) = some ((host, port), path) := by
  obtain ⟨htake, hdrop⟩ := takeWhile_append_of_head? hhost hrest
  rw [takeAuthority, htake, hdrop]
  split_ifs with h
  · obtain ⟨rfl, rfl⟩ := hnone h
    rw [h]
  · rw [hport]
    rfl

/-- Host and port are taken off what is before a path. -/
theorem takeAuthority_append {host path : List Char} {port : UInt16}
    (hhost : ∀ c ∈ host, isHostChar c = true) (hport : host = [] → port = 0)
    (hpath : isPath path = true) :
    takeAuthority (host ++ ((portText port).toList ++ path)) = some ((host, port), path) := by
  refine takeAuthority_of_takePort hhost (fun _ => isHostChar_after_host port hpath)
    (takePort_append port hpath) fun h => ⟨hport h, ?_⟩
  rw [hport h]
  rfl

/-- What is taken off as host and port are characters of a host, and no port without a
host. -/
theorem of_takeAuthority {cs host rest : List Char} {port : UInt16}
    (h : takeAuthority cs = some ((host, port), rest)) :
    (∀ c ∈ host, isHostChar c = true) ∧ (host = [] → port = 0) := by
  rw [takeAuthority] at h
  split_ifs at h with hempty
  · obtain ⟨⟨rfl, rfl⟩, -⟩ : ([] = host ∧ 0 = port) ∧ _ = rest := by simpa using h
    exact ⟨by simp, fun _ => rfl⟩
  · obtain ⟨⟨taken, after⟩, -, heq⟩ := Option.map_eq_some_iff.mp h
    obtain ⟨⟨rfl, -⟩, -⟩ : (cs.takeWhile isHostChar = host ∧ _ = port) ∧ _ = rest := by
      simpa using heq
    exact ⟨fun c hc => List.mem_takeWhile_imp hc, fun h => absurd h hempty⟩

/-! ## Addresses -/

/-- **An address that a URL spells.** -/
structure IsSpelled (a : Address) : Prop where
  isScheme : isScheme a.scheme.toList = true
  scheme_lower : ∀ c ∈ a.scheme.toList, c.isUpper = false
  host : ∀ c ∈ a.host.toList, isHostChar c = true
  /-- A port needs a host. -/
  port_of_host : a.host = "" → a.port = 0
  isPath : isPath a.path.toList = true

/-- **What is read from a URL is an address that a URL spells.** -/
theorem isSpelled_of_parse? {url : String} {a : Address} (h : parse? url = some a) :
    a.IsSpelled := by
  simp only [parse?, Option.bind_eq_bind, Option.bind_eq_some_iff] at h
  obtain ⟨⟨scheme, afterScheme⟩, hscheme, ⟨⟨host, port⟩, path⟩, hauthority, h⟩ := h
  split_ifs at h with hpath
  obtain rfl : _ = a := Option.some.inj h
  obtain ⟨hhost, hport⟩ := of_takeAuthority hauthority
  exact
    { isScheme := by simpa using isScheme_map_toLower (isScheme_of_takeScheme hscheme)
      scheme_lower := by simp
      host := by simpa using hhost
      port_of_host := fun h => hport (by simpa using h)
      isPath := by simpa using hpath }

/-- The characters of the URL of an address. -/
theorem toList_text (a : Address) :
    a.text.toList = a.scheme.toList ++ ':' :: '/' :: '/' ::
      (a.host.toList ++ ((portText a.port).toList ++ a.path.toList)) := by
  simp [text]

/-- **An address that a URL spells is read back from its text.** -/
theorem IsSpelled.parse?_text {a : Address} (h : a.IsSpelled) : parse? a.text = some a := by
  have hport : a.host.toList = [] → a.port = 0 := fun hhost =>
    h.port_of_host (String.toList_eq_nil_iff.mp hhost)
  have hauthority := takeAuthority_append h.host hport h.isPath
  simp only [parse?, toList_text, takeScheme_append h.isScheme, Option.bind_eq_bind,
    Option.bind_some, hauthority, h.isPath, if_true, map_toLower_eq_self h.scheme_lower,
    String.ofList_toList]

/-- **An address is read back from its text exactly if a URL spells it.** -/
theorem parse?_text_eq_some {a : Address} : parse? a.text = some a ↔ a.IsSpelled :=
  ⟨isSpelled_of_parse?, IsSpelled.parse?_text⟩

/-- Reading an address is a complaint or what is spelled. -/
theorem parse_eq_ok {url : String} {a : Address} : parse url = .ok a ↔ parse? url = some a := by
  rw [parse]
  cases parse? url <;> simp

/-- A text that spells no address is the complaint. -/
theorem parse_eq_error {url : String} {e : Malformed} :
    parse url = .error e ↔ parse? url = none ∧ e = ⟨url⟩ := by
  rw [parse]
  cases parse? url <;> simp [eq_comm]

/-- **The text of a port without a host is malformed.** -/
theorem parse?_text_of_port_without_host {a : Address} (hscheme : isScheme a.scheme.toList = true)
    (hhost : a.host = "") (hport : a.port ≠ 0) : parse? a.text = none := by
  have hcolon : isHostChar ':' = false := by decide
  rw [parse?, toList_text, takeScheme_append hscheme, toList_portText, if_neg hport, hhost]
  simp [takeAuthority, List.dropWhile, hcolon, Address.isPath]

end Switchboard.Address
