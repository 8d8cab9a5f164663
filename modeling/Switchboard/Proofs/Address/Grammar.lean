import Switchboard.Proofs.Address.Text

/-!
# The grammar of URLs

A URL is written

    scheme :// [host [: port]] [path]

and `Url` is one in its parts, each as it stands there. What is no part of a URL
cannot be put into one, and a port cannot be put behind an absent host. `Url.text`
writes a URL down, and `Url.address` is the address that it spells.

Nothing in the grammar knows of `Address.parse`, which takes characters off the
front of a text. That the two agree has four parts (`Url.parse_decides`).

* A URL is read as the address that it spells (`Url.parse_text`).
* What is read is a URL (`Url.exists_of_parse?`). Any other text is given back
  as a complaint.
* No text is a URL in two ways (`Url.text_injective`).
* So a URL ends where its path does. It holds no control character, no two
  slashes in its path, and no port without a host or above `65535`, however many
  digits the port has.
-/

namespace Switchboard

namespace Url

/-! ## Characters -/

/-- A letter, of which there are twice 26. -/
def IsLetter (c : Char) : Prop := ('A' ≤ c ∧ c ≤ 'Z') ∨ ('a' ≤ c ∧ c ≤ 'z')

/-- A digit. -/
def IsDigit (c : Char) : Prop := '0' ≤ c ∧ c ≤ '9'

/-- What a scheme goes on with. -/
def IsSchemeChar (c : Char) : Prop := IsLetter c ∨ IsDigit c ∨ c = '+' ∨ c = '-' ∨ c = '.'

/-- What a host is made of. -/
def IsHostChar (c : Char) : Prop := IsLetter c ∨ IsDigit c ∨ c = '_' ∨ c = '.'

/-- What the segments of a path are made of. -/
def IsSegmentChar (c : Char) : Prop := IsLetter c ∨ IsDigit c ∨ c = '_' ∨ c = '.' ∨ c = '-'

/-! ## Parts -/

/-- A scheme. -/
def IsScheme (cs : List Char) : Prop :=
  ∃ c rest, cs = c :: rest ∧ IsLetter c ∧ ∀ x ∈ rest, IsSchemeChar x

/-- A host. -/
def IsHost (cs : List Char) : Prop := cs ≠ [] ∧ ∀ c ∈ cs, IsHostChar c

/-- The number that some digits stand for. -/
def number (digits : List Char) : Nat := Nat.ofDigitChars 10 digits 0

/-- **A port**: a digit other than `0` and any digits behind it, as long as the number is not
too large. -/
def IsPort (cs : List Char) : Prop :=
  (∃ c rest, cs = c :: rest ∧ '1' ≤ c ∧ c ≤ '9' ∧ ∀ x ∈ rest, IsDigit x) ∧ number cs ≤ 65535

/-- A segment of a path. -/
def IsSegment (cs : List Char) : Prop := cs ≠ [] ∧ ∀ c ∈ cs, IsSegmentChar c

/-- **A path**: a slash, behind which there may be segments with a slash between each two, and
then one more slash, perhaps. -/
inductive IsPath : List Char → Prop where
  | root : IsPath ['/']
  | deep {segments : List (List Char)} {last : List Char} (hne : segments ≠ [])
      (hsegments : ∀ s ∈ segments, IsSegment s) (hlast : last = [] ∨ last = ['/']) :
      IsPath ('/' :: (['/'].intercalate segments ++ last))

end Url

/-- **A URL** in its parts, as they are written. All but the scheme may be absent. -/
structure Url where
  scheme : {cs : List Char // Url.IsScheme cs}
  host : Option {cs : List Char // Url.IsHost cs}
  port : Option {cs : List Char // Url.IsPort cs}
  path : Option {cs : List Char // Url.IsPath cs}
  /-- A port needs a host. -/
  host_of_port : host = none → port = none

namespace Url

/-- A part that may be absent, as it stands in the text. -/
def written {p : List Char → Prop} : Option {cs : List Char // p cs} → List Char
  | none => []
  | some part => part.1

/-- A port as it stands in the text, with the colon before it. -/
def portWritten : Option {cs : List Char // IsPort cs} → List Char
  | none => []
  | some port => ':' :: port.1

/-- The number of a port, `0` if there is none. -/
def portNumber : Option {cs : List Char // IsPort cs} → UInt16
  | none => 0
  | some port => UInt16.ofNat (number port.1)

/-- The characters of a URL. -/
def chars (u : Url) : List Char :=
  u.scheme.1 ++ ':' :: '/' :: '/' :: (written u.host ++ (portWritten u.port ++ written u.path))

/-- **The text of a URL.** -/
def text (u : Url) : String := String.ofList u.chars

/-- **The address that a URL spells**: the scheme in lower case, host and path as they are
written, and the number of the port. -/
def address (u : Url) : Address where
  scheme := String.ofList (u.scheme.1.map Char.toLower)
  host := String.ofList (written u.host)
  port := portNumber u.port
  path := String.ofList (written u.path)

@[simp] theorem toList_text (u : Url) : u.text.toList = u.chars := by simp [text]

/-! ## The reader's characters are those of the grammar -/

theorem isAlpha_iff {c : Char} : c.isAlpha = true ↔ IsLetter c := by
  simp [Char.isAlpha, Char.isUpper, Char.isLower, IsLetter, Char.le_def]

theorem isDigit_iff {c : Char} : c.isDigit = true ↔ IsDigit c := by
  simp [Char.isDigit, IsDigit, Char.le_def]

theorem isAlphanum_iff {c : Char} : c.isAlphanum = true ↔ IsLetter c ∨ IsDigit c := by
  simp [Char.isAlphanum, isAlpha_iff, isDigit_iff]

theorem isSchemeChar_iff {c : Char} : Address.isSchemeChar c = true ↔ IsSchemeChar c := by
  simp [Address.isSchemeChar, isAlphanum_iff, IsSchemeChar, or_assoc]

theorem isHostChar_iff {c : Char} : Address.isHostChar c = true ↔ IsHostChar c := by
  simp [Address.isHostChar, isAlphanum_iff, IsHostChar, or_assoc]

theorem isSegmentChar_iff {c : Char} : Address.isSegmentChar c = true ↔ IsSegmentChar c := by
  simp [Address.isSegmentChar, isAlphanum_iff, IsSegmentChar, or_assoc]

/-! ## Schemes -/

theorem isScheme_iff {cs : List Char} : Address.isScheme cs = true ↔ IsScheme cs := by
  cases cs with
  | nil => simp [Address.isScheme, IsScheme]
  | cons c rest =>
    simp [Address.isScheme, Address.isLetter, isAlpha_iff, isSchemeChar_iff, IsScheme]

/-- What is taken off as a scheme is one, and is followed by a colon and two slashes. -/
theorem of_takeScheme {cs scheme rest : List Char}
    (h : Address.takeScheme cs = some (scheme, rest)) :
    IsScheme scheme ∧ cs = scheme ++ ':' :: '/' :: '/' :: rest := by
  refine ⟨isScheme_iff.mp (Address.isScheme_of_takeScheme h), ?_⟩
  cases cs with
  | nil => simp [Address.takeScheme] at h
  | cons c cs =>
    rw [Address.takeScheme] at h
    split_ifs at h with hc
    split at h
    · next after hafter =>
      obtain ⟨rfl, rfl⟩ : c :: cs.takeWhile Address.isSchemeChar = scheme ∧ after = rest := by
        simpa using h
      rw [List.cons_append, ← hafter, List.takeWhile_append_dropWhile]
    · cases h

/-! ## Ports -/

/-- A digit other than `0` is at least `1`. -/
theorem one_le_of_isDigit {c : Char} (h : IsDigit c) (hne : c ≠ '0') : '1' ≤ c := by
  have hlt : '0' < c := lt_of_le_of_ne h.1 (Ne.symm hne)
  rw [Char.lt_def, UInt32.lt_iff_toNat_lt] at hlt
  rw [Char.le_def, UInt32.le_iff_toNat_le]
  exact hlt

/-- A port is made of digits. -/
theorem IsPort.isDigit {cs : List Char} (h : IsPort cs) : ∀ c ∈ cs, IsDigit c := by
  obtain ⟨⟨c, rest, rfl, hone, hnine, hrest⟩, -⟩ := h
  exact List.forall_mem_cons.mpr ⟨⟨le_trans (by decide) hone, hnine⟩, hrest⟩

/-- Digits are a port if they do not begin with `0` and their number is not too large. -/
theorem isPort_iff {digits : List Char} (hdigits : ∀ c ∈ digits, IsDigit c) :
    IsPort digits ↔ digits ≠ [] ∧ digits.head? ≠ some '0' ∧ number digits ≤ 65535 := by
  cases digits with
  | nil => simp [IsPort]
  | cons c rest =>
    obtain ⟨hc, hrest⟩ := List.forall_mem_cons.mp hdigits
    constructor
    · rintro ⟨⟨_, _, ⟨⟩, hone, -, -⟩, hnumber⟩
      refine ⟨List.cons_ne_nil c rest, ?_, hnumber⟩
      rintro ⟨⟩
      exact absurd hone (by decide)
    · rintro ⟨-, hzero, hnumber⟩
      have hone := one_le_of_isDigit hc fun h => hzero (congrArg some h)
      exact ⟨⟨c, rest, rfl, hone, hc.2, hrest⟩, hnumber⟩

/-- **Digits are read as a port exactly if they are one.** -/
theorem readPort_eq_some {digits : List Char} (hdigits : ∀ c ∈ digits, IsDigit c) {n : UInt16} :
    Address.readPort digits = some n ↔ IsPort digits ∧ UInt16.ofNat (number digits) = n := by
  have hvalue : Text.valueUpTo 65536 digits = min 65536 (number digits) :=
    Text.valueUpTo_eq_min 65536 digits
  rw [Address.readPort, hvalue, isPort_iff hdigits]
  split_ifs with h
  · simp only [false_iff]
    rintro ⟨⟨hne, hzero, hnumber⟩, -⟩
    exact h.elim hne fun h => h.elim hzero fun h => by omega
  · obtain ⟨hne, hzero, hsmall⟩ : digits ≠ [] ∧ digits.head? ≠ some '0'
        ∧ ¬ 65535 < min 65536 (number digits) := by simpa only [not_or] using h
    have hnumber : number digits ≤ 65535 := by omega
    rw [min_eq_right (by omega)]
    simp [hne, hzero, hnumber]

/-- A port and a path begin with what is not in a host. -/
theorem isHostChar_after_host (port : Option {cs : List Char // IsPort cs}) {path : List Char}
    (hpath : Address.isPath path = true) {c : Char}
    (hc : (portWritten port ++ path).head? = some c) : Address.isHostChar c = false := by
  cases port with
  | none =>
    rw [Address.head?_of_isPath hpath hc]
    decide
  | some port =>
    obtain rfl : ':' = c := by simpa [portWritten] using hc
    decide

/-- A port is taken off what is before a path. -/
theorem takePort_portWritten (port : Option {cs : List Char // IsPort cs}) {path : List Char}
    (hpath : Address.isPath path = true) :
    Address.takePort (portWritten port ++ path) = some (portNumber port, path) := by
  cases port with
  | none => exact Address.takePort_of_isPath hpath
  | some port =>
    have hdigits : ∀ c ∈ port.1, c.isDigit = true := fun c hc =>
      isDigit_iff.mpr (port.2.isDigit c hc)
    have hread : Address.readPort port.1 = some (portNumber (some port)) :=
      (readPort_eq_some port.2.isDigit).mpr ⟨port.2, rfl⟩
    show Address.takePort (':' :: (port.1 ++ path)) = _
    rw [Address.takePort_cons hdigits hpath, hread]
    rfl

/-- What is taken off as a port is one. -/
theorem exists_of_takePort {cs rest : List Char} {n : UInt16}
    (h : Address.takePort cs = some (n, rest)) :
    ∃ port, cs = portWritten port ++ rest ∧ portNumber port = n := by
  unfold Address.takePort at h
  split at h
  · next after =>
    obtain ⟨n', hread, heq⟩ := Option.map_eq_some_iff.mp h
    obtain ⟨rfl, rfl⟩ : n' = n ∧ after.dropWhile Char.isDigit = rest := by simpa using heq
    have hdigits : ∀ c ∈ after.takeWhile Char.isDigit, IsDigit c := fun c hc =>
      isDigit_iff.mp (List.mem_takeWhile_imp hc)
    obtain ⟨hport, hnumber⟩ := (readPort_eq_some hdigits).mp hread
    refine ⟨some ⟨_, hport⟩, ?_, hnumber⟩
    show _ = ':' :: (after.takeWhile Char.isDigit ++ after.dropWhile Char.isDigit)
    rw [List.takeWhile_append_dropWhile]
  · obtain ⟨rfl, rfl⟩ : 0 = n ∧ cs = rest := by simpa using h
    exact ⟨none, rfl, rfl⟩

/-! ## Host and port -/

/-- The characters of a host, of which there are none if it is absent. -/
theorem isHostChar_of_mem_written {host : Option {cs : List Char // IsHost cs}} :
    ∀ c ∈ written host, Address.isHostChar c = true := by
  cases host with
  | none => simp [written]
  | some host => exact fun c hc => isHostChar_iff.mpr (host.2.2 c hc)

/-- A host is absent if nothing is written. -/
theorem written_host_eq_nil {host : Option {cs : List Char // IsHost cs}} :
    written host = [] ↔ host = none := by
  cases host with
  | none => simp [written]
  | some host => simpa [written] using host.2.1

/-- Host and port are taken off what is before a path. -/
theorem takeAuthority_written {host : Option {cs : List Char // IsHost cs}}
    {port : Option {cs : List Char // IsPort cs}} (hport : host = none → port = none)
    {path : List Char} (hpath : Address.isPath path = true) :
    Address.takeAuthority (written host ++ (portWritten port ++ path))
      = some ((written host, portNumber port), path) := by
  refine Address.takeAuthority_of_takePort isHostChar_of_mem_written
    (fun _ => isHostChar_after_host port hpath) (takePort_portWritten port hpath) fun h => ?_
  rw [hport (written_host_eq_nil.mp h)]
  exact ⟨rfl, rfl⟩

/-- What is taken off as host and port are a host and a port. -/
theorem exists_of_takeAuthority {cs host rest : List Char} {n : UInt16}
    (h : Address.takeAuthority cs = some ((host, n), rest)) :
    ∃ (host' : Option {cs : List Char // IsHost cs}) (port : Option {cs : List Char // IsPort cs}),
      (host' = none → port = none) ∧ cs = written host' ++ (portWritten port ++ rest)
        ∧ written host' = host ∧ portNumber port = n := by
  rw [Address.takeAuthority] at h
  have hsplit : cs.takeWhile Address.isHostChar ++ cs.dropWhile Address.isHostChar = cs :=
    List.takeWhile_append_dropWhile
  split_ifs at h with hempty
  · obtain ⟨⟨rfl, rfl⟩, rfl⟩ :
        ([] = host ∧ 0 = n) ∧ cs.dropWhile Address.isHostChar = rest := by simpa using h
    refine ⟨none, none, fun _ => rfl, ?_, rfl, rfl⟩
    rwa [hempty, eq_comm] at hsplit
  · obtain ⟨⟨n', after⟩, hport, heq⟩ := Option.map_eq_some_iff.mp h
    obtain ⟨⟨rfl, rfl⟩, rfl⟩ :
        (cs.takeWhile Address.isHostChar = host ∧ n' = n) ∧ after = rest := by simpa using heq
    obtain ⟨port, hafter, hnumber⟩ := exists_of_takePort hport
    have hhost : IsHost (cs.takeWhile Address.isHostChar) :=
      ⟨hempty, fun c hc => isHostChar_iff.mp (List.mem_takeWhile_imp hc)⟩
    refine ⟨some ⟨_, hhost⟩, port, fun h => absurd h (Option.some_ne_none _), ?_, rfl, hnumber⟩
    rw [← hafter]
    exact hsplit.symm

/-! ## Paths -/

/-- The segment that has been begun is read to its end. -/
theorem isSegments_append {b : Bool} {segment : List Char} (h : IsSegment segment)
    (rest : List Char) :
    Address.isSegments b (segment ++ rest) = Address.isSegments false rest := by
  obtain ⟨hne, hchars⟩ := h
  induction segment generalizing b with
  | nil => exact absurd rfl hne
  | cons c cs ih =>
    obtain ⟨hc, hcs⟩ := List.forall_mem_cons.mp hchars
    have hread : Address.isSegmentChar c = true := isSegmentChar_iff.mpr hc
    have hslash : c ≠ '/' := by
      rintro rfl
      exact absurd hread (by decide)
    rw [List.cons_append, Address.isSegments, if_neg hslash, hread, Bool.true_and]
    cases cs with
    | nil => rfl
    | cons d ds => exact ih (List.cons_ne_nil d ds) hcs

/-- Segments between slashes are read to their end. -/
theorem isSegments_intercalate {segments : List (List Char)} (hne : segments ≠ [])
    (h : ∀ s ∈ segments, IsSegment s) (rest : List Char) :
    Address.isSegments true (['/'].intercalate segments ++ rest)
      = Address.isSegments false rest := by
  induction segments with
  | nil => exact absurd rfl hne
  | cons s segments ih =>
    obtain ⟨hs, hsegments⟩ := List.forall_mem_cons.mp h
    cases segments with
    | nil => simpa using isSegments_append hs rest
    | cons s' segments =>
      rw [List.intercalate_cons_cons, List.append_assoc, List.append_assoc, isSegments_append hs]
      exact ih (List.cons_ne_nil s' segments) hsegments

/-- One segment is a path. -/
theorem IsPath.single {segment : List Char} (h : IsSegment segment) : IsPath ('/' :: segment) := by
  have hpath : IsPath ('/' :: (['/'].intercalate [segment] ++ [])) :=
    .deep (List.cons_ne_nil segment []) (by simpa using h) (.inl rfl)
  simpa using hpath

/-- A segment before a path is a path. -/
theorem IsPath.cons {segment path : List Char} (h : IsSegment segment) (hpath : IsPath path) :
    IsPath ('/' :: (segment ++ path)) := by
  cases hpath with
  | root =>
    have hpath : IsPath ('/' :: (['/'].intercalate [segment] ++ ['/'])) :=
      .deep (List.cons_ne_nil segment []) (by simpa using h) (.inr rfl)
    simpa using hpath
  | @deep segments last hne hsegments hlast =>
    have hpath := IsPath.deep (List.cons_ne_nil segment segments)
      (List.forall_mem_cons.mpr ⟨h, hsegments⟩) hlast
    obtain ⟨s, rest, rfl⟩ := List.exists_cons_of_ne_nil hne
    simpa [List.intercalate_cons_cons] using hpath

/-- **What is read as segments is behind the slash of a path**, and so is a segment that has been
begun with what goes on with it. -/
theorem isPath_of_isSegments (cs : List Char) :
    (Address.isSegments true cs = true → IsPath ('/' :: cs))
    ∧ ∀ front, IsSegment front → Address.isSegments false cs = true →
      IsPath ('/' :: (front ++ cs)) := by
  induction cs with
  | nil =>
    refine ⟨fun _ => .root, fun front hfront _ => ?_⟩
    rw [List.append_nil]
    exact .single hfront
  | cons c cs ih =>
    rw [Address.isSegments, Address.isSegments]
    split_ifs with hslash
    · subst hslash
      exact ⟨nofun, fun front hfront h => .cons hfront (ih.1 (by simpa using h))⟩
    · simp only [Bool.and_eq_true, isSegmentChar_iff]
      refine ⟨fun ⟨hc, h⟩ => ih.2 [c] ⟨List.cons_ne_nil c [], by simpa using hc⟩ h, ?_⟩
      intro front hfront ⟨hc, h⟩
      have hlonger : IsSegment (front ++ [c]) :=
        ⟨by simp, List.forall_mem_append.mpr ⟨hfront.2, by simpa using hc⟩⟩
      simpa using ih.2 (front ++ [c]) hlonger h

/-- **A path is read as one, and nothing else is**, except that there may be none. -/
theorem isPath_iff {cs : List Char} : Address.isPath cs = true ↔ cs = [] ∨ IsPath cs := by
  constructor
  · intro h
    cases cs with
    | nil => exact .inl rfl
    | cons c cs =>
      obtain ⟨rfl, h⟩ := Address.isPath_cons.mp h
      exact .inr ((isPath_of_isSegments cs).1 h)
  · rintro (rfl | h)
    · rfl
    · cases h with
      | root => rfl
      | deep hne hsegments hlast =>
        show ('/' == '/' && Address.isSegments true _) = true
        rw [isSegments_intercalate hne hsegments]
        rcases hlast with rfl | rfl <;> rfl

/-- A path is read as segments that begin with a slash. -/
theorem isSegments_of_isPath {cs : List Char} (h : Address.isPath cs = true) :
    Address.isSegments false cs = true := by
  cases cs with
  | nil => rfl
  | cons c cs =>
    obtain ⟨rfl, hcs⟩ := Address.isPath_cons.mp h
    exact hcs

/-- Paths that are read are those that can be written. -/
theorem isPath_written (path : Option {cs : List Char // IsPath cs}) :
    Address.isPath (written path) = true := by
  cases path with
  | none => rfl
  | some path => exact isPath_iff.mpr (.inr path.2)

theorem exists_written_of_isPath {cs : List Char} (h : Address.isPath cs = true) :
    ∃ path : Option {cs : List Char // IsPath cs}, written path = cs := by
  rcases isPath_iff.mp h with rfl | h
  · exact ⟨none, rfl⟩
  · exact ⟨some ⟨cs, h⟩, rfl⟩

/-! ## URLs -/

/-- **A URL is read as the address that it spells.** -/
theorem parse?_text (u : Url) : Address.parse? u.text = some u.address := by
  have hpath := isPath_written u.path
  have hscheme := Address.takeScheme_append (isScheme_iff.mpr u.scheme.2)
    (written u.host ++ (portWritten u.port ++ written u.path))
  rw [Address.parse?, toList_text, chars, hscheme]
  show (Address.takeAuthority _).bind _ = _
  rw [takeAuthority_written u.host_of_port hpath]
  show (if Address.isPath (written u.path) = true then _ else _) = _
  rw [if_pos hpath]
  rfl

/-- **What is read is a URL.** -/
theorem exists_of_parse? {text : String} {a : Address} (h : Address.parse? text = some a) :
    ∃ u : Url, u.text = text ∧ u.address = a := by
  simp only [Address.parse?, Option.bind_eq_bind, Option.bind_eq_some_iff] at h
  obtain ⟨⟨scheme, afterScheme⟩, hscheme, ⟨⟨host, n⟩, path⟩, hauthority, h⟩ := h
  split_ifs at h with hpath
  obtain rfl : _ = a := Option.some.inj h
  obtain ⟨isScheme, htext⟩ := of_takeScheme hscheme
  obtain ⟨host, port, hport, rfl, rfl, rfl⟩ := exists_of_takeAuthority hauthority
  obtain ⟨path, rfl⟩ := exists_written_of_isPath hpath
  refine ⟨⟨⟨scheme, isScheme⟩, host, port, path, hport⟩, ?_, rfl⟩
  rw [← String.toList_inj, toList_text]
  exact htext.symm

/-! ## One way to write a URL -/

/-- Parts that are never empty are told apart by what is written. -/
theorem written_injective {p : List Char → Prop} (hp : ¬ p []) :
    Function.Injective (written (p := p)) := by
  have hne : ∀ part : {cs : List Char // p cs}, part.1 ≠ [] := fun part h => hp (h ▸ part.2)
  intro part part' h
  cases part with
  | none =>
    cases part' with
    | none => rfl
    | some part' => exact absurd h.symm (hne part')
  | some part =>
    cases part' with
    | none => exact absurd h (hne part)
    | some part' => exact congrArg some (Subtype.ext h)

theorem portWritten_injective : Function.Injective portWritten := by
  intro port port' h
  cases port with
  | none =>
    cases port' with
    | none => rfl
    | some port' => exact absurd h (List.cons_ne_nil _ _).symm
  | some port =>
    cases port' with
    | none => exact absurd h (List.cons_ne_nil _ _)
    | some port' => exact congrArg some (Subtype.ext (List.cons.inj h).2)

/-- **What stands behind the scheme is found behind the scheme.** -/
theorem eq_of_chars_eq (u : Url) {scheme rest : List Char} (hscheme : IsScheme scheme)
    (h : u.chars = scheme ++ ':' :: '/' :: '/' :: rest) :
    u.scheme.1 = scheme
      ∧ written u.host ++ (portWritten u.port ++ written u.path) = rest := by
  have htake := Address.takeScheme_append (isScheme_iff.mpr u.scheme.2)
    (written u.host ++ (portWritten u.port ++ written u.path))
  rw [show u.scheme.1 ++ _ = scheme ++ ':' :: '/' :: '/' :: rest from h,
    Address.takeScheme_append (isScheme_iff.mpr hscheme)] at htake
  simpa [eq_comm] using htake

/-- **No text is a URL in two ways.** -/
theorem text_injective : Function.Injective text := by
  intro u v h
  have hchars : u.chars = v.chars := by rw [← toList_text, ← toList_text, h]
  obtain ⟨hscheme, hrest⟩ := u.eq_of_chars_eq v.scheme.2 hchars
  have htake := takeAuthority_written u.host_of_port (isPath_written u.path)
  rw [hrest, takeAuthority_written v.host_of_port (isPath_written v.path)] at htake
  obtain ⟨⟨hhost, -⟩, hpath⟩ : (written v.host = written u.host ∧ _)
      ∧ written v.path = written u.path := by simpa using htake
  have hport : portWritten u.port = portWritten v.port := by
    rw [hhost, hpath, List.append_cancel_left_eq, List.append_cancel_right_eq] at hrest
    exact hrest
  obtain ⟨scheme, host, port, path, _⟩ := u
  obtain ⟨scheme', host', port', path', _⟩ := v
  obtain rfl : scheme = scheme' := Subtype.ext hscheme
  obtain rfl : host = host' := written_injective (fun h => h.1 rfl) hhost.symm
  obtain rfl : port = port' := portWritten_injective hport
  obtain rfl : path = path' := written_injective nofun hpath.symm
  rfl

/-! ## What no URL holds -/

/-- The characters behind a slash hold no two slashes in a row, nor begin with one. -/
theorem not_slashes_of_isSegments {b : Bool} {cs : List Char}
    (h : Address.isSegments b cs = true) :
    (b = true → cs.head? ≠ some '/') ∧ ¬ ['/', '/'] <:+: cs := by
  induction cs generalizing b with
  | nil => simp
  | cons c cs ih =>
    rw [Address.isSegments] at h
    rw [List.infix_cons_iff, List.cons_prefix_cons, not_or, not_and]
    split_ifs at h with hslash
    · obtain ⟨hb, hcs⟩ : b = false ∧ Address.isSegments true cs = true := by simpa using h
      obtain ⟨hhead, hinfix⟩ := ih hcs
      refine ⟨by simp [hb], fun _ hprefix => hhead rfl ?_, hinfix⟩
      obtain ⟨rest, rfl⟩ := hprefix
      rfl
    · obtain ⟨-, hcs⟩ := (Bool.and_eq_true _ _).mp h
      exact ⟨fun _ => by simpa using hslash, fun heq => absurd heq.symm hslash, (ih hcs).2⟩

/-- A character that can be seen: no blank, no line break and no other control character. -/
def IsVisible (c : Char) : Prop := ' ' < c ∧ c < '\x7f'

theorem IsLetter.isVisible {c : Char} (h : IsLetter c) : IsVisible c := by
  rcases h with ⟨hlow, hhigh⟩ | ⟨hlow, hhigh⟩ <;>
    exact ⟨lt_of_lt_of_le (by decide) hlow, lt_of_le_of_lt hhigh (by decide)⟩

theorem IsDigit.isVisible {c : Char} (h : IsDigit c) : IsVisible c :=
  ⟨lt_of_lt_of_le (by decide) h.1, lt_of_le_of_lt h.2 (by decide)⟩

theorem IsSchemeChar.isVisible {c : Char} (h : IsSchemeChar c) : IsVisible c := by
  rcases h with h | h | rfl | rfl | rfl
  · exact h.isVisible
  · exact h.isVisible
  all_goals exact ⟨by decide, by decide⟩

theorem IsSegmentChar.isVisible {c : Char} (h : IsSegmentChar c) : IsVisible c := by
  rcases h with h | h | rfl | rfl | rfl
  · exact h.isVisible
  · exact h.isVisible
  all_goals exact ⟨by decide, by decide⟩

/-- What a host is made of could be in a path as well. -/
theorem IsHostChar.isSegmentChar {c : Char} (h : IsHostChar c) : IsSegmentChar c := by
  rcases h with h | h | h | h
  · exact .inl h
  · exact .inr (.inl h)
  · exact .inr (.inr (.inl h))
  · exact .inr (.inr (.inr (.inl h)))

theorem isVisible_of_isSegments {b : Bool} {cs : List Char}
    (h : Address.isSegments b cs = true) : ∀ c ∈ cs, IsVisible c := by
  induction cs generalizing b with
  | nil => simp
  | cons c cs ih =>
    rw [Address.isSegments] at h
    split_ifs at h with hslash
    · subst hslash
      exact List.forall_mem_cons.mpr
        ⟨⟨by decide, by decide⟩, ih (Bool.and_eq_true _ _ |>.mp h).2⟩
    · obtain ⟨hc, hcs⟩ := (Bool.and_eq_true _ _).mp h
      exact List.forall_mem_cons.mpr ⟨(isSegmentChar_iff.mp hc).isVisible, ih hcs⟩

/-- **All characters of a URL can be seen.** -/
theorem isVisible_of_mem (u : Url) : ∀ c ∈ u.chars, IsVisible c := by
  have hscheme : ∀ c ∈ u.scheme.1, IsVisible c := by
    obtain ⟨c, rest, heq, hc, hrest⟩ := u.scheme.2
    rw [heq]
    exact List.forall_mem_cons.mpr ⟨hc.isVisible, fun x hx => (hrest x hx).isVisible⟩
  have hhost : ∀ c ∈ written u.host, IsVisible c := fun c hc =>
    (isHostChar_iff.mp (isHostChar_of_mem_written c hc)).isSegmentChar.isVisible
  have hport : ∀ c ∈ portWritten u.port, IsVisible c := by
    cases u.port with
    | none => simp [portWritten]
    | some port =>
      exact List.forall_mem_cons.mpr
        ⟨⟨by decide, by decide⟩, fun c hc => (port.2.isDigit c hc).isVisible⟩
  have hpath : ∀ c ∈ written u.path, IsVisible c :=
    isVisible_of_isSegments (isSegments_of_isPath (isPath_written u.path))
  have hmarks : IsVisible ':' ∧ IsVisible '/' := ⟨⟨by decide, by decide⟩, by decide, by decide⟩
  intro c hc
  simp only [chars, List.mem_append, List.mem_cons] at hc
  rcases hc with hc | rfl | rfl | rfl | hc | hc | hc
  · exact hscheme c hc
  · exact hmarks.1
  · exact hmarks.2
  · exact hmarks.2
  · exact hhost c hc
  · exact hport c hc
  · exact hpath c hc

/-- Two texts with the same beginning up to a character that does not belong to it. -/
theorem append_inj_of_head? {p : Char → Bool} {part part' rest rest' : List Char}
    (hpart : ∀ c ∈ part, p c = true) (hpart' : ∀ c ∈ part', p c = true)
    (hrest : ∀ c, rest.head? = some c → p c = false)
    (hrest' : ∀ c, rest'.head? = some c → p c = false) (h : part ++ rest = part' ++ rest') :
    part = part' ∧ rest = rest' := by
  obtain ⟨htake, hdrop⟩ := Address.takeWhile_append_of_head? hpart hrest
  obtain ⟨htake', hdrop'⟩ := Address.takeWhile_append_of_head? hpart' hrest'
  rw [h] at htake hdrop
  exact ⟨htake.symm.trans htake', hdrop.symm.trans hdrop'⟩

/-- **A colon behind the place of a host is behind a host and before a port.** -/
theorem port_of_chars_eq (u : Url) {scheme host digits rest : List Char}
    (hscheme : IsScheme scheme) (hhost : ∀ c ∈ host, IsHostChar c)
    (hdigits : ∀ c ∈ digits, IsDigit c) (hrest : ∀ c, rest.head? = some c → ¬ IsDigit c)
    (h : u.chars = scheme ++ ':' :: '/' :: '/' :: (host ++ ':' :: (digits ++ rest))) :
    host ≠ [] ∧ IsPort digits := by
  have hpath := isPath_written u.path
  obtain ⟨hwritten, hafter⟩ := append_inj_of_head? isHostChar_of_mem_written
    (fun c hc => isHostChar_iff.mpr (hhost c hc))
    (fun _ => isHostChar_after_host u.port hpath)
    (fun c hc => by obtain rfl : ':' = c := by simpa using hc
                    decide)
    (u.eq_of_chars_eq hscheme h).2
  -- without a port the colon would begin a path, and paths begin with a slash
  cases hport : u.port with
  | none =>
    rw [hport] at hafter
    have hcolon := Address.head?_of_isPath hpath
      (show (written u.path).head? = some ':' from congrArg List.head? hafter)
    exact absurd hcolon (by decide)
  | some port =>
    rw [hport] at hafter
    obtain ⟨hsame, -⟩ := append_inj_of_head?
      (fun c hc => isDigit_iff.mpr (port.2.isDigit c hc))
      (fun c hc => isDigit_iff.mpr (hdigits c hc))
      (fun c hc => by
        rw [Address.head?_of_isPath hpath hc]
        decide)
      (fun c hc => Bool.eq_false_iff.mpr fun h => hrest c hc (isDigit_iff.mp h))
      (List.cons.inj hafter).2
    refine ⟨fun hempty => ?_, hsame ▸ port.2⟩
    have hnone := u.host_of_port (written_host_eq_nil.mp (hwritten.trans hempty))
    exact absurd (hport.symm.trans hnone) (Option.some_ne_none port)

/-- **The parser accepts the grammar, and nothing else.** A text is read exactly if it is a URL,
as the address that the URL spells, and it is so in one way. Any other text is given back. So
what is read can be seen from its first character to its last, has no two slashes in a row in its
path, and a colon in it behind the place of a host has a host before it and a number behind it
that is not too large, with as many digits as there are. -/
theorem parse_decides (text : String) :
    (∀ a, Address.parse text = .ok a ↔ ∃ u : Url, u.text = text ∧ u.address = a)
    ∧ (∀ u v : Url, u.text = text → v.text = text → u = v)
    ∧ (∀ e, Address.parse text = .error e ↔ (¬ ∃ u : Url, u.text = text) ∧ e = ⟨text⟩)
    ∧ ∀ a, Address.parse text = .ok a →
      (∀ c ∈ text.toList, IsVisible c)
      ∧ ¬ ['/', '/'] <:+: a.path.toList
      ∧ ∀ scheme host digits rest, IsScheme scheme → (∀ c ∈ host, IsHostChar c) →
        (∀ c ∈ digits, IsDigit c) → (∀ c, rest.head? = some c → ¬ IsDigit c) →
        text.toList = scheme ++ ':' :: '/' :: '/' :: (host ++ ':' :: (digits ++ rest)) →
        host ≠ [] ∧ number digits ≤ 65535 := by
  have hread : ∀ a, Address.parse text = .ok a ↔ ∃ u : Url, u.text = text ∧ u.address = a := by
    intro a
    rw [Address.parse_eq_ok]
    constructor
    · exact exists_of_parse?
    · rintro ⟨u, rfl, rfl⟩
      exact u.parse?_text
  refine ⟨hread, fun u v hu hv => text_injective (hu.trans hv.symm), fun e => ?_, fun a ha => ?_⟩
  · rw [Address.parse_eq_error]
    refine and_congr_left fun _ => ⟨fun hnone ⟨u, hu⟩ => ?_, fun hno => ?_⟩
    · rw [← hu, u.parse?_text] at hnone
      cases hnone
    · exact Option.eq_none_iff_forall_ne_some.mpr fun a ha =>
        hno ((exists_of_parse? ha).imp fun _ h => h.1)
  · obtain ⟨u, rfl, rfl⟩ := (hread a).mp ha
    rw [toList_text]
    refine ⟨u.isVisible_of_mem, ?_, fun scheme host digits rest hscheme hhost hdigits hrest h => ?_⟩
    · have hsegments := isSegments_of_isPath (isPath_written u.path)
      simpa [address] using (not_slashes_of_isSegments hsegments).2
    · obtain ⟨hne, hport⟩ := u.port_of_chars_eq hscheme hhost hdigits hrest h
      exact ⟨hne, hport.2⟩

end Url

end Switchboard
