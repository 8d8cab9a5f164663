import Switchboard.Host.Basic
import Switchboard.Playbook.Reading
import Switchboard.Playbook.Report

/-!
# The setting of a play

A playbook does not know the directory it will be played in, nor the ports that
its servers will be given. It writes marks for them, and a report has the marks
again where they stood. A playbook that happens to speak of a directory or a
port must not find its own words replaced, so a setting is chosen for it: the
first directory and the first hundred ports that it does not mention.

All plays take place on a host of their own, on which connections to ports find
no way.
-/

namespace Switchboard.Playbook

/-- **Where a play takes place**, and what has been seen of it. -/
structure Setting where
  /-- The name of the directory, which lies where things that do not last are put. -/
  name : String
  /-- The first port that the host gives. -/
  firstPort : UInt16
  /-- The ports that have been seen, the last one first. -/
  ports : List UInt16 := []
deriving DecidableEq, Repr, Inhabited

namespace Setting

/-! ## The choice of a setting -/

mutual

/-- The words and digits of a playbook, in their order. -/
def words : Json → List String
  | .null => []
  | .bool _ => []
  | .number n => [String.ofList n.integer]
  | .string t => t.string?.toList
  | .array items => allWords items
  | .object members => memberWords members

/-- The words and digits of some parts of a playbook. -/
def allWords : List Json → List String
  | [] => []
  | j :: rest => words j ++ allWords rest

/-- The words and digits of the members of an object. -/
def memberWords : List (Json.Text × Json) → List String
  | [] => []
  | (name, j) :: rest => name.string?.toList ++ words j ++ memberWords rest

end

/-- Whether a text has another one in it. -/
def mentions (s part : String) : Bool := 1 < (s.splitOn part).length

/-- The first number from `n` on that a text does not mention in its written form, of so many
at most. -/
def firstFree (text : String) (written : Nat → String) : Nat → Nat → Nat
  | 0, n => n
  | tries + 1, n =>
    if mentions text (written n) then firstFree text written tries (n + 1) else n

/-- The name of a directory with a number. Numbers with equally many digits make names that
are equally long. -/
def directoryName (n : Nat) : String := "rehearsal_" ++ toString n

/-- **The setting for a playbook.** Words that stand side by side are looked at as one, since
a playbook may put them together. Ports are chosen by the hundred, all with the same first
digits. -/
def of (playbook : Json) : Setting :=
  let text := String.join (words playbook)
  { name := directoryName (firstFree text directoryName (text.length + 1) 1000000000)
    firstPort := .ofNat (100 * firstFree text toString 163 492) }

/-! ## The host -/

/-- The directory of a play. -/
def directory (s : Setting) : Place := ["tmp", s.name]

/-- The path of the directory. -/
def path (s : Setting) : String := s.directory.foldl (fun path name => path ++ "/" ++ name) ""

/-- What lies on any host. -/
def commonFiles : Files :=
  let directories :=
    ["bin", "dev", "etc", "home", "lib", "proc", "root", "run", "sys", "tmp", "usr", "var"]
  let files : Files := directories.foldl (fun f name => f.put [name] .directory) {}
  [["dev", "null"], ["dev", "zero"], ["etc", "hosts"], ["etc", "passwd"]].foldl
    (fun f place => f.put place .file) files

/-- The host of a play. -/
def host (s : Setting) : Host :=
  { files := commonFiles.put s.directory .directory
    nextPort := s.firstPort
    isConnected := false }

/-! ## Marks -/

/-- The mark for the directory. -/
def directoryMark : String := "\x7bdir\x7d"

/-- The mark for the port that was seen last. -/
def portMark : String := "\x7bport\x7d"

/-- The setting after an address has been seen. -/
def see (s : Setting) (a : Address) : Setting :=
  if a.port = 0 then s else { s with ports := a.port :: s.ports }

/-- The text that is written, with what the marks stand for. -/
def unmarked (s : Setting) (t : String) : String :=
  let t := t.replace directoryMark s.path
  match s.ports with
  | port :: _ => t.replace portMark (toString port.toNat)
  | [] => t

/-- The text in a member, with what the marks stand for. -/
def urlIn (s : Setting) (j : Json) (name : String) : Reads String :=
  return s.unmarked (← textIn j name)

/-- **A text with marks** for the directory and for the ports that have been seen. -/
def marked (s : Setting) (t : String) : String :=
  s.ports.foldr (fun port t => t.replace (":" ++ toString port.toNat) (":" ++ portMark))
    (t.replace s.path directoryMark)

mutual

/-- A report with marks in its texts. -/
def markedIn (s : Setting) : Json → Json
  | .string t =>
    match t.string? with
    | some text => .ofString (s.marked text)
    | none => .string t
  | .array items => .array (allMarkedIn s items)
  | .object members => .object (membersMarkedIn s members)
  | j => j

/-- Reports with marks in their texts. -/
def allMarkedIn (s : Setting) : List Json → List Json
  | [] => []
  | j :: rest => markedIn s j :: allMarkedIn s rest

/-- Members with marks in their texts. -/
def membersMarkedIn (s : Setting) : List (Json.Text × Json) → List (Json.Text × Json)
  | [] => []
  | (name, j) :: rest => (name, markedIn s j) :: membersMarkedIn s rest

end

end Setting

/-- How long a play may wait, in milliseconds. -/
def patience : Nat := 20000

end Switchboard.Playbook
