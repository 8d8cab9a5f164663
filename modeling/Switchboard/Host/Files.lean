/-!
# The file system of a host

A server on a local socket leaves a trace in the file system, and whether it
can be started depends on what is there. `Files` says what lies at each place,
a place being the names that lead to it from the root; a directory is a node of
its own, so that everything else has a parent. A path is walked name by name,
with links followed on the way: `Files.walk` follows the last name too,
`Files.inspect` and `Files.vacancy` do not, and `Files.vacancy` is where
something new can be put. A name that is too long is noticed when it is looked
up in a directory, hence not behind a name that is not there.

A socket has an identity, which tells it from any other socket that is or will
be at the same place.
-/

namespace Switchboard

/-- What lies at a place. -/
inductive Node where
  | directory
  | file
  | link (target : String)
  | socket (identity : Nat)
deriving DecidableEq, Repr, Inhabited

/-- The names that lead from the root to a place. -/
abbrev Place := List String

/-- What a host reports about a path or a port that cannot be used. -/
inductive HostError where
  | notFound
  | notDirectory
  | tooManyLinks
  | addressInUse
  | addressNotLocal
  | unreachable
  | connectionRefused
  | pathTooLong
  /-- A name in a path is too long, or the path is. -/
  | nameTooLong
  | unknownHost
  /-- Somebody listens on the socket that is there. -/
  | occupied
deriving DecidableEq, Repr, Inhabited

/-- The text of a report. -/
def HostError.message : HostError → String
  | notFound => "No such file or directory (os error 2)"
  | notDirectory => "Not a directory (os error 20)"
  | tooManyLinks => "Too many levels of symbolic links (os error 40)"
  | addressInUse => "Address already in use (os error 98)"
  | addressNotLocal => "Cannot assign requested address (os error 99)"
  | unreachable => "Network is unreachable (os error 101)"
  | connectionRefused => "Connection refused (os error 111)"
  | pathTooLong => "path must be shorter than SUN_LEN"
  | nameTooLong => "File name too long (os error 36)"
  | unknownHost => "failed to lookup address information: Temporary failure in name resolution"
  | occupied => "another server is listening on this socket"

/-- **What lies where.** The root is always a directory and is not listed. -/
structure Files where
  nodes : List (Place × Node) := []
deriving DecidableEq, Repr, Inhabited

namespace Files

/-- What lies at a place. -/
def node? (f : Files) (place : Place) : Option Node :=
  if place = [] then some .directory else f.nodes.lookup place

/-- The files with a node at a place, in place of what was there. -/
def put (f : Files) (place : Place) (node : Node) : Files :=
  ⟨(place, node) :: f.nodes.filter fun n => n.1 != place⟩

/-- The files without what lies at a place. -/
def remove (f : Files) (place : Place) : Files := ⟨f.nodes.filter fun n => n.1 != place⟩

/-- The files with everything at and below a place moved to another. -/
def move (f : Files) (source target : Place) : Files :=
  let rest := f.nodes.filter fun n => !target.isPrefixOf n.1
  ⟨rest.map fun n =>
    if source.isPrefixOf n.1 then (target ++ n.1.drop source.length, n.2) else n⟩

/-- The names in a directory and what they stand for. -/
def list (f : Files) (directory : Place) : List (String × Node) :=
  f.nodes.filterMap fun n =>
    match n.1.getLast? with
    | some name => if n.1 = directory ++ [name] then some (name, n.2) else none
    | none => none

/-! ## Paths -/

/-- The longest name, in bytes. -/
def maxName : Nat := 255

/-- The longest path, in bytes. -/
def maxPath : Nat := 4095

/-- The names in a path, from left to right. -/
def names (path : String) : List String :=
  ((path.toList.splitOn '/').map String.ofList).filter fun name => name ≠ ""

/-- Whether a path ends in a slash or in a name that stands for a directory whatever is
there. What lies there has to be a directory then. -/
def wantsDirectory (path : String) : Bool :=
  path.toList.getLast? = some '/' || (names path).getLast? = some "." ||
    (names path).getLast? = some ".."

/-- Where names lead from a place, links on the way followed by `onLink`. -/
def follow (f : Files) (onLink : Place → List String → Except HostError Place) :
    Place → List String → Except HostError Place
  | here, [] => .ok here
  | here, name :: rest =>
    if f.node? here ≠ some .directory then .error .notDirectory
    else if name = "." then follow f onLink here rest
    else if name = ".." then follow f onLink here.dropLast rest
    else if maxName < name.utf8ByteSize then .error .nameTooLong
    else
      match f.node? (here ++ [name]) with
      | none => .error .notFound
      | some (.link target) =>
        onLink (if target.toList.head? = some '/' then [] else here) (names target ++ rest)
      | some _ => follow f onLink (here ++ [name]) rest

/-- Where names lead from a place if at most so many links are met. -/
def walkWithin (f : Files) : Nat → Place → List String → Except HostError Place
  | 0 => f.follow fun _ _ => .error .tooManyLinks
  | links + 1 => f.follow (f.walkWithin links)

/-- The most links that are followed on one path. -/
def maxLinks : Nat := 40

/-- **Where a path leads**, every link followed. -/
def walk (f : Files) (path : String) : Except HostError Place :=
  match f.walkWithin maxLinks [] (names path) with
  | .error e => .error e
  | .ok place =>
    if wantsDirectory path && f.node? place ≠ some .directory then .error .notDirectory
    else .ok place

/-- The directory in which the last name of a path is looked up. -/
def parent (f : Files) (path : String) : Except HostError Place :=
  match f.walkWithin maxLinks [] (names path).dropLast with
  | .error e => .error e
  | .ok place => if f.node? place = some .directory then .ok place else .error .notDirectory

/-- **What lies at a path**, and where, a link at its end not followed. -/
def inspect (f : Files) (path : String) : Except HostError (Place × Node) :=
  if maxPath < path.utf8ByteSize then .error .nameTooLong
  else if wantsDirectory path then
    match f.walk path with
    | .error e => .error e
    | .ok place => .ok (place, .directory)
  else
    match f.parent path, (names path).getLast? with
    | .error e, _ => .error e
    | .ok directory, none => .ok (directory, .directory)
    | .ok directory, some name =>
      if maxName < name.utf8ByteSize then .error .nameTooLong
      else
        match f.node? (directory ++ [name]) with
        | none => .error .notFound
        | some node => .ok (directory ++ [name], node)

/-- **Where something new can be put** so that it lies at a path. -/
def vacancy (f : Files) (path : String) : Except HostError Place :=
  match f.parent path with
  | .error e => .error e
  | .ok directory =>
    match (names path).getLast? with
    | none => .error .addressInUse
    | some name =>
      if maxName < name.utf8ByteSize then .error .nameTooLong
      else if name = "." ∨ name = ".." ∨ (f.node? (directory ++ [name])).isSome then
        .error .addressInUse
      else if wantsDirectory path then .error .notFound
      else .ok (directory ++ [name])

/-! ## Changes

What others do with files while servers come and go. A change that the host
refuses is none. -/

/-- The place that a path ends in, whatever lies there. -/
def entry? (f : Files) (path : String) : Option Place :=
  match f.parent path, (names path).getLast? with
  | .ok directory, some name =>
    if name = "." ∨ name = ".." ∨ maxName < name.utf8ByteSize then none
    else some (directory ++ [name])
  | _, _ => none

/-- The files after a file has been written at a path, where there may be one. -/
def write? (f : Files) (path : String) : Option Files :=
  match f.walk path with
  | .ok place => if f.node? place = some .file then some f else none
  | .error _ => (f.vacancy path).toOption.map fun place => f.put place .file

/-- The files with a new directory. -/
def makeDirectory? (f : Files) (path : String) : Option Files := do
  let place ← f.entry? path
  if (f.node? place).isSome then none else some (f.put place .directory)

/-- **The files after something has been given another path.** It takes the place of what is
there. A directory can only take the place of an empty one, and cannot be moved into itself. -/
def rename? (f : Files) (source target : String) : Option Files := do
  let here ← f.entry? source
  let node ← (f.inspect source).toOption.map (·.2)
  let there ← f.entry? target
  if node = .directory then
    if here = there then some f
    else if here.isPrefixOf there then none
    else
      match f.node? there with
      | none => some (f.move here there)
      | some .directory => if (f.list there).isEmpty then some (f.move here there) else none
      | some _ => none
  else if wantsDirectory target || f.node? there = some .directory then none
  else if here = there then some f
  else some (f.move here there)

end Files

end Switchboard
