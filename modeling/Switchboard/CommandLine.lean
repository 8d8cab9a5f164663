import Switchboard.Error
import Switchboard.Limits

/-!
# The command line of the registry

The registry is started from a command line with options only: where to serve,
which version to announce, and whether to log much. Arguments are read from
left to right, and the first one that asks for help or is wrong decides. An
option that is given twice is wrong.
-/

namespace Switchboard.CommandLine

/-- **How to run a registry.** -/
structure Options where
  location : String := "tcp+tv://127.0.0.1"
  version : String := Limits.version
  isVerbose : Bool := false
deriving DecidableEq, Repr, Inhabited

/-- What a command line asks for. -/
inductive Order where
  | run (options : Options)
  | help
  /-- It cannot be understood. -/
  | misuse
deriving DecidableEq, Repr, Inhabited

/-- The options that have been given so far. -/
structure Given where
  location : Option String := none
  version : Option String := none
  isVerbose : Bool := false
deriving DecidableEq, Repr, Inhabited

namespace Given

/-- The options, with what is not given as it is by default. -/
def options (g : Given) : Options :=
  let default : Options := {}
  ⟨g.location.getD default.location, g.version.getD default.version, g.isVerbose⟩

/-- The options with a location, unless there is one. -/
def withLocation? (g : Given) (location : String) : Option Given :=
  if g.location.isSome then none else some { g with location := some location }

/-- The options with a version, unless there is one. -/
def withVersion? (g : Given) (version : String) : Option Given :=
  if g.version.isSome then none else some { g with version := some version }

/-- The options with much logging, unless that has been asked for. -/
def verbose? (g : Given) : Option Given :=
  if g.isVerbose then none else some { g with isVerbose := true }

end Given

/-- What an argument amounts to. -/
inductive Argument where
  | given (g : Given)
  /-- It is an option whose value is the next argument. -/
  | wantsValue (use : String → Option Given)
  | help
  | misuse

/-- The argument after an option has been added. -/
def Argument.ofGiven? : Option Given → Argument
  | some g => .given g
  | none => .misuse

/-- Whether an argument can be the value of the option before it. -/
def isValue (argument : String) : Bool := argument == "-" || !argument.startsWith "-"

/-- What letters after a single dash amount to. The rest of the letters after the one for
the location are its value, an equals sign in between is left out. -/
def readLetters (g : Given) : List Char → Argument
  | [] => .given g
  | 'h' :: _ => .help
  | 'd' :: rest =>
    match g.verbose? with
    | some g => readLetters g rest
    | none => .misuse
  | ['l'] => .wantsValue g.withLocation?
  | 'l' :: '=' :: value => .ofGiven? (g.withLocation? (String.ofList value))
  | 'l' :: value => .ofGiven? (g.withLocation? (String.ofList value))
  | _ => .misuse

/-- What a name after two dashes amounts to, given the value that is attached to it. -/
def readName (g : Given) (name : String) (value : Option String) : Argument :=
  match name, value with
  | "help", none => .help
  | "debug", none => .ofGiven? g.verbose?
  | "location", none => .wantsValue g.withLocation?
  | "location", some value => .ofGiven? (g.withLocation? value)
  | "version", none => .wantsValue g.withVersion?
  | "version", some value => .ofGiven? (g.withVersion? value)
  | _, _ => .misuse

/-- What an argument amounts to. -/
def readArgument (g : Given) (argument : String) : Argument :=
  match argument.toList with
  | '-' :: '-' :: long =>
    let name := String.ofList (long.takeWhile (· ≠ '='))
    match long.dropWhile (· ≠ '=') with
    | [] => readName g name none
    | _ :: value => readName g name (some (String.ofList value))
  | '-' :: letter :: letters => readLetters g (letter :: letters)
  | _ => .misuse

/-- What some arguments ask for, after those that have been read. -/
def readFrom (g : Given) : List String → Order
  | [] => .run g.options
  | ["--"] => .run g.options
  | argument :: rest =>
    match readArgument g argument with
    | .given g => readFrom g rest
    | .help => .help
    | .misuse => .misuse
    | .wantsValue use =>
      match rest with
      | value :: rest =>
        if isValue value then
          match use value with
          | some g => readFrom g rest
          | none => .misuse
        else .misuse
      | [] => .misuse

/-- **What a command line asks for.** -/
def read (arguments : List String) : Order := readFrom {} arguments

/-! ## What is printed -/

/-- The line that tells where the registry has been started. -/
def announcement (location : Address) : String := "REGISTRY_LOCATION=" ++ location.text

/-- **What is said about a registry that could not be started.** The cause is set off from
the margin. -/
def complaint (options : Options) (cause : SetupError) : String :=
  "Error: failed to start registry on " ++ options.location ++ "\n\nCaused by:\n    " ++
    "\n    ".intercalate (cause.message.splitOn "\n")

/-- How the command line is used. -/
def usage : String :=
  "Usage: registry [OPTIONS]\n\n" ++
    "Options:\n" ++
    "  -l, --location <LOCATION>  URL to serve on [default: tcp+tv://127.0.0.1]\n" ++
    "      --version <VERSION>    Version to announce [default: 1.0]\n" ++
    "  -d, --debug                Log much\n" ++
    "  -h, --help                 Print help"

/-- The exit code of a program that has done what was asked. -/
def success : UInt8 := 0

/-- The exit code of a program that could not be started. -/
def failure : UInt8 := 1

/-- The exit code after a command line that cannot be understood. -/
def usageError : UInt8 := 2

end Switchboard.CommandLine
