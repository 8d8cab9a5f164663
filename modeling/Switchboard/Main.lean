import Switchboard.CommandLine
import Switchboard.Registry.Service
import Switchboard.Rehearsal.Network

/-!
# The registry as a program

Starts a registry as its command line asks for and says where it can be
reached. The program has one caller, whose requests come in on the standard
input; the replies go to the standard output, behind the line that tells the
location. It ends when its caller does, or when what comes in is no request.

All that is done here is reading, writing and printing. The registry runs on a
host of its own, with no other program on it.
-/

namespace Switchboard.Main

open Rehearsal

/-- A host with a registry on it. -/
abbrev RegistryNetwork := Network (Dispatcher Registry.Table) Registry.Table

/-- The name of the one provider. -/
def site : String := "registry"

/-- The host with a registry that has not been started. -/
def network (version : String) : RegistryNetwork :=
  { state := .empty, providers := [(site, ⟨Registry.dispatcher version, none⟩)] }

/-- Hands everything that comes in to the registry and writes what comes back. -/
partial def serve (input output : IO.FS.Stream) (isVerbose : Bool) (n : RegistryNetwork)
    (line : Nat) : IO Unit := do
  let bytes ← input.read 65536
  if bytes.isEmpty then return
  let (n, replies) := (n.writeByHand line bytes.data.toList).takeByHand line
  if isVerbose then
    IO.eprintln (toString bytes.size ++ " bytes in, " ++ toString replies.length ++ " bytes out")
  output.write replies.toByteArray
  output.flush
  unless (n.line? line).any (·.isEnded) do serve input output isVerbose n line

/-- Starts a registry and serves its caller, unless it cannot be started. -/
def run (options : CommandLine.Options) : IO UInt8 := do
  match (network options.version).serve site options.location with
  | (.error e, _) =>
    IO.eprintln (CommandLine.complaint options e)
    return CommandLine.failure
  | (.ok location, n) =>
    let output ← IO.getStdout
    output.putStrLn (CommandLine.announcement location)
    output.flush
    match n.openByHand location with
    | .ok (n, line) => serve (← IO.getStdin) output options.isVerbose n line
    | .error reason => IO.eprintln reason
    return CommandLine.success

/-- Does what some arguments ask for: the exit code. -/
def perform (arguments : List String) : IO UInt8 := do
  match CommandLine.read arguments with
  | .run options => run options
  | .help =>
    IO.println CommandLine.usage
    return CommandLine.success
  | .misuse =>
    IO.eprintln CommandLine.usage
    return CommandLine.usageError

end Switchboard.Main

/-- Does what the command line asks for; the exit code says how it went. -/
def main (arguments : List String) : IO UInt32 :=
  return (← Switchboard.Main.perform arguments).toUInt32
