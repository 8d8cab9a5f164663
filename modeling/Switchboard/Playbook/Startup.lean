import Switchboard.CommandLine
import Switchboard.Playbook.Registration

/-!
# Plays of the command line

The registry is started from a command line. What is reported is the exit code
and what has been printed; if it runs, a client makes one call of each kind, by
which one sees that it is really there.
-/

namespace Switchboard.Playbook

open Rehearsal

/-- The calls of a client at a registry that has been started. -/
def firstCalls (p : Registering) (location : Address) : Reads (List (String × Json)) := do
  let client := p.client leading .registration
  match p.startClient leading client location.text with
  | .error e => return [("client", Report.setupError e)]
  | .ok p =>
    let client := p.client leading .registration
    let pause := Limits.retryDelay
    let version := (Registry.exchangeVersion Limits.version).on ""
    let (p, version) ← p.call client (version.map Report.text) pause
    let entry := (Registry.registerService .chatIn "unix:///c").on "s"
    let (p, registered) ← p.call client (entry.map nothing) pause
    let (_, found) ← p.call client ((Registry.discover.on "s").map Report.discovered) pause
    return [("version", version), ("registered", registered), ("discovered", found)]

/-- **What comes of a command line** in a setting. -/
def startup (setting : Setting) (arguments : List String) : Reads Json := do
  match CommandLine.read arguments with
  | .help => return .ofFields [("exit", Report.number CommandLine.success.toNat)]
  | .misuse => return .ofFields [("exit", Report.number CommandLine.usageError.toNat)]
  | .run options =>
    match (registryNetwork setting.host options.version).serve leading options.location with
    | (.error e, _) =>
      return setting.markedIn (.ofFields
        [("exit", Report.number CommandLine.failure.toNat),
          ("stderr", Report.text (CommandLine.complaint options e ++ "\n"))])
    | (.ok a, network) =>
      let setting := setting.see a
      let calls ← firstCalls { setting, network } a
      return setting.markedIn (.ofFields (calls ++
        [("exit", Report.number CommandLine.success.toNat), ("location", Report.text a.text),
          ("more_lines", Report.number 0)]))

/-- **A play of the command line.** -/
def startupCalls (j : Json) : Reads Json := do
  let setting := Setting.of j
  startup setting ((← (items (member j "args")).mapM text).map setting.unmarked)

end Switchboard.Playbook
