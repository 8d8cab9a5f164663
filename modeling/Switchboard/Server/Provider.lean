import Switchboard.Server.Basic

/-!
# Providers

A provider offers what its backend answers, while it has a server. It has one
at a time: it cannot be started again before it has been stopped, and that is
found out before the URL is even looked at. A start that fails leaves the
provider as it was.
-/

namespace Switchboard

/-- **A backend and the server that offers it**, if there is one. -/
structure Provider (β : Type) where
  backend : β
  server : Option Server := none
deriving Inhabited

namespace Provider

variable {β : Type}

/-- Where the backend is offered. -/
def location? (p : Provider β) : Option Address := p.server.map (·.location)

/-- **Starts offering at a URL.** -/
def start (p : Provider β) (url : String) : Host.Action SetupError (Provider β) := do
  match p.server with
  | some server => throw (.alreadyStarted server.location.text)
  | none => return { p with server := some (← Server.start url) }

/-- **Stops offering.** -/
def stop (p : Provider β) (h : Host) : Provider β × Host :=
  match p.server with
  | none => (p, h)
  | some server => ({ p with server := none }, (server.shutdown h).2)

end Provider

end Switchboard
