import Switchboard.Dispatch.Backend
import Switchboard.Limits
import Switchboard.Registry.Methods
import Switchboard.Registry.Table

/-!
# The registry

A registry answers the calls of `Registry.methods` from its table. It accepts a
registration of any type, known or not, but none without a location; a question
about a session that nobody has registered in is answered with no services.
-/

namespace Switchboard.Registry

/-- The own version, whatever the peer's. -/
def answerVersion (version : String) : Handler Table String String :=
  .direct fun _ _ t => (t, .ok version)

/-- **Takes a registration into the table**, unless it has no location. -/
def acceptRegistration : Handler Table ServiceInformation Unit :=
  .direct fun comId service t =>
    if service.location = "" then (t, .error (.of .invalidInputParameter))
    else (t.register comId service.serviceType service.location, .ok ())

/-- The services of the session. -/
def answerDiscover : Handler Table Unit Discovered :=
  .direct fun comId _ t => (t, .ok ⟨comId, t.discover comId⟩)

instance : Backend (Dispatcher Table) Table where
  handle := Dispatcher.handle

/-- **The dispatcher of a registry** of the given version. -/
def dispatcher (version : String) : Dispatcher Table :=
  Handlers.dispatcher
    { exchangeVersion := answerVersion version
      registerService := acceptRegistration
      discover := answerDiscover }

end Switchboard.Registry
