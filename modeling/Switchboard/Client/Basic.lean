import Switchboard.Error
import Switchboard.Service

/-!
# Clients

A client of a service makes its calls over whatever it is bound to. Starting
it at a URL binds it to a channel without connecting; a URL that cannot be used
is refused, and the client stays bound to what it was bound to before.
-/

namespace Switchboard

/-- **A client of a service**, bound to some `χ` or not started. -/
structure Client (χ : Type) where
  service : ServiceType
  channel : Option χ := none
deriving DecidableEq, Repr, Inhabited

namespace Client

variable {χ : Type}

/-- Whether the client can make calls. -/
def isStarted (c : Client χ) : Bool := c.channel.isSome

/-- The client bound to something else. -/
def bindTo (c : Client χ) (channel : χ) : Client χ := { c with channel := some channel }

/-- **Starts a client at a URL**, given what makes a channel to an address and what else
becomes of the surroundings `τ` thereby. -/
def start {τ : Type} (c : Client χ) (connect : Address → τ × χ) (url : String) :
    Except SetupError (τ × Client χ) :=
  (Address.resolve url).map fun address =>
    let (surroundings, channel) := connect address
    (surroundings, c.bindTo channel)

/-- Stops a client. -/
def stop (c : Client χ) : Client χ := { c with channel := none }

end Client

end Switchboard
