import Switchboard.Address

/-!
# Errors outside calls

Two kinds of error never reach a handler. A `SetupError` stops a server or a
client from being started. A `TransportError` ends one attempt to carry a
request to a server and its reply back; the caller sees it as a failed call.
-/

namespace Switchboard

/-- **Why a server or a client could not be started.** -/
inductive SetupError where
  | malformedAddress (url : String)
  | unsupportedTransport (scheme url : String)
  | io (reason : String)
  | bind (location reason : String)
  | validation (field reason : String)
  | alreadyStarted (location : String)
deriving DecidableEq, Repr, Inhabited

namespace SetupError

/-- What is reported about a failed start. -/
def message : SetupError → String
  | malformedAddress url => "Malformed address: " ++ url
  | unsupportedTransport scheme url =>
    "Unsupported transport for scheme '" ++ scheme ++ "' in " ++ url
  | io reason => "IO error: " ++ reason
  | bind location reason => "Failed to bind " ++ location ++ ": " ++ reason
  | validation field reason => "Validation error for " ++ field ++ ": " ++ reason
  | alreadyStarted location => "Server already started at " ++ location

/-- A malformed URL as the reason for a failed start. -/
def ofMalformed (e : Address.Malformed) : SetupError := .malformedAddress e.url

end SetupError

/-- **The address at a URL that names a transport.** A failed start quotes the URL as it
was given. -/
def Address.resolve (url : String) : Except SetupError Address :=
  match Address.parse url with
  | .error e => .error (.ofMalformed e)
  | .ok address =>
    match address.transport with
    | .unknown => .error (.unsupportedTransport address.scheme url)
    | _ => .ok address

/-- **Why a request or a reply was lost.** -/
inductive TransportError where
  /-- No connection could be made. -/
  | connect (location reason : String)
  /-- The request could not be written. -/
  | send (reason : String)
  /-- The connection ended after the request was written and before its reply. -/
  | closed
  /-- The stream ended in the middle of a part. -/
  | truncated (part : String)
  | io (reason : String)
  /-- The other side broke the rules. -/
  | protocol (reason : String)
  | frameTooLarge (size max : Nat)
  /-- An envelope header could not be read. -/
  | header
deriving DecidableEq, Repr, Inhabited

namespace TransportError

/-- What is reported about a lost request or reply. -/
def message : TransportError → String
  | connect location reason => "failed to connect to " ++ location ++ ": " ++ reason
  | send reason => "failed to send request: " ++ reason
  | closed => "connection closed by peer"
  | truncated part => "stream ended inside " ++ part
  | io reason => "I/O error: " ++ reason
  | protocol reason => "protocol error: " ++ reason
  | frameTooLarge size max =>
    "frame size " ++ toString size ++ " exceeds maximum " ++ toString max
  | header => "envelope header error: the header could not be read"

/-- Whether the bytes only stop too early, so that more of them could mend it. -/
def isTruncation : TransportError → Bool
  | truncated _ => true
  | _ => false

/-- Whether the request has certainly not been delivered, so that it may be tried again. -/
def isRetryable : TransportError → Bool
  | connect _ _ | send _ => true
  | _ => false

end TransportError

end Switchboard
