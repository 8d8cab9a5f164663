/-!
# Fixed numbers of the wire and of its users

Both ends of a connection agree on two marker words and on the largest
frame; a server bounds how many connections it keeps open, and a client how
often and how long it tries. They are collected here because a change to any
of them changes which peers understand each other.
-/

namespace Switchboard.Limits

/-- The word in front of every request envelope. -/
def preamble : UInt32 := 0xFF005456

/-- The word that opens every envelope, in both directions. -/
def magic : UInt32 := 0xFF545600

/-- The most bytes one frame may carry. -/
def maxFrame : Nat := 64 * 1024 * 1024

/-- The most connections a server keeps open at a time. -/
def maxConnections : Nat := 64

/-- How long a client waits for a connection to be made, in milliseconds. -/
def connectTimeout : Nat := 5000

/-- How often a client tries a call that has certainly not been delivered. -/
def retryAttempts : Nat := 10

/-- How long a client waits between two tries, in milliseconds. -/
def retryDelay : Nat := 500

/-- The version a registry announces unless told otherwise. -/
def version : String := "1.0"

end Switchboard.Limits
