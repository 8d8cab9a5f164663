import Switchboard.Client.Channel
import Switchboard.Host.Listening
import Switchboard.Rehearsal.Peer

/-!
# A channel and a scripted peer

A duet is played by a channel and a peer on one host. The calls of a step are
made side by side; whenever they all wait, the peer gets what has been written
and does what it can, and the channel gets what comes back, until neither has
anything left to do.
-/

namespace Switchboard.Rehearsal

open Wire (Request Reply)
open Client (Channel)

/-- **A channel and the peer it may reach.** -/
structure Duet where
  host : Host := {}
  channel : Channel
  peer : Peer := {}
  /-- Where the peer listens, as long as it does. -/
  endpoint : Option Endpoint := none
deriving Inhabited

namespace Duet

/-- The duet in which the peer stops listening when it has no more scripts. -/
def closeDoor (d : Duet) : Duet :=
  match d.endpoint with
  | some endpoint =>
    if d.peer.isListening then d
    else { d with endpoint := none, host := d.host.stopListening endpoint }
  | none => d

/-- **A duet of a channel and a peer that listens at an address**, and where that is. -/
def start (host : Host) (address : Address) (attempts : Nat) (scripts : List (List Cue)) :
    Except SetupError Duet :=
  match host.perform (Host.listenAt address) with
  | (.error e, _) => .error e
  | (.ok l, host) =>
    let d : Duet :=
      { host, channel := .withRetry l.location attempts, peer := { scripts },
        endpoint := l.endpoint }
    .ok d.closeDoor

/-- A duet in which nobody is at the other end. -/
def alone (host : Host) (destination : Address) (attempts : Nat) : Duet :=
  { host, channel := .withRetry destination attempts }

/-- One try of a call to get a link. -/
def join (d : Duet) (call : Nat) : Duet :=
  let link := d.channel.links.length
  let channel := d.channel.join call ((d.host.dial d.channel.destination).map fun _ => ())
  let d := { d with channel }
  if link < channel.links.length then { d with peer := d.peer.connect link } else d

/-- The calls that have no link. -/
def starting (d : Duet) (calls : List Nat) : List Nat :=
  calls.filter fun call =>
    match d.channel.phase? call with
    | some .starting => true
    | _ => false

/-- What has been written on the links comes in at the peer, and so do their ends. -/
def toPeer (d : Duet) : Duet :=
  let peer := d.channel.links.zipIdx.foldl (fun p (l, link) =>
    p.receive link l.outbound (!d.channel.isUsed link)) d.peer
  -- The peer takes the bytes only once it has accepted the connection.
  let isPlayed (link : Nat) : Bool := d.peer.scene.any (·.link = link)
  let links := d.channel.links.zipIdx.map fun (l, link) =>
    if isPlayed link then { l with outbound := [] } else l
  { d with peer, channel := { d.channel with links } }

/-- What the peer has done comes in at the channel, and calls that can finish do so. -/
def toChannel (d : Duet) (effects : Effects) : Duet :=
  let channel := effects.written.foldl (fun ch (link, bytes) => ch.receive link bytes) d.channel
  let channel := effects.closed.foldl (fun ch link => ch.endLink link) channel
  { d with
    channel := (List.range channel.calls.length).foldl (fun ch call => ch.finish call) channel }

/-- The peer accepts a connection if it can. -/
def letIn (d : Duet) : Duet :=
  let (peer, refused) := d.peer.accept
  ({ d with peer }.toChannel { closed := refused }).closeDoor

/-- The peer plays what it can. -/
def act (d : Duet) : Duet :=
  let (peer, effects) := d.peer.act
  { d with peer }.toChannel effects

/-- One turn of the peer. -/
def turn (d : Duet) : Duet := d.letIn.toPeer.act

/-- So many turns of the peer. -/
def turns : Nat → Duet → Duet
  | 0, d => d
  | n + 1, d => turns n d.turn

/-- **The duet after everything has followed that follows by itself.** In every turn but the
last ones a cue is played, a connection accepted or a call finished. -/
def settle (d : Duet) : Duet :=
  turns (3 + d.peer.scripts.flatten.length + d.peer.scripts.length
    + (d.peer.scene.map fun s => s.cues.length).getD 0 + 2 * d.channel.calls.length) d

/-- Calls are tried side by side, so often at most. -/
def tryUpTo (calls : List Nat) : Nat → Duet → Duet
  | 0, d => d
  | tries + 1, d =>
    let now := d.starting calls
    let d := now.foldl join d
    let d := { d with channel := now.foldl (fun ch call => ch.register call) d.channel }
    let d := { d with channel := now.foldl (fun ch call => ch.write call none) d.channel }
    let d := d.settle
    if (d.starting calls).isEmpty then d else tryUpTo calls tries d

/-- **Makes some calls side by side**: their numbers. -/
def call (d : Duet) (requests : List Request) : Duet × List Nat :=
  let d := { d with peer := d.peer.stepBegins }.settle
  let first := d.channel.calls.length
  let d := { d with channel := requests.foldl (fun ch r => (ch.begin r).1) d.channel }
  let calls := (List.range requests.length).map (first + ·)
  (tryUpTo calls d.channel.attempts d, calls)

/-- Gives a call up. -/
def cancel (d : Duet) (call : Nat) : Duet :=
  { d with channel := d.channel.cancel call }.settle

/-- The outcome of a call, if it has finished. -/
def outcome? (d : Duet) (call : Nat) : Option (Except TransportError Reply) :=
  d.channel.outcome? call

/-- What the peer has noticed since it was last asked. -/
def takeSeen (d : Duet) : Duet × List Sighting :=
  ({ d with peer := { d.peer with seen := [] } }, d.peer.seen)

end Duet

end Switchboard.Rehearsal
