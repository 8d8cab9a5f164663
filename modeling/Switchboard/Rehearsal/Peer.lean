import Switchboard.Wire.Arrival

/-!
# A peer that plays a script

To try out a channel, somebody has to be at the other end who does not behave
like a server: who answers in another order, twice, wrongly or not at all. Such
a peer has a script for each connection. It accepts a connection, plays the
script to its end, closes the connection unless it was told to hold it, and
only then looks for the next one. When it has accepted a connection for its
last script, it listens no more.
-/

namespace Switchboard.Rehearsal

open Wire (Request Reply)

/-- A reply to be sent, with what is to be changed about it. -/
structure Riposte where
  reply : Reply
  /-- To which request of the connection, counted from zero; to the latest if not given. -/
  index : Option Nat := none
  /-- What is added to the call id. -/
  callIdPlus : UInt64 := 0
  functionId : Option UInt32 := none
  comId : Option (Option String) := none
deriving Inhabited

/-- **One thing to do.** -/
inductive Cue where
  | read
  | reply (riposte : Riposte)
  | raw (bytes : List UInt8)
  /-- Wait until the client does something new. -/
  | nextStep
  /-- Leave the connection open and be done with it. -/
  | hold
deriving Inhabited

/-- What the peer has noticed. -/
inductive Sighting where
  | accepted
  | request (callId : UInt64) (request : Request)
  /-- The client has ended the connection between two requests. -/
  | ended
  | failed (error : TransportError)
deriving Inhabited

/-- **A connection of the peer**, with what is left of its script. -/
structure Scene where
  link : Nat
  cues : List Cue
  inbound : List UInt8 := []
  /-- Whether the client has ended the connection. -/
  isLeft : Bool := false
  /-- The requests that have been read, the first first. -/
  requests : List (UInt64 × Request) := []
deriving Inhabited

/-- What comes of playing: what is written and noticed on the way. -/
structure Played where
  written : List UInt8 := []
  seen : List Sighting := []
  /-- Whether the connection is to be closed. -/
  isClosed : Bool := false
  /-- What is left of the scene, unless it is over. -/
  left : Option Scene := none
deriving Inhabited

namespace Scene

/-- The bytes of a riposte; none if nothing has been asked. -/
def riposte (s : Scene) (r : Riposte) : List UInt8 :=
  match s.requests[r.index.getD (s.requests.length - 1)]? with
  | none => []
  | some (callId, request) =>
    let echoed : Request :=
      { request with
        functionId := r.functionId.getD request.functionId
        comId := r.comId.getD request.comId }
    (Wire.writeReply (callId + r.callIdPlus) echoed r.reply).bytes

/-- **Plays a scene** as far as it goes without the client. Where a request was to be read and
none can come any more, that is noticed and the script goes on. -/
def play (s : Scene) : List Cue → Played
  | [] => { isClosed := true }
  | .hold :: _ => {}
  | .nextStep :: rest => { left := some { s with cues := .nextStep :: rest } }
  | .raw bytes :: rest =>
    let later := play s rest
    { later with written := bytes ++ later.written }
  | .reply r :: rest =>
    let later := play s rest
    { later with written := s.riposte r ++ later.written }
  | .read :: rest =>
    match Wire.readRequest.outcome [s.inbound] with
    | (.ok (some (callId, request)), remaining) =>
      let s := { s with
        inbound := remaining.bytes, requests := s.requests ++ [(callId, request)] }
      let later := play s rest
      { later with seen := .request callId request :: later.seen }
    | (.ok none, _) =>
      if s.isLeft then
        let later := play s rest
        { later with seen := .ended :: later.seen }
      else { left := some { s with cues := .read :: rest } }
    | (.error e, remaining) =>
      if e.isTruncation ∧ ¬ s.isLeft then { left := some { s with cues := .read :: rest } }
      else
        let later := play { s with inbound := remaining.bytes } rest
        { later with seen := .failed e :: later.seen }

end Scene

/-- **The peer.** -/
structure Peer where
  /-- The scripts for the connections to come. -/
  scripts : List (List Cue) := []
  /-- The connections that wait to be accepted, by their links. -/
  backlog : List Nat := []
  /-- The connection that is being played. -/
  scene : Option Scene := none
  seen : List Sighting := []
deriving Inhabited

/-- What the peer does to the links of the client. -/
structure Effects where
  written : List (Nat × List UInt8) := []
  closed : List Nat := []
deriving Inhabited

namespace Peer

/-- Whether a connection to the peer can be made. -/
def isListening (p : Peer) : Bool := !p.scripts.isEmpty

/-- The peer after the client has connected. -/
def connect (p : Peer) (link : Nat) : Peer := { p with backlog := p.backlog ++ [link] }

/-- The peer after bytes have come in, and perhaps the end of the connection. -/
def receive (p : Peer) (link : Nat) (bytes : List UInt8) (isLeft : Bool) : Peer :=
  { p with scene := p.scene.map fun s =>
      if s.link = link then
        { s with inbound := s.inbound ++ bytes, isLeft := s.isLeft || isLeft }
      else s }

/-- The peer after the client has begun something new. -/
def stepBegins (p : Peer) : Peer :=
  { p with scene := p.scene.map fun s =>
      match s.cues with
      | .nextStep :: rest => { s with cues := rest }
      | _ => s }

/-- The peer after it has accepted a connection, if it is free and one waits. Connections
that still wait when the last script has begun are closed. -/
def accept (p : Peer) : Peer × List Nat :=
  match p.scene, p.backlog, p.scripts with
  | none, link :: backlog, script :: scripts =>
    let isLast := scripts.isEmpty
    ({ p with
        scripts
        backlog := if isLast then [] else backlog
        scene := some { link, cues := script }
        seen := p.seen ++ [.accepted] },
      if isLast then backlog else [])
  | none, backlog, [] => ({ p with backlog := [] }, backlog)
  | _, _, _ => (p, [])

/-- **Lets the peer do what it can** on the connection that is being played. -/
def act (p : Peer) : Peer × Effects :=
  match p.scene with
  | none => (p, {})
  | some s =>
    let played := s.play s.cues
    ({ p with scene := played.left, seen := p.seen ++ played.seen },
      { written := [(s.link, played.written)]
        closed := if played.isClosed then [s.link] else [] })

end Peer

end Switchboard.Rehearsal
