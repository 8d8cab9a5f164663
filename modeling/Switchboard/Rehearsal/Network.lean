import Switchboard.Client.Basic
import Switchboard.Client.Channel
import Switchboard.Dispatch.Backend
import Switchboard.Dispatch.Call
import Switchboard.Server.Provider

/-!
# Networks

A network is a host with providers on it, the channels that clients have made,
and the lines between them. A line leads from a link of a channel, or from
somebody who writes and reads bytes by hand, to a connection of a server. Calls
can also be made directly, without a line, to the backend of a provider.

Nothing happens by itself. An operation does what its caller does first, and
then `settle` lets everything follow that follows from it: requests travel,
backends answer, replies travel back, calls finish, and lines that nobody uses
any more are ended. No operation waits for another, so afterwards whatever has
not finished waits for something that is yet to be done.
-/

namespace Switchboard.Rehearsal

open Wire (Request Reply)

/-- Who is at the near end of a line. -/
inductive Caller where
  | link (channel link : Nat)
  /-- Somebody who writes and reads bytes by hand. -/
  | hand
deriving DecidableEq, Repr, Inhabited

/-- **A connection from both ends.** -/
structure Line where
  /-- The number of the connection, of all connections to all servers. -/
  number : Nat
  /-- The name of the provider whose server has accepted it, if it has. -/
  site : Option String
  caller : Caller
  /-- What has come back and has not been taken, if nobody but a hand takes it. -/
  received : List UInt8 := []
  /-- Whether the server has ended it. -/
  isEnded : Bool := false
deriving Inhabited

/-- Where a client makes its calls. -/
inductive Route where
  /-- Directly to the backend of a provider. -/
  | direct (site : String)
  | channel (number : Nat)
deriving DecidableEq, Repr, Inhabited

/-- **A network of providers and clients** with backends of type `β` that share a state of
type `σ`. -/
structure Network (β σ : Type) where
  host : Host := {}
  state : σ
  providers : List (String × Provider β) := []
  clients : List (String × Client Route) := []
  channels : List Client.Channel := []
  lines : List Line := []
  /-- The ticket of the next request. -/
  nextTicket : Nat := 0
  /-- The number of the next line. -/
  nextLine : Nat := 0
  /-- The direct calls that wait for their results. -/
  waiting : List Nat := []
  /-- How direct calls have ended. -/
  endings : List (Nat × Progress) := []
  /-- How long calls have waited between their tries, in milliseconds. -/
  elapsed : Nat := 0
deriving Inhabited

namespace Network

variable {β σ : Type}

/-! ## Providers, clients and channels by name and number -/

/-- The provider with a name. -/
def provider? (n : Network β σ) (site : String) : Option (Provider β) := n.providers.lookup site

/-- The network with a provider under a name, in place of an earlier one. -/
def putProvider (n : Network β σ) (site : String) (p : Provider β) : Network β σ :=
  { n with providers := (site, p) :: n.providers.filter (·.1 ≠ site) }

/-- The network after a change to the backend of a provider, if that is possible. -/
def changeBackend? (n : Network β σ) (site : String) (f : β → Option β) : Option (Network β σ) := do
  let p ← n.provider? site
  let backend ← f p.backend
  return n.putProvider site { p with backend }

/-- The server of a provider. -/
def server? (n : Network β σ) (site : String) : Option Server :=
  (n.provider? site).bind (·.server)

/-- The network after a change to the server of a provider. -/
def changeServer (n : Network β σ) (site : String) (f : Server → Server) : Network β σ :=
  match n.provider? site with
  | none => n
  | some p => n.putProvider site { p with server := p.server.map f }

/-- The client with a name. -/
def client? (n : Network β σ) (name : String) : Option (Client Route) := n.clients.lookup name

/-- The network with a client under a name, in place of an earlier one. -/
def putClient (n : Network β σ) (name : String) (c : Client Route) : Network β σ :=
  { n with clients := (name, c) :: n.clients.filter (·.1 ≠ name) }

/-- The network after a change to a channel. -/
def changeChannel (n : Network β σ) (channel : Nat) (f : Client.Channel → Client.Channel) :
    Network β σ :=
  { n with channels := n.channels.modify channel f }

/-- The network after a change to a line. -/
def changeLine (n : Network β σ) (number : Nat) (f : Line → Line) : Network β σ :=
  { n with lines := n.lines.map fun l => if l.number = number then f l else l }

/-- Whether the call with a ticket still waits for its result. -/
def isWaiting (n : Network β σ) (ticket : Nat) : Bool :=
  n.waiting.contains ticket ||
    n.providers.any fun e => (e.2.server.map fun s => s.isWaiting ticket).getD false

/-! ## Backends at work -/

section Backend

variable [Backend β σ]

/-- The network after the result of a call has become known. -/
def deliver (n : Network β σ) (ticket : Nat) (progress : Progress) : Network β σ :=
  match progress.reply? with
  | none => n
  | some reply =>
    { n with
      providers := n.providers.map fun e =>
        (e.1, { e.2 with server := e.2.server.map (·.answer ticket reply) })
      waiting := n.waiting.filter (· ≠ ticket)
      endings :=
        if n.waiting.contains ticket then (ticket, progress) :: n.endings else n.endings }

/-- The network after a backend has been handed a request. -/
def handle (n : Network β σ) (backend : β) (request : Request) (ticket : Nat) : Network β σ :=
  let (state, progress) := Backend.handle backend request ticket n.state
  { n with state }.deliver ticket progress

/-- The network after the results that became known late have been delivered. -/
def deliverLate (n : Network β σ) : Network β σ :=
  let (results, state) := Backend.late β n.state
  results.foldl (fun n (ticket, result) => n.deliver ticket (.finished result)) { n with state }

/-! ## Bytes under way -/

/-- The network after bytes have come in at the server of a line. -/
def arrive (n : Network β σ) (line : Line) (bytes : List UInt8) : Network β σ :=
  match line.site.bind n.provider?, line.site with
  | some ⟨backend, some server⟩, some site =>
    let (server, tasks) := server.receive line.number n.nextTicket bytes
    let n := { n with nextTicket := n.nextTicket + tasks.length }
    let n := n.putProvider site ⟨backend, some server⟩
    tasks.foldl (fun n task => n.handle backend task.request task.ticket) n
  | _, _ => n

/-- The network after what has been written on a link has come in at the server. -/
def bringRequests (n : Network β σ) (line : Line) : Network β σ :=
  match line.caller with
  | .hand => n
  | .link channel link =>
    match (n.channels[channel]?).bind (·.links[link]?) with
    | none => n
    | some l =>
      (n.changeChannel channel (·.changeLink link fun l => { l with outbound := [] })).arrive line
        l.outbound

/-- What a server has to say on a line: the bytes it has written and whether it has ended
the connection. -/
def spoken (n : Network β σ) (line : Line) : List UInt8 × Bool :=
  match (line.site.bind n.server?).bind (·.connection? line.number) with
  | none => ([], true)
  | some c => (c.outbound, !c.isOpen)

/-- The network after what a server has to say has come in at the near end of a line. -/
def bringReplies (n : Network β σ) (line : Line) : Network β σ :=
  let (bytes, isOver) := n.spoken line
  let n := match line.site with
    | none => n
    | some site => n.changeServer site (·.change line.number fun c => { c with outbound := [] })
  match line.caller with
  | .hand =>
    n.changeLine line.number fun l =>
      { l with received := l.received ++ bytes, isEnded := l.isEnded || isOver }
  | .link channel link =>
    let n := n.changeChannel channel (·.receive link bytes)
    if isOver then n.changeChannel channel (·.endLink link) else n

/-- The network after every call that can finish has done so. -/
def finishCalls (n : Network β σ) : Network β σ :=
  { n with channels := n.channels.map fun ch =>
      (List.range ch.calls.length).foldl (fun ch call => ch.finish call) ch }

/-- Whether somebody still uses the near end of a line. -/
def isUsed (n : Network β σ) (line : Line) : Bool :=
  match line.caller with
  | .hand => true
  | .link channel link => (n.channels[channel]?).any (·.isUsed link)

/-- The network after the lines that nobody uses have been ended. -/
def endLines (n : Network β σ) : Network β σ :=
  let unused := n.lines.filter fun line => !n.isUsed line
  let n := unused.foldl (fun n line =>
    match line.site with
    | none => n
    | some site => n.changeServer site (·.hangUp line.number)) n
  { n with lines := n.lines.filter n.isUsed }

/-- **The network after everything has followed that follows by itself.** On a line that the
server has ended there is nothing more to come. -/
def settle (n : Network β σ) : Network β σ :=
  let n := n.lines.foldl bringRequests n
  let n := n.deliverLate
  let n := (n.lines.filter (!·.isEnded)).foldl bringReplies n
  n.finishCalls.endLines

/-! ## Direct calls -/

/-- Hands a request directly to the backend of a provider, under a new ticket. -/
def dispatch (n : Network β σ) (site : String) (request : Request) : Network β σ × Nat :=
  let ticket := n.nextTicket
  match n.provider? site with
  | none => (n, ticket)
  | some p =>
    let n := { n with nextTicket := ticket + 1, waiting := ticket :: n.waiting }
    ((n.handle p.backend request ticket).settle, ticket)

/-! ## Dialling -/

/-- The provider whose server accepts connections at an endpoint. -/
def siteAt? (n : Network β σ) (endpoint : Endpoint) : Option String :=
  (n.providers.find? fun e =>
    e.2.server.any fun s => s.isRunning ∧ s.listening.endpoint = endpoint).map (·.1)

/-- A new line to whoever listens at an endpoint. It is ended at once if the server has no
slot for it. -/
def openLine (n : Network β σ) (endpoint : Endpoint) (caller : Caller) : Network β σ :=
  let number := n.nextLine
  let accepted := (n.siteAt? endpoint).bind fun site =>
    ((n.server? site).bind (·.accept? number)).map (site, ·)
  let n := { n with nextLine := number + 1 }
  match accepted with
  | none => { n with lines := n.lines ++ [⟨number, none, caller, [], true⟩] }
  | some (site, server) =>
    { n.changeServer site fun _ => server with
      lines := n.lines ++ [⟨number, some site, caller, [], false⟩] }

/-- **Opens a line by hand**: its number, or the reason why nobody can be reached. -/
def openByHand (n : Network β σ) (destination : Address) :
    Except String (Network β σ × Nat) :=
  (n.host.dial destination).map fun endpoint => (n.openLine endpoint .hand, n.nextLine)

/-- The line with a number. -/
def line? (n : Network β σ) (number : Nat) : Option Line := n.lines.find? (·.number = number)

/-- Writes bytes on a line by hand. -/
def writeByHand (n : Network β σ) (number : Nat) (bytes : List UInt8) : Network β σ :=
  match n.line? number with
  | none => n
  | some line => (n.arrive line bytes).settle

/-- Takes what has come back on a line. -/
def takeByHand (n : Network β σ) (number : Nat) : Network β σ × List UInt8 :=
  match n.line? number with
  | none => (n, [])
  | some line => (n.changeLine number fun l => { l with received := [] }, line.received)

/-- **Takes replies that have come back on a line**, so many at most. -/
def takeReplies (n : Network β σ) (number count : Nat) : Network β σ × List Wire.ReplyEnvelope :=
  match n.line? number with
  | none => (n, [])
  | some line =>
    let (replies, rest) := Wire.arrivedUpTo Wire.readReply count [line.received]
    (n.changeLine number fun l => { l with received := rest.bytes }, replies)

/-- Ends what is written on a line. The server ends the connection then. -/
def endByHand (n : Network β σ) (number : Nat) : Network β σ :=
  match (n.line? number).bind (·.site) with
  | none => n.settle
  | some site => (n.changeServer site (·.hangUp number)).settle

/-! ## Calls over channels -/

/-- One try of a call, up to the point where its request is written. -/
def tryOnce (channel call : Nat) (n : Network β σ) : Network β σ :=
  match n.channels[channel]? with
  | none => n
  | some ch =>
    let dialled := n.host.dial ch.destination
    let joined := ch.join call (dialled.map fun _ => ())
    let n := { n with channels := n.channels.set channel joined }
    let n := match dialled with
      | .ok endpoint =>
        if ch.links.length < joined.links.length then
          n.openLine endpoint (.link channel ch.links.length)
        else n
      | .error _ => n
    n.changeChannel channel fun ch => (ch.register call).write call none

/-- Whether a call has to be tried again. -/
def wantsRetry (n : Network β σ) (channel call : Nat) : Bool :=
  match (n.channels[channel]?).bind (·.phase? call) with
  | some .starting => true
  | _ => false

/-- A call is tried until its request is written, it has failed, or it has been tried so
often; between two tries it waits for `pause` milliseconds. -/
def tryUpTo (channel call pause : Nat) : Nat → Network β σ → Network β σ
  | 0, n => n
  | tries + 1, n =>
    let n := n.tryOnce channel call
    if n.wantsRetry channel call then
      tryUpTo channel call pause tries { n with elapsed := n.elapsed + pause }
    else n

/-- A new channel to a destination. -/
def addChannel (n : Network β σ) (channel : Client.Channel) : Network β σ × Nat :=
  ({ n with channels := n.channels ++ [channel] }, n.channels.length)

/-- **Sends a request over a channel.** -/
def send (n : Network β σ) (channel : Nat) (request : Request) (pause : Nat) : Network β σ × Nat :=
  match n.channels[channel]? with
  | none => (n, 0)
  | some ch =>
    let (ch, call) := ch.begin request
    let n := { n with channels := n.channels.set channel ch }
    ((tryUpTo channel call pause ch.attempts n).settle, call)

/-- The network after nobody uses a channel for new calls any more. -/
def letGo (n : Network β σ) (channel : Nat) : Network β σ :=
  (n.changeChannel channel fun ch => { ch with current := none }).settle

/-! ## Starting and stopping -/

/-- **Starts a provider at a URL.** -/
def serve (n : Network β σ) (site url : String) : Except SetupError Address × Network β σ :=
  match n.provider? site with
  | none => (.error (.io "no such provider"), n)
  | some p =>
    match n.host.perform (p.start url) with
    | (.error e, host) => (.error e, { n with host })
    | (.ok p, host) =>
      match p.location? with
      | none => (.error (.io "no location"), { n with host })
      | some location => (.ok location, { n with host }.putProvider site p)

/-- **Stops a provider.** Its connections end before it is without a server. -/
def unserve (n : Network β σ) (site : String) : Network β σ :=
  match n.provider? site with
  | none => n
  | some p =>
    let n := (n.changeServer site (·.closeAll)).settle
    let (stopped, host) := p.stop n.host
    { n with host }.putProvider site stopped

/-- What a client was bound to is let go. -/
def unbind (n : Network β σ) (c : Client Route) : Network β σ :=
  match c.channel with
  | some (.channel number) => n.letGo number
  | _ => n

/-- Binds a client to the backend of a provider. -/
def bindDirect (n : Network β σ) (name : String) (c : Client Route) (site : String) : Network β σ :=
  (n.unbind c).putClient name (c.bindTo (.direct site))

/-- The network with a new channel to an address, and the route that it makes. -/
def connect (n : Network β σ) (destination : Address) : Network β σ × Route :=
  let (n, number) := n.addChannel { destination }
  (n, .channel number)

/-- **Starts a client at a URL.** -/
def startClient (n : Network β σ) (name : String) (c : Client Route) (url : String) :
    Except SetupError (Network β σ) :=
  (c.start (n.unbind c).connect url).map fun (n, c) => n.putClient name c

/-- Stops a client. -/
def stopClient (n : Network β σ) (name : String) (c : Client Route) : Network β σ :=
  (n.unbind c).putClient name c.stop

/-! ## Calls of clients -/

/-- **A call that has been begun.** -/
inductive Started (Out : Type) where
  | refused (failure : CallFailure)
  | direct (ticket : Nat) (conclude : Except TransportError Reply → CallResult Out)
  | sent (channel call : Nat) (conclude : Except TransportError Reply → CallResult Out)

/-- What is known about a call. -/
inductive Outcome (Out : Type) where
  | finished (result : CallResult Out)
  | underWay
  /-- The handler broke down and took its caller with it. -/
  | crashed

/-- **Begins a call of a client.** Between two tries it waits for `pause` milliseconds. -/
def begin {Out : Type} (n : Network β σ) (c : Client Route) (invocation : Invocation Out)
    (pause : Nat) : Network β σ × Started Out :=
  match c.channel, invocation.request with
  | none, _ => (n, .refused (.of .clientNotStarted))
  | some _, .error failure => (n, .refused failure)
  | some (.direct site), .ok request =>
    let (n, ticket) := n.dispatch site request
    (n, .direct ticket invocation.conclude)
  | some (.channel number), .ok request =>
    let (n, call) := n.send number request pause
    (n, .sent number call invocation.conclude)

/-- How a direct call has ended. -/
def ending? (n : Network β σ) (ticket : Nat) : Option Progress := n.endings.lookup ticket

/-- What is known about a call that has been begun. -/
def outcome {Out : Type} (n : Network β σ) : Started Out → Outcome Out
  | .refused failure => .finished (.error failure)
  | .direct ticket conclude =>
    match n.ending? ticket with
    | some (.finished result) => .finished (conclude (.ok (.ofResult result)))
    | some (.crashed _) => .crashed
    | _ => .underWay
  | .sent channel call conclude =>
    match (n.channels[channel]?).bind (·.outcome? call) with
    | some answer => .finished (conclude answer)
    | none => .underWay

/-- Gives a direct call up. -/
def giveUp (n : Network β σ) (ticket : Nat) : Network β σ :=
  { n with waiting := n.waiting.filter (· ≠ ticket) }

/-- **Gives a call up.** -/
def cancel {Out : Type} (n : Network β σ) : Started Out → Network β σ
  | .refused _ => n
  | .direct ticket _ => n.giveUp ticket
  | .sent channel call _ => (n.changeChannel channel (·.cancel call)).settle

end Backend

end Network

end Switchboard.Rehearsal
