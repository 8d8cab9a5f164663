import Mathlib.Data.List.Nodup
import Switchboard.Server.Basic

/-!
# As many connections as there are slots

A server counts its open connections, and the count is all that it goes by when
one more arrives. The count is changed in two places that know nothing of each
other: a connection that is accepted takes a slot, and a task that ends, in
whichever way, gives its slot back. If one end were missed, or one counted
twice, the server would from then on have too few slots or too many.

A `Reception` is a server at which connections arrive. Bytes come in and may be
no request, and tasks end because their client has gone, because the server has
been told to stop or because they have broken down, all in any order. A server
that is told to stop does not stop at once: each task finds out by itself, and
so does whoever lets connections in, who may let in some more until then; a
shutdown is one such run (`shutdown_eq_run`). The count is the number of live
tasks throughout (`Server.CountsRight`), so a connection is turned away exactly
if there are as many tasks as slots, and when all tasks have ended all slots are
free again (`cap_exact`).
-/

namespace Switchboard

open Wire (Reply)
open Server (Connection)

namespace Server

variable {s s' : Server} {number : Nat} {c : Connection}

/-- **The connections whose tasks are alive**, by number. -/
def live (s : Server) : List Nat := (s.connections.filter (·.2.isOpen)).map (·.1)

/-- **A server counts right**: no number stands for two connections, and as many slots are
taken as there are live tasks, which are no more than there are slots. -/
structure CountsRight (s : Server) : Prop where
  nodup : (s.connections.map (·.1)).Nodup
  active_eq : s.slots.active = s.live.length
  active_le : s.slots.active ≤ s.slots.max

namespace CountsRight

theorem live_nodup (h : s.CountsRight) : s.live.Nodup :=
  h.nodup.sublist (List.filter_sublist.map _)

/-- A number stands for the connection that is found under it. -/
theorem connection?_eq (h : s.CountsRight) (hc : s.connection? number = some c)
    {e : Nat × Connection} (he : e ∈ s.connections) (hnumber : e.1 = number) : e = (number, c) := by
  obtain ⟨first, second, hsplit, -⟩ := List.lookup_eq_some_iff.mp hc
  have hmem : (number, c) ∈ s.connections := by simp [hsplit]
  exact List.inj_on_of_nodup_map h.nodup he hmem hnumber

/-- A slot that is given back has been taken. -/
theorem active_release (h : s.CountsRight) (hlive : number ∈ s.live) :
    s.slots.release.active + 1 = s.slots.active :=
  Nat.sub_add_cancel (h.active_eq ▸ List.length_pos_of_mem hlive)

end CountsRight

/-! ## Connections that change -/

/-- Which tasks are alive after a change to a connection. -/
theorem live_change (hc : s.connection? number = some c) (f : Connection → Connection) :
    (s.change number f).live = (s.connections.filter fun e =>
      if e.1 = number then (f c).isOpen else e.2.isOpen).map (·.1) := by
  rw [change, hc, live]
  dsimp only
  rw [List.filter_map, List.map_map]
  have hnumber : (fun e : Nat × Connection => e.1)
      ∘ (fun e => if e.1 = number then (number, f c) else e) = fun e => e.1 := by
    funext e
    dsimp only [Function.comp]
    split_ifs with he
    · exact he.symm
    · rfl
  rw [hnumber]
  congr 1
  refine List.filter_congr fun e _ => ?_
  dsimp only [Function.comp]
  split_ifs <;> rfl

/-- A task that goes on, or has ended before, makes no difference. -/
theorem CountsRight.live_change_of_same (h : s.CountsRight) (hc : s.connection? number = some c)
    {f : Connection → Connection} (hsame : (f c).isOpen = c.isOpen) :
    (s.change number f).live = s.live := by
  rw [live_change hc, live]
  congr 1
  refine List.filter_congr fun e he => ?_
  split_ifs with hnumber
  · rw [h.connection?_eq hc he hnumber, hsame]
  · rfl

/-- A task that ends is not alive any more. -/
theorem CountsRight.live_change_of_ended (h : s.CountsRight) (hc : s.connection? number = some c)
    {f : Connection → Connection} (hended : (f c).isOpen = false) :
    (s.change number f).live = s.live.erase number := by
  rw [live_change hc, h.live_nodup.erase_eq_filter, live, List.filter_map, List.filter_filter]
  congr 1
  refine List.filter_congr fun e _ => ?_
  dsimp only [Function.comp]
  split_ifs with hnumber
  · simp [hnumber, hended]
  · simp [hnumber]

/-- A change to a connection leaves the numbers of all connections as they are. -/
theorem connections_change_map (s : Server) (number : Nat) (f : Connection → Connection) :
    (s.change number f).connections.map (·.1) = s.connections.map (·.1) := by
  rw [change]
  cases s.connection? number with
  | none => rfl
  | some c =>
    dsimp only
    rw [List.map_map]
    refine List.map_congr_left fun e _ => ?_
    dsimp only [Function.comp]
    split_ifs with he
    · exact he.symm
    · rfl

/-! ## What happens to a server -/

/-- **A server goes on** without a new connection: if it counts right, it does so afterwards,
and its slots are as many as before. -/
structure Continues (s s' : Server) : Prop where
  countsRight : s.CountsRight → s'.CountsRight
  max_eq : s'.slots.max = s.slots.max
  numbers_eq : s'.connections.map (·.1) = s.connections.map (·.1)

namespace Continues

theorem refl (s : Server) : s.Continues s := ⟨id, rfl, rfl⟩

/-- **Whatever becomes of a connection**, unless it is opened again. -/
theorem change {f : Connection → Connection}
    (hover : ∀ c, s.connection? number = some c → c.isOpen = false → (f c).isOpen = false) :
    s.Continues (s.change number f) := by
  cases hc : s.connection? number with
  | none =>
    rw [Server.change, hc]
    exact .refl s
  | some c =>
    have hslots : (s.change number f).slots
        = if c.isOpen ∧ (f c).isOpen = false then s.slots.release else s.slots := by
      rw [Server.change, hc]
    refine ⟨fun h => ⟨?_, ?_, ?_⟩, ?_, connections_change_map s number f⟩
    · rw [connections_change_map]
      exact h.nodup
    · rw [hslots]
      -- a slot is given back exactly when the connection ends, which takes one from the live ones
      by_cases hends : c.isOpen = true ∧ (f c).isOpen = false
      · obtain ⟨hopen, hended⟩ := hends
        have hlive : number ∈ s.live := by
          obtain ⟨first, second, hsplit, -⟩ := List.lookup_eq_some_iff.mp hc
          exact List.mem_map.mpr ⟨(number, c), List.mem_filter.mpr ⟨by simp [hsplit], hopen⟩, rfl⟩
        rw [if_pos ⟨hopen, hended⟩, h.live_change_of_ended hc hended,
          List.length_erase_of_mem hlive, ← h.active_eq]
        rfl
      · rw [if_neg hends, h.live_change_of_same hc, h.active_eq]
        cases hopen : c.isOpen with
        | false => exact hover c hc hopen
        | true => simpa [hopen] using hends
    · rw [hslots]
      split_ifs
      · exact Nat.le_trans (Nat.sub_le _ _) h.active_le
      · exact h.active_le
    · rw [hslots]
      split_ifs <;> rfl

theorem hangUp (s : Server) (number : Nat) : s.Continues (s.hangUp number) :=
  .change fun _ _ _ => rfl

theorem receive (s : Server) (number ticket : Nat) (bytes : List UInt8) :
    s.Continues (s.receive number ticket bytes).1 := by
  rw [Server.receive]
  cases hc : s.connection? number with
  | none => exact .refl s
  | some c =>
    refine .change fun c' hc' hover => ?_
    obtain rfl := Option.some.inj (hc.symm.trans hc')
    rw [Connection.receive, if_neg (by simp [hover])]
    exact hover

end Continues

/-- A reply ends no connection. -/
theorem isOpen_answer (c : Connection) (ticket : Nat) (reply : Reply) :
    (c.answer ticket reply).isOpen = c.isOpen := by
  unfold Connection.answer
  split <;> rfl

theorem live_answer (s : Server) (ticket : Nat) (reply : Reply) :
    (s.answer ticket reply).live = s.live := by
  rw [answer, live, live, List.filter_map, List.map_map]
  congr 1
  exact List.filter_congr fun e _ => isOpen_answer e.2 ticket reply

namespace Continues

theorem answer (s : Server) (ticket : Nat) (reply : Reply) :
    s.Continues (s.answer ticket reply) := by
  have hnumbers : (s.answer ticket reply).connections.map (·.1) = s.connections.map (·.1) := by
    rw [Server.answer, List.map_map]
    rfl
  exact ⟨fun h => ⟨hnumbers ▸ h.nodup, live_answer s ticket reply ▸ h.active_eq, h.active_le⟩,
    rfl, hnumbers⟩

end Continues

/-- **A connection is turned away exactly if every slot is taken.** -/
theorem CountsRight.accept?_eq_none_iff (h : s.CountsRight) :
    s.accept? number = none ↔ s.live.length = s.slots.max := by
  rw [accept?, Slots.acquire?, ← h.active_eq]
  have hle := h.active_le
  split_ifs with hfree
  · simp [Nat.ne_of_lt hfree]
  · simp only [true_iff]
    omega

/-- **A connection that is accepted is alive**, and so are those that were. -/
theorem CountsRight.of_accept? (h : s.CountsRight) (hnew : number ∉ s.connections.map (·.1))
    (haccept : s.accept? number = some s') :
    s'.CountsRight ∧ s'.live = number :: s.live ∧ s'.slots.max = s.slots.max
      ∧ s'.connections.map (·.1) = number :: s.connections.map (·.1) := by
  rw [accept?, Slots.acquire?] at haccept
  split_ifs at haccept with hfree
  obtain rfl := Option.some.inj haccept
  exact ⟨⟨List.nodup_cons.mpr ⟨hnew, h.nodup⟩, congrArg (· + 1) h.active_eq, hfree⟩, rfl, rfl, rfl⟩

/-- Whether a server has been told to stop is no matter for what becomes of its connections. -/
theorem change_stopped (s : Server) (number : Nat) (f : Connection → Connection) :
    ({ s with isRunning := false } : Server).change number f
      = { s.change number f with isRunning := false } := by
  have hsame : ({ s with isRunning := false } : Server).connection? number
      = s.connection? number := rfl
  rw [Server.change, Server.change, hsame]
  cases s.connection? number <;> rfl

end Server

/-! ## Connections that arrive -/

/-- **A server at which connections arrive.** -/
structure Reception where
  server : Server
  /-- The number of the next connection. -/
  arrived : Nat := 0
  /-- Whether connections are still let in, as far as there are slots. -/
  isAccepting : Bool := true

namespace Reception

/-- Why a task ends whose connection has not brought anything wrong. -/
inductive Reason where
  | clientGone
  | serverStopped
  | brokenDown
deriving DecidableEq

/-- What happens to a server and its connections. -/
inductive Event where
  | arrive
  /-- Bytes come in; the task ends if they are no request. -/
  | receive (number ticket : Nat) (bytes : List UInt8)
  | answer (ticket : Nat) (reply : Reply)
  /-- The client takes some of what has been written. -/
  | take (number count : Nat)
  /-- The task of a connection ends. Whatever the reason, it gives back all that it has. -/
  | ends (number : Nat) (reason : Reason)
  /-- The server is told to stop. Nothing ends by that alone. -/
  | stop
  /-- It is found that the server has been told to stop, and no connection is let in any more. -/
  | leave

variable {r : Reception} {max : Nat}

/-- The reception after a connection has been let in, or turned away if there is no slot. -/
def welcome (r : Reception) : Reception :=
  { r with server := (r.server.accept? r.arrived).getD r.server, arrived := r.arrived + 1 }

/-- The reception after something has happened. A task does not end because of a stop that
nobody has asked for, nor is the door closed then. -/
def step (r : Reception) : Event → Reception
  | .arrive => if r.isAccepting then r.welcome else r
  | .receive number ticket bytes => { r with server := (r.server.receive number ticket bytes).1 }
  | .answer ticket reply => { r with server := r.server.answer ticket reply }
  | .take number count =>
    { r with server := r.server.change number fun c =>
        { c with outbound := c.outbound.drop count } }
  | .ends number reason =>
    if reason = .serverStopped ∧ r.server.isRunning = true then r
    else { r with server := r.server.hangUp number }
  | .stop => { r with server := { r.server with isRunning := false } }
  | .leave => if r.server.isRunning then r else { r with isAccepting := false }

/-- The reception after some events. -/
def run (r : Reception) (events : List Event) : Reception := events.foldl step r

/-- A server with so many slots, at which nobody has arrived. -/
def opened (listening : Listening) (max : Nat) : Reception where
  server := { listening, slots := ⟨max, 0⟩ }

/-- A server that has just been started is one. -/
example (listening : Listening) :
    opened listening Limits.maxConnections = { server := { listening } } := rfl

/-! ## Stopping -/

/-- A connection that ends after a stop ends as it would have before. -/
theorem step_ends_stopped (s : Server) (arrived : Nat) (isAccepting : Bool) (number : Nat) :
    step ⟨{ s with isRunning := false }, arrived, isAccepting⟩ (.ends number .serverStopped)
      = ⟨{ s.hangUp number with isRunning := false }, arrived, isAccepting⟩ := by
  rw [step, if_neg (by simp), Server.hangUp, Server.change_stopped, Server.hangUp]

theorem run_ends_stopped (connections : List (Nat × Connection)) (s : Server) (arrived : Nat)
    (isAccepting : Bool) :
    run ⟨{ s with isRunning := false }, arrived, isAccepting⟩
        (connections.map fun e => .ends e.1 .serverStopped)
      = ⟨{ connections.foldl (fun s e => s.hangUp e.1) s with isRunning := false },
          arrived, isAccepting⟩ := by
  induction connections generalizing s with
  | nil => rfl
  | cons e connections ih =>
    rw [List.foldl_cons, List.map_cons, run, List.foldl_cons, step_ends_stopped]
    exact ih (s.hangUp e.1)

/-- **A shutdown is a stop after which all tasks end**, one after the other. -/
theorem shutdown_eq_run (hrunning : r.server.isRunning = true) (host : Host) :
    (r.server.shutdown host).1
      = (r.run (.stop :: r.server.connections.map fun e => .ends e.1 .serverStopped)).server := by
  rw [Server.shutdown, if_pos hrunning]
  exact (congrArg server (run_ends_stopped _ r.server r.arrived r.isAccepting)).symm

/-! ## What holds at every time -/

/-- **What holds at every time.** -/
structure Keeps (max : Nat) (r : Reception) : Prop where
  countsRight : r.server.CountsRight
  max_eq : r.server.slots.max = max
  /-- The next number has not been given. -/
  number_lt : ∀ number ∈ r.server.connections.map (·.1), number < r.arrived

namespace Keeps

theorem opened (listening : Listening) (max : Nat) : (opened listening max).Keeps max where
  countsRight := ⟨List.nodup_nil, rfl, Nat.zero_le max⟩
  max_eq := rfl
  number_lt := nofun

theorem of_continues (h : r.Keeps max) {s : Server} (hs : r.server.Continues s) :
    Keeps max { r with server := s } where
  countsRight := hs.countsRight h.countsRight
  max_eq := hs.max_eq.trans h.max_eq
  number_lt := by
    rw [hs.numbers_eq]
    exact h.number_lt

/-- A connection that arrives has a number of its own. -/
theorem isNew (h : r.Keeps max) : r.arrived ∉ r.server.connections.map (·.1) := fun hold =>
  Nat.lt_irrefl _ (h.number_lt _ hold)

/-- **A connection is turned away exactly if there are as many tasks as slots.** -/
theorem accept?_eq_none_iff (h : r.Keeps max) :
    r.server.accept? r.arrived = none ↔ r.server.live.length = max := by
  rw [h.countsRight.accept?_eq_none_iff, h.max_eq]

/-- **Who is there after a connection has been let in or turned away.** -/
theorem live_welcome (h : r.Keeps max) : r.welcome.server.live
    = if r.server.live.length = max then r.server.live else r.arrived :: r.server.live := by
  rw [welcome]
  cases haccept : r.server.accept? r.arrived with
  | none =>
    rw [if_pos (h.accept?_eq_none_iff.mp haccept)]
    rfl
  | some s =>
    have hnot : r.server.live.length ≠ max := fun hfull => by
      rw [h.accept?_eq_none_iff.mpr hfull] at haccept
      cases haccept
    rw [if_neg hnot]
    exact (h.countsRight.of_accept? h.isNew haccept).2.1

/-- The count stays right when a connection is let in or turned away. -/
theorem welcome (h : r.Keeps max) : r.welcome.Keeps max := by
  rw [Reception.welcome]
  cases haccept : r.server.accept? r.arrived with
  | none =>
    exact ⟨h.countsRight, h.max_eq, fun number hold => Nat.lt_succ_of_lt (h.number_lt number hold)⟩
  | some s =>
    obtain ⟨hcounts, -, hmax, hnumbers⟩ := h.countsRight.of_accept? h.isNew haccept
    refine ⟨hcounts, hmax.trans h.max_eq, fun number hknown => ?_⟩
    obtain rfl | hold := List.mem_cons.mp (hnumbers ▸ hknown)
    · exact Nat.lt_succ_self _
    · exact Nat.lt_succ_of_lt (h.number_lt number hold)

/-- **The count stays right whatever happens.** -/
theorem step (h : r.Keeps max) (event : Event) : (r.step event).Keeps max := by
  cases event with
  | arrive =>
    rw [Reception.step]
    split_ifs
    · exact h.welcome
    · exact h
  | receive number ticket bytes => exact h.of_continues (.receive _ number ticket bytes)
  | answer ticket reply => exact h.of_continues (.answer _ ticket reply)
  | take number count => exact h.of_continues (.change fun _ _ hover => hover)
  | ends number reason =>
    rw [Reception.step]
    split_ifs
    · exact h
    · exact h.of_continues (.hangUp _ number)
  | stop =>
    exact h.of_continues ⟨fun hs => ⟨hs.nodup, hs.active_eq, hs.active_le⟩, rfl, rfl⟩
  | leave =>
    rw [Reception.step]
    split_ifs
    · exact h
    · exact ⟨h.countsRight, h.max_eq, h.number_lt⟩

theorem run (h : r.Keeps max) (events : List Event) : (r.run events).Keeps max := by
  induction events generalizing r with
  | nil => exact h
  | cons event events ih => exact ih (h.step event)

end Keeps

/-! ## Many connections -/

/-- The reception after some more connections have been let in or turned away. -/
def crowd (r : Reception) : Nat → Reception
  | 0 => r
  | count + 1 => (r.crowd count).welcome

/-- As long as connections are let in, they are a crowd when they arrive. -/
theorem run_arrive (haccepting : r.isAccepting = true) (count : Nat) :
    r.run (List.replicate count .arrive) = r.crowd count ∧ (r.crowd count).isAccepting = true := by
  induction count with
  | zero => exact ⟨rfl, haccepting⟩
  | succ count ih =>
    obtain ⟨hrun, hstill⟩ := ih
    refine ⟨?_, hstill⟩
    rw [run, List.replicate_succ', List.foldl_append]
    change step (r.run (List.replicate count .arrive)) .arrive = _
    rw [hrun, step, if_pos hstill]
    rfl

theorem Keeps.crowd (h : r.Keeps max) (count : Nat) : (r.crowd count).Keeps max := by
  induction count with
  | zero => exact h
  | succ count ih => exact ih.welcome

theorem arrived_crowd (r : Reception) (count : Nat) :
    (r.crowd count).arrived = r.arrived + count := by
  induction count with
  | zero => rfl
  | succ count ih => exact congrArg (· + 1) ih

/-- **A server without tasks has room for as many as it has slots**, which are those who come
first. -/
theorem Keeps.live_crowd (h : r.Keeps max) (hempty : r.server.live = []) (count : Nat) :
    (r.crowd count).server.live = (List.range' r.arrived (min count max)).reverse := by
  induction count with
  | zero =>
    rw [Nat.zero_min]
    exact hempty
  | succ count ih =>
    rw [Reception.crowd, (h.crowd count).live_welcome, ih, arrived_crowd, List.length_reverse,
      List.length_range']
    by_cases hfull : min count max = max
    · rw [if_pos hfull, hfull, Nat.min_eq_right (by omega)]
    · rw [if_neg hfull, Nat.min_eq_left (by omega : count ≤ max), Nat.min_eq_left (by omega),
        List.range'_concat, List.reverse_append, Nat.one_mul]
      rfl

/-! ## Exact slots -/

/-- **The slots are exact.** -/
structure IsExact (max : Nat) (r : Reception) : Prop where
  /-- As many slots are taken as there are live tasks, each of its own connection. -/
  active_eq : r.server.slots.active = r.server.live.length
  live_nodup : r.server.live.Nodup
  /-- They are never more than there are slots. -/
  live_le : r.server.live.length ≤ max
  /-- The slot that a task gives back when it ends has been taken. -/
  active_release : ∀ number ∈ r.server.live,
    r.server.slots.release.active + 1 = r.server.slots.active
  /-- A connection is turned away exactly if there are as many tasks as slots. -/
  accept?_eq_none_iff : r.server.accept? r.arrived = none ↔ r.server.live.length = max
  /-- When all tasks have ended, then of any further connections as many are let in as there
  are slots: the first ones. -/
  live_crowd : r.server.live = [] → ∀ count,
    (r.crowd count).server.live = (List.range' r.arrived (min count max)).reverse
  /-- Further connections are those that arrive next, unless none are let in any more. -/
  run_arrive : r.isAccepting = true → ∀ count,
    r.run (List.replicate count .arrive) = r.crowd count
  /-- To shut the server down is to tell it to stop and to end all tasks. -/
  shutdown_eq_run : r.server.isRunning = true → ∀ host, (r.server.shutdown host).1
    = (r.run (.stop :: r.server.connections.map fun e => .ends e.1 .serverStopped)).server

/-- **The slots are exact at every time**, in whatever order connections have arrived and tasks
have ended. -/
theorem cap_exact (listening : Listening) (max : Nat) (events : List Event) :
    ((opened listening max).run events).IsExact max := by
  have h := (Keeps.opened listening max).run events
  exact {
    active_eq := h.countsRight.active_eq
    live_nodup := h.countsRight.live_nodup
    live_le := by
      have hle := h.countsRight.active_le
      rwa [h.countsRight.active_eq, h.max_eq] at hle
    active_release := fun _ => h.countsRight.active_release
    accept?_eq_none_iff := h.accept?_eq_none_iff
    live_crowd := h.live_crowd
    run_arrive := fun haccepting count => (run_arrive haccepting count).1
    shutdown_eq_run := shutdown_eq_run }

/-- Of three connections at two slots the last is turned away. A task ends once, and its slot is
free for the next. When the server has been told to stop, one more is let in before the door is
closed, and the tasks end in their own time. -/
example :
    let served := (opened default 2).run [.arrive, .arrive, .arrive, .ends 0 .clientGone,
      .ends 0 .brokenDown, .arrive]
    served.server.live = [3, 1]
      ∧ (served.run [.ends 1 .serverStopped, .stop, .ends 1 .serverStopped, .arrive, .leave,
          .arrive]).server.live = [4, 3] := by
  decide +kernel

end Reception

end Switchboard
