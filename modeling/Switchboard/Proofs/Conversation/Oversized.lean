import Switchboard.Proofs.Channel.Outbound
import Switchboard.Proofs.Channel.Portions
import Switchboard.Proofs.Channel.Replies
import Switchboard.Proofs.Wire.Oversized
import Switchboard.Server.Connection

/-!
# What a reply that is too large does to the others

A server goes on using a connection after it has failed to write a reply on it,
and the part of the reply that had been written by then stays. The replies
before it reach their calls. Its own call is left waiting on an open connection
as long as nothing is written behind it; the next reply, however small, breaks
the connection, and all calls that are still waiting there fail, among them
those whose replies are being written.

So a connection keeps what calls may expect of it exactly as long as all
replies fit (`replies_until_too_large`). A client that fails to write a request
gives the connection up instead.
-/

namespace Switchboard.Server.Connection

open Wire (Reply Answered replyBytes)

/-- The connection after some tasks have their replies, in the order in which they are written. -/
def answerAll (c : Connection) (answers : List (Nat × Reply)) : Connection :=
  answers.foldl (fun c answer => c.answer answer.1 answer.2) c

/-- The calls that are answered so. A task that is not at work has no reply. -/
def answered (c : Connection) : List (Nat × Reply) → List Answered
  | [] => []
  | (ticket, reply) :: answers =>
    ((c.tasks.find? (·.ticket = ticket)).map fun task => ⟨task.callId, task.request, reply⟩).toList
      ++ (c.answer ticket reply).answered answers

/-- **What the replies leave on the connection.** -/
theorem outbound_answerAll (c : Connection) (answers : List (Nat × Reply)) :
    (c.answerAll answers).outbound = c.outbound ++ replyBytes (c.answered answers) := by
  induction answers generalizing c with
  | nil => exact (List.append_nil _).symm
  | cons answer answers ih =>
    obtain ⟨ticket, reply⟩ := answer
    refine (ih (c.answer ticket reply)).trans ?_
    rw [answered, Wire.replyBytes_append, ← List.append_assoc]
    refine congrArg (· ++ _) ?_
    unfold answer
    cases c.tasks.find? (·.ticket = ticket) with
    | none => exact (List.append_nil _).symm
    | some task => exact congrArg (c.outbound ++ ·) (List.append_nil _).symm

end Switchboard.Server.Connection

namespace Switchboard.Client

open Wire (Request Reply ReplyEnvelope Answered readAll readReply replyBytes intact spoilt)

/-! ## Calls in flight -/

/-- What a wait comes to by what arrives on its link. -/
theorem answerOf_arrivalMoments (link : Nat) (callId : UInt64)
    (arrived : Wire.Arrivals ReplyEnvelope) :
    answerOf link callId (Channel.arrivalMoments link arrived) =
      match arrived.values.find? (·.header.callId = callId) with
      | some envelope => .arrived envelope
      | none => if arrived.error.isSome then .lost else .awaited := by
  have hends : (fun envelope => (Moment.read link envelope).ends link callId)
      = fun envelope => decide (envelope.header.callId = callId) :=
    funext fun envelope => by simp [Moment.ends]
  unfold answerOf Channel.arrivalMoments
  rw [List.find?_append, List.find?_map,
    show Moment.ends link callId ∘ Moment.read link = _ from hends]
  cases arrived.values.find? (·.header.callId = callId) with
  | some envelope => rfl
  | none =>
    cases arrived.error with
    | none => rfl
    | some error => simp [Moment.ends, Moment.answer]

theorem wait?_of_mem_arrivalMoments {link : Nat} {arrived : Wire.Arrivals ReplyEnvelope}
    {m : Moment} (h : m ∈ Channel.arrivalMoments link arrived) : m.wait? = none := by
  obtain ⟨envelope, -, rfl⟩ | ⟨-, rfl⟩ := Channel.mem_arrivalMoments.mp h <;> rfl

/-- Moments at which no call leaves an id make no waits. -/
theorem lastWait?_of_awaited {log : List Moment} {link call : Nat} {callId : UInt64}
    (hlast : lastWait? call (waits log) = some ⟨link, callId, call, .awaited⟩) {later : List Moment}
    (hlater : ∀ m ∈ later, m.wait? = none) :
    lastWait? call (waits (log ++ later))
      = some ⟨link, callId, call, answerOf link callId later⟩ := by
  induction later using List.reverseRecOn with
  | nil => rwa [List.append_nil]
  | append_singleton later m ih =>
    have hm : m.wait? = none := hlater m (by simp)
    rw [← List.append_assoc, waits_concat, hm, Option.toList_none, List.append_nil,
      lastWait?_map_after, ih fun m' hm' => hlater m' (List.mem_append_left _ hm'), Option.map_some,
      after_answerOf]

/-- **What becomes of a call in flight** by bytes that come in. -/
theorem Routed.receive_flight {h : History} (hrouted : Routed h) {link call : Nat} {l : Link}
    {e : Exchange} {callId : UInt64} (hlink : h.channel.links[link]? = some l)
    (hopen : l.isOpen = true) (hcall : h.channel.calls[call]? = some e)
    (hphase : e.phase = .waiting link callId .awaited) (bytes : List UInt8) :
    (h.channel.receive link bytes).calls[call]? =
      some { e with phase := .waiting link callId (answerOf link callId
        (Channel.arrivalMoments link (Wire.arrivals readReply (l.inbound ++ bytes)))) } := by
  have hafter := hrouted.step (.receive link bytes)
  have hlog : (h.step (.receive link bytes)).log = h.log ++
      Channel.arrivalMoments link (Wire.arrivals readReply (l.inbound ++ bytes)) := by
    show h.log ++ (h.channel.notesOfReceive link bytes).moments = _
    unfold Channel.notesOfReceive
    rw [hlink]
    dsimp only
    rw [if_pos hopen]
  have hbefore : lastWait? call (waits h.log) = some ⟨link, callId, call, .awaited⟩ :=
    hrouted.follows.knows call e _ hcall (by rw [hphase]; rfl)
  have hlast := lastWait?_of_awaited hbefore (fun m hm => wait?_of_mem_arrivalMoments hm :
    ∀ m ∈ Channel.arrivalMoments link (Wire.arrivals readReply (l.inbound ++ bytes)), _)
  rw [← hlog] at hlast
  -- the call still waits with its id, and knows what its wait has come to
  obtain ⟨answer, hafterCall⟩ : ∃ answer, (h.channel.receive link bytes).calls[call]? =
      some { e with phase := .waiting link callId answer } := by
    rw [Channel.receive_of_some hlink, Channel.getElem?_tell, Channel.calls_changeLink, hcall,
      Option.map_some, hphase]
    obtain ⟨answer, hanswer⟩ := Channel.exists_learned_waiting call _ link callId .awaited
    exact ⟨answer, by rw [hanswer]⟩
  have hknows := hafter.follows.knows call _ _ hafterCall rfl
  rw [hlast] at hknows
  rw [hafterCall, (Wait.mk.inj (Option.some_inj.mp hknows)).2.2.2]

/-- A call that has written its request and waits for the reply. -/
def Channel.IsInFlight (ch : Channel) (link call : Nat) (callId : UInt64) (request : Request) :
    Prop :=
  ∃ e, ch.calls[call]? = some e ∧ e.request = request ∧ e.phase = .waiting link callId .awaited

/-- **Replies that reach their calls until one is too large**: what becomes of a link and of the
calls that are in flight there when some replies are written. -/
structure ReachUntilTooLarge (before after : Channel) (link : Nat) (portions : List (List UInt8))
    (entries : List Answered) : Prop where
  /-- The bytes are whole envelopes if and only if all replies fit. -/
  whole_iff : (readAll readReply portions).2.1 = none ↔ ∀ a ∈ entries, a.Fits
  /-- Then each call gets its own reply. -/
  own : (∀ a ∈ entries, a.Fits) → (entries.map (·.callId)).Nodup → ∀ a ∈ entries, ∀ call,
    before.IsInFlight link call a.callId a.request →
    (after.finish call).outcome? call = some (.ok a.reply)
  /-- The first reply that is too large does not end the link, and the next reply does. -/
  isOpen_iff : after.isOpen link = true ↔ (spoilt entries).length ≤ 1
  /-- What is before it is handed out. -/
  answered : ∀ call callId request a, before.IsInFlight link call callId request →
    (intact entries).find? (·.callId = callId) = some a →
    (after.finish call).outcome? call = some (a.envelope.toReply request)
  /-- All other calls are left waiting by it, and fail by the next reply. -/
  unanswered : ∀ call callId request, before.IsInFlight link call callId request →
    (intact entries).find? (·.callId = callId) = none →
    (after.finish call).outcome? call =
      if 1 < (spoilt entries).length then some (.error .closed) else none

/-- The outcome of a call in flight by what has been written before the first reply that is too
large. -/
theorem Routed.outcome_flight {h : History} (hrouted : Routed h) {link call : Nat} {l : Link}
    {callId : UInt64} {request : Request} (hlink : h.channel.links[link]? = some l)
    (hopen : l.isOpen = true) (hinbound : l.inbound = [])
    (hflight : h.channel.IsInFlight link call callId request) (entries : List Answered) :
    ((h.channel.receive link (replyBytes entries)).finish call).outcome? call =
      match (intact entries).find? (·.callId = callId) with
      | some a => some (a.envelope.toReply request)
      | none => if 1 < (spoilt entries).length then some (.error .closed) else none := by
  obtain ⟨e, hcall, rfl, hphase⟩ := hflight
  have hfind : ((intact entries).map Answered.envelope).find? (·.header.callId = callId)
      = ((intact entries).find? (·.callId = callId)).map Answered.envelope := List.find?_map ..
  have hafter := hrouted.receive_flight hlink hopen hcall hphase (replyBytes entries)
  rw [Channel.outcome_finish hafter rfl, hinbound, List.nil_append, Wire.arrivals_replyBytes,
    answerOf_arrivalMoments, hfind]
  cases (intact entries).find? (·.callId = callId) with
  | some a => rfl
  | none =>
    rw [Option.map_none]
    by_cases hlater : 1 < (spoilt entries).length
    · simp only [if_pos hlater]
      rfl
    · simp only [if_neg hlater]
      rfl

theorem isOpen_receive {ch : Channel} {link : Nat} {l : Link} (hlink : ch.links[link]? = some l)
    (hopen : l.isOpen = true) (bytes : List UInt8) :
    (ch.receive link bytes).isOpen link
      = (Wire.arrivals readReply (l.inbound ++ bytes)).error.isNone := by
  unfold Channel.isOpen
  rw [Channel.getElem?_receive, if_pos rfl, hlink, Option.map_some, Option.any_some,
    Link.receive_of_open hopen rfl]
  cases (Wire.arrivals readReply (l.inbound ++ bytes)).error with
  | none => exact (isOpen_route l _).trans hopen
  | some error => rfl

/-- **Replies reach their calls until one is too large.** Whatever calls are in flight on a link,
however their replies are ordered and whatever their sizes: the first that is too large spoils what
is written behind it. -/
theorem replies_until_too_large {destination : Address} {attempts : Nat} {events : List Event}
    {link : Nat} {l : Link} (c : Server.Connection) (answers : List (Nat × Reply))
    (portions : List (List UInt8))
    (hlink : ((History.start destination attempts).run events).channel.links[link]? = some l)
    (hopen : l.isOpen = true) (hinbound : l.inbound = [])
    (hportions : (c.answerAll answers).outbound = c.outbound ++ portions.flatten) :
    ReachUntilTooLarge ((History.start destination attempts).run events).channel
      (((History.start destination attempts).run events).channel.receiveAll link portions) link
      portions (c.answered answers) := by
  have hrouted := (Routed.start destination attempts).run events
  generalize (History.start destination attempts).run events = h at hlink hrouted
  have hbytes : portions.flatten = replyBytes (c.answered answers) :=
    (List.append_cancel_left ((c.outbound_answerAll answers).symm.trans hportions)).symm
  generalize c.answered answers = entries at hbytes
  rw [Channel.receiveAll_eq hlink hinbound, hbytes]
  have houtcome {call : Nat} {callId : UInt64} {request : Request}
      (hflight : h.channel.IsInFlight link call callId request) :=
    hrouted.outcome_flight hlink hopen hinbound hflight entries
  refine
    { whole_iff := (Wire.readAll_replyBytes hbytes).2
      own := fun hfits hnodup a ha call hflight => ?_
      isOpen_iff := ?_
      answered := fun call callId request a hflight hfind => ?_
      unanswered := fun call callId request hflight hfind => ?_ }
  -- with nothing spoilt all entries are whole, and an id that is used once leads to its own
  · have hintact : intact entries = entries := by
      have hall := Wire.intact_append_spoilt entries
      rwa [Wire.spoilt_eq_nil_iff.mpr hfits, List.append_nil] at hall
    have hfind : entries.find? (·.callId = a.callId) = some a := by
      cases hfind : entries.find? (·.callId = a.callId) with
      | none => exact absurd (decide_eq_true rfl) (List.find?_eq_none.mp hfind a ha)
      | some a' =>
        have hid : a'.callId = a.callId :=
          of_decide_eq_true (List.find?_some (p := fun b : Answered => decide (b.callId = _)) hfind)
        rw [List.inj_on_of_nodup_map hnodup (List.mem_of_find?_eq_some hfind) ha hid]
    have hown := a.toReply_envelope a.request
    rw [if_pos ⟨rfl, rfl⟩] at hown
    rw [houtcome hflight, hintact, hfind]
    exact congrArg some hown
  · rw [isOpen_receive hlink hopen, hinbound, List.nil_append, Wire.arrivals_replyBytes]
    -- what has come of one that is too large is waited on; another one behind it is an error
    by_cases hlater : 1 < (spoilt entries).length
    · simp [hlater]
    · simp [Nat.le_of_not_lt hlater]
  · rw [houtcome hflight, hfind]
  · rw [houtcome hflight, hfind]

/-- Two calls in flight on one link. -/
def twoInFlight : List Event :=
  [.begin ⟨none, 1, .empty⟩, .begin ⟨none, 2, .empty⟩, .join 0 (.ok ()), .join 1 (.ok ()),
    .register 0, .register 1, .write 0 none, .write 1 none]

/-- The server's end of the link when it has read both requests. -/
def bothRead : Server.Connection :=
  (({} : Server.Connection).receive 0
    (((History.start default 1).run twoInFlight).channel.outbound 0)).1

/-- A reply that is too large by one byte, and one that is not. -/
def tooLarge : Reply := .ok ⟨Array.replicate (Limits.maxFrame + 1) 0⟩

def small : Reply := .ok .empty

theorem isInFlight_twoInFlight :
    ((History.start default 1).run twoInFlight).channel.IsInFlight 0 0 1 ⟨none, 1, .empty⟩ ∧
      ((History.start default 1).run twoInFlight).channel.IsInFlight 0 1 2 ⟨none, 2, .empty⟩ :=
  ⟨⟨_, rfl, rfl, rfl⟩, ⟨_, rfl, rfl, rfl⟩⟩

theorem tasks_bothRead :
    bothRead.tasks = [⟨0, 1, ⟨none, 1, .empty⟩⟩, ⟨1, 2, ⟨none, 2, .empty⟩⟩] := by
  decide +kernel

theorem exists_link_twoInFlight :
    ∃ l, ((History.start default 1).run twoInFlight).channel.links[0]? = some l ∧
      l.isOpen = true ∧ l.inbound = [] :=
  ⟨_, rfl, rfl, rfl⟩

theorem outbound_bothRead : bothRead.outbound = [] := by decide +kernel

/-- Both calls are answered in this order. -/
theorem answered_bothRead (first second : Reply) :
    bothRead.answered [(0, first), (1, second)]
      = [⟨1, ⟨none, 1, .empty⟩, first⟩, ⟨2, ⟨none, 2, .empty⟩, second⟩] := by
  simp [Server.Connection.answered, Server.Connection.answer, tasks_bothRead]

theorem not_fits_tooLarge (callId : UInt64) (request : Request) :
    ¬ (⟨callId, request, tooLarge⟩ : Answered).Fits := by
  intro h
  have hsize : tooLarge.payload.size = Limits.maxFrame + 1 := Array.size_replicate
  exact absurd (hsize ▸ h.payload_le) (Nat.not_succ_le_self _)

theorem fits_small : (⟨1, ⟨none, 1, .empty⟩, small⟩ : Answered).Fits ∧
    (⟨2, ⟨none, 2, .empty⟩, small⟩ : Answered).Fits := by
  decide

theorem outbound_answerAll_bothRead (answers : List (Nat × Reply)) :
    (bothRead.answerAll answers).outbound
      = bothRead.outbound ++ [(bothRead.answerAll answers).outbound].flatten := by
  rw [outbound_bothRead, List.nil_append, List.flatten_cons, List.flatten_nil, List.append_nil]

/-- A reply that is too large and comes last leaves its call waiting, on an open link. -/
theorem replies_until_too_large_last :
    let before := ((History.start default 1).run twoInFlight).channel
    let after := before.receiveAll 0 [(bothRead.answerAll [(0, small), (1, tooLarge)]).outbound]
    after.isOpen 0 = true ∧ (after.finish 0).outcome? 0 = some (.ok small) ∧
      (after.finish 1).outcome? 1 = none := by
  obtain ⟨l, hlink, hopen, hinbound⟩ := exists_link_twoInFlight
  have hreach := replies_until_too_large bothRead [(0, small), (1, tooLarge)] _ hlink hopen hinbound
    (outbound_answerAll_bothRead _)
  rw [answered_bothRead] at hreach
  have hintact : intact [⟨1, ⟨none, 1, .empty⟩, small⟩, ⟨2, ⟨none, 2, .empty⟩, tooLarge⟩]
      = [⟨1, ⟨none, 1, .empty⟩, small⟩] := by
    simp [intact, fits_small.1, not_fits_tooLarge]
  have hspoilt : spoilt [⟨1, ⟨none, 1, .empty⟩, small⟩, ⟨2, ⟨none, 2, .empty⟩, tooLarge⟩]
      = [⟨2, ⟨none, 2, .empty⟩, tooLarge⟩] := by
    simp [spoilt, fits_small.1, not_fits_tooLarge]
  obtain ⟨hfirst, hsecond⟩ := isInFlight_twoInFlight
  refine ⟨hreach.isOpen_iff.mpr ?_, ?_, ?_⟩
  · rw [hspoilt]
    exact Nat.le_refl 1
  · rw [hreach.answered 0 1 _ _ hfirst (by rw [hintact]; rfl)]
    rfl
  · rw [hreach.unanswered 1 2 _ hsecond (by rw [hintact]; rfl), hspoilt]
    rfl

/-- A reply that is too large and comes first takes a small one with it. -/
theorem small_reply_lost :
    let before := ((History.start default 1).run twoInFlight).channel
    let after := before.receiveAll 0 [(bothRead.answerAll [(0, tooLarge), (1, small)]).outbound]
    before.IsInFlight 0 1 2 ⟨none, 2, .empty⟩ ∧
      (⟨2, ⟨none, 2, .empty⟩, small⟩ : Answered).Fits ∧
      (after.finish 1).outcome? 1 = some (.error .closed) := by
  obtain ⟨l, hlink, hopen, hinbound⟩ := exists_link_twoInFlight
  refine ⟨isInFlight_twoInFlight.2, fits_small.2, ?_⟩
  have hspoilt : spoilt [⟨1, ⟨none, 1, .empty⟩, tooLarge⟩, ⟨2, ⟨none, 2, .empty⟩, small⟩]
      = [⟨1, ⟨none, 1, .empty⟩, tooLarge⟩, ⟨2, ⟨none, 2, .empty⟩, small⟩] := by
    simp [spoilt, not_fits_tooLarge]
  have hintact : intact [⟨1, ⟨none, 1, .empty⟩, tooLarge⟩, ⟨2, ⟨none, 2, .empty⟩, small⟩] = [] := by
    simp [intact, not_fits_tooLarge]
  have hrouted := (Routed.start default 1).run twoInFlight
  rw [Channel.receiveAll_eq hlink hinbound, List.flatten_cons, List.flatten_nil, List.append_nil,
    Server.Connection.outbound_answerAll, outbound_bothRead, List.nil_append, answered_bothRead,
    hrouted.outcome_flight hlink hopen hinbound isInFlight_twoInFlight.2, hintact, hspoilt]
  rfl

end Switchboard.Client
