import Switchboard.Proofs.Conversation.Client
import Switchboard.Proofs.Conversation.Server
import Switchboard.Proofs.Wire.Pipe

/-!
# Conversations are transparent

However many calls share a connection, and in whatever order requests are
written, tasks are answered, replies are written and bytes are carried, a call
gets the reply to its own run, and it has one run (`transparent`).

The invariant (`Agrees`) says where everything is. The requests that were
written are those that have been handed out and those under way; the replies
that were written are those that have come back and those under way; and client
and server agree with this record, each for its own part. Nothing in it speaks
of both ends at once but the two pipes between them, so that each event is a
matter of one end and of a pipe.
-/

namespace Switchboard.Conversation

open Wire (Request Reply RequestFits Pipe)
open Client (Channel Link)

/-- **Where everything is**: requests that are `done` have reached the server and the `rest` are
under way, replies that `came` have reached the client and those that are `coming` are under
way. -/
structure Agrees (w : Conversation) (l : Link) (done rest : List Sent)
    (came coming : List Produced) : Prop where
  client : ClientAgrees w.channel l w.given w.written came
  server : ServerAgrees w.connection w.runs done w.produced w.replied
  written_eq : w.written = done ++ rest
  replied_eq : w.replied = came ++ coming
  written_fits : ∀ s ∈ w.written, RequestFits s.message
  produced_fits : ∀ p ∈ w.produced, p.answered.Fits
  requests : Pipe (fun call => (Wire.writeRequest call.1 call.2).bytes) w.connection.inbound
    l.outbound (rest.map Sent.message)
  replies : Pipe (fun e => (Wire.writeEnvelope e.header e.payload).bytes) l.inbound
    w.connection.outbound (coming.map (·.answered.envelope))

namespace Agrees

variable {w : Conversation} {l : Link} {done rest : List Sent} {came coming : List Produced}

/-- Every task that was handed out is a run of a call. -/
theorem exists_call (h : Agrees w l done rest came coming) {task : Server.Task}
    (htask : task ∈ w.runs) : ∃ call, IsRunOf w.written task call := by
  rw [h.server.runs_eq, Server.Connection.mem_tasksFor, List.getElem?_map,
    Option.map_eq_some_iff] at htask
  obtain ⟨s, hs, hmessage⟩ := htask
  obtain ⟨hcallId, hrequest⟩ := Prod.mk.inj hmessage
  refine ⟨s.call, ?_⟩
  unfold IsRunOf
  rw [h.written_eq, List.getElem?_append_left (List.getElem?_eq_some_iff.mp hs).1, hs, ← hcallId,
    ← hrequest]

theorem rest_fits (h : Agrees w l done rest came coming) :
    ∀ message ∈ rest.map Sent.message, RequestFits message := by
  intro message hmessage
  obtain ⟨s, hs, rfl⟩ := List.mem_map.mp hmessage
  refine h.written_fits s ?_
  rw [h.written_eq]
  exact List.mem_append_right _ hs

theorem coming_produced (h : Agrees w l done rest came coming) {p : Produced} (hp : p ∈ coming) :
    p ∈ w.produced := by
  refine h.server.replied_produced p ?_
  rw [h.replied_eq]
  exact List.mem_append_right _ hp

theorem coming_fits (h : Agrees w l done rest came coming) :
    ∀ e ∈ coming.map (·.answered.envelope), Wire.Fits e.header e.payload := by
  intro e he
  obtain ⟨p, hp, rfl⟩ := List.mem_map.mp he
  exact h.produced_fits p (h.coming_produced hp)

/-! ## The events -/

theorem register (h : Agrees w l done rest came coming) (call : Nat)
    (hallows : w.Allows (.register call)) :
    ∃ l', Agrees (w.step (.register call)) l' done rest came coming := by
  have hfresh : w.channel.nextCallId ∉ l.waiting.map (·.1) := by
    obtain hgiven | hunused := hallows
    · exact h.client.fresh hgiven
    · refine hunused l ?_
      rw [h.client.links_eq]
      exact List.mem_singleton.mpr rfl
  obtain ⟨l', hclient, hinbound, houtbound⟩ := h.client.register call hfresh
  refine ⟨l', hclient, h.server, h.written_eq, h.replied_eq, h.written_fits, h.produced_fits,
    ?_, ?_⟩
  · rw [houtbound]
    exact h.requests
  · rw [hinbound]
    exact h.replies

theorem write (h : Agrees w l done rest came coming) (call : Nat)
    (hallows : w.Allows (.write call)) :
    ∃ l' rest', Agrees (w.step (.write call)) l' done rest' came coming := by
  obtain ⟨l', hclient, hinbound, houtbound⟩ := h.client.write call hallows
  refine ⟨l', rest ++ (sent? w.channel call).toList, hclient, h.server, ?_, h.replied_eq, ?_,
    h.produced_fits, ?_, ?_⟩
  · show w.written ++ _ = _
    rw [h.written_eq, List.append_assoc]
  · intro s hs
    rcases List.mem_append.mp hs with hold | hnew
    · exact h.written_fits s hold
    · exact hallows s (Option.mem_toList.mp hnew)
  · show Pipe _ w.connection.inbound l'.outbound _
    rw [houtbound]
    cases sent? w.channel call with
    | none =>
      show Pipe _ _ (l.outbound ++ []) ((rest ++ []).map _)
      rw [List.append_nil, List.append_nil]
      exact h.requests
    | some s =>
      show Pipe _ _ (l.outbound ++ Wire.requestBytes [s.message]) ((rest ++ [s]).map _)
      rw [List.map_append, Wire.requestBytes, List.flatMap_singleton]
      exact h.requests.push s.message
  · rw [hinbound]
    exact h.replies

theorem carry (h : Agrees w l done rest came coming) (count : Nat) :
    ∃ l' done' rest', Agrees (w.step (.carry count)) l' done' rest' came coming := by
  obtain ⟨messages, left, pending, hsplit, hread, hpipe⟩ :=
    h.requests.carry Wire.reads_request h.rest_fits count
  obtain ⟨more, rest', rfl, rfl, rfl⟩ := List.map_eq_append_iff.mp hsplit
  obtain ⟨connection, started, hreceive, hinbound, houtbound, hserver⟩ := h.server.receive hread
  have hlink : w.channel.links[0]? = some l := by
    rw [h.client.links_eq]
    rfl
  refine ⟨{ l with outbound := l.outbound.drop count }, done ++ more, rest', ?_⟩
  unfold step
  dsimp only
  rw [hlink]
  dsimp only
  rw [hreceive]
  refine ⟨?_, hserver, ?_, h.replied_eq, h.written_fits, h.produced_fits, ?_, ?_⟩
  · exact ⟨h.client.links_changeLink _, h.client.current_eq, h.client.isOpen, h.client.calls,
      h.client.next_eq, h.client.waiting_given⟩
  · show w.written = _
    rw [h.written_eq, List.append_assoc]
  · show Pipe _ connection.inbound _ _
    rw [hinbound]
    exact hpipe
  · show Pipe _ _ connection.outbound _
    rw [houtbound]
    exact h.replies

theorem produce (h : Agrees w l done rest came coming) (ticket : Nat) (reply : Reply)
    (hallows : w.Allows (.produce ticket reply)) :
    Agrees (w.step (.produce ticket reply)) l done rest came coming := by
  unfold step
  dsimp only
  split
  · exact h
  · next task hfind =>
    split
    · exact h
    · next hnew =>
      have htask := List.mem_of_find?_eq_some hfind
      have hticket : task.ticket = ticket := by simpa using List.find?_some hfind
      refine ⟨h.client, h.server.produce reply htask hnew, h.written_eq, h.replied_eq,
        h.written_fits, ?_, h.requests, h.replies⟩
      intro p hp
      rcases List.mem_append.mp hp with hold | hlast
      · exact h.produced_fits p hold
      · rw [List.mem_singleton.mp hlast]
        exact hallows task htask hticket

theorem reply (h : Agrees w l done rest came coming) (ticket : Nat) :
    ∃ coming', Agrees (w.step (.reply ticket)) l done rest came coming' := by
  unfold step
  dsimp only
  split
  · exact ⟨coming, h⟩
  · next p hfind =>
    have hticket : p.task.ticket = ticket := by simpa using List.find?_some hfind
    split
    · next htask =>
      obtain ⟨connection, hanswer, hinbound, houtbound, hserver⟩ :=
        h.server.answer (List.mem_of_find?_eq_some hfind) htask
      rw [hticket] at hanswer
      refine ⟨coming ++ [p], h.client, hanswer ▸ hserver, h.written_eq, ?_, h.written_fits,
        h.produced_fits, ?_, ?_⟩
      · show w.replied ++ [p] = _
        rw [h.replied_eq, List.append_assoc]
      · show Pipe _ (w.connection.answer ticket p.reply).inbound _ _
        rw [hanswer, hinbound]
        exact h.requests
      · show Pipe _ _ (w.connection.answer ticket p.reply).outbound _
        rw [hanswer, houtbound, List.map_append]
        exact h.replies.push p.answered.envelope
    · exact ⟨coming, h⟩

theorem bring (h : Agrees w l done rest came coming) (count : Nat) :
    ∃ l' came' coming', Agrees (w.step (.bring count)) l' done rest came' coming' := by
  obtain ⟨envelopes, left, pending, hsplit, hread, hpipe⟩ :=
    h.replies.carry Wire.reads_reply h.coming_fits count
  obtain ⟨more, coming', rfl, rfl, rfl⟩ := List.map_eq_append_iff.mp hsplit
  -- each reply is for a run of its own, so that each has a call that waits for it
  have hruns : ∀ p ∈ more, ∃ call, IsRunOf w.written p.task call := fun p hp =>
    h.exists_call (h.server.produced_runs p (h.coming_produced (List.mem_append_left _ hp)))
  have hnodup : ((came ++ more).map (·.task)).Nodup := by
    have hall := h.server.replied_nodup
    rw [h.replied_eq, ← List.append_assoc, List.map_append] at hall
    exact hall.of_append_left
  obtain ⟨l', hclient, hinbound, houtbound⟩ := h.client.receive hruns hnodup hread
  refine ⟨l', came ++ more, coming', hclient, ?_, h.written_eq, ?_, h.written_fits,
    h.produced_fits, ?_, ?_⟩
  · exact ⟨h.server.isOpen, h.server.runs_eq, h.server.produced_nodup, h.server.produced_runs,
      h.server.replied_nodup, h.server.replied_produced, h.server.tasks_eq⟩
  · show w.replied = _
    rw [h.replied_eq, List.append_assoc]
  · rw [houtbound]
    exact h.requests
  · rw [hinbound]
    exact hpipe

/-- **Everything stays accounted for**, whatever happens. -/
theorem step (h : Agrees w l done rest came coming) {event : Event} (hallows : w.Allows event) :
    ∃ l' done' rest' came' coming', Agrees (w.step event) l' done' rest' came' coming' := by
  -- what the client does leaves the server as it is, and the other way round
  cases event with
  | begin request =>
    exact ⟨l, done, rest, came, coming, h.client.begin request, h.server, h.written_eq,
      h.replied_eq, h.written_fits, h.produced_fits, h.requests, h.replies⟩
  | join call =>
    exact ⟨l, done, rest, came, coming, h.client.join call, h.server, h.written_eq, h.replied_eq,
      h.written_fits, h.produced_fits, h.requests, h.replies⟩
  | register call =>
    obtain ⟨l', hregister⟩ := h.register call hallows
    exact ⟨l', done, rest, came, coming, hregister⟩
  | write call =>
    obtain ⟨l', rest', hwrite⟩ := h.write call hallows
    exact ⟨l', done, rest', came, coming, hwrite⟩
  | carry count =>
    obtain ⟨l', done', rest', hcarry⟩ := h.carry count
    exact ⟨l', done', rest', came, coming, hcarry⟩
  | produce ticket reply => exact ⟨l, done, rest, came, coming, h.produce ticket reply hallows⟩
  | reply ticket =>
    obtain ⟨coming', hreply⟩ := h.reply ticket
    exact ⟨l, done, rest, came, coming', hreply⟩
  | bring count =>
    obtain ⟨l', came', coming', hbring⟩ := h.bring count
    exact ⟨l', done, rest, came', coming', hbring⟩
  | finish call =>
    exact ⟨l, done, rest, came, coming, h.client.finish call, h.server, h.written_eq,
      h.replied_eq, h.written_fits, h.produced_fits, h.requests, h.replies⟩

end Agrees

/-! ## Before the first link -/

/-- **Nothing has happened** except that calls were begun. -/
structure IsFresh (w : Conversation) : Prop where
  links_eq : w.channel.links = []
  current_eq : w.channel.current = none
  next_eq : w.channel.nextCallId = 1
  starting : ∀ e ∈ w.channel.calls, e.phase = .starting
  connection_eq : w.connection = {}
  given_eq : w.given = 0
  written_eq : w.written = []
  runs_eq : w.runs = []
  produced_eq : w.produced = []
  replied_eq : w.replied = []

namespace IsFresh

variable {w : Conversation}

theorem calls (h : IsFresh w) : CallsAgree w.channel.calls [] [] [] where
  written_nodup := List.nodup_nil
  written_request := List.forall_mem_nil _
  waiting_nodup := List.nodup_nil
  waiting_phase := List.forall_mem_nil _
  stage call e he := by
    rw [h.starting e (List.mem_of_getElem? he)]
    exact .starting List.not_mem_nil
  came_gone := List.forall_mem_nil _

theorem begin (h : IsFresh w) (request : Request) : IsFresh (w.step (.begin request)) := by
  refine ⟨h.links_eq, h.current_eq, h.next_eq, fun e he => ?_, h.connection_eq, h.given_eq,
    h.written_eq, h.runs_eq, h.produced_eq, h.replied_eq⟩
  rcases List.mem_append.mp he with hold | hnew
  · exact h.starting e hold
  · rw [List.mem_singleton.mp hnew]

/-- A call is there and has yet to start, or it is not there. -/
theorem call_eq (h : IsFresh w) (call : Nat) : w.channel.calls[call]? = none ∨
    ∃ request attempt, w.channel.calls[call]? = some ⟨request, attempt, .starting⟩ := by
  cases he : w.channel.calls[call]? with
  | none => exact .inl rfl
  | some e =>
    obtain ⟨request, attempt, phase⟩ := e
    obtain rfl : phase = .starting := h.starting _ (List.mem_of_getElem? he)
    exact .inr ⟨request, attempt, rfl⟩

/-- The first call that joins opens the link. -/
theorem join (h : IsFresh w) (call : Nat) :
    IsFresh (w.step (.join call)) ∨ Agrees (w.step (.join call)) {} [] [] [] [] := by
  have hnone : w.channel.openLink? = none := by
    unfold Channel.openLink?
    rw [h.current_eq]
    rfl
  obtain he | ⟨request, attempt, he⟩ := h.call_eq call
  -- a call that is not there does not join
  · have hjoin : w.channel.join call (.ok ()) = w.channel := by
      unfold Channel.join Channel.phase?
      rw [he]
      rfl
    refine .inl ?_
    unfold step
    dsimp only
    rw [hjoin]
    exact h
  · have hphase : w.channel.phase? call = some .starting := by
      unfold Channel.phase?
      rw [he]
      rfl
    have hjoin : w.channel.join call (.ok ())
        = { w.channel with links := [{}], current := some 0 }.setPhase call (.joined 0) := by
      unfold Channel.join
      rw [hphase, hnone]
      dsimp only
      rw [h.links_eq]
      rfl
    have hmove : CallsAgree (w.channel.calls.modify call fun e => { e with phase := .joined 0 })
        [] [] [] :=
      h.calls.move he (fun _ => not_isAwaiting_starting) (.joined List.not_mem_nil)
    obtain ⟨channel, connection, given, written, runs, produced, replied⟩ := w
    obtain rfl := h.connection_eq
    obtain rfl := h.given_eq
    obtain rfl := h.written_eq
    obtain rfl := h.runs_eq
    obtain rfl := h.produced_eq
    obtain rfl := h.replied_eq
    refine .inr ⟨?_, ?_, rfl, rfl, List.forall_mem_nil _, List.forall_mem_nil _, Wire.pipe_nil,
      Wire.pipe_nil⟩
    · show ClientAgrees (channel.join call (.ok ())) _ _ _ _
      rw [hjoin]
      exact ⟨rfl, rfl, rfl, hmove, h.next_eq, List.forall_mem_nil _⟩
    · exact ⟨rfl, rfl, List.nodup_nil, List.forall_mem_nil _, List.nodup_nil,
        List.forall_mem_nil _, rfl⟩

/-! Before it joins a call can make none of its other steps. -/

theorem register_eq (h : IsFresh w) (call : Nat) : w.channel.register call = w.channel := by
  unfold Channel.register Channel.phase?
  obtain he | ⟨request, attempt, he⟩ := h.call_eq call <;> rw [he] <;> rfl

theorem drawn_eq (h : IsFresh w) (call : Nat) : drawn w.channel call = 0 := by
  unfold drawn Channel.phase?
  obtain he | ⟨request, attempt, he⟩ := h.call_eq call <;> rw [he] <;> rfl

theorem write_eq (h : IsFresh w) (call : Nat) : w.channel.write call none = w.channel := by
  unfold Channel.write
  obtain he | ⟨request, attempt, he⟩ := h.call_eq call <;> rw [he]

theorem sent?_eq (h : IsFresh w) (call : Nat) : sent? w.channel call = none := by
  unfold sent?
  obtain he | ⟨request, attempt, he⟩ := h.call_eq call <;> rw [he]

theorem finish_eq (h : IsFresh w) (call : Nat) : w.channel.finish call = w.channel := by
  unfold Channel.finish
  obtain he | ⟨request, attempt, he⟩ := h.call_eq call <;> rw [he]

/-- Nothing else can happen yet. -/
theorem step_eq (h : IsFresh w) {event : Event} (hbegin : ∀ request, event ≠ .begin request)
    (hjoin : ∀ call, event ≠ .join call) : w.step event = w := by
  have hlink : w.channel.links[0]? = none := by
    rw [h.links_eq]
    rfl
  cases event with
  | begin request => exact absurd rfl (hbegin request)
  | join call => exact absurd rfl (hjoin call)
  | register call =>
    unfold step
    dsimp only
    rw [h.register_eq, h.drawn_eq, Nat.add_zero]
  | write call =>
    unfold step
    dsimp only
    rw [h.write_eq, h.sent?_eq, Option.toList_none, List.append_nil]
  | carry count =>
    unfold step
    dsimp only
    rw [hlink]
  | produce ticket reply =>
    unfold step
    dsimp only
    rw [h.connection_eq]
    rfl
  | reply ticket =>
    unfold step
    dsimp only
    rw [h.produced_eq]
    rfl
  | bring count =>
    have hreceive : w.channel.receive 0 (w.connection.outbound.take count) = w.channel := by
      unfold Channel.receive
      rw [hlink]
    unfold step
    dsimp only
    rw [hreceive, h.connection_eq, List.drop_nil, ← h.connection_eq]
  | finish call =>
    unfold step
    dsimp only
    rw [h.finish_eq]

end IsFresh

/-! ## The whole conversation -/

/-- Everything is accounted for, or there is nothing to account for yet. -/
def IsAccounted (w : Conversation) : Prop :=
  IsFresh w ∨ ∃ l done rest came coming, Agrees w l done rest came coming

theorem IsAccounted.step {w : Conversation} (h : IsAccounted w) {event : Event}
    (hallows : w.Allows event) : IsAccounted (w.step event) := by
  obtain hfresh | ⟨l, done, rest, came, coming, hagrees⟩ := h
  · by_cases hbegin : ∃ request, event = .begin request
    · obtain ⟨request, rfl⟩ := hbegin
      exact .inl (hfresh.begin request)
    by_cases hjoin : ∃ call, event = .join call
    · obtain ⟨call, rfl⟩ := hjoin
      exact (hfresh.join call).imp_right fun hagrees => ⟨_, _, _, _, _, hagrees⟩
    · rw [hfresh.step_eq (not_exists.mp hbegin) (not_exists.mp hjoin)]
      exact .inl hfresh
  · exact .inr (hagrees.step hallows)

/-- **In every conversation everything is accounted for.** -/
theorem IsAccounted.run {w : Conversation} (h : IsAccounted w) {events : List Event}
    (hallows : w.AllowsAll events) : IsAccounted (w.run events) := by
  induction events generalizing w with
  | nil => exact h
  | cons event events ih => exact ih (h.step hallows.1) hallows.2

theorem isFresh_start (destination : Address) (attempts : Nat) :
    IsFresh (start destination attempts) :=
  ⟨rfl, rfl, rfl, List.forall_mem_nil _, rfl, rfl, rfl, rfl, rfl, rfl⟩

/-- The call has written its request. -/
def HasWritten : Client.Phase → Prop
  | .waiting _ _ _ | .finished _ => True
  | _ => False

/-- **The connection might as well not be there.** -/
structure IsTransparent (w : Conversation) : Prop where
  /-- Whatever is answered is the request of a call. -/
  run_call : ∀ task ∈ w.runs, ∃ call, IsRunOf w.written task call
    ∧ (w.channel.calls[call]?).map (·.request) = some task.request
  /-- No task is handed out twice, -/
  runs_nodup : w.runs.Nodup
  /-- and no call has two of them. -/
  run_unique : ∀ call, ∀ task ∈ w.runs, ∀ task' ∈ w.runs, IsRunOf w.written task call →
    IsRunOf w.written task' call → task = task'
  /-- A reply is produced for a task that was handed out, -/
  produced_runs : ∀ p ∈ w.produced, p.task ∈ w.runs
  /-- and once for each. -/
  produced_nodup : (w.produced.map (·.task)).Nodup
  /-- A call that has finished has the reply that was produced for its run, and no other call has
  the same one. -/
  outcome : ∀ call outcome, w.channel.outcome? call = some outcome →
    ∃ p ∈ w.produced, IsRunOf w.written p.task call ∧ outcome = .ok p.reply
      ∧ ∀ other, IsRunOf w.written p.task other → other = call
  /-- When nothing is under way any more, every call that has written its request was answered,
  and gets the reply when it finishes if it has not got it yet. -/
  quiet : w.IsQuiet → ∀ call e, w.channel.calls[call]? = some e → HasWritten e.phase →
    ∃ p ∈ w.produced, IsRunOf w.written p.task call ∧ p.task.request = e.request
      ∧ (w.step (.finish call)).channel.outcome? call = some (.ok p.reply)

namespace Agrees

variable {w : Conversation} {l : Link} {done rest : List Sent} {came coming : List Produced}

/-- Replies that have come were produced. -/
theorem came_produced (h : Agrees w l done rest came coming) {p : Produced} (hp : p ∈ came) :
    p ∈ w.produced := by
  refine h.server.replied_produced p ?_
  rw [h.replied_eq]
  exact List.mem_append_left _ hp

/-- The request of a run is that of its call. -/
theorem request_eq (h : Agrees w l done rest came coming) {task : Server.Task} {call : Nat}
    (hrun : IsRunOf w.written task call) :
    (w.channel.calls[call]?).map (·.request) = some task.request :=
  h.client.calls.written_request _ hrun.mem

/-- When nothing is under way, the reply to everything that was written has come. -/
theorem exists_came (h : Agrees w l done rest came coming) (hquiet : w.IsQuiet) {s : Sent}
    (hs : s ∈ w.written) : ∃ p ∈ came, IsRunOf w.written p.task s.call := by
  have hrest : rest = [] := by
    have hlink : l.outbound = [] := by
      refine hquiet.link l ?_
      rw [h.client.links_eq]
      exact List.mem_singleton.mpr rfl
    have hpipe := h.requests
    rw [hlink] at hpipe
    exact List.map_eq_nil_iff.mp (hpipe.left_eq_nil Wire.reads_request h.rest_fits)
  -- a pipe without bytes has nothing under way in it
  have hcoming : coming = [] := by
    have hpipe := h.replies
    rw [hquiet.connection] at hpipe
    exact List.map_eq_nil_iff.mp (hpipe.left_eq_nil Wire.reads_reply h.coming_fits)
  obtain ⟨ticket, hticket⟩ := List.mem_iff_getElem?.mp hs
  have htask : (⟨ticket, s.callId, s.request⟩ : Server.Task) ∈ w.runs := by
    rw [h.server.runs_eq, Server.Connection.mem_tasksFor, List.getElem?_map]
    rw [h.written_eq, hrest, List.append_nil] at hticket
    rw [hticket]
    rfl
  -- a task without a reply would still be at work
  have hreplied : (⟨ticket, s.callId, s.request⟩ : Server.Task) ∈ w.replied.map (·.task) := by
    by_contra hnot
    have hwork := h.server.mem_tasks.mpr ⟨htask, hnot⟩
    rw [hquiet.tasks] at hwork
    exact absurd hwork List.not_mem_nil
  rw [h.replied_eq, hcoming, List.append_nil] at hreplied
  obtain ⟨p, hp, hsame⟩ := List.mem_map.mp hreplied
  refine ⟨p, hp, ?_⟩
  rw [hsame]
  exact hticket

theorem outcome (h : Agrees w l done rest came coming) {call : Nat}
    {outcome : Except TransportError Reply} (houtcome : w.channel.outcome? call = some outcome) :
    ∃ p ∈ w.produced, IsRunOf w.written p.task call ∧ outcome = .ok p.reply := by
  obtain ⟨e, he, hfinished⟩ := Channel.outcome?_eq_some.mp houtcome
  have hstage := h.client.calls.stage call e he
  rw [hfinished] at hstage
  cases hstage with
  | finished mem run _ => exact ⟨_, h.came_produced mem, run, rfl⟩

theorem isTransparent (h : Agrees w l done rest came coming) : IsTransparent w where
  run_call task htask := by
    obtain ⟨call, hrun⟩ := h.exists_call htask
    exact ⟨call, hrun, h.request_eq hrun⟩
  runs_nodup := by
    rw [h.server.runs_eq]
    exact Server.Connection.nodup_tasksFor 0 _
  run_unique _ _ _ _ _ hrun hrun' := hrun.unique h.client.calls.written_nodup hrun'
  produced_runs := h.server.produced_runs
  produced_nodup := h.server.produced_nodup
  outcome call outcome houtcome := by
    obtain ⟨p, hp, hrun, hreply⟩ := h.outcome houtcome
    exact ⟨p, hp, hrun, hreply, fun other hother => hother.call_eq hrun⟩
  quiet hquiet call e he hwritten := by
    obtain ⟨s, hs, rfl⟩ : ∃ s ∈ w.written, s.call = call := by
      have hstage := h.client.calls.stage call e he
      generalize e.phase = phase at hstage hwritten
      cases hstage with
      | starting _ | joined _ | writing _ _ => exact hwritten.elim
      | waiting mem _ => exact ⟨_, mem, rfl⟩
      | arrived _ run _ | finished _ run _ => exact ⟨_, run.mem, rfl⟩
    obtain ⟨p, hp, hrun⟩ := h.exists_came hquiet hs
    obtain ⟨q, hq, hrun', houtcome⟩ := h.client.outcome_finish hp hrun
    have hrequest := h.request_eq hrun'
    rw [he, Option.map_some] at hrequest
    exact ⟨q, h.came_produced hq, hrun', (Option.some_inj.mp hrequest).symm, houtcome⟩

end Agrees

theorem IsFresh.isTransparent {w : Conversation} (h : IsFresh w) : IsTransparent w where
  run_call := by
    rw [h.runs_eq]
    exact List.forall_mem_nil _
  runs_nodup := by
    rw [h.runs_eq]
    exact List.nodup_nil
  run_unique call := by
    rw [h.runs_eq]
    exact List.forall_mem_nil _
  produced_runs := by
    rw [h.produced_eq]
    exact List.forall_mem_nil _
  produced_nodup := by
    rw [h.produced_eq]
    exact List.nodup_nil
  outcome call outcome houtcome := by
    unfold Channel.outcome? Channel.phase? at houtcome
    obtain he | ⟨request, attempt, he⟩ := h.call_eq call <;> rw [he] at houtcome <;> cases houtcome
  quiet _ call e he hwritten := by
    rw [h.starting e (List.mem_of_getElem? he)] at hwritten
    exact hwritten.elim

/-- **A conversation is transparent**, whatever is said in it and in whatever order: what answers
the requests is run once for each call, and each call gets the reply to its own run. -/
theorem transparent {destination : Address} {attempts : Nat} {events : List Event}
    (hallows : (start destination attempts).AllowsAll events) :
    IsTransparent ((start destination attempts).run events) := by
  have haccounted : IsAccounted (start destination attempts) :=
    .inl (isFresh_start destination attempts)
  obtain hfresh | ⟨l, done, rest, came, coming, hagrees⟩ := haccounted.run hallows
  · exact hfresh.isTransparent
  · exact hagrees.isTransparent

/-- Two calls of the same kind whose requests are written in one order, and whose replies are
written in the other, in pieces. -/
def crossed : List Event :=
  let request : Request := ⟨some "room", 1, .empty⟩
  [.begin request, .begin request, .join 0, .join 1, .register 0, .register 1, .write 1, .write 0,
    .carry 50, .carry 1000, .produce 0 (.ok [65].toByteArray), .produce 1 (.ok [66].toByteArray),
    .reply 1, .reply 0, .bring 30, .bring 1000, .finish 0, .finish 1]

theorem transparent_crossed : (start default 1).AllowsAll crossed ∧
    ∃ p ∈ ((start default 1).run crossed).produced,
      IsRunOf ((start default 1).run crossed).written p.task 0 ∧
      ((start default 1).run crossed).channel.outcome? 0 = some (.ok p.reply) := by
  have hallows : (start default 1).AllowsAll crossed := by decide +kernel
  have hfinished : (((start default 1).run crossed).channel.outcome? 0).isSome = true := by
    decide +kernel
  obtain ⟨outcome, houtcome⟩ := Option.isSome_iff_exists.mp hfinished
  obtain ⟨p, hp, hrun, rfl, -⟩ := (transparent hallows).outcome 0 outcome houtcome
  exact ⟨hallows, p, hp, hrun, houtcome⟩

end Switchboard.Conversation
