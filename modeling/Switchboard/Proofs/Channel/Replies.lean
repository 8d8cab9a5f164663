import Switchboard.Proofs.Channel.Routing

/-!
# What calls get for their replies

A server is not trusted. Whatever it sends, in whatever order calls leave their
ids and bytes come in, a call gets a reply only by the first envelope that is
read with its id while it waits, and only if that envelope repeats its function
and its session; if it does not, this call fails and no other. Envelopes with
ids that nobody waits with do nothing. Bytes that are no envelope, and the end
of the stream, end the waits of their link and nothing else.
-/

namespace Switchboard.Wire

/-- **An envelope is the reply to a request** if it repeats function and session, and then the reply
is what it holds. -/
theorem ReplyEnvelope.toReply_eq_ok {envelope : ReplyEnvelope} {request : Request} {reply : Reply} :
    envelope.toReply request = .ok reply ↔
      envelope.header.functionId = request.functionId ∧ envelope.header.comId = request.comId ∧
        reply = ⟨envelope.header.status, envelope.payload⟩ := by
  unfold ReplyEnvelope.toReply
  split
  · next hother =>
    refine iff_of_false nofun fun ⟨hfunction, hsession, _⟩ => ?_
    exact hother.elim (absurd hfunction) (absurd hsession)
  · next hsame =>
    obtain ⟨hfunction, hsession⟩ := not_or.mp hsame
    constructor
    · intro heq
      exact ⟨not_not.mp hfunction, not_not.mp hsession, (Except.ok.inj heq).symm⟩
    · rintro ⟨-, -, rfl⟩
      rfl

/-- Any other envelope is against the rules. -/
theorem ReplyEnvelope.toReply_eq_error {envelope : ReplyEnvelope} {request : Request}
    {error : TransportError} (h : envelope.toReply request = .error error) :
    ¬ (envelope.header.functionId = request.functionId ∧
      envelope.header.comId = request.comId) ∧ ∃ reason, error = .protocol reason := by
  unfold ReplyEnvelope.toReply at h
  split at h
  · next hother =>
    refine ⟨fun ⟨hfunction, hsession⟩ => ?_, _, (Except.error.inj h).symm⟩
    exact hother.elim (absurd hfunction) (absurd hsession)
  · exact absurd h nofun

end Switchboard.Wire

namespace Switchboard.Client

open Wire (Request Reply ReplyEnvelope readAll readReply)

/-- The outcome of a call that waits, by what its wait has come to. -/
def Answer.outcome? (request : Request) : Answer → Option (Except TransportError Reply)
  | .awaited => none
  | .arrived envelope => some (envelope.toReply request)
  | .lost => some (.error .closed)

/-- **Replies find their calls and nothing else does.** -/
structure IsRouted (h : History) : Prop where
  /-- What has been read of a link is the run of envelopes at the head of what its server has
  sent. -/
  reads_eq : ∀ link, readsOn link h.log = (readAll readReply [h.stream link]).1
  /-- It ends where no envelope can begin, or with the stream. -/
  stopped_iff : ∀ link, .stopped link ∈ h.log ↔ h.ended link = true ∨
    ∃ error, (readAll readReply [h.stream link]).2.1 = some error ∧ error.isTruncation = false
  /-- A call that has a reply has it from the first envelope that was read with its id since it
  left that, -/
  reply : ∀ call e reply, h.channel.calls[call]? = some e → e.phase = .finished (.ok reply) →
    ∃ w envelope, lastWait? call (waits h.log) = some w ∧ w.answer = .arrived envelope ∧
      envelope.header.functionId = e.request.functionId ∧
      envelope.header.comId = e.request.comId ∧
      reply = ⟨envelope.header.status, envelope.payload⟩
  /-- and a call that has failed had such an envelope for another request, or none before nothing
  more was read, or has not written its request. -/
  failure : ∀ call e error, h.channel.calls[call]? = some e →
    e.phase = .finished (.error error) →
    (∃ w envelope, lastWait? call (waits h.log) = some w ∧ w.answer = .arrived envelope ∧
      ¬ (envelope.header.functionId = e.request.functionId ∧
        envelope.header.comId = e.request.comId) ∧ ∃ reason, error = .protocol reason) ∨
    (∃ w, lastWait? call (waits h.log) = some w ∧ w.answer = .lost ∧ error = .closed) ∨
    error.isUnsent = true
  /-- A call that waits finishes as soon as its wait has come to something, -/
  waiting : ∀ call e link callId answer, h.channel.calls[call]? = some e →
    e.phase = .waiting link callId answer →
    lastWait? call (waits h.log) = some ⟨link, callId, call, answer⟩ ∧
      (h.channel.finish call).outcome? call = answer.outcome? e.request
  /-- with an error if the envelope is for another request, which leaves the links as they are, -/
  mismatch : ∀ call e link callId envelope, h.channel.calls[call]? = some e →
    e.phase = .waiting link callId (.arrived envelope) →
    ¬ (envelope.header.functionId = e.request.functionId ∧
      envelope.header.comId = e.request.comId) →
    (h.channel.finish call).links = h.channel.links ∧
      (h.channel.finish call).current = h.channel.current ∧
      ∃ reason, (h.channel.finish call).outcome? call = some (.error (.protocol reason))
  /-- and no other call is concerned. -/
  alone : ∀ call other, other ≠ call →
    (h.channel.finish call).calls[other]? = h.channel.calls[other]?
  /-- No envelope is the answer to two waits. -/
  once : ∀ link envelope,
    (waits h.log).countP (fun w => w.link = link ∧ w.answer = .arrived envelope)
      ≤ (readAll readReply [h.stream link]).1.count envelope
  /-- An envelope that was read with an id that nobody waited with then has made no difference to
  any wait, -/
  stray : ∀ before link envelope later, h.log = before ++ .read link envelope :: later →
    (∀ w ∈ awaiting link (waits before), w.callId ≠ envelope.header.callId) →
    waits h.log = waits (before ++ later)
  /-- and if one comes in now, nothing changes but for the bytes that are kept. -/
  unmoved : ∀ link l bytes, h.channel.links[link]? = some l → l.isOpen = true →
    (∀ envelope ∈ (Wire.arrivals readReply (l.inbound ++ bytes)).values,
      ∀ w ∈ awaiting link (waits h.log), w.callId ≠ envelope.header.callId) →
    (Wire.arrivals readReply (l.inbound ++ bytes)).error = none →
    h.channel.receive link bytes = h.channel.changeLink link fun l' =>
      { l' with inbound := (Wire.arrivals readReply (l.inbound ++ bytes)).pending }
  /-- When nothing more is read of a link, nobody waits there any longer, -/
  lost : ∀ link, .stopped link ∈ h.log → ∀ w ∈ waits h.log, w.link = link → w.answer ≠ .awaited
  /-- and the next call takes another link, which is open. -/
  anew : ∀ link, .stopped link ∈ h.log → ∀ call, h.channel.phase? call = some .starting →
    ∃ link', link' ≠ link ∧
      (h.channel.join call (.ok ())).phase? call = some (.joined link') ∧
      (h.channel.join call (.ok ())).isOpen link' = true

/-! ## Finishing -/

namespace Channel

variable {ch : Channel} {call : Nat}

/-- **A call that waits finishes** with what its wait has come to. -/
theorem outcome_finish {e : Exchange} {link : Nat} {callId : UInt64} {answer : Answer}
    (hcall : ch.calls[call]? = some e) (hphase : e.phase = .waiting link callId answer) :
    (ch.finish call).outcome? call = answer.outcome? e.request := by
  unfold finish
  rw [hcall]
  dsimp only
  rw [hphase]
  cases answer with
  | awaited =>
    unfold outcome? phase?
    rw [hcall, Option.map_some, hphase]
    rfl
  | arrived envelope =>
    unfold outcome? phase?
    rw [getElem?_setPhase, if_pos rfl, hcall]
    rfl
  | lost =>
    unfold outcome? phase? fail
    rw [getElem?_changeCall, if_pos rfl, calls_discard, hcall]
    rfl

theorem finish_arrived {e : Exchange} {link : Nat} {callId : UInt64} {envelope : ReplyEnvelope}
    (hcall : ch.calls[call]? = some e)
    (hphase : e.phase = .waiting link callId (.arrived envelope)) :
    ch.finish call = ch.setPhase call (.finished (envelope.toReply e.request)) := by
  unfold finish
  rw [hcall]
  dsimp only
  rw [hphase]

/-- No other call is concerned. -/
theorem getElem?_finish {other : Nat} (hne : other ≠ call) :
    (ch.finish call).calls[other]? = ch.calls[other]? := by
  unfold finish
  split
  · rfl
  · split
    · rw [getElem?_setPhase, if_neg hne.symm]
    · rw [fail, getElem?_changeCall, if_neg hne.symm, calls_discard]
    · rfl

end Channel

namespace Routed

variable {h : History}

theorem reads_eq (hrouted : Routed h) (link : Nat) :
    readsOn link h.log = (Wire.arrivals readReply (h.stream link)).values := by
  have hl := hrouted.links link
  generalize h.channel.links[link]? = o at hl
  cases hl with
  | absent stream_eq reads_eq =>
    rw [reads_eq, stream_eq]
    rfl
  | isOpen _ arrivals_eq => rw [arrivals_eq]
  | closed _ _ reads_eq => exact reads_eq

theorem stopped_iff (hrouted : Routed h) (link : Nat) :
    .stopped link ∈ h.log ↔
      h.ended link = true ∨ (Wire.arrivals readReply (h.stream link)).error.isSome = true := by
  have hl := hrouted.links link
  generalize h.channel.links[link]? = o at hl
  cases hl with
  | absent stream_eq _ not_ended not_stopped =>
    rw [stream_eq, not_ended]
    exact iff_of_false not_stopped (not_or.mpr ⟨Bool.false_ne_true, Bool.false_ne_true⟩)
  | isOpen _ arrivals_eq not_ended not_stopped =>
    rw [arrivals_eq, not_ended]
    exact iff_of_false not_stopped (not_or.mpr ⟨Bool.false_ne_true, Bool.false_ne_true⟩)
  | closed _ _ _ stopped reason => exact iff_of_true stopped reason

/-- A link of which nothing more is read is closed. -/
theorem closed (hrouted : Routed h) {link : Nat} (hstopped : .stopped link ∈ h.log) :
    ∃ l, h.channel.links[link]? = some l ∧ l.isOpen = false := by
  have hl := hrouted.links link
  generalize h.channel.links[link]? = o at hl ⊢
  cases hl with
  | absent _ _ _ not_stopped => exact absurd hstopped not_stopped
  | isOpen _ _ _ not_stopped => exact absurd hstopped not_stopped
  | closed closed => exact ⟨_, rfl, closed⟩

/-- Nobody waits on such a link. -/
theorem lost (hrouted : Routed h) {link : Nat} (hstopped : .stopped link ∈ h.log) :
    ∀ w ∈ waits h.log, w.link = link → w.answer ≠ .awaited := by
  intro w hw hlink hawaited
  obtain ⟨l, hl, hclosed⟩ := hrouted.closed hstopped
  have hnobody := hrouted.nobody link l hl hclosed
  rw [hrouted.follows.waiting_eq link l hl] at hnobody
  have hmem : w.entry ∈ (awaiting link (waits h.log)).map (·.entry) :=
    List.mem_map_of_mem (mem_awaiting.mpr ⟨hw, hlink, hawaited⟩)
  rw [hnobody] at hmem
  exact List.not_mem_nil hmem

/-- **The next call takes an open link.** -/
theorem anew (hrouted : Routed h) {link : Nat} (hstopped : .stopped link ∈ h.log) {call : Nat}
    (hphase : h.channel.phase? call = some .starting) :
    ∃ link', link' ≠ link ∧
      (h.channel.join call (.ok ())).phase? call = some (.joined link') ∧
      (h.channel.join call (.ok ())).isOpen link' = true := by
  obtain ⟨l, hlink, hclosed⟩ := hrouted.closed hstopped
  obtain ⟨e, hcall, -⟩ := Channel.phase?_eq_some.mp hphase
  have hjoined (ch : Channel) (link' : Nat) (hcall : ch.calls[call]? = some e) :
      (ch.setPhase call (.joined link')).phase? call = some (.joined link') := by
    rw [Channel.phase?, Channel.getElem?_setPhase, if_pos rfl, hcall]
    rfl
  unfold Channel.join
  rw [hphase]
  -- the call shares a link that is open, so another one, or dials a new one
  cases hcurrent : h.channel.openLink? with
  | some link' =>
    have hopen : h.channel.isOpen link' = true := (Option.filter_eq_some_iff.mp hcurrent).2
    refine ⟨link', ?_, hjoined h.channel link' hcall, hopen⟩
    rintro rfl
    obtain ⟨l', hlink', hopen'⟩ := Channel.isOpen_iff.mp hopen
    obtain rfl : l = l' := Option.some_inj.mp (hlink.symm.trans hlink')
    exact absurd (hopen'.symm.trans hclosed) nofun
  | none =>
    refine ⟨h.channel.links.length, ?_, hjoined h.channel.dial _ hcall, ?_⟩
    · rintro rfl
      exact absurd (List.getElem?_eq_some_iff.mp hlink).1 (Nat.lt_irrefl _)
    · show (h.channel.dial.links[h.channel.links.length]?).any (·.isOpen) = true
      rw [Channel.getElem?_dial, if_pos rfl]
      rfl

/-- Envelopes that nobody waits for leave the channel as it is. -/
theorem unmoved (hrouted : Routed h) {link : Nat} {l : Link}
    (hlink : h.channel.links[link]? = some l) (hopen : l.isOpen = true) (bytes : List UInt8)
    (hstray : ∀ envelope ∈ (Wire.arrivals readReply (l.inbound ++ bytes)).values,
      ∀ w ∈ awaiting link (waits h.log), w.callId ≠ envelope.header.callId)
    (herror : (Wire.arrivals readReply (l.inbound ++ bytes)).error = none) :
    h.channel.receive link bytes = h.channel.changeLink link fun l' =>
      { l' with inbound := (Wire.arrivals readReply (l.inbound ++ bytes)).pending } := by
  rw [Channel.receive_eq hlink hopen bytes rfl, herror]
  generalize Wire.arrivals readReply (l.inbound ++ bytes) = arrived at hstray ⊢
  dsimp only
  rw [Option.isSome_none, if_neg Bool.false_ne_true]
  have hsame : arrived.values.foldl (fun ch envelope =>
      ch.resolve link envelope.header.callId (.arrived envelope)) h.channel = h.channel := by
    generalize arrived.values = values at hstray
    -- envelope by envelope: each one is resolved for an id that nobody has
    induction values with
    | nil => rfl
    | cons envelope rest ih =>
      have hunused : ∀ x ∈ l.waiting, x.1 ≠ envelope.header.callId := by
        rw [hrouted.follows.waiting_eq link l hlink]
        intro x hx
        obtain ⟨w, hw, rfl⟩ := List.mem_map.mp hx
        exact hstray envelope List.mem_cons_self w hw
      rw [List.foldl_cons, Channel.resolve_of_unused hlink hunused]
      exact ih fun other hother => hstray other (List.mem_cons_of_mem _ hother)
  rw [hsame]

end Routed

/-- **Replies are routed in every history**, whatever the servers send and in whatever order things
happen. -/
theorem replies_routed (destination : Address) (attempts : Nat) (events : List Event) :
    IsRouted ((History.start destination attempts).run events) := by
  have hrouted := (Routed.start destination attempts).run events
  generalize (History.start destination attempts).run events = h at hrouted ⊢
  have hread (link : Nat) := Wire.Read.steady_reply.readAll_eq_arrivals (by decide) [h.stream link]
  have hbytes (link : Nat) : Wire.Stream.bytes [h.stream link] = h.stream link :=
    List.append_nil _
  have hreads (link : Nat) : readsOn link h.log = (readAll readReply [h.stream link]).1 := by
    rw [hrouted.reads_eq, (hread link).1, hbytes]
  refine
    { reads_eq := hreads
      stopped_iff := fun link => ?_
      reply := fun call e reply hcall hphase => ?_
      failure := fun call e error hcall hphase => ?_
      waiting := fun call e link callId answer hcall hphase => ?_
      mismatch := fun call e link callId envelope hcall hphase hother => ?_
      alone := fun call other hne => ?_
      once := fun link envelope => ?_
      stray := fun before link envelope later hlog hstray => ?_
      unmoved := fun link l bytes hlink hopen => hrouted.unmoved hlink hopen bytes
      lost := fun link => hrouted.lost
      anew := fun link hstopped call => hrouted.anew hstopped }
  · have hending := (hread link).2
    rw [hbytes] at hending
    rw [hrouted.stopped_iff, ← hending]
    refine or_congr_right ?_
    rw [Option.isSome_iff_exists]
    simp [Option.filter_eq_some_iff]
  -- an outcome is due to the news of the last wait, and only an answer is a reply
  · have hdue := hrouted.follows.due call e _ hcall hphase
    generalize houtcome : Except.ok reply = outcome at hdue
    cases hdue with
    | @answered w envelope last arrived =>
      exact ⟨w, envelope, last, arrived, ReplyEnvelope.toReply_eq_ok.mp houtcome.symm⟩
    | lost | unsent => exact absurd houtcome nofun
  · have hdue := hrouted.follows.due call e _ hcall hphase
    generalize houtcome : Except.error error = outcome at hdue
    cases hdue with
    | @answered w envelope last arrived =>
      exact .inl ⟨w, envelope, last, arrived, ReplyEnvelope.toReply_eq_error houtcome.symm⟩
    | @lost w last lost => exact .inr (.inl ⟨w, last, lost, Except.error.inj houtcome⟩)
    | unsent unsent =>
      rw [Except.error.inj houtcome]
      exact .inr (.inr unsent)
  · refine ⟨hrouted.follows.knows call e _ hcall (by rw [hphase]; rfl), ?_⟩
    exact Channel.outcome_finish hcall hphase
  -- an envelope for another function or session is an error of the protocol
  · rw [Channel.outcome_finish hcall hphase, Channel.finish_arrived hcall hphase]
    refine ⟨rfl, rfl, ?_⟩
    cases hreply : envelope.toReply e.request with
    | error error =>
      obtain ⟨-, reason, rfl⟩ := ReplyEnvelope.toReply_eq_error hreply
      exact ⟨reason, congrArg some hreply⟩
    | ok reply =>
      obtain ⟨hfunction, hsession, -⟩ := ReplyEnvelope.toReply_eq_ok.mp hreply
      exact absurd ⟨hfunction, hsession⟩ hother
  · exact Channel.getElem?_finish hne
  · rw [← hreads]
    exact countP_arrived_le link envelope h.log
  · rw [hlog]
    exact waits_of_stray hstray later

end Switchboard.Client
