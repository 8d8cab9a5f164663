import Switchboard.Proofs.Channel.Waiting
import Switchboard.Proofs.Wire.Arrival

/-!
# Replies find their calls, whatever a server sends

A server may send anything: envelopes nobody has asked for, the same one twice,
the reply to one call with the id of another, bytes that are no envelope at all.
In every history of a channel the envelopes that are read of a link are the run
of envelopes at the head of what its server has sent (`LinkFollows`), and the
calls know what their waits have come to by these (`Follows`). Both are kept by
every event, and all that is claimed of a finished call follows (`IsRouted`).
-/

namespace Switchboard.Client

open Wire (Request Reply ReplyEnvelope)

/-! ## Calls -/

namespace Follows

variable {ch : Channel} {log : List Moment} {call link : Nat} {callId : UInt64} {e : Exchange}
  {l : Link}

/-- A call that waits does so on a link that is there. -/
theorem exists_link {ws : List Wait} (h : Follows ch ws) {w : Wait}
    (hcall : ch.calls[call]? = some e) (hwait : e.phase.wait? call = some w) :
    ∃ l, ch.links[w.link]? = some l :=
  ⟨_, List.getElem?_eq_getElem (h.link_lt w (mem_of_lastWait? (h.knows call e w hcall hwait)).1)⟩

theorem write (h : Follows ch (waits log)) (link : Nat) (bytes : List UInt8) :
    Follows (ch.changeLink link (·.write bytes)) (waits log) :=
  h.changeLink fun _ _ => rfl

theorem draw (h : Follows ch (waits log)) : Follows ch.draw (waits log) :=
  h.congr rfl (Nat.le_refl _) fun _ l hl => ⟨l, hl, rfl⟩

/-- A call that has a link leaves an id, whoever had that before. -/
theorem leave (h : Follows ch (waits log)) (hcall : ch.calls[call]? = some e)
    (hphase : e.phase = .joined link) (hlink : ch.links[link]? = some l) (callId : UInt64) :
    Follows (((ch.withdraw link callId).changeLink link (·.expect callId call)).setPhase call
      (.writing link callId .awaited)) (waits (log ++ [.left link callId call])) := by
  have hresolved : Follows (ch.resolve link callId .lost)
      ((waits log).map (·.after (.left link callId call))) :=
    h.resolve hlink (.left link callId call) fun k id => by simp [Moment.ends]
  obtain ⟨news, hcall'⟩ := Channel.exists_news ch link callId .lost hcall
  rw [waits_concat]
  refine hresolved.enter (Channel.getElem?_resolve_self hlink _ _) hcall' ?_ fun w hw hid => ?_
  · dsimp only
    rw [hphase, Channel.learned_joined]
  rw [awaiting_map_after] at hw
  have hends := (List.mem_filter.mp hw).2
  rw [hid] at hends
  simp [Moment.ends] at hends

/-- **An id that is taken back** is not waited with any more. -/
theorem takeBack (h : Follows ch (waits log)) (hcall : ch.calls[call]? = some e) {answer : Answer}
    (hphase : e.phase = .writing link callId answer) :
    Follows (ch.withdraw link callId) (waits (log ++ [.withdrawn link callId]))
      ∧ ∃ e' answer', (ch.withdraw link callId).calls[call]? = some e' ∧ e'.request = e.request
        ∧ e'.phase = .writing link callId answer' ∧ answer' ≠ .awaited := by
  obtain ⟨l, hlink⟩ : ∃ l, ch.links[link]? = some l :=
    h.exists_link hcall (by rw [hphase]; rfl)
  have hwithdrawn : Follows (ch.resolve link callId .lost)
      ((waits log).map (·.after (.withdrawn link callId))) :=
    h.resolve hlink (.withdrawn link callId) fun k id => by simp [Moment.ends]
  obtain ⟨news, hcall'⟩ := Channel.exists_news ch link callId .lost hcall
  obtain ⟨answer', hlearned⟩ := Channel.exists_learned_writing call news link callId answer
  rw [← hphase] at hlearned
  rw [waits_concat, show (Moment.withdrawn link callId).wait?.toList = [] from rfl, List.append_nil]
  refine ⟨hwithdrawn, _, answer', hcall', rfl, hlearned, ?_⟩
  rintro rfl
  refine hwithdrawn.not_awaits_of_withdrawn hcall' hlearned link callId ?_
  rw [hlearned]
  exact ⟨rfl, rfl, rfl⟩

/-- A call that has taken its id back fails. -/
theorem breakOff (h : Follows ch (waits log)) (hcall : ch.calls[call]? = some e) {answer : Answer}
    (hphase : e.phase = .writing link callId answer) (bytes : List UInt8) {error : TransportError}
    (herror : error.isUnsent = true) :
    Follows ((((ch.changeLink link (·.write bytes)).withdraw link callId).discard link).fail call
      error) (waits (log ++ [.withdrawn link callId])) := by
  obtain ⟨hback, e', answer', hcall', -, hphase', hanswer'⟩ :=
    (h.write link bytes).takeBack (e := e) hcall hphase
  have hdiscarded := (Channel.calls_discard _ link).symm ▸ hcall'
  refine (hback.discard link).fail hdiscarded (fun k id hon => ?_) (.unsent herror)
  rw [hphase'] at hon
  exact hanswer' hon.2.2

/-- **What is read on a link** one by one, each with news for whoever waits for it. -/
theorem reads (h : Follows ch (waits log)) (hlink : ch.links[link]? = some l)
    (envelopes : List ReplyEnvelope) :
    Follows (envelopes.foldl (fun ch envelope =>
      ch.resolve link envelope.header.callId (.arrived envelope)) ch)
      (waits (log ++ envelopes.map (.read link))) := by
  induction envelopes generalizing ch log l with
  | nil => rwa [List.map_nil, List.append_nil]
  | cons envelope rest ih =>
    have hnext : Follows (ch.resolve link envelope.header.callId (.arrived envelope))
        (waits (log ++ [.read link envelope])) := by
      rw [waits_concat, show (Moment.read link envelope).wait?.toList = [] from rfl,
        List.append_nil]
      exact h.resolve hlink (.read link envelope) fun k id => by simp [Moment.ends]
    rw [List.foldl_cons, List.map_cons, List.append_cons]
    exact ih hnext (Channel.getElem?_resolve_self hlink _ _)

/-- What comes in on a link. -/
theorem receive (h : Follows ch (waits log)) (hlink : ch.links[link]? = some l)
    (hopen : l.isOpen = true) (bytes : List UInt8) :
    Follows (ch.receive link bytes) (waits (log ++ Channel.arrivalMoments link
      (Wire.arrivals Wire.readReply (l.inbound ++ bytes)))) := by
  rw [Channel.receive_eq hlink hopen bytes rfl]
  generalize Wire.arrivals Wire.readReply (l.inbound ++ bytes) = arrived
  have hreads := h.reads hlink arrived.values
  obtain ⟨l', hlink'⟩ : ∃ l', (arrived.values.foldl (fun ch envelope =>
      ch.resolve link envelope.header.callId (.arrived envelope)) ch).links[link]? = some l' := by
    rw [← Channel.tell_route hlink, Channel.links_tell]
    exact ⟨_, Channel.getElem?_changeLink_self hlink _⟩
  unfold Channel.arrivalMoments
  rw [← List.append_assoc]
  dsimp only
  split
  · rw [waits_concat, show (Moment.stopped link).wait?.toList = [] from rfl, List.append_nil]
    exact hreads.close hlink'
  · rw [List.append_nil]
    exact hreads.changeLink fun _ _ => rfl

/-- **Every event leaves the calls with what they have to know.** -/
theorem step (h : Follows ch (waits log)) {ch' : Channel} {event : Event} {notes : Notes}
    (hstep : Channel.Step ch event ch' notes)
    (hclosed : ∀ (link : Nat) (l : Link), ch.links[link]? = some l → l.isOpen = false →
      l.waiting = []) :
    Follows ch' (waits (log ++ notes.moments)) := by
  have hquiet : waits (log ++ []) = waits log := by rw [List.append_nil]
  cases hstep with
  | idle => exact hquiet ▸ h
  | begin request => exact hquiet ▸ h.begin request
  | share hcall hphase =>
    refine hquiet ▸ h.setPhase hcall (fun link id hon => ?_) nofun nofun
    rw [hphase] at hon
    exact hon.elim
  | refuse hcall hphase =>
    refine hquiet ▸ h.fail hcall (fun link id hon => ?_) (.unsent rfl)
    rw [hphase] at hon
    exact hon
  | dial hcall hphase =>
    refine hquiet ▸ h.dial.setPhase hcall (fun link id hon => ?_) nofun nofun
    rw [hphase] at hon
    exact hon.elim
  | leave hcall hphase hlink => exact h.draw.leave hcall hphase hlink _
  | miss hcall hphase =>
    refine hquiet ▸ (h.draw.discard _).fail (by simpa) (fun link id hon => ?_) (.unsent rfl)
    rw [hphase] at hon
    exact hon
  | write hcall hphase =>
    refine hquiet ▸ (h.write _ _).setPhase hcall (fun link id hon => ?_) (fun w hw => ?_) nofun
    · rwa [hphase] at hon
    · exact h.knows _ _ w hcall (by rwa [hphase])
  | breakOff hcall hphase hout => exact h.breakOff hcall hphase _ (Channel.isUnsent_of_written hout)
  | writeAlone hcall =>
    exact hquiet ▸ (h.write _ _).setPhase hcall (fun link id hon => trivial) nofun nofun
  | answer hcall hphase =>
    -- the outcome is made of the news that the call has, and these are those of its last wait
    have hlast := h.knows _ _ _ hcall (by rw [hphase]; rfl)
    refine hquiet ▸ h.setPhase hcall (fun link id hon => ?_) nofun fun outcome hfinished => ?_
    · rw [hphase] at hon
      exact absurd hon.2.2 nofun
    · rw [← Phase.finished.inj hfinished]
      exact .answered hlast rfl
  | lose hcall hphase =>
    have hlast := h.knows _ _ _ hcall (by rw [hphase]; rfl)
    refine hquiet ▸ (h.discard _).fail (by simpa) (fun link id hon => ?_) (.lost hlast rfl)
    rw [hphase] at hon
    exact absurd hon.2.2 nofun
  | detach hcall hphase =>
    refine hquiet ▸ h.setPhase hcall (fun link id hon => ?_) nofun nofun
    rw [hphase] at hon
    exact ⟨hon.1, hon.2.1⟩
  | abandon hcall =>
    exact hquiet ▸ h.setPhase hcall (fun link id hon => trivial) nofun nofun
  | receive hlink hopen => exact h.receive hlink hopen _
  | endLink hlink =>
    rw [waits_concat]
    exact (List.append_nil _).symm ▸ h.close hlink
  | @endAgain link l hlink hover =>
    -- nobody is left to be told when a link ends once more
    have hnobody := hclosed link l hlink hover
    have hsame : ch.endLink link = ch.changeLink link fun _ => l.close.1 := by
      rw [Channel.endLink_of_some hlink]
      dsimp only [Link.close]
      rw [hnobody]
      rfl
    rw [hsame]
    refine hquiet ▸ h.changeLink fun l' hl' => ?_
    obtain rfl : l = l' := Option.some_inj.mp (hlink.symm.trans hl')
    exact hnobody.symm

end Follows

/-! ## Links -/

/-- **A link that follows its stream**: as long as it is open it has read what has arrived and keeps
the rest, and once it is closed, by an error in what has arrived or by the end of the stream, nobody
waits there. -/
inductive LinkFollows (log : List Moment) (link : Nat) (stream : List UInt8) (ended : Bool) :
    Option Link → Prop where
  | absent (stream_eq : stream = []) (reads_eq : readsOn link log = []) (not_ended : ended = false)
      (not_stopped : .stopped link ∉ log) : LinkFollows log link stream ended none
  | isOpen {l : Link} (isOpen : l.isOpen = true)
      (arrivals_eq : Wire.arrivals Wire.readReply stream = ⟨readsOn link log, l.inbound, none⟩)
      (not_ended : ended = false) (not_stopped : .stopped link ∉ log) :
      LinkFollows log link stream ended (some l)
  | closed {l : Link} (closed : l.isOpen = false) (nobody : l.waiting = [])
      (reads_eq : readsOn link log = (Wire.arrivals Wire.readReply stream).values)
      (stopped : .stopped link ∈ log)
      (reason : ended = true ∨ (Wire.arrivals Wire.readReply stream).error.isSome = true) :
      LinkFollows log link stream ended (some l)

/-- A step that neither brings bytes on the link nor ends it. -/
inductive LinkStep : Option Link → Option Link → Prop where
  | keep {l l' : Link} (isOpen : l'.isOpen = l.isOpen) (inbound : l'.inbound = l.inbound)
      (nobody : l.isOpen = false → l.waiting = [] → l'.waiting = []) : LinkStep (some l) (some l')
  | absent : LinkStep none none
  | new : LinkStep none (some {})

theorem LinkStep.refl (o : Option Link) : LinkStep o o := by
  cases o with
  | none => exact .absent
  | some l => exact .keep rfl rfl fun _ h => h

/-- Moments that say nothing about what is read of a link. -/
def IsQuiet (link : Nat) (moments : List Moment) : Prop :=
  ∀ m ∈ moments, m.readOn? link = none ∧ m ≠ .stopped link

theorem LinkFollows.keep {log moments : List Moment} {link : Nat} {stream : List UInt8}
    {ended : Bool} {o o' : Option Link} (h : LinkFollows log link stream ended o)
    (hstep : LinkStep o o') (hquiet : IsQuiet link moments) :
    LinkFollows (log ++ moments) link stream ended o' := by
  have hreads : readsOn link (log ++ moments) = readsOn link log := by
    unfold readsOn
    rw [List.filterMap_append, List.filterMap_eq_nil_iff.mpr fun m hm => (hquiet m hm).1,
      List.append_nil]
  have hstopped : .stopped link ∈ log ++ moments ↔ .stopped link ∈ log := by
    rw [List.mem_append]
    exact or_iff_left fun hm => (hquiet _ hm).2 rfl
  -- the log has nothing new about the link: it stays what it is, or it comes to be there
  cases h with
  | absent stream_eq reads_eq not_ended not_stopped =>
    rw [← hstopped] at not_stopped
    rw [← hreads] at reads_eq
    cases hstep with
    | absent => exact .absent stream_eq reads_eq not_ended not_stopped
    | new =>
      refine .isOpen rfl ?_ not_ended not_stopped
      rw [stream_eq, reads_eq]
      rfl
  | isOpen isOpen arrivals_eq not_ended not_stopped =>
    cases hstep with
    | keep hopen inbound =>
      refine .isOpen (hopen.trans isOpen) ?_ not_ended (hstopped.not.mpr not_stopped)
      rw [hreads, inbound, arrivals_eq]
  | closed closed nobody reads_eq stopped reason =>
    cases hstep with
    | keep hopen _ hnobody =>
      exact .closed (hopen.trans closed) (hnobody closed nobody) (hreads.trans reads_eq)
        (hstopped.mpr stopped) reason

namespace Channel

/-- **What calls do** makes no difference to what is read of the links. -/
theorem Step.quiet {ch ch' : Channel} {event : Event} {notes : Notes} (h : Step ch event ch' notes)
    (hreceive : ∀ link bytes, event ≠ .receive link bytes) (hend : ∀ link, event ≠ .endLink link)
    (k : Nat) : LinkStep ch.links[k]? ch'.links[k]? ∧ IsQuiet k notes.moments := by
  have hnothing : IsQuiet k [] := List.forall_mem_nil _
  cases h with
  | idle | begin | share | answer | detach | abandon | refuse => exact ⟨.refl _, hnothing⟩
  | dial =>
    refine ⟨?_, hnothing⟩
    rw [links_setPhase, getElem?_dial]
    split
    · next hk =>
      rw [hk, List.getElem?_eq_none (Nat.le_refl _)]
      exact .new
    · exact .refl _
  | @leave call link e l hcall hphase hlink hopen =>
    refine ⟨?_, fun m hm => ?_⟩
    -- the link is open, so that it may have one more who waits
    · rw [links_setPhase, getElem?_changeLink, show ch.draw.withdraw link ch.nextCallId
        = ch.draw.resolve link ch.nextCallId .lost from rfl, getElem?_resolve,
        show ch.draw.links = ch.links from rfl]
      by_cases hk : link = k
      · subst hk
        rw [if_pos rfl, if_pos rfl, hlink]
        exact .keep rfl rfl fun hclosed => absurd (hopen.symm.trans hclosed) nofun
      · rw [if_neg hk, if_neg hk]
        exact .refl _
    · rw [List.mem_singleton.mp hm]
      exact ⟨rfl, nofun⟩
  | miss | lose =>
    refine ⟨?_, hnothing⟩
    rw [links_fail, links_discard]
    exact .refl _
  | write | writeAlone =>
    refine ⟨?_, hnothing⟩
    rw [links_setPhase, getElem?_changeLink]
    split
    · cases ch.links[k]? with
      | none => exact .absent
      | some l => exact .keep rfl rfl fun _ h => h
    · exact .refl _
  | @breakOff call link callId =>
    refine ⟨?_, fun m hm => ?_⟩
    · rw [links_fail, links_discard, show ∀ ch : Channel, ch.withdraw link callId
        = ch.resolve link callId .lost from fun _ => rfl, getElem?_resolve, getElem?_changeLink]
      split
      · cases ch.links[k]? with
        | none => exact .absent
        | some l => exact .keep rfl rfl fun _ h => by simp [Link.forget, Link.write, h]
      · exact .refl _
    · rw [List.mem_singleton.mp hm]
      exact ⟨rfl, nofun⟩
  | receive => exact absurd rfl (hreceive _ _)
  | endLink | endAgain => exact absurd rfl (hend _)

theorem mem_arrivalMoments {link : Nat} {arrived : Wire.Arrivals ReplyEnvelope} {m : Moment} :
    m ∈ arrivalMoments link arrived ↔ (∃ envelope ∈ arrived.values, .read link envelope = m) ∨
      (arrived.error.isSome = true ∧ m = .stopped link) := by
  unfold arrivalMoments
  rw [List.mem_append, List.mem_map]
  refine or_congr_right ?_
  split
  · next herror => rw [List.mem_singleton, and_iff_right herror]
  · next herror => exact iff_of_false List.not_mem_nil fun hboth => herror hboth.1

/-- Nothing is said of the other links. -/
theorem isQuiet_arrivalMoments {link k : Nat} (hne : link ≠ k)
    (arrived : Wire.Arrivals ReplyEnvelope) : IsQuiet k (arrivalMoments link arrived) := by
  intro m hm
  obtain ⟨envelope, -, rfl⟩ | ⟨-, rfl⟩ := mem_arrivalMoments.mp hm
  · exact ⟨if_neg hne, nofun⟩
  · exact ⟨rfl, fun h => hne (Moment.stopped.inj h)⟩

theorem readsOn_arrivalMoments (log : List Moment) (link : Nat)
    (arrived : Wire.Arrivals ReplyEnvelope) :
    readsOn link (log ++ arrivalMoments link arrived) = readsOn link log ++ arrived.values := by
  have hreads : (arrived.values.map (Moment.read link)).filterMap (·.readOn? link)
      = arrived.values := by
    rw [List.filterMap_map, show (Moment.readOn? link ∘ Moment.read link) = some from
      funext fun envelope => if_pos rfl, List.filterMap_some]
  unfold readsOn arrivalMoments
  rw [List.filterMap_append, List.filterMap_append, hreads]
  split
  · rw [show [Moment.stopped link].filterMap (·.readOn? link) = [] from rfl, List.append_nil]
  · rw [List.filterMap_nil, List.append_nil]

theorem stopped_mem_arrivalMoments {link : Nat} {arrived : Wire.Arrivals ReplyEnvelope} :
    .stopped link ∈ arrivalMoments link arrived ↔ arrived.error.isSome = true := by
  simp [mem_arrivalMoments]

end Channel

theorem isOpen_route (l : Link) (envelopes : List ReplyEnvelope) :
    (l.route envelopes).1.isOpen = l.isOpen :=
  l.route_keeps (·.isOpen) (fun _ _ => rfl) envelopes

namespace LinkFollows

variable {log : List Moment} {link : Nat} {stream : List UInt8} {ended : Bool} {l : Link}

/-- **Bytes that come in on an open link.** -/
theorem receive (h : LinkFollows log link stream ended (some l)) (hopen : l.isOpen = true)
    (bytes : List UInt8) :
    LinkFollows (log ++ Channel.arrivalMoments link
        (Wire.arrivals Wire.readReply (l.inbound ++ bytes))) link (stream ++ bytes) ended
      (some (l.receive bytes).1) := by
  cases h with
  | closed closed => exact absurd (hopen.symm.trans closed) nofun
  | isOpen _ arrivals_eq not_ended not_stopped =>
    have happend := Wire.Read.steady_reply.arrivals_append (by decide) stream bytes
    rw [arrivals_eq] at happend
    dsimp only at happend
    unfold Link.receive
    rw [if_pos hopen]
    generalize Wire.arrivals Wire.readReply (l.inbound ++ bytes) = arrived at happend ⊢
    have hreads := Channel.readsOn_arrivalMoments log link arrived
    have hstopped : .stopped link ∈ log ++ Channel.arrivalMoments link arrived
        ↔ arrived.error.isSome = true := by
      rw [List.mem_append, Channel.stopped_mem_arrivalMoments]
      exact or_iff_right not_stopped
    dsimp only
    -- the link goes on until something that cannot be a reply has come
    cases herror : arrived.error with
    | none =>
      refine .isOpen ((isOpen_route l _).trans hopen) ?_ not_ended ?_
      · rw [happend, hreads, herror]
      · rw [hstopped, herror]
        exact Bool.false_ne_true
    | some error =>
      refine .closed rfl rfl ?_ ?_ (.inr ?_)
      · rw [happend, hreads]
      · rw [hstopped, herror]
        rfl
      · rw [happend, herror]
        rfl

/-- Bytes that come in on a link that has been closed by an error, when they are not read any
more. -/
theorem ignore (h : LinkFollows log link stream ended (some l)) (hclosed : l.isOpen = false)
    (hended : ended = false) (bytes : List UInt8) :
    LinkFollows log link (stream ++ bytes) ended (some l) := by
  cases h with
  | isOpen isOpen => exact absurd (isOpen.symm.trans hclosed) nofun
  | closed closed nobody reads_eq stopped reason =>
    have herror := reason.resolve_left (hended ▸ Bool.false_ne_true)
    have happend := Wire.Read.steady_reply.arrivals_append (by decide) stream bytes
    cases harrivals : Wire.arrivals Wire.readReply stream with
    | mk values pending error =>
      rw [harrivals] at happend herror reads_eq
      cases error with
      | none => exact absurd herror Bool.false_ne_true
      | some error =>
        refine .closed closed nobody ?_ stopped (.inr ?_)
        · rw [happend]
          exact reads_eq
        · rw [happend]
          rfl

/-- **The end of the stream.** -/
theorem close (h : LinkFollows log link stream ended (some l)) :
    LinkFollows (log ++ if l.isOpen then [.stopped link] else []) link stream true
      (some l.close.1) := by
  cases h with
  | isOpen isOpen arrivals_eq not_ended not_stopped =>
    rw [if_pos isOpen]
    refine .closed rfl rfl ?_ (List.mem_append_right _ (List.mem_singleton.mpr rfl)) (.inl rfl)
    unfold readsOn
    rw [List.filterMap_append, arrivals_eq]
    exact List.append_nil _
  | closed closed nobody reads_eq stopped reason =>
    rw [closed, if_neg Bool.false_ne_true, List.append_nil]
    exact .closed rfl rfl reads_eq stopped (.inl rfl)

end LinkFollows

/-! ## Histories -/

/-- **A history in which links and calls follow what happens.** -/
structure Routed (h : History) : Prop where
  follows : Follows h.channel (waits h.log)
  links : ∀ link, LinkFollows h.log link (h.stream link) (h.ended link) h.channel.links[link]?

namespace Routed

theorem start (destination : Address) (attempts : Nat) :
    Routed (History.start destination attempts) where
  follows := by
    refine ⟨fun link l hl => ?_, nofun, fun link => List.nodup_nil, nofun, fun c e w he => ?_,
      fun c e outcome he => ?_⟩
    · exact absurd hl nofun
    · exact absurd he nofun
    · exact absurd he nofun
  links link := .absent rfl rfl rfl List.not_mem_nil

variable {h : History}

theorem nobody (hrouted : Routed h) (link : Nat) (l : Link)
    (hlink : h.channel.links[link]? = some l) (hclosed : l.isOpen = false) : l.waiting = [] := by
  have hl := hrouted.links link
  rw [hlink] at hl
  cases hl with
  | isOpen isOpen => exact absurd (isOpen.symm.trans hclosed) nofun
  | closed _ nobody => exact nobody

theorem receive (hrouted : Routed h) (link : Nat) (bytes : List UInt8) (k : Nat) :
    LinkFollows (h.step (.receive link bytes)).log k ((h.step (.receive link bytes)).stream k)
      (h.ended k) (h.channel.receive link bytes).links[k]? := by
  have hk := hrouted.links k
  rw [Channel.getElem?_receive]
  show LinkFollows (h.log ++ (h.channel.notesOfReceive link bytes).moments) k
    (h.streamAfter (.receive link bytes) k) _ _
  unfold Channel.notesOfReceive History.streamAfter
  by_cases hne : link = k
  · subst hne
    rw [if_pos rfl]
    cases hlink : h.channel.links[link]? with
    | none =>
      -- a link that is not there yet receives nothing
      have hge := List.getElem?_eq_none_iff.mp hlink
      rw [hlink] at hk
      dsimp only
      rw [if_neg fun hboth => Nat.not_le.mpr hboth.1 hge, List.append_nil]
      exact hk
    | some l =>
      have hlt := (List.getElem?_eq_some_iff.mp hlink).1
      rw [hlink] at hk
      dsimp only
      cases hopen : l.isOpen with
      | true =>
        have hended : h.ended link = false := by
          cases hk with
          | isOpen _ _ not_ended => exact not_ended
          | closed closed => exact absurd (hopen.symm.trans closed) nofun
        rw [if_pos (And.intro hlt hended), Function.update_self]
        exact hk.receive hopen bytes
      | false =>
        -- a closed link reads nothing more, although the stream may go on
        rw [if_neg Bool.false_ne_true, List.append_nil, Option.map_some]
        rw [Link.receive_of_closed hopen]
        split
        · next hboth =>
          rw [Function.update_self]
          exact hk.ignore hopen hboth.2 bytes
        · exact hk
  · rw [if_neg hne]
    have hstream : (if link < h.channel.links.length ∧ h.ended link = false then
        Function.update h.stream link (h.stream link ++ bytes) else h.stream) k = h.stream k := by
      split
      · exact Function.update_of_ne (Ne.symm hne) _ _
      · rfl
    dsimp only
    rw [hstream]
    refine hk.keep (.refl _) ?_
    split
    · split
      · exact Channel.isQuiet_arrivalMoments hne _
      · exact List.forall_mem_nil _
    · exact List.forall_mem_nil _

theorem endLink (hrouted : Routed h) (link k : Nat) :
    LinkFollows (h.step (.endLink link)).log k (h.stream k) ((h.step (.endLink link)).ended k)
      (h.channel.endLink link).links[k]? := by
  have hk := hrouted.links k
  rw [Channel.getElem?_endLink]
  show LinkFollows (h.log ++ (if h.channel.isOpen link then
    ({ moments := [.stopped link] } : Notes) else {}).moments) k _
      (h.endedAfter (.endLink link) k) _
  unfold History.endedAfter Channel.isOpen
  by_cases hne : link = k
  · subst hne
    rw [if_pos rfl]
    cases hlink : h.channel.links[link]? with
    | none =>
      have hge := List.getElem?_eq_none_iff.mp hlink
      rw [hlink] at hk
      dsimp only
      rw [if_neg (Nat.not_lt.mpr hge)]
      exact (List.append_nil _).symm ▸ hk
    | some l =>
      rw [hlink] at hk
      dsimp only
      rw [if_pos (List.getElem?_eq_some_iff.mp hlink).1, Function.update_self]
      have hclose := hk.close
      -- that it has ended is noted once, when it was open
      cases hopen : l.isOpen <;> rw [hopen] at hclose <;> simpa [hopen] using hclose
  · rw [if_neg hne]
    have hended : (if link < h.channel.links.length then Function.update h.ended link true
        else h.ended) k = h.ended k := by
      split
      · exact Function.update_of_ne (Ne.symm hne) _ _
      · rfl
    dsimp only
    rw [hended]
    refine hk.keep (.refl _) fun m hm => ?_
    split at hm
    · rw [List.mem_singleton.mp hm]
      exact ⟨rfl, fun h => hne (Moment.stopped.inj h)⟩
    · exact absurd hm List.not_mem_nil

/-- **Every event is routed.** -/
theorem step (hrouted : Routed h) (event : Event) : Routed (h.step event) where
  follows := hrouted.follows.step (h.channel.step event) hrouted.nobody
  links k := by
    have hquiet := fun hreceive hend => (h.channel.step event).quiet hreceive hend k
    cases event with
    | receive link bytes => exact hrouted.receive link bytes k
    | endLink link => exact hrouted.endLink link k
    | _ => exact (hrouted.links k).keep (hquiet nofun nofun).1 (hquiet nofun nofun).2

theorem run (hrouted : Routed h) (events : List Event) : Routed (h.run events) := by
  induction events generalizing h with
  | nil => exact hrouted
  | cons event events ih => exact ih (hrouted.step event)

end Routed

end Switchboard.Client
