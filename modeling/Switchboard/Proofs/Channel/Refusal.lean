import Switchboard.Proofs.Channel.Tidiness
import Switchboard.Proofs.Server.Intake

/-!
# What a request that is too large does to the others

A call whose request is too large fails, and the channel forgets the link by it
(`Race.Relinquishes`), so that no later call takes that link
(`Race.Orderly.later_run`). But the part of the request that had been written by
then stays on the link, and the calls that had taken the link before go on
writing there. The server hears the requests before the one that was refused, and
no request behind it.

So a link keeps what calls may expect of it exactly as long as all requests fit
(`requests_until_refused`). Whoever waits for the writer while a request is
refused is lost with it (`small_request_lost`).
-/

namespace Switchboard.Client

open Wire (Request RequestFits requestBytes heard unheard)
open Server.Connection (tasksFor)

/-! ## What has been written on a link -/

namespace Outgoing

/-- The request of an envelope, with its call id. -/
def message (o : Outgoing) : UInt64 × Request := (o.callId, o.request)

/-- **The link has not broken** while the envelope was written. -/
def IsUnbroken (o : Outgoing) : Prop := o.bytes = (Wire.writeRequest o.callId o.request).bytes

end Outgoing

/-- A refusal that has been written as far as it goes is met. -/
theorem Channel.written_of_unbroken {call link : Nat} {callId : UInt64} {request : Request}
    {broken : Option Break} {error : TransportError}
    (hunbroken : (sending call link callId request broken).IsUnbroken)
    (hrefused : (Wire.writeRequest callId request).error = some error) :
    (written callId request broken).error = some error := by
  -- a break behind all that the refusal has written comes too late to hide it
  cases broken with
  | none => exact hrefused
  | some b =>
    have hlength : ((Wire.writeRequest callId request).brokenAfter b.after
        (.send b.reason)).bytes.length = (Wire.writeRequest callId request).bytes.length :=
      congrArg List.length hunbroken
    show ((Wire.writeRequest callId request).brokenAfter b.after (.send b.reason)).error = _
    unfold Wire.Written.brokenAfter at hlength ⊢
    by_cases hlate : (Wire.writeRequest callId request).bytes.length ≤ b.after
    · rwa [if_pos ⟨by rw [hrefused]; rfl, hlate⟩]
    · rw [if_neg fun hboth => hlate hboth.2, List.length_take] at hlength
      omega

/-- Whether a link breaks while a move writes on it. -/
def Move.isBreak : Move → Bool
  | .write _ (some _) => true
  | _ => false

namespace Race

variable {r r' : Race} {move : Move}

/-- **The requests on a link**, in the order in which they were written. -/
def messages (r : Race) (link : Nat) : List (UInt64 × Request) :=
  (r.outgoing.filter (·.link = link)).map Outgoing.message

/-- The link has not broken while anything was written on it. -/
def IsUnbroken (r : Race) (link : Nat) : Prop :=
  ∀ o ∈ r.outgoing, o.link = link → o.IsUnbroken

/-- A link on which nothing has broken off has not broken. -/
theorem IsUnbroken.step {link : Nat} (hr : r.IsUnbroken link) (h : Steps r move r')
    (hmove : move.isBreak = false) : r'.IsUnbroken link := by
  -- only the two moves that write have something new to show, and neither has broken off
  have hwrite {call other : Nat} {callId : UInt64} {request : Request} {broken : Option Break}
      (hmove : (Move.write call broken).isBreak = false) :
      ∀ o ∈ r.outgoing ++ [Channel.sending call other callId request broken], o.link = link →
        o.IsUnbroken := by
    refine List.forall_mem_append.mpr ⟨hr, List.forall_mem_singleton.mpr fun _ => ?_⟩
    cases broken with
    | none => rfl
    | some => exact absurd hmove nofun
  cases h with
  | write | spoil => exact hwrite hmove
  | _ => exact hr

theorem IsUnbroken.run {link : Nat} (hr : r.IsUnbroken link) {moves : List Move}
    (hmoves : ∀ move ∈ moves, move.isBreak = false) : (r.run moves).IsUnbroken link := by
  induction moves generalizing r with
  | nil => exact hr
  | cons move moves ih =>
    obtain ⟨hmove, hrest⟩ := List.forall_mem_cons.mp hmoves
    exact ih (hr.step (r.steps move) hmove) hrest

/-- On a link that has not broken there is what its requests are written as. -/
theorem IsUnbroken.writtenOn_eq {link : Nat} (h : r.IsUnbroken link) :
    writtenOn link r.outgoing = requestBytes (r.messages link) := by
  unfold writtenOn requestBytes messages
  rw [List.flatMap_map]
  refine List.flatMap_congr fun o ho => ?_
  rw [List.mem_filter, decide_eq_true_iff] at ho
  exact h o ho.1 ho.2

/-- **What a move writes**: it is written by a call on its own link. -/
theorem Steps.exists_written (h : Steps r move r') (hlinked : r.channel.Linked) :
    ∃ more, r'.outgoing = r.outgoing ++ more ∧
      (∀ o ∈ more, ∃ e, r.channel.calls[o.call]? = some e ∧ e.request = o.request
        ∧ e.phase.link? = some o.link) ∧
      ∀ k, r'.channel.outbound k = r.channel.outbound k ++ writtenOn k more := by
  -- most moves write nothing; of the others it matters that the call had the link already
  have hnothing (hsame : r'.outgoing = r.outgoing)
      (houtbound : ∀ k, r'.channel.outbound k = r.channel.outbound k) :
      ∃ more, r'.outgoing = r.outgoing ++ more ∧
        (∀ o ∈ more, ∃ e, r.channel.calls[o.call]? = some e ∧ e.request = o.request
          ∧ e.phase.link? = some o.link) ∧
        ∀ k, r'.channel.outbound k = r.channel.outbound k ++ writtenOn k more :=
    ⟨[], hsame.trans (List.append_nil _).symm, List.forall_mem_nil _,
      fun k => (houtbound k).trans (List.append_nil _).symm⟩
  have hwrite {call link : Nat} {callId : UInt64} {e : Exchange} (broken : Option Break)
      (hcall : r.channel.calls[call]? = some e) (hlink : e.phase.link? = some link) (k : Nat) :
      (r.send (Channel.sending call link callId e.request broken)).channel.outbound k
        = r.channel.outbound k
          ++ writtenOn k [Channel.sending call link callId e.request broken] := by
    refine (Channel.outbound_write (hlinked call e hcall link hlink) _).trans ?_
    unfold writtenOn Channel.sending
    by_cases hk : link = k <;> simp [hk]
  cases h with
  | idle | miss | draw => exact hnothing rfl fun _ => rfl
  | @event _ event hevent =>
    -- an event of the channel that is not a write notes nothing as outgoing
    refine hnothing rfl fun k => ?_
    have hadds := (r.channel.step event).outbound_eq hlinked k
    rw [r.channel.outgoing_notes hevent] at hadds
    exact hadds.trans (List.append_nil _)
  | @leave call link callId =>
    refine hnothing rfl fun k => (Channel.outbound_congr (Channel.links_setPhase ..)).trans ?_
    exact (Channel.outbound_of_map (Channel.getElem?_changeLink _ _ _ (·.expect _ _))
      fun _ => rfl).trans (Channel.outbound_withdraw ..)
  | @write call link callId answer broken e hcall hphase =>
    refine ⟨_, rfl, List.forall_mem_singleton.mpr ⟨e, hcall, rfl, by rw [hphase]; rfl⟩, fun k => ?_⟩
    exact (Channel.outbound_congr (Channel.links_setPhase ..)).trans
      (hwrite broken hcall (by rw [hphase]; rfl) k)
  | @spoil call link callId answer broken e error hcall hphase =>
    exact ⟨_, rfl, List.forall_mem_singleton.mpr ⟨e, hcall, rfl, by rw [hphase]; rfl⟩,
      hwrite broken hcall (by rw [hphase]; rfl)⟩
  | takeBack => exact hnothing rfl fun k => Channel.outbound_withdraw ..
  | giveUp =>
    exact hnothing rfl fun k =>
      Channel.outbound_congr ((Channel.links_fail ..).trans (Channel.links_discard ..))

/-- **A call keeps its request.** -/
theorem Steps.exists_request (h : Steps r move r') {c : Nat} {e : Exchange}
    (he : r.channel.calls[c]? = some e) :
    ∃ e', r'.channel.calls[c]? = some e' ∧ e'.request = e.request := by
  -- whatever is done to a call here, it changes its phase only
  have hchange {ch : Channel} {call : Nat} {f : Exchange → Exchange}
      (hf : ∀ e, (f e).request = e.request) {e' : Exchange} (he' : ch.calls[c]? = some e')
      (hsame : e'.request = e.request) :
      ∃ e'', (ch.changeCall call f).calls[c]? = some e'' ∧ e''.request = e.request := by
    rw [Channel.getElem?_changeCall, he']
    split
    · exact ⟨_, rfl, (hf e').trans hsame⟩
    · exact ⟨_, rfl, hsame⟩
  have hfail (error : TransportError) (e : Exchange) :
      (e.fail r.channel.attempts error).request = e.request := by
    unfold Exchange.fail
    split <;> rfl
  cases h with
  | idle | miss | draw | spoil => exact ⟨e, he, rfl⟩
  | @event _ event hevent =>
    have hallows : r.channel.Allows event := by
      cases event with
      | write => cases move <;> exact absurd hevent nofun
      | _ => trivial
    obtain ⟨e', he', hstep⟩ := (r.channel.step event).callStep hallows he
    exact ⟨e', he', hstep.request_eq⟩
  | @leave call link callId =>
    obtain ⟨news, he'⟩ := Channel.exists_news r.channel link callId .lost he
    exact hchange (fun _ => rfl) he' rfl
  | write => exact hchange (fun _ => rfl) he rfl
  | @takeBack call link callId =>
    obtain ⟨news, he'⟩ := Channel.exists_news r.channel link callId .lost he
    exact ⟨_, he', rfl⟩
  | @giveUp call link error =>
    have he' := (Channel.calls_discard r.channel link).symm ▸ he
    exact hchange (fun e => by rw [Channel.attempts_discard]; exact hfail error e) he' rfl

/-! ## Calls that give their links up -/

/-- **A call comes on from a failure by its own moves**, and no other move matters to that. -/
theorem Steps.stage_cases (h : Steps r move r') {c : Nat} {s : Stage} (hs : r.stage c = some s) :
    r'.stage c = some s ∨
      match s with
      | .numbered _ _ => True
      | .broken link callId error => r' = r.takeOff c link callId error
      | .failed link error => r' = r.drop c link error := by
  have hother {call : Nat} (s' : Option Stage) (hne : c ≠ call) :
      Function.update r.stage call s' c = some s := by
    rwa [Function.update_of_ne hne]
  cases h with
  | idle | event | write => exact .inl hs
  | @draw call link e hcall hphase hnone
  | @spoil call link callId answer broken e error hcall hphase hnone =>
    exact .inl (hother _ fun hc => absurd (hc ▸ hs) (by rw [hnone]; nofun))
  | @leave call link callId hstage | @miss call link callId hstage =>
    -- a move at the stage of another call leaves this one where it is
    by_cases hc : c = call
    · subst hc
      obtain rfl := Option.some_inj.mp (hs.symm.trans hstage)
      exact .inr trivial
    · exact .inl (hother _ hc)
  | @takeBack call link callId error hstage =>
    by_cases hc : c = call
    · subst hc
      obtain rfl := Option.some_inj.mp (hs.symm.trans hstage)
      exact .inr rfl
    · exact .inl (hother _ hc)
  | @giveUp call link error hstage =>
    by_cases hc : c = call
    · subst hc
      obtain rfl := Option.some_inj.mp (hs.symm.trans hstage)
      exact .inr rfl
    · exact .inl (hother _ hc)

/-- No move changes a call that has finished. -/
theorem keeps_finished {call : Nat} {outcome : Except TransportError Wire.Reply}
    (hcall : call < r.channel.calls.length) :
    r.Keeps fun c phase => c = call → phase = .finished outcome where
  learn c phase answer h hc := by
    rw [h hc]
    rfl
  begin hc := absurd hcall (hc ▸ Nat.lt_irrefl _)
  join c link _ h hc := absurd (h hc) nofun
  refuse c error h hc := absurd (h hc) nofun
  answer c link callId envelope outcome h hc := absurd (h hc) nofun
  lose c link callId h := ⟨fun hc => absurd (h hc) nofun, fun hc => absurd (h hc) nofun⟩
  enter c link callId h hc := absurd (h hc) nofun
  write c link callId answer h hc := absurd (h hc) nofun
  drop c link error phase hfits h := by
    -- who drops a link is still waiting there, and a call that has finished is not
    have hnot (hc : c = call) : False := by
      have hlink := hfits.of_failed.1
      rw [h hc] at hlink
      exact absurd hlink nofun
    exact ⟨fun hc => (hnot hc).elim, fun hc => (hnot hc).elim⟩

/-- **An outcome is final.** -/
theorem Orderly.outcome?_step (ho : r.Orderly) (h : Steps r move r') {call : Nat}
    {outcome : Except TransportError Wire.Reply}
    (houtcome : r.channel.outcome? call = some outcome) :
    r'.channel.outcome? call = some outcome := by
  obtain ⟨e, hcall, hphase⟩ := Channel.outcome?_eq_some.mp houtcome
  obtain ⟨e', hcall', -⟩ := h.exists_request hcall
  have heach : r.channel.Each fun c phase => c = call → phase = .finished outcome := by
    rintro c e₀ he₀ rfl
    rw [← Option.some_inj.mp (hcall.symm.trans he₀)]
    exact hphase
  -- all that a move may do to phases is checked once, in the conditions of `Keeps`
  have hfinal := ho.each_step h (keeps_finished (List.getElem?_eq_some_iff.mp hcall).1) heach
  exact Channel.outcome?_eq_some.mpr ⟨e', hcall', hfinal call e' hcall' rfl⟩

/-- **What becomes of a call that has failed on its link**: it makes the channel forget the link,
and then it is over. -/
inductive Relinquishes (r : Race) (call link : Nat) (error : TransportError) : Prop where
  | broken {callId : UInt64} (hstage : r.stage call = some (.broken link callId error))
  | failed (hstage : r.stage call = some (.failed link error))
  | done (houtcome : r.channel.outcome? call = some (.error error))
      (hcurrent : r.channel.current ≠ some link)

/-- A failure that is not retried is the outcome. -/
theorem outcome?_drop {call link : Nat} {error : TransportError} {e : Exchange}
    (hcall : r.channel.calls[call]? = some e) (hlast : error.isRetryable = false) :
    (r.drop call link error).channel.outcome? call = some (.error error) := by
  refine Channel.outcome?_eq_some.mpr ⟨e.fail r.channel.attempts error, ?_, ?_⟩
  · show ((r.channel.discard link).fail call error).calls[call]? = _
    unfold Channel.fail
    rw [Channel.getElem?_changeCall, if_pos rfl, Channel.calls_discard, hcall,
      Channel.attempts_discard]
    rfl
  · unfold Exchange.fail
    rw [if_neg (by rw [hlast]; exact fun h => absurd h.1 Bool.false_ne_true)]

theorem Orderly.relinquishes_step (ho : r.Orderly) (h : Steps r move r') {call link : Nat}
    {error : TransportError} (hlast : error.isRetryable = false)
    (hlink : link < r.channel.links.length) (hgives : r.Relinquishes call link error) :
    r'.Relinquishes call link error := by
  cases hgives with
  | @broken callId hstage =>
    -- the three stations of the way, each left for the next one only by the call's own move
    obtain hkept | rfl := h.stage_cases hstage
    · exact .broken hkept
    · exact .failed (Function.update_self ..)
  | failed hstage =>
    obtain hkept | rfl := h.stage_cases hstage
    · exact .failed hkept
    · obtain ⟨e, hcall, -⟩ := ho.staged.exists_call hstage
      refine .done (outcome?_drop hcall hlast) ?_
      show (r.channel.discard link).current ≠ some link
      unfold Channel.discard
      split
      · exact nofun
      · next hother => exact hother
  | done houtcome hcurrent =>
    -- a link that the channel has forgotten is not taken up again
    have hleft : r.channel.LeftTo (fun _ => True) link := ⟨hcurrent, fun _ _ _ _ => trivial⟩
    exact .done (ho.outcome?_step h houtcome) (ho.leftTo_step h hlink hleft).current_ne

/-- A call that is over has given its link up. -/
theorem Orderly.current_ne_of_over (ho : r.Orderly) {call link : Nat} {error : TransportError}
    (hgives : r.Relinquishes call link error) (hover : (r.channel.outcome? call).isSome = true) :
    r.channel.current ≠ some link := by
  obtain ⟨outcome, houtcome⟩ := Option.isSome_iff_exists.mp hover
  obtain ⟨e, hcall, hphase⟩ := Channel.outcome?_eq_some.mp houtcome
  have hnot {s : Stage} (hs : r.stage call = some s) (hfits : ¬ s.Fits (.finished outcome)) :
      r.channel.current ≠ some link := by
    obtain ⟨e', hcall', hfits'⟩ := ho.staged.exists_call hs
    obtain rfl := Option.some_inj.mp (hcall.symm.trans hcall')
    exact absurd (hphase ▸ hfits') hfits
  -- the first two stations are behind a call that is over
  cases hgives with
  | broken hstage => exact hnot hstage fun hfits => absurd hfits.2 nofun
  | failed hstage => exact hnot hstage fun hfits => absurd hfits.of_failed.1 nofun
  | done _ hcurrent => exact hcurrent

/-! ## Records of what has been written -/

/-- **A race that has recorded what was written**: it is on the links, it is what the calls have to
say, and a call that was refused gives its link up. -/
structure Recorded (r : Race) : Prop where
  outbound_eq : ∀ k, r.channel.outbound k = writtenOn k r.outgoing
  own : ∀ o ∈ r.outgoing, o.link < r.channel.links.length ∧
    ∃ e, r.channel.calls[o.call]? = some e ∧ e.request = o.request
  refused : ∀ o ∈ r.outgoing, o.IsUnbroken → ¬ RequestFits o.message →
    ∃ size, Limits.maxFrame < size ∧
      r.Relinquishes o.call o.link (.frameTooLarge size Limits.maxFrame)

theorem recorded_start (destination : Address) (attempts : Nat) :
    Recorded (start destination attempts) :=
  ⟨fun _ => rfl, nofun, nofun⟩

/-- A call that has just been refused is about to give its link up. -/
theorem Steps.refused_of_written (h : Steps r move r') {more : List Outgoing}
    (hmore : r'.outgoing = r.outgoing ++ more) {o : Outgoing} (ho : o ∈ more)
    (hunbroken : o.IsUnbroken) (hlarge : ¬ RequestFits o.message) :
    ∃ size, Limits.maxFrame < size ∧
      r'.Relinquishes o.call o.link (.frameTooLarge size Limits.maxFrame) := by
  obtain ⟨size, hsize, hrefused⟩ := Wire.error_of_not_fits hlarge
  have hnothing (hsame : r'.outgoing = r.outgoing) : more = [] :=
    List.append_right_eq_self.mp (hmore.symm.trans hsame)
  -- a request that is too large and was written unbroken is refused, so the move was `spoil`
  cases h with
  | idle | event | draw | leave | miss | takeBack | giveUp =>
    rw [hnothing rfl] at ho
    exact absurd ho List.not_mem_nil
  | @write call link callId answer broken e hcall hphase hstage hout =>
    obtain rfl := List.append_cancel_left hmore
    obtain rfl := List.mem_singleton.mp ho
    exact absurd (hout.symm.trans (Channel.written_of_unbroken hunbroken hrefused)) nofun
  | @spoil call link callId answer broken e error hcall hphase hstage hout =>
    obtain rfl := List.append_cancel_left hmore
    obtain rfl := List.mem_singleton.mp ho
    obtain rfl := Option.some_inj.mp
      (hout.symm.trans (Channel.written_of_unbroken hunbroken hrefused))
    exact ⟨size, hsize, .broken (Function.update_self ..)⟩

theorem Recorded.step (hr : r.Recorded) (ho : r.Orderly) (h : Steps r move r') : r'.Recorded := by
  -- what is old stays as it was recorded, and what is new is as `exists_written` says
  obtain ⟨more, hmore, hown, houtbound⟩ := h.exists_written ho.linked
  refine ⟨fun k => ?_, fun o ho' => ?_, fun o ho' hunbroken hlarge => ?_⟩
  · rw [houtbound, hr.outbound_eq, hmore, writtenOn_append]
  · have hthere {e : Exchange} (hcall : r.channel.calls[o.call]? = some e)
        (hsame : e.request = o.request) :
        ∃ e', r'.channel.calls[o.call]? = some e' ∧ e'.request = o.request := by
      obtain ⟨e', hcall', hsame'⟩ := h.exists_request hcall
      exact ⟨e', hcall', hsame'.trans hsame⟩
    obtain hold | hnew := List.mem_append.mp (hmore ▸ ho')
    · obtain ⟨hlink, e, hcall, hsame⟩ := hr.own o hold
      exact ⟨h.lt_length_links hlink, hthere hcall hsame⟩
    · obtain ⟨e, hcall, hsame, hlink⟩ := hown o hnew
      exact ⟨h.lt_length_links (ho.linked _ e hcall _ hlink), hthere hcall hsame⟩
  · obtain hold | hnew := List.mem_append.mp (hmore ▸ ho')
    · obtain ⟨size, hsize, hgives⟩ := hr.refused o hold hunbroken hlarge
      exact ⟨size, hsize, ho.relinquishes_step h rfl (hr.own o hold).1 hgives⟩
    · exact h.refused_of_written hmore hnew hunbroken hlarge

theorem Recorded.run (hr : r.Recorded) (ho : r.Orderly) (moves : List Move) :
    (r.run moves).Recorded := by
  induction moves generalizing r with
  | nil => exact hr
  | cons move moves ih => exact ih (hr.step ho (r.steps move)) (ho.step move)

/-- **On a link that is left to some calls only these go on writing.** -/
theorem Orderly.later_run (ho : r.Orderly) {callers : Nat → Prop} {link : Nat}
    (hlink : link < r.channel.links.length) (hleft : r.channel.LeftTo callers link)
    (moves : List Move) : ∃ later, (r.run moves).outgoing = r.outgoing ++ later ∧
      ∀ o ∈ later, o.link = link → callers o.call := by
  -- carried by `LeftTo`: nobody joins a link that is not the current one
  induction moves generalizing r with
  | nil => exact ⟨[], (List.append_nil _).symm, List.forall_mem_nil _⟩
  | cons move moves ih =>
    have hstep := r.steps move
    obtain ⟨more, hmore, hown, -⟩ := hstep.exists_written ho.linked
    obtain ⟨later, hlater, hcallers⟩ := ih (ho.step move) (hstep.lt_length_links hlink)
      (ho.leftTo_step hstep hlink hleft)
    refine ⟨more ++ later, ?_, fun o ho' hsame => ?_⟩
    · rw [← List.append_assoc, ← hmore]
      exact hlater
    · obtain hnew | hnew := List.mem_append.mp ho'
      · obtain ⟨e, hcall, -, hphase⟩ := hown o hnew
        exact hleft.caller o.call e hcall (hphase.trans (congrArg some hsame))
      · exact hcallers o hnew hsame

/-- **Whoever waits for the writer while a request is refused** writes behind it, although the
channel has forgotten the link by then. -/
theorem Orderly.outgoing_behind_refused (ho : r.Orderly) {first second link : Nat}
    {id id' : UInt64} {answer answer' : Answer} {e e' : Exchange} {error : TransportError}
    (hne : second ≠ first) (hfirst : r.channel.calls[first]? = some e)
    (hphase : e.phase = .writing link id answer) (hsecond : r.channel.calls[second]? = some e')
    (hphase' : e'.phase = .writing link id' answer') (hstage : r.stage = fun _ => none)
    (hrefused : (Wire.writeRequest id e.request).error = some error)
    (hlast : error.isRetryable = false)
    (hwritten : (Wire.writeRequest id' e'.request).error = none) :
    (r.run [.write first none, .takeBack first, .giveUp first, .write second none]).outgoing
        = r.outgoing ++ [Channel.sending first link id e.request none,
            Channel.sending second link id' e'.request none] ∧
      (r.run [.write first none, .takeBack first, .giveUp first,
        .write second none]).channel.outcome? first = some (.error error) := by
  have hrest (call : Nat) : r.stage call = none := congrFun hstage call
  -- the call is refused and gives the link up
  have hgivenUp : r.run [.write first none, .takeBack first, .giveUp first]
      = (((r.send (Channel.sending first link id e.request none)).setStage first
          (some (.broken link id error))).takeOff first link id error).drop first link error := by
    show ((r.write first none).takeBack first).giveUp first = _
    rw [write_of_some hfirst hphase (hrest first)
        (show (Channel.written id e.request none).error = some error from hrefused),
      takeBack_of_broken (Function.update_self ..), giveUp_of_failed (Function.update_self ..)]
  generalize hthird : r.run [.write first none, .takeBack first, .giveUp first] = r₃ at hgivenUp
  have ho' : r₃.Orderly := hthird ▸ ho.run _
  -- the other has heard of it at most
  obtain ⟨_, hfirst'⟩ := Channel.exists_news (r.channel.changeLink link
    (·.write (Channel.written id e.request none).bytes)) link id .lost hfirst
  obtain ⟨news, hnews⟩ := Channel.exists_news (r.channel.changeLink link
    (·.write (Channel.written id e.request none).bytes)) link id .lost hsecond
  obtain ⟨later, hlater⟩ := Channel.exists_learned_writing second news link id' answer'
  have hsecond' : r₃.channel.calls[second]?
      = some { e' with phase := .writing link id' later } := by
    rw [hgivenUp]
    show (Channel.fail _ first error).calls[second]? = _
    unfold Channel.fail
    rw [Channel.getElem?_changeCall, if_neg (Ne.symm hne), Channel.calls_discard]
    refine hnews.trans ?_
    rw [hphase', hlater]
  have hstage' : r₃.stage second = none := by
    rw [hgivenUp]
    show Function.update (Function.update (Function.update r.stage first _) first _) first _ second
      = none
    rw [Function.update_of_ne hne, Function.update_of_ne hne, Function.update_of_ne hne, hrest]
  have houtcome : r₃.channel.outcome? first = some (.error error) := by
    rw [hgivenUp]
    exact outcome?_drop hfirst' hlast
  have hlast' : r.run [.write first none, .takeBack first, .giveUp first, .write second none]
      = r₃.write second none := hthird ▸ rfl
  rw [hlast']
  refine ⟨?_, ho'.outcome?_step (r₃.steps_write second none) houtcome⟩
  -- nothing that the first has done keeps the second from writing, on the same link
  rw [write_of_none hsecond' rfl hstage'
    (show (Channel.written id' e'.request none).error = none from hwritten), hgivenUp]
  exact List.append_assoc ..

/-- A call that writes has written, whatever comes of it. -/
theorem outgoing_write {call link : Nat} {callId : UInt64} {answer : Answer} {e : Exchange}
    (hcall : r.channel.calls[call]? = some e) (hphase : e.phase = .writing link callId answer)
    (hstage : r.stage call = none) (broken : Option Break) :
    (r.write call broken).outgoing
      = r.outgoing ++ [Channel.sending call link callId e.request broken] := by
  cases hout : (Channel.written callId e.request broken).error with
  | none =>
    rw [write_of_none hcall hphase hstage hout]
    rfl
  | some error =>
    rw [write_of_some hcall hphase hstage hout]
    rfl

/-! ## Requests that reach the server -/

/-- **Requests that are heard until one is refused**: what becomes of a link and of the calls that
write on it. -/
structure HeardUntilRefused (r : Race) (link : Nat) : Prop where
  /-- Each call writes its own request. -/
  own : ∀ o ∈ r.outgoing, ∃ e, r.channel.calls[o.call]? = some e ∧ e.request = o.request
  /-- However its bytes are cut, the server starts tasks for the requests before the first that is
  too large, exactly as these were written, and for no others. -/
  heard : ∀ ticket portions, portions.flatten = r.channel.outbound link →
    (({} : Server.Connection).receiveAll ticket portions).2
      = tasksFor ticket (heard (r.messages link))
  /-- The first request that is too large does not end the connection, and what is written behind it
  does. -/
  isOpen_iff : ∀ ticket portions, portions.flatten = r.channel.outbound link →
    ((({} : Server.Connection).receiveAll ticket portions).1.isOpen = true
      ↔ (unheard (r.messages link)).length ≤ 1)
  /-- All requests are heard if and only if none is too large. -/
  heard_eq_iff : Wire.heard (r.messages link) = r.messages link
    ↔ ∀ message ∈ r.messages link, RequestFits message
  /-- A call whose request is too large fails by that and gives the link up. -/
  refused : ∀ o ∈ r.outgoing, o.link = link → ¬ RequestFits o.message →
    ∃ size, Limits.maxFrame < size ∧
      r.Relinquishes o.call link (.frameTooLarge size Limits.maxFrame)
  /-- When it is over, only those calls can still be harmed by it that have the link by then. -/
  spared : ∀ o ∈ r.outgoing, o.link = link → ¬ RequestFits o.message →
    (r.channel.outcome? o.call).isSome = true → ∀ moves,
    ∃ later, (r.run moves).outgoing = r.outgoing ++ later ∧ ∀ o' ∈ later, o'.link = link →
      ∃ phase, r.channel.phase? o'.call = some phase ∧ phase.link? = some link

/-- **Requests are heard until one is refused.** However the calls of a channel are interleaved and
whatever the sizes of their requests, the first request on a link that is too large spoils what is
written behind it there, and nothing else. -/
theorem requests_until_refused {destination : Address} {attempts : Nat} {moves : List Move}
    {link : Nat} (hunbroken : ((start destination attempts).run moves).IsUnbroken link) :
    ((start destination attempts).run moves).HeardUntilRefused link := by
  have ho := (Orderly.start destination attempts).run moves
  have hr := (recorded_start destination attempts).run (.start destination attempts) moves
  generalize (start destination attempts).run moves = r at hunbroken ho hr
  -- on the link there is what the requests are written as, so that the server reads just this
  have hbytes : r.channel.outbound link = requestBytes (r.messages link) :=
    (hr.outbound_eq link).trans hunbroken.writtenOn_eq
  have hrefused (o : Outgoing) (ho' : o ∈ r.outgoing) (hlink : o.link = link)
      (hlarge : ¬ RequestFits o.message) : ∃ size, Limits.maxFrame < size ∧
        r.Relinquishes o.call link (.frameTooLarge size Limits.maxFrame) :=
    hlink ▸ hr.refused o ho' (hunbroken o ho' hlink) hlarge
  refine
    { own := fun o ho' => (hr.own o ho').2
      heard := fun ticket portions hportions => ?_
      isOpen_iff := fun ticket portions hportions => ?_
      heard_eq_iff := ?_
      refused := hrefused
      spared := fun o ho' hlink hlarge hover moves => ?_ }
  · exact (Server.Connection.receiveAll_requestBytes ticket (hportions.trans hbytes)).1
  · exact (Server.Connection.receiveAll_requestBytes ticket (hportions.trans hbytes)).2
  · unfold Wire.heard
    rw [List.takeWhile_eq_self_iff]
    simp only [decide_eq_true_eq]
  -- since the call is over, the link is not current: it is left to those who have it by now
  · obtain ⟨size, -, hgives⟩ := hrefused o ho' hlink hlarge
    have hleft : r.channel.LeftTo (fun c => ∃ phase, r.channel.phase? c = some phase
        ∧ phase.link? = some link) link :=
      ⟨ho.current_ne_of_over hgives hover, fun c e he hphase =>
        ⟨e.phase, Channel.phase?_eq_some.mpr ⟨e, he, rfl⟩, hphase⟩⟩
    exact ho.later_run (hlink ▸ (hr.own o ho').1) hleft moves

/-- Two calls take one link and leave their ids. -/
def twoRegister (first second : Request) : List Event :=
  [.begin first, .begin second, .join 0 (.ok ()), .join 1 (.ok ()), .register 0, .register 1]

/-- The race in which they wait for the writer. -/
def twoReady (first second : Request) : Race :=
  (start default 1).run ((twoRegister first second).flatMap Event.moves)

/-- A request that is too large by one byte, and one that is not. -/
def tooLargeRequest : Request := ⟨none, 1, ⟨Array.replicate (Limits.maxFrame + 1) 0⟩⟩

def smallRequest : Request := ⟨none, 2, .empty⟩

theorem twoReady_tells (first second : Request) :
    (twoReady first second).Tells ((History.start default 1).run (twoRegister first second)) :=
  run_moves default 1 (by simp [twoRegister, Event.isCancel])

theorem calls_twoReady (first second : Request) : (twoReady first second).channel.calls
    = [{ request := first, phase := .writing 0 1 .awaited },
        { request := second, phase := .writing 0 2 .awaited }] :=
  (congrArg Channel.calls (twoReady_tells first second).channel_eq).trans rfl

theorem outgoing_twoReady (first second : Request) : (twoReady first second).outgoing = [] :=
  (twoReady_tells first second).outgoing_eq.trans rfl

theorem orderly_twoReady (first second : Request) : (twoReady first second).Orderly :=
  (Orderly.start default 1).run _

theorem not_fits_tooLargeRequest (callId : UInt64) : ¬ RequestFits (callId, tooLargeRequest) := by
  intro h
  have hsize : tooLargeRequest.payload.size = Limits.maxFrame + 1 := Array.size_replicate
  exact absurd (hsize ▸ h.payload_le) (Nat.not_succ_le_self _)

theorem fits_smallRequest : RequestFits (1, smallRequest) ∧ RequestFits (2, smallRequest) := by
  decide

theorem messages_of_outgoing {c c' : Nat} {id id' : UInt64} {first second : Request}
    (h : r.outgoing = [Channel.sending c 0 id first none, Channel.sending c' 0 id' second none]) :
    r.messages 0 = [(id, first), (id', second)] := by
  simp [messages, h, Channel.sending, Outgoing.message]

/-- Both calls write in turn. -/
def inTurn (first second : Request) : List Move :=
  (twoRegister first second).flatMap Event.moves ++ [.write 0 none, .write 1 none]

/-- The first gives the link up before the second writes. -/
def givenUp (first second : Request) : List Move :=
  (twoRegister first second).flatMap Event.moves
    ++ [.write 0 none, .takeBack 0, .giveUp 0, .write 1 none]

theorem isUnbroken_twoReady (first second : Request) {later : List Move}
    (hlater : ∀ move ∈ later, move.isBreak = false) :
    ((start default 1).run
      ((twoRegister first second).flatMap Event.moves ++ later)).IsUnbroken 0 := by
  have hstart : (start default 1).IsUnbroken 0 := fun _ ho => absurd ho List.not_mem_nil
  refine hstart.run (List.forall_mem_append.mpr ⟨?_, hlater⟩)
  simp [twoRegister, Event.moves, Move.isBreak]

theorem outgoing_inTurn {first : Request} (second : Request) (hfits : RequestFits (1, first)) :
    ((start default 1).run (inTurn first second)).outgoing
      = [Channel.sending 0 0 1 first none, Channel.sending 1 0 2 second none] := by
  have hcalls := calls_twoReady first second
  have houtgoing := outgoing_twoReady first second
  have hstage := (twoReady_tells first second).stage_eq
  rw [inTurn, run_append]
  change ((twoReady first second).run _).outgoing = _
  generalize twoReady first second = r at hcalls houtgoing hstage
  have hrest (call : Nat) : r.stage call = none := congrFun hstage call
  have hfirst : r.channel.calls[0]?
      = some { request := first, phase := .writing 0 1 .awaited } := by
    rw [hcalls]
    rfl
  have hout : (Channel.written 1 first none).error = none := hfits.error_eq
  have hwrite := write_of_none hfirst rfl (hrest 0) hout
  have hsecond : (r.write 0 none).channel.calls[1]?
      = some { request := second, phase := .writing 0 2 .awaited } := by
    rw [hwrite]
    show (r.channel.calls.modify 0 _)[1]? = _
    rw [hcalls]
    rfl
  have hstage' : (r.write 0 none).stage 1 = none := by
    rw [hwrite]
    exact hrest 1
  refine (outgoing_write hsecond rfl hstage' none).trans ?_
  rw [outgoing_write hfirst rfl (hrest 0), houtgoing]
  rfl

/-- A request that is refused behind another does no harm to it. -/
theorem requests_until_refused_last :
    let r := (start default 1).run (inTurn smallRequest tooLargeRequest)
    r.IsUnbroken 0 ∧
      (({} : Server.Connection).receiveAll 0 [r.channel.outbound 0]).2 = [⟨0, 1, smallRequest⟩] ∧
      (({} : Server.Connection).receiveAll 0 [r.channel.outbound 0]).1.isOpen = true := by
  have hunbroken : ((start default 1).run (inTurn smallRequest tooLargeRequest)).IsUnbroken 0 :=
    isUnbroken_twoReady _ _ (by simp [Move.isBreak])
  have hheard := requests_until_refused hunbroken
  have hmessages := messages_of_outgoing (outgoing_inTurn tooLargeRequest fits_smallRequest.1)
  have hnone (bytes : List UInt8) : [bytes].flatten = bytes := List.append_nil bytes
  refine ⟨hunbroken, ?_, (hheard.isOpen_iff 0 _ (hnone _)).mpr ?_⟩
  · rw [hheard.heard 0 _ (hnone _), hmessages]
    simp [heard, fits_smallRequest.1, not_fits_tooLargeRequest, tasksFor]
  · rw [hmessages]
    simp [unheard, fits_smallRequest.1, not_fits_tooLargeRequest]

/-- What is written behind a request that is refused is lost. -/
theorem lost_givenUp {first second : Request} (hlarge : ¬ RequestFits (1, first))
    (hfits : RequestFits (2, second)) {r : Race}
    (hr : (start default 1).run (givenUp first second) = r) :
    (∃ size, Limits.maxFrame < size ∧
        r.channel.outcome? 0 = some (.error (.frameTooLarge size Limits.maxFrame))) ∧
      r.outgoing = [Channel.sending 0 0 1 first none, Channel.sending 1 0 2 second none] ∧
      ∀ ticket portions, portions.flatten = r.channel.outbound 0 →
        (({} : Server.Connection).receiveAll ticket portions).2 = [] ∧
          (({} : Server.Connection).receiveAll ticket portions).1.isOpen = false := by
  have hcalls := calls_twoReady first second
  obtain ⟨size, hsize, hrefused⟩ := Wire.error_of_not_fits hlarge
  have hfirst : (twoReady first second).channel.calls[0]?
      = some { request := first, phase := .writing 0 1 .awaited } := by
    rw [hcalls]
    rfl
  have hsecond : (twoReady first second).channel.calls[1]?
      = some { request := second, phase := .writing 0 2 .awaited } := by
    rw [hcalls]
    rfl
  -- both requests are on the link, the part of the large one first
  have hbehind := (orderly_twoReady first second).outgoing_behind_refused Nat.one_ne_zero hfirst rfl
    hsecond rfl (twoReady_tells first second).stage_eq hrefused rfl hfits.error_eq
  rw [outgoing_twoReady, twoReady, ← run_append, ← givenUp, hr] at hbehind
  obtain ⟨houtgoing, houtcome⟩ := hbehind
  have hunbroken : r.IsUnbroken 0 := hr ▸ isUnbroken_twoReady _ _ (by simp [Move.isBreak])
  have hrecorded : r.Recorded :=
    hr ▸ (recorded_start default 1).run (.start default 1) _
  have hbytes : r.channel.outbound 0 = requestBytes [(1, first), (2, second)] := by
    rw [hrecorded.outbound_eq, hunbroken.writtenOn_eq, messages_of_outgoing houtgoing]
  refine ⟨⟨size, hsize, houtcome⟩, houtgoing, fun ticket portions hportions => ?_⟩
  obtain ⟨htasks, hopen⟩ :=
    Server.Connection.receiveAll_requestBytes ticket (hportions.trans hbytes)
  constructor
  · rw [htasks]
    simp [heard, hlarge, tasksFor]
  -- two requests are left unheard, and an open connection leaves one at most
  · refine Bool.not_eq_true _ ▸ fun h => ?_
    have hle := hopen.mp h
    simp [unheard, hlarge] at hle

/-- **A small request is lost** with one that is too large: both calls had taken the link, and the
one that was refused has failed and given the link up before the other writes. -/
theorem small_request_lost :
    let r := (start default 1).run (givenUp tooLargeRequest smallRequest)
    (∃ size, Limits.maxFrame < size ∧
        r.channel.outcome? 0 = some (.error (.frameTooLarge size Limits.maxFrame))) ∧
      RequestFits (2, smallRequest) ∧
      r.outgoing = [Channel.sending 0 0 1 tooLargeRequest none,
        Channel.sending 1 0 2 smallRequest none] ∧
      ∀ ticket portions, portions.flatten = r.channel.outbound 0 →
        (({} : Server.Connection).receiveAll ticket portions).2 = [] ∧
          (({} : Server.Connection).receiveAll ticket portions).1.isOpen = false := by
  obtain ⟨hfailed, houtgoing, hlost⟩ :=
    lost_givenUp (not_fits_tooLargeRequest 1) fits_smallRequest.2 rfl
  exact ⟨hfailed, fits_smallRequest.2, houtgoing, hlost⟩

end Race

end Switchboard.Client
