import Switchboard.Proofs.Channel.Waiting
import Switchboard.Proofs.Conversation.Calls

/-!
# The client in a conversation

A channel whose one link is open agrees with the record (`ClientAgrees`) when
its calls do. It keeps doing so in every step that one of its calls can make,
and when replies come in. What the link has under way is changed by writing a
request and by nothing else that a call does.
-/

namespace Switchboard.Conversation

open Wire (Request Reply)
open Client (Channel Phase Link)

/-- **A channel with one open link**, whose calls agree with the record. -/
structure ClientAgrees (ch : Channel) (l : Link) (given : Nat) (written : List Sent)
    (came : List Produced) : Prop where
  links_eq : ch.links = [l]
  current_eq : ch.current = some 0
  isOpen : l.isOpen = true
  calls : CallsAgree ch.calls l.waiting written came
  next_eq : ch.nextCallId = UInt64.ofNat (given + 1)
  waiting_given : ∀ x ∈ l.waiting, ∃ i < given, x.1 = UInt64.ofNat (i + 1)

namespace ClientAgrees

variable {ch : Channel} {l : Link} {given : Nat} {written : List Sent} {came : List Produced}

theorem begin (h : ClientAgrees ch l given written came) (request : Request) :
    ClientAgrees (ch.begin request).1 l given written came :=
  ⟨h.links_eq, h.current_eq, h.isOpen, h.calls.begin request, h.next_eq, h.waiting_given⟩

/-- There is no link but the one, so that a change to it is all that changes. -/
theorem links_changeLink (h : ClientAgrees ch l given written came) (f : Link → Link) :
    (ch.changeLink 0 f).links = [f l] := by
  show ch.links.modify 0 f = _
  rw [h.links_eq]
  rfl

/-- The link that is there is taken. -/
theorem openLink?_eq (h : ClientAgrees ch l given written came) : ch.openLink? = some 0 := by
  unfold Channel.openLink?
  rw [h.current_eq, h.links_eq]
  exact if_pos h.isOpen

theorem join (h : ClientAgrees ch l given written came) (call : Nat) :
    ClientAgrees (ch.join call (.ok ())) l given written came := by
  unfold Channel.join
  split
  · next hphase =>
    obtain ⟨e, he, hstarting⟩ := Channel.phase?_eq_some.mp hphase
    have hstage := h.calls.stage call e he
    rw [hstarting] at hstage
    rw [h.openLink?_eq]
    refine ⟨h.links_eq, h.current_eq, h.isOpen, h.calls.move he (fun callId hawaiting => ?_) ?_,
      h.next_eq, h.waiting_given⟩
    · rw [hstarting] at hawaiting
      exact not_isAwaiting_starting hawaiting
    · cases hstage with
      | starting unwritten => exact .joined unwritten
  · exact h

/-- Ids that are given out one after another differ, as long as there are new ones. -/
theorem fresh (h : ClientAgrees ch l given written came) (hgiven : given < UInt64.size) :
    ch.nextCallId ∉ l.waiting.map (·.1) := by
  intro hmem
  obtain ⟨x, hx, heq⟩ := List.mem_map.mp hmem
  obtain ⟨i, hi, hcallId⟩ := h.waiting_given x hx
  rw [h.next_eq, hcallId] at heq
  have hnat := congrArg UInt64.toNat heq
  rw [UInt64.toNat_ofNat', UInt64.toNat_ofNat'] at hnat
  unfold UInt64.size at hgiven
  omega

/-- **A call that has the link leaves its id there**, and the bytes under way stay. -/
theorem register (h : ClientAgrees ch l given written came) (call : Nat)
    (hfresh : ch.nextCallId ∉ l.waiting.map (·.1)) :
    ∃ l', ClientAgrees (ch.register call) l' (given + drawn ch call) written came
      ∧ l'.inbound = l.inbound ∧ l'.outbound = l.outbound := by
  by_cases hjoined : ∃ link, ch.phase? call = some (.joined link)
  · obtain ⟨link, hphase⟩ := hjoined
    obtain ⟨e, he, hjoined⟩ := Channel.phase?_eq_some.mp hphase
    have hstage := h.calls.stage call e he
    rw [hjoined] at hstage
    cases hstage with
    | joined unwritten =>
      have hopen : (ch.links[0]?).any (·.isOpen) = true := by
        rw [h.links_eq]
        exact h.isOpen
      have hunused : ∀ l' ∈ ch.links[0]?, ∀ x ∈ l'.waiting, x.1 ≠ ch.nextCallId := by
        rw [h.links_eq]
        rintro l' ⟨⟩ x hx heq
        exact hfresh (heq ▸ List.mem_map_of_mem hx)
      -- the id is new on the link, so taking it back there changes nothing
      have hsame : ({ ch with nextCallId := ch.nextCallId + 1 } : Channel).withdraw 0 ch.nextCallId
          = { ch with nextCallId := ch.nextCallId + 1 } := Channel.withdraw_of_unused hunused
      have hnext : ch.nextCallId + 1 = UInt64.ofNat (given + 1 + 1) := by
        rw [h.next_eq, UInt64.ofNat_add (given + 1)]
        rfl
      refine ⟨l.expect ch.nextCallId call, ?_, rfl, rfl⟩
      unfold Channel.register drawn
      rw [hphase]
      dsimp only
      rw [if_pos hopen, hsame]
      refine ⟨h.links_changeLink _, h.current_eq, h.isOpen,
        h.calls.register he hjoined hfresh, hnext, fun x hx => ?_⟩
      obtain rfl | hold := List.mem_cons.mp hx
      · exact ⟨given, Nat.lt_succ_self given, h.next_eq⟩
      · obtain ⟨i, hi, hcallId⟩ := h.waiting_given x hold
        exact ⟨i, Nat.lt_succ_of_lt hi, hcallId⟩
  · have hregister : ch.register call = ch := by
      unfold Channel.register
      split
      · next link hphase => exact absurd ⟨link, hphase⟩ hjoined
      · rfl
    have hdrawn : drawn ch call = 0 := by
      unfold drawn
      split
      · next link hphase => exact absurd ⟨link, hphase⟩ hjoined
      · rfl
    rw [hregister, hdrawn]
    exact ⟨l, h, rfl, rfl⟩

/-- A call that is about to write does so, and nothing else is written. -/
theorem write (h : ClientAgrees ch l given written came) (call : Nat)
    (hfits : ∀ s ∈ sent? ch call, Wire.RequestFits s.message) :
    ∃ l', ClientAgrees (ch.write call none) l' given (written ++ (sent? ch call).toList) came
      ∧ l'.inbound = l.inbound
      ∧ l'.outbound = l.outbound
        ++ Wire.requestBytes ((sent? ch call).toList.map Sent.message) := by
  -- every other call leaves the channel as it is
  have hidle (hsent : sent? ch call = none) (hwrite : ch.write call none = ch) :
      ∃ l', ClientAgrees (ch.write call none) l' given (written ++ (sent? ch call).toList) came
        ∧ l'.inbound = l.inbound ∧ l'.outbound
          = l.outbound ++ Wire.requestBytes ((sent? ch call).toList.map Sent.message) := by
    refine ⟨l, ?_, rfl, ?_⟩
    · rw [hsent, hwrite, Option.toList_none, List.append_nil]
      exact h
    · rw [hsent]
      exact (List.append_nil _).symm
  cases he : ch.calls[call]? with
  | none =>
    refine hidle ?_ ?_
    · unfold sent?
      rw [he]
    · unfold Channel.write
      rw [he]
  | some e =>
    obtain ⟨request, attempt, phase⟩ := e
    have hstage : Stage written l.waiting came call request phase := h.calls.stage call _ he
    cases hstage with
    | @writing callId unwritten left =>
      have hsent : sent? ch call = some ⟨call, callId, request⟩ := by
        unfold sent?
        rw [he]
      have hwhole : (Wire.writeRequest callId request).error = none :=
        (hfits _ hsent).error_eq
      refine ⟨l.write (Wire.writeRequest callId request).bytes, ?_, rfl, ?_⟩
      · have hwrite : ch.write call none = (ch.changeLink 0
            (·.write (Wire.writeRequest callId request).bytes)).setPhase call
            (.waiting 0 callId .awaited) := by
          unfold Channel.write
          rw [he]
          dsimp only [Channel.written]
          rw [hwhole]
        rw [hwrite, hsent]
        exact ⟨h.links_changeLink _, h.current_eq, h.isOpen, h.calls.write he rfl, h.next_eq,
          h.waiting_given⟩
      · rw [hsent]
        exact congrArg _ (List.append_nil _).symm
    | _ =>
      refine hidle ?_ ?_
      · unfold sent?
        rw [he]
      · unfold Channel.write
        rw [he]

/-- **Bytes come in** and bring the replies that become whole by them. -/
theorem receive (h : ClientAgrees ch l given written came) {bytes pending : List UInt8}
    {ps : List Produced} (hruns : ∀ p ∈ ps, ∃ call, IsRunOf written p.task call)
    (hnodup : ((came ++ ps).map (·.task)).Nodup)
    (hread : Wire.arrivals Wire.readReply (l.inbound ++ bytes)
      = ⟨ps.map (·.answered.envelope), pending, none⟩) :
    ∃ l', ClientAgrees (ch.receive 0 bytes) l' given written (came ++ ps) ∧ l'.inbound = pending
      ∧ l'.outbound = l.outbound := by
  obtain ⟨waiting', handed, calls', hroute, hsub, hcalls, htell⟩ := h.calls.route hruns hnodup
  have hreceive : l.receive bytes
      = ({ l with waiting := waiting', inbound := pending }, handed, []) := by
    unfold Link.receive
    rw [if_pos h.isOpen, hread]
    dsimp only
    rw [hroute]
  have hlink : ch.links[0]? = some l := by
    rw [h.links_eq]
    rfl
  refine ⟨{ l with waiting := waiting', inbound := pending }, ?_, rfl, rfl⟩
  rw [Channel.receive_of_some hlink, hreceive]
  dsimp only
  rw [List.map_nil, List.append_nil,
    htell (ch.changeLink 0 fun _ => { l with waiting := waiting', inbound := pending }) rfl]
  exact ⟨h.links_changeLink _, h.current_eq, h.isOpen, hcalls, h.next_eq,
    fun x hx => h.waiting_given x (hsub x hx)⟩

/-- **A call that has its reply finishes.** -/
theorem finish (h : ClientAgrees ch l given written came) (call : Nat) :
    ClientAgrees (ch.finish call) l given written came := by
  unfold Channel.finish
  split
  · exact h
  · next e he =>
    have hstage := h.calls.stage call e he
    split
    · next link callId envelope harrived =>
      exact ⟨h.links_eq, h.current_eq, h.isOpen, h.calls.finish he harrived, h.next_eq,
        h.waiting_given⟩
    · next link callId hlost =>
      -- no reply is lost while the link is open
      rw [hlost] at hstage
      cases hstage
    · exact h

/-- **A call whose reply has come** is finished with it at the latest when it is asked to. -/
theorem outcome_finish (h : ClientAgrees ch l given written came) {p : Produced} (hp : p ∈ came)
    {call : Nat} (hrun : IsRunOf written p.task call) :
    ∃ q ∈ came, IsRunOf written q.task call
      ∧ (ch.finish call).outcome? call = some (.ok q.reply) := by
  obtain ⟨e, he, -⟩ := Option.map_eq_some_iff.mp (h.calls.written_request _ hrun.mem)
  have hstage := h.calls.stage call e he
  obtain ⟨request, attempt, phase⟩ := e
  unfold Channel.finish
  rw [he]
  cases hstage with
  | starting unwritten => exact absurd hrun.call_mem unwritten
  | joined unwritten => exact absurd hrun.call_mem unwritten
  | writing unwritten _ => exact absurd hrun.call_mem unwritten
  | waiting _ left =>
    -- the reply has taken its id off the link
    obtain ⟨other, hrun', hgone⟩ := h.calls.came_gone p hp
    rw [hrun'.call_eq hrun] at hgone
    exact absurd left (hgone _)
  | @arrived _ q mem run own =>
    refine ⟨q, mem, run, Channel.outcome?_eq_some.mpr ⟨{ request, attempt, phase := _ }, ?_, rfl⟩⟩
    dsimp only
    rw [Channel.getElem?_setPhase, if_pos rfl, he, q.toReply_eq own]
    rfl
  | @finished q mem run own =>
    exact ⟨q, mem, run, Channel.outcome?_eq_some.mpr ⟨_, he, rfl⟩⟩

end ClientAgrees

end Switchboard.Conversation
