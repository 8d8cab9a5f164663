import Mathlib.Data.List.Nodup
import Switchboard.Proofs.Conversation.Basic

/-!
# Calls in a conversation

A call is at a certain stage (`Stage`): it has not written its request, or it
has and waits with its id, or the reply to its own run has come. `CallsAgree`
says that every call is at one of these stages, and that the ids that have been
left with the link are those of the calls that wait.

Every step of the client moves one call from its stage to the next and leaves
the others at theirs (`CallsAgree.change`). When replies come in, it is one step
for each of them: the id of a reply leads to the call that the replied task is
a run of (`CallsAgree.awaits`), so that nothing else can happen to it.
-/

namespace Switchboard.Conversation

open Wire (Request Reply)
open Client (Channel Exchange Phase Link)

/-! ## Runs -/

/-- A call has one run at most. -/
theorem IsRunOf.unique {written : List Sent} (hnodup : (written.map (·.call)).Nodup)
    {task task' : Server.Task} {call : Nat} (h : IsRunOf written task call)
    (h' : IsRunOf written task' call) : task = task' := by
  unfold IsRunOf at h h'
  have hcall : (written.map (·.call))[task.ticket]? = (written.map (·.call))[task'.ticket]? := by
    rw [List.getElem?_map, List.getElem?_map, h, h', Option.map_some, Option.map_some]
  have hlt : task.ticket < (written.map (·.call)).length := by
    rw [List.length_map]
    exact (List.getElem?_eq_some_iff.mp h).1
  have hticket := (List.getElem?_inj hlt hnodup).mp hcall
  rw [hticket, h'] at h
  obtain ⟨-, hcallId, hrequest⟩ := Sent.mk.inj (Option.some_inj.mp h)
  obtain ⟨ticket, callId, request⟩ := task
  obtain ⟨ticket', callId', request'⟩ := task'
  rw [Server.Task.mk.injEq]
  exact ⟨hticket, hcallId.symm, hrequest.symm⟩

/-- A task is a run of one call. -/
theorem IsRunOf.call_eq {written : List Sent} {task : Server.Task} {call call' : Nat}
    (h : IsRunOf written task call) (h' : IsRunOf written task call') : call = call' :=
  (Sent.mk.inj (Option.some_inj.mp (h.symm.trans h'))).1

theorem IsRunOf.mem {written : List Sent} {task : Server.Task} {call : Nat}
    (h : IsRunOf written task call) : ⟨call, task.callId, task.request⟩ ∈ written :=
  List.mem_of_getElem? h

theorem IsRunOf.call_mem {written : List Sent} {task : Server.Task} {call : Nat}
    (h : IsRunOf written task call) : call ∈ written.map (·.call) :=
  List.mem_map_of_mem (f := (·.call)) h.mem

/-! ## What a call writes -/

/-- **A call writes its request, once, or nothing.** -/
inductive Writes (call : Nat) (request : Request) (written : List Sent) : List Sent → Prop where
  | nothing : Writes call request written written
  | request (callId : UInt64) (unwritten : call ∉ written.map (·.call)) :
    Writes call request written (written ++ [⟨call, callId, request⟩])

namespace Writes

variable {call : Nat} {request : Request} {written written' : List Sent}

theorem nodup (h : Writes call request written written') (hnodup : (written.map (·.call)).Nodup) :
    (written'.map (·.call)).Nodup := by
  cases h with
  | nothing => exact hnodup
  | request callId unwritten =>
    rw [List.map_append, List.map_singleton, ← List.concat_eq_append]
    exact hnodup.concat unwritten

theorem mem_of_mem (h : Writes call request written written') {s : Sent} (hs : s ∈ written) :
    s ∈ written' := by
  cases h with
  | nothing => exact hs
  | request => exact List.mem_append_left _ hs

theorem mem_or (h : Writes call request written written') {s : Sent} (hs : s ∈ written') :
    s ∈ written ∨ s.call = call ∧ s.request = request := by
  cases h with
  | nothing => exact .inl hs
  | request =>
    refine (List.mem_append.mp hs).imp_right fun hlast => ?_
    rw [List.mem_singleton.mp hlast]
    exact ⟨rfl, rfl⟩

/-- The other calls have not written anything more. -/
theorem not_mem (h : Writes call request written written') {other : Nat} (hne : other ≠ call)
    (hnot : other ∉ written.map (·.call)) : other ∉ written'.map (·.call) := by
  intro hmem
  obtain ⟨s, hs, rfl⟩ := List.mem_map.mp hmem
  obtain hold | ⟨hcall, -⟩ := h.mem_or hs
  · exact hnot (List.mem_map_of_mem hold)
  · exact hne hcall

theorem isRunOf (h : Writes call request written written') {task : Server.Task} {other : Nat}
    (hrun : IsRunOf written task other) : IsRunOf written' task other := by
  cases h with
  | nothing => exact hrun
  | request =>
    unfold IsRunOf at hrun ⊢
    rw [List.getElem?_append_left (List.getElem?_eq_some_iff.mp hrun).1, hrun]

end Writes

/-! ## Stages -/

/-- **How far a call has come**, given what has been written, the ids that calls wait with, and
the replies that have come. -/
inductive Stage (written : List Sent) (waiting : List (UInt64 × Nat)) (came : List Produced)
    (call : Nat) (request : Request) : Phase → Prop where
  | starting (unwritten : call ∉ written.map (·.call)) :
    Stage written waiting came call request .starting
  | joined (unwritten : call ∉ written.map (·.call)) :
    Stage written waiting came call request (.joined 0)
  | writing {callId : UInt64} (unwritten : call ∉ written.map (·.call))
      (left : (callId, call) ∈ waiting) :
    Stage written waiting came call request (.writing 0 callId .awaited)
  | waiting {callId : UInt64} (mem : ⟨call, callId, request⟩ ∈ written)
      (left : (callId, call) ∈ waiting) :
    Stage written waiting came call request (.waiting 0 callId .awaited)
  | arrived {callId : UInt64} {p : Produced} (mem : p ∈ came) (run : IsRunOf written p.task call)
      (own : p.task.request = request) :
    Stage written waiting came call request (.waiting 0 callId (.arrived p.answered.envelope))
  | finished {p : Produced} (mem : p ∈ came) (run : IsRunOf written p.task call)
      (own : p.task.request = request) :
    Stage written waiting came call request (.finished (.ok p.reply))

/-- A call stays at its stage while another one goes on. -/
theorem Stage.mono {written written' : List Sent} {waiting waiting' : List (UInt64 × Nat)}
    {came came' : List Produced} {call other : Nat} {request request' : Request} {phase : Phase}
    (h : Stage written waiting came other request' phase)
    (hwrites : Writes call request written written') (hne : other ≠ call)
    (hwaiting : ∀ callId, (callId, other) ∈ waiting → (callId, other) ∈ waiting')
    (hcame : ∀ p ∈ came, p ∈ came') : Stage written' waiting' came' other request' phase := by
  cases h with
  | starting unwritten => exact .starting (hwrites.not_mem hne unwritten)
  | joined unwritten => exact .joined (hwrites.not_mem hne unwritten)
  | writing unwritten left => exact .writing (hwrites.not_mem hne unwritten) (hwaiting _ left)
  | waiting mem left => exact .waiting (hwrites.mem_of_mem mem) (hwaiting _ left)
  | arrived mem run own => exact .arrived (hcame _ mem) (hwrites.isRunOf run) own
  | finished mem run own => exact .finished (hcame _ mem) (hwrites.isRunOf run) own

/-- The call waits with an id. -/
def IsAwaiting (callId : UInt64) (phase : Phase) : Prop :=
  phase = .writing 0 callId .awaited ∨ phase = .waiting 0 callId .awaited

theorem IsAwaiting.callId_eq {callId callId' : UInt64} {phase : Phase}
    (h : IsAwaiting callId phase) (h' : IsAwaiting callId' phase) : callId = callId' := by
  rcases h with rfl | rfl <;> rcases h' with h' | h' <;> cases h' <;> rfl

theorem not_isAwaiting_starting {callId : UInt64} : ¬ IsAwaiting callId .starting := by
  rintro (hphase | hphase) <;> cases hphase

theorem not_isAwaiting_joined {callId : UInt64} {link : Nat} :
    ¬ IsAwaiting callId (.joined link) := by
  rintro (hphase | hphase) <;> cases hphase

/-- A call whose reply is there waits no longer. -/
theorem not_isAwaiting_arrived {callId callId' : UInt64} {link : Nat}
    {envelope : Wire.ReplyEnvelope} :
    ¬ IsAwaiting callId (.waiting link callId' (.arrived envelope)) := by
  rintro (hphase | hphase) <;> cases hphase

/-- **The calls of a channel agree with the record.** -/
structure CallsAgree (calls : List Exchange) (waiting : List (UInt64 × Nat))
    (written : List Sent) (came : List Produced) : Prop where
  written_nodup : (written.map (·.call)).Nodup
  written_request : ∀ s ∈ written, (calls[s.call]?).map (·.request) = some s.request
  waiting_nodup : (waiting.map (·.1)).Nodup
  waiting_phase : ∀ x ∈ waiting, ∃ e, calls[x.2]? = some e ∧ IsAwaiting x.1 e.phase
  stage : ∀ call e, calls[call]? = some e → Stage written waiting came call e.request e.phase
  came_gone : ∀ p ∈ came, ∃ call, IsRunOf written p.task call ∧ ∀ callId, (callId, call) ∉ waiting

namespace CallsAgree

variable {calls : List Exchange} {waiting : List (UInt64 × Nat)} {written : List Sent}
  {came : List Produced}

/-- **A call goes on to another stage**, and the others stay at theirs. -/
theorem change (h : CallsAgree calls waiting written came) {call : Nat} {e : Exchange}
    (he : calls[call]? = some e) {f : Exchange → Exchange} (hf : (f e).request = e.request)
    {waiting' : List (UInt64 × Nat)} {written' : List Sent} {came' : List Produced}
    (hwrites : Writes call e.request written written')
    (hnodup : (waiting'.map (·.1)).Nodup)
    (hwaiting : ∀ x : UInt64 × Nat, x.2 ≠ call → (x ∈ waiting' ↔ x ∈ waiting))
    (hphase : ∀ callId, (callId, call) ∈ waiting' → IsAwaiting callId (f e).phase)
    (hcame : ∀ p ∈ came, p ∈ came')
    (hgone : ∀ p ∈ came', (p ∈ came ∧ ¬ IsRunOf written p.task call) ∨
      (IsRunOf written' p.task call ∧ ∀ callId, (callId, call) ∉ waiting'))
    (hstage : Stage written' waiting' came' call e.request (f e).phase) :
    CallsAgree (calls.modify call f) waiting' written' came' := by
  have hself : (calls.modify call f)[call]? = some (f e) := by
    rw [List.getElem?_modify_eq, he]
    rfl
  have hother {other : Nat} (hne : other ≠ call) : (calls.modify call f)[other]? = calls[other]? :=
    List.getElem?_modify_ne f calls hne.symm
  refine ⟨hwrites.nodup h.written_nodup, fun s hs => ?_, hnodup, fun x hx => ?_,
    fun other e' he' => ?_, fun p hp => ?_⟩
  · -- no request changes
    by_cases hcall : s.call = call
    · have hrequest : s.request = e.request := by
        obtain hold | ⟨-, hnew⟩ := hwrites.mem_or hs
        · have hsame := h.written_request s hold
          rw [hcall, he, Option.map_some] at hsame
          exact (Option.some_inj.mp hsame).symm
        · exact hnew
      rw [hcall, hself, Option.map_some, hf, hrequest]
    · rw [hother hcall]
      exact h.written_request s ((hwrites.mem_or hs).resolve_right fun hnew => hcall hnew.1)
  · -- an id was left by a call that waits with it
    by_cases hcall : x.2 = call
    · refine ⟨f e, by rw [hcall, hself], hphase x.1 ?_⟩
      rwa [← hcall]
    · rw [hother hcall]
      exact h.waiting_phase x ((hwaiting x hcall).mp hx)
  · -- the call is at its new stage, the others are at their old ones
    by_cases hcall : other = call
    · rw [hcall, hself] at he'
      rw [hcall, ← Option.some_inj.mp he', hf]
      exact hstage
    · rw [hother hcall] at he'
      exact (h.stage other e' he').mono hwrites hcall
        (fun callId => (hwaiting (callId, other) hcall).mpr) hcame
  · -- the call of a reply that has come has no id with the link
    obtain ⟨hold, hnot⟩ | hrun := hgone p hp
    · obtain ⟨other, hrun, hleft⟩ := h.came_gone p hold
      have hne : other ≠ call := by
        rintro rfl
        exact hnot hrun
      exact ⟨other, hwrites.isRunOf hrun,
        fun callId hmem => hleft callId ((hwaiting (callId, other) hne).mp hmem)⟩
    · exact ⟨call, hrun⟩

theorem awaiting_of_mem (h : CallsAgree calls waiting written came) {call : Nat} {e : Exchange}
    (he : calls[call]? = some e) {callId : UInt64} (hmem : (callId, call) ∈ waiting) :
    IsAwaiting callId e.phase := by
  obtain ⟨e', he', hawaiting⟩ := h.waiting_phase _ hmem
  rwa [Option.some_inj.mp (he.symm.trans he')]

/-- The same when nothing is written, no id is left or taken, and no reply comes. -/
theorem move (h : CallsAgree calls waiting written came) {call : Nat} {e : Exchange}
    (he : calls[call]? = some e) {phase : Phase} (hidle : ∀ callId, ¬ IsAwaiting callId e.phase)
    (hstage : Stage written waiting came call e.request phase) :
    CallsAgree (calls.modify call fun e => { e with phase }) waiting written came := by
  have hnone (callId : UInt64) : (callId, call) ∉ waiting :=
    fun hmem => hidle callId (h.awaiting_of_mem he hmem)
  refine h.change he rfl .nothing h.waiting_nodup (fun _ _ => Iff.rfl)
    (fun callId hmem => absurd hmem (hnone callId)) (fun _ hp => hp) (fun p hp => ?_) hstage
  by_cases hrun : IsRunOf written p.task call
  · exact .inr ⟨hrun, hnone⟩
  · exact .inl ⟨hp, hrun⟩

/-- **A new call** has written nothing. -/
theorem begin (h : CallsAgree calls waiting written came) (request : Request) :
    CallsAgree (calls ++ [({ request } : Exchange)]) waiting written came := by
  have hold {call : Nat} {e : Exchange} (he : calls[call]? = some e) :
      (calls ++ [({ request } : Exchange)])[call]? = some e := by
    rw [List.getElem?_append_left (List.getElem?_eq_some_iff.mp he).1, he]
  refine ⟨h.written_nodup, ?_, h.waiting_nodup, ?_, ?_, h.came_gone⟩
  · intro s hs
    obtain ⟨e, he, hrequest⟩ := Option.map_eq_some_iff.mp (h.written_request s hs)
    rw [hold he, Option.map_some, hrequest]
  · intro x hx
    obtain ⟨e, he, hphase⟩ := h.waiting_phase x hx
    exact ⟨e, hold he, hphase⟩
  · intro call e he
    by_cases hlt : call < calls.length
    · rw [List.getElem?_append_left hlt] at he
      exact h.stage call e he
    · have hunwritten : call ∉ written.map (·.call) := by
        intro hmem
        obtain ⟨s, hs, rfl⟩ := List.mem_map.mp hmem
        obtain ⟨e', he', -⟩ := Option.map_eq_some_iff.mp (h.written_request s hs)
        exact hlt (List.getElem?_eq_some_iff.mp he').1
      rw [List.getElem?_append_right (Nat.le_of_not_lt hlt)] at he
      obtain rfl := List.mem_singleton.mp (List.mem_of_getElem? he)
      exact .starting hunwritten

/-- **A call leaves its id.** -/
theorem register (h : CallsAgree calls waiting written came) {call : Nat} {e : Exchange}
    (he : calls[call]? = some e) (hjoined : e.phase = .joined 0) {callId : UInt64}
    (hfresh : callId ∉ waiting.map (·.1)) :
    CallsAgree (calls.modify call fun e => { e with phase := .writing 0 callId .awaited })
      ((callId, call) :: waiting) written came := by
  have hstage := h.stage call e he
  rw [hjoined] at hstage
  cases hstage with
  | joined unwritten =>
    have hgone (callId' : UInt64) : (callId', call) ∉ waiting := by
      intro hmem
      have hawaiting := h.awaiting_of_mem he hmem
      rw [hjoined] at hawaiting
      exact not_isAwaiting_joined hawaiting
    refine h.change he rfl .nothing (List.nodup_cons.mpr ⟨hfresh, h.waiting_nodup⟩)
      (fun x hx => ?_) (fun callId' hmem => ?_) (fun _ hp => hp)
      (fun _ hp => .inl ⟨hp, fun hrun => unwritten hrun.call_mem⟩)
      (.writing unwritten List.mem_cons_self)
    · rw [List.mem_cons]
      exact or_iff_right fun heq => hx (congrArg Prod.snd heq)
    · obtain heq | hmem := List.mem_cons.mp hmem
      · obtain ⟨rfl, -⟩ := Prod.mk.inj heq
        exact .inl rfl
      · exact absurd hmem (hgone callId')

/-- **A call writes its request.** -/
theorem write (h : CallsAgree calls waiting written came) {call : Nat} {e : Exchange}
    (he : calls[call]? = some e) {callId : UInt64}
    (hwriting : e.phase = .writing 0 callId .awaited) :
    CallsAgree (calls.modify call fun e => { e with phase := .waiting 0 callId .awaited }) waiting
      (written ++ [⟨call, callId, e.request⟩]) came := by
  have hstage := h.stage call e he
  rw [hwriting] at hstage
  cases hstage with
  | writing unwritten left =>
    have hwritten : (⟨call, callId, e.request⟩ : Sent) ∈ written ++ [⟨call, callId, e.request⟩] :=
      List.mem_append_right _ (List.mem_singleton.mpr rfl)
    refine h.change he rfl (.request callId unwritten) h.waiting_nodup (fun _ _ => Iff.rfl) ?_
      (fun _ hp => hp) (fun _ hp => .inl ⟨hp, fun hrun => unwritten hrun.call_mem⟩)
      (.waiting hwritten left)
    intro callId' hmem
    obtain rfl := (h.awaiting_of_mem he hmem).callId_eq (.inl hwriting)
    exact .inr rfl

/-- **The call of a run waits for its reply** until that has come. -/
theorem awaits (h : CallsAgree calls waiting written came) {task : Server.Task} {call : Nat}
    (hrun : IsRunOf written task call) (hnew : task ∉ came.map (·.task)) :
    ∃ e, calls[call]? = some e ∧ e.phase = .waiting 0 task.callId .awaited
      ∧ e.request = task.request ∧ (task.callId, call) ∈ waiting := by
  obtain ⟨e, he, hrequest⟩ := Option.map_eq_some_iff.mp (h.written_request _ hrun.mem)
  -- a call that has its reply has the reply to its one run
  have hgone {p : Produced} (hp : p ∈ came) (hrun' : IsRunOf written p.task call) : False := by
    rw [hrun.unique h.written_nodup hrun'] at hnew
    exact hnew (List.mem_map_of_mem hp)
  have hstage := h.stage call e he
  refine ⟨e, he, ?_⟩
  generalize e.phase = phase at hstage ⊢
  cases hstage with
  | starting unwritten => exact absurd hrun.call_mem unwritten
  | joined unwritten => exact absurd hrun.call_mem unwritten
  | writing unwritten _ => exact absurd hrun.call_mem unwritten
  | waiting mem left =>
    have heq := List.inj_on_of_nodup_map h.written_nodup mem hrun.mem rfl
    obtain ⟨-, rfl, -⟩ := Sent.mk.inj heq
    exact ⟨rfl, hrequest, left⟩
  | arrived mem run _ => exact absurd run (hgone mem)
  | finished mem run _ => exact absurd run (hgone mem)

/-- **A reply comes** to the call that its task is a run of. -/
theorem arrive (h : CallsAgree calls waiting written came) {p : Produced} {call : Nat}
    (hrun : IsRunOf written p.task call) (hnew : p.task ∉ came.map (·.task)) :
    waiting.lookup p.task.callId = some call ∧
    CallsAgree
      (calls.modify call fun e => { e with phase := e.phase.learn (.arrived p.answered.envelope) })
      (waiting.filter (·.1 ≠ p.task.callId)) written (came ++ [p]) := by
  obtain ⟨e, he, hphase, hrequest, left⟩ := h.awaits hrun hnew
  -- ids that are waited with differ, so that the id of the reply leads to one call only
  have hunique : ∀ x ∈ waiting, x.1 = p.task.callId → x = (p.task.callId, call) :=
    fun x hx hcallId => List.inj_on_of_nodup_map h.waiting_nodup hx left hcallId
  have hnone (callId : UInt64) : (callId, call) ∉ waiting.filter (·.1 ≠ p.task.callId) := by
    intro hmem
    rw [List.mem_filter, decide_eq_true_iff] at hmem
    exact hmem.2 ((h.awaiting_of_mem he hmem.1).callId_eq (.inr hphase))
  refine ⟨?_, ?_⟩
  · cases hlookup : waiting.lookup p.task.callId with
    | none =>
      have hne := List.lookup_eq_none_iff.mp hlookup _ left
      rw [bne_self_eq_false] at hne
      cases hne
    | some call' =>
      obtain ⟨_, _, hwaiting, -⟩ := List.lookup_eq_some_iff.mp hlookup
      have hmem : (p.task.callId, call') ∈ waiting := by
        rw [hwaiting]
        exact List.mem_append_right _ List.mem_cons_self
      rw [(Prod.mk.inj (hunique _ hmem rfl)).2]
  · refine h.change he rfl .nothing (h.waiting_nodup.sublist (List.filter_sublist.map _))
      (fun x hx => ?_) (fun callId hmem => absurd hmem (hnone callId))
      (fun _ hp => List.mem_append_left _ hp) (fun q hq => ?_) ?_
    · rw [List.mem_filter, decide_eq_true_iff]
      exact and_iff_left_of_imp fun hmem hcallId => hx (congrArg Prod.snd (hunique x hmem hcallId))
    · by_cases hrun' : IsRunOf written q.task call
      · exact .inr ⟨hrun', hnone⟩
      · rcases List.mem_append.mp hq with hold | hlast
        · exact .inl ⟨hold, hrun'⟩
        · rw [List.mem_singleton.mp hlast] at hrun'
          exact absurd hrun hrun'
    · dsimp only
      rw [hphase]
      exact .arrived (List.mem_append_right _ (List.mem_singleton.mpr rfl)) hrun hrequest.symm

/-- **Replies are handed out** one by one, each to the call of its run. -/
theorem route {l : Link} (h : CallsAgree calls l.waiting written came) {ps : List Produced}
    (hruns : ∀ p ∈ ps, ∃ call, IsRunOf written p.task call)
    (hnodup : ((came ++ ps).map (·.task)).Nodup) :
    ∃ waiting' handed calls',
      l.route (ps.map (·.answered.envelope)) = ({ l with waiting := waiting' }, handed)
      ∧ (∀ x ∈ waiting', x ∈ l.waiting) ∧ CallsAgree calls' waiting' written (came ++ ps)
      ∧ ∀ ch : Channel, ch.calls = calls →
        ch.tell (handed.map fun x => (x.1, .arrived x.2)) = { ch with calls := calls' } := by
  induction ps generalizing l calls came with
  | nil =>
    refine ⟨l.waiting, [], calls, rfl, fun _ hx => hx, ?_, fun ch hch => ?_⟩
    · rwa [List.append_nil]
    · rw [← hch]
      rfl
  | cons p ps ih =>
    obtain ⟨call, hrun⟩ := hruns p List.mem_cons_self
    have hnew : p.task ∉ came.map (·.task) := by
      rw [List.map_append] at hnodup
      exact fun hmem => (List.disjoint_of_nodup_append hnodup) hmem List.mem_cons_self
    obtain ⟨hlookup, hcalls⟩ := h.arrive hrun hnew
    rw [List.append_cons] at hnodup
    obtain ⟨waiting', handed, calls', hroute, hsub, hagree, htell⟩ :=
      ih (l := l.forget p.task.callId) hcalls
        (fun q hq => hruns q (List.mem_cons_of_mem p hq)) hnodup
    refine ⟨waiting', (call, p.answered.envelope) :: handed, calls', ?_,
      fun x hx => (List.mem_filter.mp (hsub x hx)).1, ?_, fun ch hch => ?_⟩
    · rw [List.map_cons, Link.route]
      rw [show p.answered.envelope.header.callId = p.task.callId from rfl, hlookup]
      dsimp only
      rw [hroute]
      rfl
    · rwa [List.append_cons]
    · have hrest := htell (ch.changeCall call fun e =>
        { e with phase := e.phase.learn (.arrived p.answered.envelope) }) (by rw [← hch]; rfl)
      exact hrest

/-- **A call finishes** with the reply that has come. -/
theorem finish (h : CallsAgree calls waiting written came) {call link : Nat} {e : Exchange}
    {callId : UInt64} {envelope : Wire.ReplyEnvelope} (he : calls[call]? = some e)
    (harrived : e.phase = .waiting link callId (.arrived envelope)) :
    CallsAgree
      (calls.modify call fun e' => { e' with phase := .finished (envelope.toReply e.request) })
      waiting written came := by
  have hstage := h.stage call e he
  rw [harrived] at hstage
  refine h.move he (fun callId' hawaiting => ?_) ?_
  · rw [harrived] at hawaiting
    exact not_isAwaiting_arrived hawaiting
  · generalize hrequest : e.request = request at hstage ⊢
    cases hstage with
    | @arrived _ p mem run own =>
      rw [p.toReply_eq own]
      exact .finished mem run own

end CallsAgree

end Switchboard.Conversation
