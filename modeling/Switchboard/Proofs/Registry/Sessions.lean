import Mathlib.Data.Set.Insert
import Switchboard.Proofs.Registry.Commands
import Switchboard.Proofs.Registry.Requests

/-!
# Sessions do not influence each other

Many clients use one registry, and each of them only ever names its own
sessions. Whatever the order in which their demands come in, each client is
answered as if it were alone with a new registry, and finds there what it would
have found then (`sessions_independent`). It does not matter what the demands
are: calls, requests that nobody who keeps to the rules would send, or services
and sessions to be taken out.

The reason is one law of a single demand. It keeps to the session it names
(`KeepsTo`): what that session offers decides the answer and what it offers
afterwards, and all other sessions are left alone. A run of many demands is then
the run of those that belong together, with the others left out
(`serveAll_filter`).

An empty name names no session. A registration under it is refused, so that
nothing is ever found there and nothing can be taken out.
-/

namespace Switchboard.Registry

open Wire (Request Reply)

/-! ## Demands -/

/-- **What is demanded of a registry**: what its clients and its owner can do with it, and any
request at all. -/
inductive Demand where
  | operation (op : Operation)
  | request (request : Request)

/-- What comes of a demand. -/
inductive Demand.Answer where
  | outcome (outcome : Outcome)
  | reply (reply : Except TransportError Reply)

/-- The name that an operation gives for a session. -/
def Operation.comId : Operation → Option String
  | exchangeVersion _ => none
  | register comId _ _ => some comId
  | registerEntry comId _ => some comId
  | discover comId => some comId
  | unregister comId _ => some comId
  | evict comId => some comId

/-- **The session that is named**, if one is. -/
def Demand.session : Demand → Option String
  | operation op => op.comId.filter (· ≠ "")
  | request r => Dispatcher.namedComId r

/-- A name that is not empty names a session. -/
theorem filter_of_ne {comId : String} (h : comId ≠ "") :
    (some comId).filter (· ≠ "") = some comId :=
  Option.filter_eq_some_iff.mpr ⟨rfl, decide_eq_true h⟩

section Serving

variable {ι : Type} (version : String) (await : StateM Table (Option (CallResult ByteArray)))

/-- Meets a demand. What is asked of the dispatcher gets the ticket. -/
def Demand.serve (ticket : Nat) : Demand → StateM Table Answer
  | operation op => .outcome <$> op.perform version ticket await
  | request r => .reply <$> (dispatcher version).channel ticket await r

/-- **Meets the demands of any number of clients**, one after the other, and tells which answer is
for whom. Tickets are counted from the given one. -/
def serveAll (ticket : Nat) : List (ι × Demand) → StateM Table (List (ι × Demand.Answer))
  | [] => pure []
  | (client, demand) :: rest => do
    let answer ← demand.serve version await ticket
    return (client, answer) :: (← serveAll (ticket + 1) rest)

end Serving

/-- What belongs to one of many clients. -/
def ofClient {ι α : Type} [DecidableEq ι] (client : ι) (all : List (ι × α)) : List α :=
  (all.filter (·.1 = client)).map (·.2)

/-- **All demands of some clients**, in some order that is that of each client. -/
def IsInterleaving {ι : Type} [DecidableEq ι] (sequences : ι → List Demand)
    (all : List (ι × Demand)) : Prop :=
  ∀ client, ofClient client all = sequences client

/-! ## Programs that keep to a session -/

/-- The locations of a session, by service type. -/
abbrev Offer := List (ServiceType × String)

/-- **A program that keeps to a session**, or to none. -/
structure KeepsTo {α : Type} (session : Option String) (p : StateM Table α) : Prop where
  sound : ∀ {t : Table}, t.IsSound → (p t).2.IsSound
  /-- Other sessions are left alone. -/
  elsewhere : ∀ {t : Table}, t.IsSound → ∀ comId ∉ session, (p t).2.offer comId = t.offer comId
  /-- The answer depends on the session only. -/
  answer_eq : ∀ {t t' : Table}, t.IsSound → t'.IsSound →
    (∀ comId ∈ session, t.offer comId = t'.offer comId) → (p t).1 = (p t').1
  /-- What becomes of the session depends on the session only. -/
  offer_eq : ∀ {t t' : Table}, t.IsSound → t'.IsSound →
    (∀ comId ∈ session, t.offer comId = t'.offer comId) →
    ∀ comId ∈ session, (p t).2.offer comId = (p t').2.offer comId

/-- Nothing is offered under the empty name. -/
theorem Table.IsSound.offer_empty {t : Table} (h : t.IsSound) : t.offer "" = [] := by
  cases hoffer : t.offer "" with
  | nil => rfl
  | cons service rest =>
    have hmem : service.1 ∈ (t.offer "").map (·.1) := by
      rw [hoffer]
      exact List.mem_cons_self
    obtain ⟨location, hlocation⟩ := Option.isSome_iff_exists.mp (Table.mem_types.mp hmem)
    exact absurd rfl (h.named _ location hlocation).1

namespace KeepsTo

variable {α β : Type} {session : Option String} {p : StateM Table α}

/-- A program that says the same to all tables and changes none. -/
theorem pure (session : Option String) (a : α) : KeepsTo session (pure a : StateM Table α) where
  sound h := h
  elsewhere _ _ _ := rfl
  answer_eq _ _ _ := rfl
  offer_eq _ _ h := h

theorem map (f : α → β) (h : KeepsTo session p) : KeepsTo session (f <$> p) where
  sound := h.sound
  elsewhere := h.elsewhere
  answer_eq ht ht' hsame := congrArg f (h.answer_eq ht ht' hsame)
  offer_eq := h.offer_eq

/-- **A program about one session.** Its answer is a function of what the session offers, and so is
what it offers afterwards; without a name there is nothing to begin with, and nothing comes of
it. -/
theorem of_offer {comId : String} (answer : Offer → α) (change : Offer → Offer)
    (hempty : comId = "" → change [] = [])
    (hsound : ∀ {t : Table}, t.IsSound → (p t).2.IsSound)
    (hanswer : ∀ t, (p t).1 = answer (t.offer comId))
    (hoffer : ∀ t other, (p t).2.offer other
      = if other = comId then change (t.offer comId) else t.offer other) :
    KeepsTo ((some comId).filter (· ≠ "")) p := by
  -- under the empty name two sound tables offer the same, named or not
  have hagree {t t' : Table} (ht : t.IsSound) (ht' : t'.IsSound)
      (hsame : ∀ c ∈ (some comId).filter (· ≠ ""), t.offer c = t'.offer c) :
      t.offer comId = t'.offer comId := by
    by_cases hcomId : comId = ""
    · rw [hcomId, ht.offer_empty, ht'.offer_empty]
    · exact hsame comId (filter_of_ne hcomId)
  refine ⟨hsound, fun {t} ht c hc => ?_, fun {t t'} ht ht' hsame => ?_,
    fun {t t'} ht ht' hsame c hc => ?_⟩
  · rw [hoffer]
    split
    · next hsame =>
      subst hsame
      have hcomId : c = "" := by
        by_contra hne
        exact hc (filter_of_ne hne)
      rw [hcomId, ht.offer_empty, hempty hcomId]
    · rfl
  · rw [hanswer, hanswer, hagree ht ht' hsame]
  · rw [hoffer, hoffer, hagree ht ht' hsame, hsame c hc]

end KeepsTo

/-- **Tables that are alike** as far as some sessions go. -/
structure AlikeOn (kind : Set String) (t t' : Table) : Prop where
  sound : t.IsSound
  sound' : t'.IsSound
  offer_eq : ∀ comId ∈ kind, t.offer comId = t'.offer comId

namespace AlikeOn

variable {kind : Set String} {t t' : Table}

theorem refl (kind : Set String) (h : t.IsSound) : AlikeOn kind t t := ⟨h, h, fun _ _ => rfl⟩

/-- A session is known to both or to neither. -/
theorem mem_sessions_iff (h : AlikeOn kind t t') {comId : String} (hcomId : comId ∈ kind) :
    comId ∈ t.sessions ↔ comId ∈ t'.sessions := by
  rw [h.sound.proper.mem_sessions, h.sound'.proper.mem_sessions]
  simp only [← Table.mem_types, h.offer_eq comId hcomId]

/-- **Tables that are alike in all sessions are the same**, to those who use them. -/
theorem same (h : AlikeOn Set.univ t t') :
    t.locations = t'.locations ∧ t.sessions = t'.sessions := by
  refine ⟨funext fun key => ?_, ?_⟩
  · exact congrArg (List.lookup key.2) (h.offer_eq key.1 (Set.mem_univ _))
  · exact h.sound.proper.sortedLT_sessions.eq_of_mem_iff h.sound'.proper.sortedLT_sessions
      fun comId => h.mem_sessions_iff (Set.mem_univ comId)

end AlikeOn

namespace KeepsTo

variable {α : Type} {session : Option String} {p : StateM Table α} {kind : Set String}
  {t t' : Table}

/-- **What is done for one of these sessions** in both tables is answered in the same way and leaves
them alike. -/
theorem alikeOn (hp : KeepsTo session p) (h : AlikeOn kind t t')
    (hnamed : ∀ comId ∈ session, comId ∈ kind) :
    (p t).1 = (p t').1 ∧ AlikeOn kind (p t).2 (p t').2 := by
  have hsame : ∀ comId ∈ session, t.offer comId = t'.offer comId :=
    fun comId hcomId => h.offer_eq comId (hnamed comId hcomId)
  refine ⟨hp.answer_eq h.sound h.sound' hsame, hp.sound h.sound, hp.sound h.sound',
    fun comId hcomId => ?_⟩
  by_cases hsession : comId ∈ session
  · exact hp.offer_eq h.sound h.sound' hsame comId hsession
  · rw [hp.elsewhere h.sound comId hsession, hp.elsewhere h.sound' comId hsession,
      h.offer_eq comId hcomId]

/-- **What is done for other sessions** in one table leaves them alike. -/
theorem alikeOn_of_others (hp : KeepsTo session p) (h : AlikeOn kind t t')
    (hnamed : ∀ comId ∈ session, comId ∉ kind) : AlikeOn kind (p t).2 t' := by
  refine ⟨hp.sound h.sound, h.sound', fun comId hcomId => ?_⟩
  have hsession : comId ∉ session := fun hmem => hnamed comId hmem hcomId
  rw [hp.elsewhere h.sound comId hsession, h.offer_eq comId hcomId]

end KeepsTo

/-! ## Requests keep to their session -/

theorem keepsTo_register {comId location : String} (hcomId : comId ≠ "") (hlocation : location ≠ "")
    (serviceType : ServiceType) : KeepsTo ((some comId).filter (· ≠ ""))
      (fun t => (.ok (), t.register comId serviceType location) :
        StateM Table (CallResult Unit)) :=
  .of_offer (fun _ => .ok ()) (put serviceType location) (fun h => absurd h hcomId)
    (fun h => h.register hcomId hlocation serviceType) (fun _ => rfl)
    (fun t => t.offer_register comId serviceType location)

theorem keepsTo_discover (comId : String) : KeepsTo ((some comId).filter (· ≠ ""))
    (fun t => (t.discover comId, t) : StateM Table (List ServiceInformation)) := by
  refine .of_offer (fun offer => ServiceType.all.filterMap fun serviceType =>
    (offer.lookup serviceType).map (⟨serviceType, ·⟩)) id (fun _ => rfl) id (fun _ => rfl) ?_
  intro t other
  split
  · next h => rw [h, id]
  · rfl

theorem keepsTo_unregister (comId : String) (serviceType : ServiceType) :
    KeepsTo ((some comId).filter (· ≠ "")) (fun t =>
      ((t.location? comId serviceType).isSome, t.unregister comId serviceType) :
        StateM Table Bool) :=
  .of_offer (fun offer => (offer.lookup serviceType).isSome) (without serviceType) (fun _ => rfl)
    (fun h => h.unregister comId serviceType) (fun _ => rfl)
    (fun t => t.offer_unregister comId serviceType)

theorem keepsTo_evict (comId : String) : KeepsTo ((some comId).filter (· ≠ ""))
    (fun t => (t.count comId, t.evict comId) : StateM Table Nat) :=
  .of_offer List.length (fun _ => []) (fun _ => rfl) (fun h => h.evict comId) (fun _ => rfl)
    (fun t => t.offer_evict comId)

/-- A handler that answers at once and keeps to a session is bound as one that does. -/
theorem exists_keepsTo_bindTo {Req Resp : Type} (m : Method Req Resp) {session : Option String}
    (run : String → Req → Table → Table × CallResult Resp) {comId : String} (payload : ByteArray)
    (hrun : ∀ request, KeepsTo session
      (fun t => (run comId request t).swap : StateM Table (CallResult Resp))) :
    ∃ p : StateM Table (CallResult ByteArray), KeepsTo session p ∧ ∀ ticket t,
      (Handler.direct run).bindTo m comId payload ticket t = ((p t).2, .finished (p t).1) := by
  cases hunpack : m.request.unpack? payload with
  | none =>
    refine ⟨_, .pure session (.error (.because .invalidInputParameter
      (Method.complaint "decode" m.kind "request" Method.unreadable))), fun ticket t => ?_⟩
    unfold Handler.bindTo
    rw [hunpack]
    rfl
  | some request =>
    refine ⟨_, (hrun request).map (m.responder 0).answer, fun ticket t => ?_⟩
    rw [Handler.bindTo_of_unpack hunpack]
    rfl

/-- **What is made of a request keeps to its session**, and does not depend on the ticket. -/
theorem exists_keepsTo_handle (version : String) (request : Request) :
    ∃ p : StateM Table (CallResult ByteArray), KeepsTo (Dispatcher.namedComId request) p ∧
      ∀ ticket t, (dispatcher version).handle request ticket t = ((p t).2, .finished (p t).1) := by
  obtain ⟨failure, hfailed⟩ | ⟨comId, hrun⟩ | ⟨comId, hnamed, hcase⟩ := handle_cases version request
  · exact ⟨pure (.error failure), .pure _ _, hfailed⟩
  · simp only [hrun]
    exact exists_keepsTo_bindTo exchangeVersionMethod (fun _ _ t => (t, .ok ⟨version⟩)) _
      fun _ => .pure _ _
  obtain ⟨-, hne⟩ := namedComId_eq_some.mp hnamed
  rw [hnamed, ← filter_of_ne hne]
  obtain ⟨-, hrun⟩ | hrun := hcase
  · simp only [hrun, onRegisterService_acceptRegistration]
    refine exists_keepsTo_bindTo registerServiceMethod _ _ fun entry => ?_
    by_cases hlocation : entry.location = ""
    · simp only [if_pos hlocation]
      exact .pure _ (Except.error (CallFailure.of .invalidInputParameter))
    · simp only [if_neg hlocation]
      exact keepsTo_register hne hlocation (.ofWire entry.serviceType)
  · simp only [hrun]
    exact exists_keepsTo_bindTo discoverMethod
      (fun comId _ t => (t, .ok (Discovered.toListing ⟨comId, t.discover comId⟩))) _
      fun _ => (keepsTo_discover comId).map fun services =>
        Except.ok (Discovered.toListing ⟨comId, services⟩)

section Calls

variable (version : String)

/-- The same over the channel to the registry. Nothing is awaited. -/
theorem exists_keepsTo_channel (request : Request) :
    ∃ p : StateM Table (Except TransportError Reply), KeepsTo (Dispatcher.namedComId request) p ∧
      ∀ ticket await, (dispatcher version).channel ticket await request = p := by
  obtain ⟨p, hp, hhandle⟩ := exists_keepsTo_handle version request
  refine ⟨_, hp.map fun result => .ok (.ofResult result), fun ticket await => ?_⟩
  funext t
  rw [Dispatcher.channel_of_finished await (hhandle ticket t), map_apply]

/-- **A call keeps to the session it is made in**, whatever the call. -/
theorem exists_keepsTo_ask {Req Resp Out : Type} (c : Call Req Resp Out) (comId : String) :
    ∃ p : StateM Table (CallResult Out), KeepsTo ((some comId).filter (· ≠ "")) p ∧
      ∀ ticket await, ask version ticket await c comId = p := by
  by_cases hsend : c.IsSendable comId
  · obtain ⟨request, hprepare, -, hcomId, -, -⟩ := Call.prepare_of_sendable hsend
    obtain ⟨p, hp, hchannel⟩ := exists_keepsTo_channel version request
    have hsession : Dispatcher.namedComId request = (some comId).filter (· ≠ "") := by
      cases hnamed : Dispatcher.namedComId request with
      | none =>
        rw [hnamed, Option.getD_none] at hcomId
        subst hcomId
        rfl
      | some named =>
        rw [hnamed, Option.getD_some] at hcomId
        subst hcomId
        exact (filter_of_ne (namedComId_eq_some.mp hnamed).2).symm
    rw [hsession] at hp
    refine ⟨_, hp.map c.conclude, fun ticket await => ?_⟩
    rw [ask_eq, Call.invoke_of_sent hprepare, hchannel]
  · obtain ⟨failure, -, hprepare⟩ := Call.prepare_of_not_sendable hsend
    refine ⟨_, .pure _ (.error failure), fun ticket await => ?_⟩
    rw [ask_eq, Call.invoke_of_refused hprepare]

/-- **Every demand keeps to its session**, and its ticket makes no difference. -/
theorem Demand.exists_keepsTo_serve (demand : Demand) :
    ∃ p : StateM Table Answer, KeepsTo demand.session p ∧
      ∀ ticket await, demand.serve version await ticket = p := by
  -- what an operation makes of the answer to a call
  have hcall {Req Resp Out : Type} (c : Call Req Resp Out) (comId : String)
      (outcome : CallResult Out → Outcome) :
      ∃ p : StateM Table Answer, KeepsTo ((some comId).filter (· ≠ "")) p ∧ ∀ ticket await,
        Answer.outcome <$> (outcome <$> ask version ticket await c comId) = p := by
    obtain ⟨p, hp, hask⟩ := exists_keepsTo_ask version c comId
    exact ⟨_, (hp.map outcome).map .outcome, fun ticket await => by rw [hask]⟩
  match demand with
  | .request r =>
    obtain ⟨p, hp, hchannel⟩ := exists_keepsTo_channel version r
    refine ⟨_, hp.map .reply, fun ticket await => ?_⟩
    rw [Demand.serve, hchannel]
  | .operation (.exchangeVersion own) => exact hcall (exchangeVersion own) "" .version
  | .operation (.register comId serviceType location) =>
    exact hcall (registerService serviceType location) comId .registered
  | .operation (.registerEntry comId entry) => exact hcall (registerEntry entry) comId .registered
  | .operation (.discover comId) => exact hcall discover comId .discovered
  | .operation (.unregister comId serviceType) =>
    exact ⟨_, ((keepsTo_unregister comId serviceType).map .unregistered).map .outcome,
      fun _ _ => rfl⟩
  | .operation (.evict comId) =>
    exact ⟨_, ((keepsTo_evict comId).map .evicted).map .outcome, fun _ _ => rfl⟩

end Calls

/-! ## Runs -/

section Runs

variable {ι : Type} (version : String) (await : StateM Table (Option (CallResult ByteArray)))

/-- One demand, and those behind it. -/
theorem serveAll_cons (ticket : Nat) (client : ι) (demand : Demand) (rest : List (ι × Demand))
    (t : Table) : serveAll version await ticket ((client, demand) :: rest) t
      = ((client, (demand.serve version await ticket t).1)
          :: (serveAll version await (ticket + 1) rest (demand.serve version await ticket t).2).1,
        (serveAll version await (ticket + 1) rest (demand.serve version await ticket t).2).2) := rfl

/-- **Demands of others make no difference** to the clients that belong together. If these name
sessions of some kind only, and all others name none of that kind, then their answers are those
of a run without the others, and so is what the sessions of that kind offer in the end. -/
theorem serveAll_filter (kind : Set String) {all : List (ι × Demand)} (own : ι → Bool)
    (hown : ∀ step ∈ all, own step.1 = true → ∀ comId ∈ step.2.session, comId ∈ kind)
    (hothers : ∀ step ∈ all, own step.1 = false → ∀ comId ∈ step.2.session, comId ∉ kind) :
    ∀ (ticket ticket' : Nat) {t t' : Table}, AlikeOn kind t t' →
      let run := serveAll version await ticket all t
      let run' := serveAll version await ticket' (all.filter fun step => own step.1) t'
      run.1.filter (fun answer => own answer.1) = run'.1 ∧ AlikeOn kind run.2 run'.2 := by
  induction all with
  | nil => exact fun _ _ _ _ h => ⟨rfl, h⟩
  | cons step rest ih =>
    intro ticket ticket' t t' h
    obtain ⟨client, demand⟩ := step
    have ih := ih (fun s hs => hown s (List.mem_cons_of_mem _ hs))
      fun s hs => hothers s (List.mem_cons_of_mem _ hs)
    obtain ⟨p, hp, hserve⟩ := demand.exists_keepsTo_serve version
    dsimp only
    rw [List.filter_cons, serveAll_cons, hserve, List.filter_cons]
    cases hclient : own client with
    | true =>
      obtain ⟨hanswer, hafter⟩ := hp.alikeOn h (hown _ List.mem_cons_self hclient)
      obtain ⟨hanswers, hend⟩ := ih (ticket + 1) (ticket' + 1) hafter
      rw [if_pos rfl, if_pos rfl, serveAll_cons, hserve, hanswers, hanswer]
      exact ⟨rfl, hend⟩
    | false =>
      have hafter := hp.alikeOn_of_others h (hothers _ List.mem_cons_self hclient)
      rw [if_neg Bool.false_ne_true, if_neg Bool.false_ne_true]
      exact ih (ticket + 1) ticket' hafter

/-! ## Interleavings -/

variable [DecidableEq ι] {sequences : ι → List Demand} {all : List (ι × Demand)}

/-- The steps of a client, with its name on them. -/
theorem filter_eq_map_ofClient {α : Type} (client : ι) (all : List (ι × α)) :
    all.filter (fun step => decide (step.1 = client)) = (ofClient client all).map (client, ·) := by
  rw [ofClient, List.map_map]
  refine (List.map_id _).symm.trans (List.map_congr_left fun step hstep => ?_)
  rw [List.mem_filter, decide_eq_true_iff] at hstep
  exact Prod.ext hstep.2 rfl

/-- A demand in an interleaving is one of its client's. -/
theorem IsInterleaving.mem (h : IsInterleaving sequences all) {step : ι × Demand}
    (hstep : step ∈ all) : step.2 ∈ sequences step.1 := by
  rw [← h step.1]
  exact List.mem_map.mpr
    ⟨step, List.mem_filter.mpr ⟨hstep, decide_eq_true rfl⟩, rfl⟩

/-- **The answers to a client, and what its sessions offer**, are those of a run of its own demands,
if no one else names its sessions. -/
theorem IsInterleaving.alone {owns : ι → Set String}
    (hdisjoint : ∀ i j, i ≠ j → ∀ comId ∈ owns i, comId ∉ owns j)
    (hnamed : ∀ i, ∀ demand ∈ sequences i, ∀ comId ∈ demand.session, comId ∈ owns i)
    (h : IsInterleaving sequences all) (client : ι) :
    let shared := serveAll version await 0 all .empty
    let alone := serveAll version await 0 ((sequences client).map (client, ·)) .empty
    ofClient client shared.1 = alone.1.map (·.2) ∧ AlikeOn (owns client) shared.2 alone.2 := by
  have hown : ∀ step ∈ all, decide (step.1 = client) = true →
      ∀ comId ∈ step.2.session, comId ∈ owns client := by
    intro step hstep hclient comId hcomId
    rw [← of_decide_eq_true hclient]
    exact hnamed step.1 step.2 (h.mem hstep) comId hcomId
  have hothers : ∀ step ∈ all, decide (step.1 = client) = false →
      ∀ comId ∈ step.2.session, comId ∉ owns client := by
    intro step hstep hclient comId hcomId
    exact hdisjoint _ _ (of_decide_eq_false hclient) comId
      (hnamed step.1 step.2 (h.mem hstep) comId hcomId)
  obtain ⟨hanswers, halike⟩ := serveAll_filter version await (owns client)
    (fun i => decide (i = client)) hown hothers 0 0 (.refl _ Table.isSound_empty)
  rw [filter_eq_map_ofClient client all, h client] at hanswers halike
  refine ⟨?_, halike⟩
  rw [ofClient, hanswers]

omit [DecidableEq ι] in
/-- A table stays sound, and offers nothing in a session that nobody names. -/
theorem serveAll_of_not_named (all : List (ι × Demand)) :
    (serveAll version await 0 all .empty).2.IsSound ∧
      ∀ comId, (∀ step ∈ all, comId ∉ step.2.session) →
        (serveAll version await 0 all .empty).2.offer comId = [] := by
  have hempty : all.filter (fun _ => false) = [] :=
    List.filter_eq_nil_iff.mpr fun _ _ => Bool.false_ne_true
  -- a run in which everybody is left out
  obtain ⟨-, halike⟩ := serveAll_filter version await
    {comId | ∀ step ∈ all, comId ∉ step.2.session} (fun _ => false)
    (fun _ _ hfalse => absurd hfalse Bool.false_ne_true)
    (fun step hstep _ comId hcomId hmem => hmem step hstep hcomId) 0 0
    (.refl _ Table.isSound_empty)
  rw [hempty] at halike
  exact ⟨halike.sound, halike.offer_eq⟩

end Runs

/-- **Sessions do not influence each other.** Let each client name its own sessions only, and let
no session have two owners. Then, however their demands are interleaved, every client is answered
as if it were alone with a new registry, and its sessions offer in the end what they would have
offered then. So all interleavings end in the same table. -/
theorem sessions_independent {ι : Type} [DecidableEq ι] (version : String)
    (await : StateM Table (Option (CallResult ByteArray))) (owns : ι → Set String)
    (hdisjoint : ∀ i j, i ≠ j → ∀ comId ∈ owns i, comId ∉ owns j) (sequences : ι → List Demand)
    (hnamed : ∀ i, ∀ demand ∈ sequences i, ∀ comId ∈ demand.session, comId ∈ owns i)
    (all : List (ι × Demand)) (hall : IsInterleaving sequences all) :
    let shared := serveAll version await 0 all .empty
    (∀ client,
      let alone := serveAll version await 0 ((sequences client).map (client, ·)) .empty
      ofClient client shared.1 = alone.1.map (·.2)
      ∧ ∀ comId ∈ owns client, shared.2.offer comId = alone.2.offer comId
        ∧ (comId ∈ shared.2.sessions ↔ comId ∈ alone.2.sessions))
    ∧ ∀ other : List (ι × Demand), IsInterleaving sequences other →
      let shared' := serveAll version await 0 other .empty
      shared.2.locations = shared'.2.locations ∧ shared.2.sessions = shared'.2.sessions := by
  have halone (all : List (ι × Demand)) (hall : IsInterleaving sequences all) (client : ι) :=
    hall.alone version await hdisjoint hnamed client
  refine ⟨fun client => ?_, fun other hother => ?_⟩
  · obtain ⟨hanswers, halike⟩ := halone all hall client
    exact ⟨hanswers, fun comId hcomId => ⟨halike.offer_eq comId hcomId,
      halike.mem_sessions_iff hcomId⟩⟩
  · obtain ⟨hsound, hnothing⟩ := serveAll_of_not_named version await all
    obtain ⟨hsound', hnothing'⟩ := serveAll_of_not_named version await other
    refine AlikeOn.same ⟨hsound, hsound', fun comId _ => ?_⟩
    -- a session without an owner is named by nobody, so it offers nothing in either order
    by_cases howner : ∃ client, comId ∈ owns client
    · obtain ⟨client, hcomId⟩ := howner
      rw [(halone all hall client).2.offer_eq comId hcomId,
        (halone other hother client).2.offer_eq comId hcomId]
    · have hnobody {all : List (ι × Demand)} (hall : IsInterleaving sequences all) :
          ∀ step ∈ all, comId ∉ step.2.session :=
        fun step hstep hcomId => howner ⟨step.1, hnamed _ _ (hall.mem hstep) comId hcomId⟩
      rw [hnothing comId (hnobody hall), hnothing' comId (hnobody hother)]

/-! ## Two clients -/

/-- A client that registers a service, asks for it and leaves, and one that first sends something
that is no registration. -/
def twoSequences : Bool → List Demand
  | false => [.operation (.register "a" .chatIn "unix:///a"), .operation (.discover "a"),
      .operation (.evict "a")]
  | true => [.request ⟨some "b", 2, "no entry".toUTF8⟩,
      .operation (.register "b" .chatIn "unix:///b"), .operation (.unregister "b" .image)]

/-- Their demands, crossed. -/
def crossedSequences : List (Bool × Demand) :=
  [(true, .request ⟨some "b", 2, "no entry".toUTF8⟩),
    (false, .operation (.register "a" .chatIn "unix:///a")),
    (true, .operation (.register "b" .chatIn "unix:///b")),
    (false, .operation (.discover "a")),
    (false, .operation (.evict "a")),
    (true, .operation (.unregister "b" .image))]

theorem sessions_independent_crossed :
    let owns (client : Bool) : Set String := {if client then "b" else "a"}
    (∀ i j, i ≠ j → ∀ comId ∈ owns i, comId ∉ owns j)
    ∧ (∀ i, ∀ demand ∈ twoSequences i, ∀ comId ∈ demand.session, comId ∈ owns i)
    ∧ IsInterleaving twoSequences crossedSequences
    ∧ ofClient false (serveAll "7.5" (pure none) 0 crossedSequences .empty).1
      = (serveAll "7.5" (pure none) 0 ((twoSequences false).map (false, ·)) .empty).1.map (·.2) := by
  intro owns
  have hdisjoint : ∀ i j, i ≠ j → ∀ comId ∈ owns i, comId ∉ owns j := by
    rintro i j hne comId rfl hsame
    revert i j
    decide
  have hnamed : ∀ i, ∀ demand ∈ twoSequences i, ∀ comId ∈ demand.session, comId ∈ owns i := by
    have hown : ∀ i, ∀ demand ∈ twoSequences i,
        demand.session = some (if i then "b" else "a") := by
      rintro (_ | _) <;> decide
    rintro i demand hdemand comId hcomId
    rw [hown i demand hdemand] at hcomId
    exact (Option.some_inj.mp hcomId).symm
  have hall : IsInterleaving twoSequences crossedSequences := by
    rintro (_ | _) <;> rfl
  exact ⟨hdisjoint, hnamed, hall,
    ((sessions_independent "7.5" (pure none) owns hdisjoint twoSequences hnamed crossedSequences
      hall).1 false).1⟩

end Switchboard.Registry
