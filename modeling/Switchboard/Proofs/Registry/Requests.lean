import Switchboard.Proofs.Registry.Refinement

/-!
# What requests do to a registry

Whoever reaches a registry can send it any request, for any function and with
any payload. Only one kind of request changes the table, and in one way: a
registration that names a session and has a location (`Registers`). It is
decided in several places whether a request is one: by the number of the
function, the session, the payload, and last by the handler. Every other
request is answered and leaves the table as it was, and so does every request
that is answered with a failure (`changes_by_registration_only`).

Hence a table never holds a session without a name or a service without a
location, and it is proper whatever its owner takes out of it
(`Table.IsSound`).
-/

namespace Switchboard

/-- **The cases of a request**: it is refused, or the handler that is bound to its method runs. -/
theorem Dispatcher.handle_cases {σ : Type} (d : Dispatcher σ) (request : Wire.Request) :
    (∃ failure, ∀ ticket s, d.handle request ticket s = (s, .finished (.error failure))) ∨
    ∃ kind run, MethodKind.find? d.methods request.functionId = some kind
      ∧ ¬ (kind.needsComId = true ∧ namedComId request = none) ∧ d.binding? kind = some run
      ∧ ∀ ticket s, d.handle request ticket s
          = run ((namedComId request).getD "") request.payload ticket s := by
  cases hfind : MethodKind.find? d.methods request.functionId with
  | none =>
    refine .inl ⟨.of .noCallbackRegistered, fun ticket s => ?_⟩
    unfold handle
    rw [hfind]
  | some kind =>
    by_cases hcomId : kind.needsComId = true ∧ namedComId request = none
    · refine .inl ⟨.of .noComId, fun ticket s => ?_⟩
      unfold handle
      rw [hfind]
      dsimp only
      rw [if_pos hcomId]
    · cases hbinding : d.binding? kind with
      | none => exact .inl ⟨_, handle_unbound hfind hcomId hbinding⟩
      | some run =>
        exact .inr ⟨kind, run, rfl, hcomId, hbinding, handle_bound hfind hcomId hbinding⟩

/-- A handler that answers at once has answered when it returns, if it is run at all. -/
theorem Handler.bindTo_direct {σ Req Resp : Type} (m : Method Req Resp)
    (run : String → Req → σ → σ × CallResult Resp) (comId : String) (payload : ByteArray)
    (ticket : Nat) (s : σ) :
    ∃ result, (direct run).bindTo m comId payload ticket s =
      (((m.request.unpack? payload).map fun request => (run comId request s).1).getD s,
        .finished result) := by
  unfold bindTo
  cases m.request.unpack? payload with
  | none => exact ⟨_, rfl⟩
  | some request => exact ⟨_, rfl⟩

/-- A handler that answers at once and changes nothing. -/
theorem Handler.bindTo_direct_of_keeps {σ Req Resp : Type} (m : Method Req Resp)
    (answer : String → Req → σ → CallResult Resp) (comId : String) (payload : ByteArray)
    (ticket : Nat) (s : σ) :
    ∃ result, (direct fun comId request s => (s, answer comId request s)).bindTo m comId payload
      ticket s = (s, .finished result) := by
  obtain ⟨result, h⟩ := bindTo_direct m (fun comId request s => (s, answer comId request s)) comId
    payload ticket s
  refine ⟨result, h.trans ?_⟩
  cases m.request.unpack? payload <;> rfl

namespace Registry

open Wire (Request Reply)

/-- **A request that registers** an entry in a session. -/
structure Registers (request : Request) (comId : String) (entry : Entry) : Prop where
  functionId_eq : request.functionId = 2
  comId_eq : request.comId = some comId
  comId_ne : comId ≠ ""
  payload_eq : decode? request.payload.data.toList = some entry
  location_ne : entry.location ≠ ""

/-- The payload `null`. -/
def nullPayload : ByteArray := "null".toUTF8

section Request

variable {version : String} {request : Request} {comId : String} {entry : Entry} {ticket : Nat}
  {t : Table}

/-- The session that is named, if it is not the empty one. -/
theorem namedComId_eq_some :
    Dispatcher.namedComId request = some comId ↔ request.comId = some comId ∧ comId ≠ "" := by
  unfold Dispatcher.namedComId
  rw [Option.filter_eq_some_iff, decide_eq_true_iff]

/-- **What becomes of a request to a registry**: it is refused, or it is for one of the three
methods. The session is named, unless versions are exchanged. -/
theorem handle_cases (version : String) (request : Request) :
    (∃ failure, ∀ ticket t,
      (dispatcher version).handle request ticket t = (t, .finished (.error failure)))
    ∨ (∃ comId, ∀ ticket t, (dispatcher version).handle request ticket t
      = (onExchangeVersion (answerVersion version)).bindTo exchangeVersionMethod comId
          request.payload ticket t)
    ∨ ∃ comId, Dispatcher.namedComId request = some comId
      ∧ ((request.functionId = 2 ∧ ∀ ticket t, (dispatcher version).handle request ticket t
          = (onRegisterService acceptRegistration).bindTo registerServiceMethod comId
              request.payload ticket t)
        ∨ ∀ ticket t, (dispatcher version).handle request ticket t
          = (onDiscover answerDiscover).bindTo discoverMethod comId request.payload ticket t) := by
  obtain hfailed | ⟨kind, run, hfind, hcomId, hbinding, hrun⟩ :=
    (dispatcher version).handle_cases request
  · exact .inl hfailed
  have hmem : kind ∈ methods := List.mem_of_find?_eq_some hfind
  have hfunction : kind.functionId = request.functionId := eq_of_beq (List.find?_some
    (p := fun kind : MethodKind => kind.functionId == request.functionId) hfind)
  have hnamed (hneeds : kind.needsComId = true) :
      ∃ comId, Dispatcher.namedComId request = some comId :=
    Option.ne_none_iff_exists'.mp fun hnone => hcomId ⟨hneeds, hnone⟩
  -- the methods one by one, each with the handler that is bound to it
  rcases List.mem_cons.mp hmem with rfl | hmem
  · obtain rfl : (onExchangeVersion (answerVersion version)).bindTo exchangeVersionMethod = run :=
      Option.some_inj.mp hbinding
    exact .inr (.inl ⟨_, hrun⟩)
  rcases List.mem_cons.mp hmem with rfl | hmem
  · obtain rfl : (onRegisterService acceptRegistration).bindTo registerServiceMethod = run :=
      Option.some_inj.mp hbinding
    obtain ⟨comId, hnamed⟩ := hnamed rfl
    rw [hnamed, Option.getD_some] at hrun
    exact .inr (.inr ⟨comId, hnamed, .inl ⟨hfunction.symm, hrun⟩⟩)
  · obtain rfl := List.mem_singleton.mp hmem
    obtain rfl : (onDiscover answerDiscover).bindTo discoverMethod = run :=
      Option.some_inj.mp hbinding
    obtain ⟨comId, hnamed⟩ := hnamed rfl
    rw [hnamed, Option.getD_some] at hrun
    exact .inr (.inr ⟨comId, hnamed, .inr hrun⟩)

/-- **What becomes of a request for the method of registrations** that names a session. -/
theorem handle_registerService (hfunction : request.functionId = 2)
    (hcomId : Dispatcher.namedComId request = some comId) :
    (dispatcher version).handle request ticket t
      = (onRegisterService acceptRegistration).bindTo registerServiceMethod comId request.payload
          ticket t := by
  have hfind : MethodKind.find? (dispatcher version).methods request.functionId
      = some registerServiceMethod.kind := by
    rw [hfunction]
    rfl
  have hnamed : ¬ (registerServiceMethod.kind.needsComId = true
      ∧ Dispatcher.namedComId request = none) := fun h => by
    rw [hcomId] at h
    exact absurd h.2 (Option.some_ne_none comId)
  have hbinding : (dispatcher version).binding? registerServiceMethod.kind
      = some ((onRegisterService acceptRegistration).bindTo registerServiceMethod) := rfl
  rw [Dispatcher.handle_bound hfind hnamed hbinding, hcomId, Option.getD_some]

/-- **A registration is taken into the table.** -/
theorem Registers.handle_eq (h : Registers request comId entry) :
    (dispatcher version).handle request ticket t
      = (t.register comId (.ofWire entry.serviceType) entry.location,
          .finished (.ok nullPayload)) := by
  rw [handle_registerService h.functionId_eq (namedComId_eq_some.mpr ⟨h.comId_eq, h.comId_ne⟩),
    onRegisterService_acceptRegistration]
  have hunpack : registerServiceMethod.request.unpack? request.payload = some entry := h.payload_eq
  rw [Handler.bindTo_of_unpack hunpack]
  unfold Handler.direct
  dsimp only
  rw [if_neg h.location_ne]
  rfl

/-- **Any other request leaves the table as it was**, and is answered. -/
theorem handle_of_not_registers (h : ∀ comId entry, ¬ Registers request comId entry) :
    ∃ result, (dispatcher version).handle request ticket t = (t, .finished result) := by
  obtain ⟨failure, hfailed⟩ | ⟨comId, hrun⟩ | ⟨comId, hnamed, ⟨hfunction, hrun⟩ | hrun⟩ :=
    handle_cases version request
  · exact ⟨_, hfailed ticket t⟩
  · rw [hrun]
    exact Handler.bindTo_direct_of_keeps exchangeVersionMethod _ comId _ ticket t
  · rw [hrun, onRegisterService_acceptRegistration]
    obtain ⟨result, hresult⟩ := Handler.bindTo_direct registerServiceMethod
      (fun comId (entry : Entry) t =>
        if entry.location = "" then (t, .error (.of .invalidInputParameter))
        else (t.register comId (.ofWire entry.serviceType) entry.location, .ok ()))
      comId request.payload ticket t
    refine ⟨result, hresult.trans ?_⟩
    cases hunpack : registerServiceMethod.request.unpack? request.payload with
    | none => rfl
    | some entry =>
      rw [Option.map_some, Option.getD_some]
      by_cases hlocation : entry.location = ""
      · rw [if_pos hlocation]
      · obtain ⟨hsome, hne⟩ := namedComId_eq_some.mp hnamed
        exact absurd ⟨hfunction, hsome, hne, hunpack, hlocation⟩ (h comId entry)
  · rw [hrun]
    exact Handler.bindTo_direct_of_keeps discoverMethod _ comId _ ticket t

end Request

/-! ## Whatever happens -/

/-- **What happens to a registry**: requests reach it, and its owner takes services out. -/
inductive Event where
  | request (request : Request) (ticket : Nat)
  | unregister (comId : String) (serviceType : ServiceType)
  | evict (comId : String)

/-- What becomes of the table. -/
def Event.apply (version : String) (t : Table) : Event → Table
  | request r ticket => ((dispatcher version).handle r ticket t).1
  | unregister comId serviceType => t.unregister comId serviceType
  | evict comId => t.evict comId

/-- The table of a registry that was new before all this. -/
def tableOf (version : String) (events : List Event) : Table :=
  events.foldl (Event.apply version) .empty

/-- **A proper table in which everything has a name**, sessions and locations alike. -/
structure Table.IsSound (t : Table) : Prop where
  proper : t.IsProper
  named : ∀ key location, t.locations key = some location → key.1 ≠ "" ∧ location ≠ ""

section Events

variable {t : Table} {version : String}

theorem Table.isSound_empty : Table.empty.IsSound := ⟨isProper_empty, nofun⟩

/-- What is found in a map that was changed in one place. -/
theorem Locations.of_update {M : Locations} {key key' : String × ServiceType}
    {location : Option String} {found : String}
    (h : Function.update M key location key' = some found) :
    (key' = key ∧ location = some found) ∨ M key' = some found := by
  rw [Function.update_apply] at h
  split at h
  · next hkey => exact .inl ⟨hkey, h⟩
  · exact .inr h

theorem Table.IsSound.register (h : t.IsSound) {comId location : String} (hcomId : comId ≠ "")
    (hlocation : location ≠ "") (serviceType : ServiceType) :
    (t.register comId serviceType location).IsSound where
  proper := h.proper.register ..
  named key found hfound := by
    rw [Table.locations_register] at hfound
    obtain ⟨rfl, hnew⟩ | hold := Locations.of_update hfound
    · exact ⟨hcomId, Option.some_inj.mp hnew ▸ hlocation⟩
    · exact h.named key found hold

theorem Table.IsSound.unregister (h : t.IsSound) (comId : String) (serviceType : ServiceType) :
    (t.unregister comId serviceType).IsSound where
  proper := h.proper.unregister ..
  named key found hfound := by
    rw [Table.locations_unregister] at hfound
    obtain ⟨-, hnone⟩ | hold := Locations.of_update hfound
    · exact absurd hnone (Option.some_ne_none found).symm
    · exact h.named key found hold

theorem Table.IsSound.evict (h : t.IsSound) (comId : String) : (t.evict comId).IsSound where
  proper := h.proper.evict comId
  named key found hfound := by
    rw [Table.locations_evict] at hfound
    exact h.named key found (Option.ite_none_left_eq_some.mp hfound).2

/-- **A session that is listed offers something**, and has a name. -/
theorem Table.IsSound.session (h : t.IsSound) {comId : String} (hcomId : comId ∈ t.sessions) :
    comId ≠ "" ∧ t.discover comId ≠ [] := by
  obtain ⟨serviceType, hsome⟩ := h.proper.mem_sessions.mp hcomId
  obtain ⟨location, hlocation⟩ := Option.isSome_iff_exists.mp hsome
  have hmem : (⟨serviceType, location⟩ : ServiceInformation) ∈ t.discover comId :=
    Table.mem_discover.mpr hlocation
  exact ⟨(h.named _ location hlocation).1, List.ne_nil_of_mem hmem⟩

/-- **One event** leaves a sound table sound. -/
theorem Event.isSound_apply (h : t.IsSound) (event : Event) : (event.apply version t).IsSound := by
  cases event with
  | request r ticket =>
    show ((dispatcher version).handle r ticket t).1.IsSound
    by_cases hregisters : ∃ comId entry, Registers r comId entry
    · obtain ⟨comId, entry, hregisters⟩ := hregisters
      rw [hregisters.handle_eq]
      exact h.register hregisters.comId_ne hregisters.location_ne _
    · obtain ⟨result, hresult⟩ : ∃ result,
          (dispatcher version).handle r ticket t = (t, .finished result) :=
        handle_of_not_registers fun comId entry hentry => hregisters ⟨comId, entry, hentry⟩
      rw [hresult]
      exact h
  | unregister comId serviceType => exact h.unregister comId serviceType
  | evict comId => exact h.evict comId

theorem isSound_tableOf (version : String) (events : List Event) :
    (tableOf version events).IsSound := by
  unfold tableOf
  induction events using List.reverseRecOn with
  | nil => exact Table.isSound_empty
  | append_singleton events event ih =>
    rw [List.foldl_append]
    exact event.isSound_apply ih

end Events

/-- **Only a registration changes the table of a registry**, and it does so in one place. All other
requests leave the table as it was, and so do those that are answered with a failure. So nothing
without a name is ever in the table, and no session that offers nothing. -/
theorem changes_by_registration_only (version : String) (events : List Event) (request : Request)
    (ticket : Nat) :
    let t := tableOf version events
    ∃ after progress reply,
      (dispatcher version).handle request ticket t = (after, progress)
      ∧ progress.reply? = some reply
      ∧ (∀ comId entry, Registers request comId entry →
        after = t.register comId (.ofWire entry.serviceType) entry.location
        ∧ after.locations = Function.update t.locations (comId, .ofWire entry.serviceType)
          (some entry.location)
        ∧ reply = .ok nullPayload)
      ∧ ((∀ comId entry, ¬ Registers request comId entry) → after = t)
      ∧ (reply.status.outcome.isOk = false → after = t)
      ∧ (∀ comId serviceType location, t.location? comId serviceType = some location →
        comId ≠ "" ∧ location ≠ "")
      ∧ ∀ comId ∈ t.sessions, comId ≠ "" ∧ t.discover comId ≠ [] := by
  intro t
  have hsound : t.IsSound := isSound_tableOf version events
  have hnamed : ∀ comId serviceType location, t.location? comId serviceType = some location →
      comId ≠ "" ∧ location ≠ "" :=
    fun comId serviceType => hsound.named (comId, serviceType)
  by_cases hregisters : ∃ comId entry, Registers request comId entry
  · obtain ⟨comId, entry, hregisters⟩ := hregisters
    refine ⟨_, _, _, hregisters.handle_eq, rfl, fun comId' entry' h' => ?_,
      fun hnone => absurd hregisters (hnone comId entry), nofun, hnamed, fun _ => hsound.session⟩
    -- a request registers one entry at most
    obtain rfl := Option.some_inj.mp (hregisters.comId_eq.symm.trans h'.comId_eq)
    obtain rfl := Option.some_inj.mp (hregisters.payload_eq.symm.trans h'.payload_eq)
    exact ⟨rfl, t.locations_register .., rfl⟩
  · have hnone : ∀ comId entry, ¬ Registers request comId entry :=
      fun comId entry hentry => hregisters ⟨comId, entry, hentry⟩
    obtain ⟨result, hresult⟩ : ∃ result,
        (dispatcher version).handle request ticket t = (t, .finished result) :=
      handle_of_not_registers hnone
    exact ⟨_, _, _, hresult, rfl, fun comId entry hentry => absurd hentry (hnone comId entry),
      fun _ => rfl, fun _ => rfl, hnamed, fun _ => hsound.session⟩

end Registry

end Switchboard
