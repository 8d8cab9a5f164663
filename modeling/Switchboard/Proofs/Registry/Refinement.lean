import Mathlib.Data.List.Induction
import Switchboard.Client.Basic
import Switchboard.Proofs.Dispatch.Call
import Switchboard.Proofs.Registry.Table
import Switchboard.Registry.Service

/-!
# A registry is a map to those who use it

Clients that are bound to a registry tell it their versions, register services
and ask for them; its owner takes services and sessions out of the table. All
that they do are `Operation`s, one after the other in whatever order.

Beside the table stands a map from sessions and service types to locations,
which an operation changes as its name says (`Operation.refer`). The two are
never apart, and every operation is answered from the map
(`Operation.IsAnswered`), although what a client says reaches the table as JSON
and by number, and comes back in the same way.
-/

namespace Switchboard.Registry

/-- **What is done with a registry**: the calls of its clients, one of them by number, and
what its owner does with the table. -/
inductive Operation where
  | exchangeVersion (version : String)
  | register (comId : String) (serviceType : ServiceType) (location : String)
  /-- A registration by number, made without the checks of a client. -/
  | registerEntry (comId : String) (entry : Entry)
  | discover (comId : String)
  | unregister (comId : String) (serviceType : ServiceType)
  | evict (comId : String)
deriving Repr, Inhabited

/-- **What comes of an operation.** -/
inductive Outcome where
  | version (result : CallResult String)
  | registered (result : CallResult Unit)
  | discovered (result : CallResult Discovered)
  /-- Whether the service was there. -/
  | unregistered (was : Bool)
  /-- How many services there were. -/
  | evicted (count : Nat)

section Calls

variable (version : String) (ticket : Nat) (await : StateM Table (Option (CallResult ByteArray)))

/-- A client that is bound to a registry. All of them are alike. -/
def boundClient : Client (ChannelIn (StateM Table)) :=
  Client.bindTo { service := .registration } ((dispatcher version).channel ticket await)

/-- **A call to a registry**, made by a client that is bound to it. -/
def ask {Req Resp Out : Type} (c : Call Req Resp Out) (comId : String) :
    StateM Table (CallResult Out) :=
  c.invoke (boundClient version ticket await).channel comId

/-- **Does an operation.** A call gets the ticket, and may await what it likes. -/
def Operation.perform : Operation → StateM Table Outcome
  | exchangeVersion own =>
    .version <$> ask version ticket await (Registry.exchangeVersion own) ""
  | register comId serviceType location =>
    .registered <$> ask version ticket await (registerService serviceType location) comId
  | registerEntry comId entry =>
    .registered <$> ask version ticket await (Registry.registerEntry entry) comId
  | discover comId => .discovered <$> ask version ticket await Registry.discover comId
  | unregister comId serviceType => modifyGet fun t =>
    (.unregistered (t.location? comId serviceType).isSome, t.unregister comId serviceType)
  | evict comId => modifyGet fun t => (.evicted (t.count comId), t.evict comId)

/-! ## What the table makes of a call -/

variable {version ticket await} {comId : String}

theorem ask_eq {Req Resp Out : Type} (c : Call Req Resp Out) :
    ask version ticket await c comId
      = c.invoke (some ((dispatcher version).channel ticket await)) comId :=
  rfl

/-- A call that is not acceptable does not reach the table. -/
theorem ask_of_unacceptable {Req Resp Out : Type} {c : Call Req Resp Out}
    (h : (c.method.kind.needsComId = true ∧ comId = "") ∨ c.accepts c.request = false)
    (t : Table) :
    ask version ticket await c comId t = (.error (.of .invalidInputParameter), t) := by
  rw [ask_eq, Call.invoke_of_refused (Call.prepare_of_unacceptable h)]
  rfl

theorem ask_exchangeVersion (own : String) (t : Table) :
    ask version ticket await (exchangeVersion own) "" t = (.ok version, t) := by
  have hsend : (exchangeVersion own).IsSendable "" := ⟨nofun, rfl, _, rfl⟩
  have hbound : (dispatcher version).binding? exchangeVersionMethod.kind = some
      ((Handler.direct fun _ _ t => (t, .ok ⟨version⟩)).bindTo exchangeVersionMethod) := rfl
  rw [ask_eq, Call.invoke_direct hsend rfl (Packing.isLawful_json VersionMessage) hbound,
    Call.report_ok _ _ (Packing.isLawful_json VersionMessage) rfl]
  rfl

/-- The handler of registrations, in terms of entries. -/
theorem onRegisterService_acceptRegistration :
    onRegisterService acceptRegistration = .direct fun comId entry t =>
      if entry.location = "" then (t, .error (.of .invalidInputParameter))
      else (t.register comId (.ofWire entry.serviceType) entry.location, .ok ()) := by
  rw [onRegisterService, acceptRegistration, Handler.adapt_direct]
  refine congrArg Handler.direct (funext fun comId => funext fun entry => funext fun t => ?_)
  have hsame : entry.toInformation.location = entry.location := rfl
  rw [hsame]
  by_cases hlocation : entry.location = ""
  · rw [if_pos hlocation, if_pos hlocation]
    rfl
  · rw [if_neg hlocation, if_neg hlocation]
    rfl

/-- **A registration by number** is taken unless it has no session or no location. -/
theorem ask_registerEntry (entry : Entry) (t : Table) :
    ask version ticket await (registerEntry entry) comId t =
      if comId = "" ∨ entry.location = "" then (.error (.of .invalidInputParameter), t)
      else (.ok (), t.register comId (.ofWire entry.serviceType) entry.location) := by
  by_cases hcomId : comId = ""
  · rw [if_pos (.inl hcomId), ask_of_unacceptable (.inl ⟨rfl, hcomId⟩)]
  have hsend : (registerEntry entry).IsSendable comId := ⟨fun _ => hcomId, rfl, _, rfl⟩
  have hbound : (dispatcher version).binding? registerServiceMethod.kind
      = some ((onRegisterService acceptRegistration).bindTo registerServiceMethod) := rfl
  rw [onRegisterService_acceptRegistration] at hbound
  have hrequest : (registerEntry entry).request = entry := rfl
  rw [ask_eq, Call.invoke_direct hsend rfl (Packing.isLawful_json Entry) hbound, hrequest]
  by_cases hlocation : entry.location = ""
  · rw [if_pos hlocation, if_pos (.inr hlocation),
      Call.report_error _ _ (FailureKind.defaultMessage_ne_empty .invalidInputParameter)]
  · rw [if_neg hlocation, if_neg (not_or.mpr ⟨hcomId, hlocation⟩),
      Call.report_ok _ _ (Packing.isLawful_json Unit) rfl]
    rfl

theorem Entry.isComplete_iff {entry : Entry} :
    entry.isComplete = true
      ↔ entry.location ≠ "" ∧ ServiceType.ofWire entry.serviceType ≠ .unknown := by
  unfold isComplete
  rw [Bool.and_eq_true, decide_eq_true_iff, decide_eq_true_iff]

/-- A client that finds nothing wrong with a registration makes it by number. -/
theorem ask_registerService_of_isComplete {serviceType : ServiceType} {location : String}
    (h : Entry.isComplete ⟨serviceType.toWire, location⟩ = true) :
    ask version ticket await (registerService serviceType location) comId
      = ask version ticket await (registerEntry ⟨serviceType.toWire, location⟩) comId := by
  have hprepare : (registerService serviceType location).prepare comId
      = (registerEntry ⟨serviceType.toWire, location⟩).prepare comId := by
    have haccepts : (registerService serviceType location).accepts
      (registerService serviceType location).request = true := h
    unfold Call.prepare
    rw [haccepts]
    rfl
  unfold ask Call.invoke Call.on
  rw [hprepare]
  rfl

/-- **A registration** is taken unless it has no session, no known type or no location. -/
theorem ask_registerService (serviceType : ServiceType) (location : String) (t : Table) :
    ask version ticket await (registerService serviceType location) comId t =
      if comId = "" ∨ serviceType = .unknown ∨ location = ""
      then (.error (.of .invalidInputParameter), t)
      else (.ok (), t.register comId serviceType location) := by
  by_cases hcomplete : Entry.isComplete ⟨serviceType.toWire, location⟩ = true
  · obtain ⟨hlocation, htype⟩ := Entry.isComplete_iff.mp hcomplete
    rw [ServiceType.ofWire_toWire] at htype
    rw [ask_registerService_of_isComplete hcomplete, ask_registerEntry,
      ServiceType.ofWire_toWire]
    simp only [htype, false_or]
  · have hbad : serviceType = .unknown ∨ location = "" := by
      by_contra hgood
      obtain ⟨htype, hlocation⟩ := not_or.mp hgood
      exact hcomplete (Entry.isComplete_iff.mpr
        ⟨hlocation, by rwa [ServiceType.ofWire_toWire]⟩)
    rw [if_pos (.inr hbad), ask_of_unacceptable (.inr (eq_false_of_ne_true hcomplete))]

/-- **A question about a session** is answered from the table. -/
theorem ask_discover (t : Table) :
    ask version ticket await discover comId t =
      if comId = "" then (.error (.of .invalidInputParameter), t)
      else (.ok ⟨comId, t.discover comId⟩, t) := by
  by_cases hcomId : comId = ""
  · rw [if_pos hcomId, ask_of_unacceptable (.inl ⟨rfl, hcomId⟩)]
  have hsend : discover.IsSendable comId := ⟨fun _ => hcomId, rfl, _, rfl⟩
  have hbound : (dispatcher version).binding? discoverMethod.kind = some
      ((Handler.direct fun comId _ t =>
        (t, .ok (Discovered.toListing ⟨comId, t.discover comId⟩))).bindTo discoverMethod) := rfl
  rw [ask_eq, Call.invoke_direct hsend rfl (Packing.isLawful_json Unit) hbound,
    Call.report_ok _ _ (Packing.isLawful_json Listing) rfl, if_neg hcomId]
  show (Except.ok (Discovered.toListing ⟨comId, t.discover comId⟩).toDiscovered, t) = _
  rw [toDiscovered_toListing]

end Calls

/-! ## The map beside the table -/

/-- **What an operation does to the map.** An operation that fails does nothing. -/
def Operation.refer (M : Locations) : Operation → Locations
  | exchangeVersion _ => M
  | register comId serviceType location =>
    if comId = "" ∨ serviceType = .unknown ∨ location = "" then M
    else Function.update M (comId, serviceType) (some location)
  | registerEntry comId entry =>
    if comId = "" ∨ entry.location = "" then M
    else Function.update M (comId, .ofWire entry.serviceType) (some entry.location)
  | discover _ => M
  | unregister comId serviceType => Function.update M (comId, serviceType) none
  | evict comId => fun key => if key.1 = comId then none else M key

/-- **What is discovered is what the map has** for a session: every service once, in the
order of the types, and each where it is looked for. -/
structure Discovered.IsOf (M : Locations) (comId : String) (d : Discovered) : Prop where
  communicationId : d.communicationId = comId
  mem_services : ∀ s, s ∈ d.services ↔ M (comId, s.serviceType) = some s.location
  ascending : d.services.Pairwise fun s s' => s.serviceType.rank < s'.serviceType.rank
  locationOf : ∀ serviceType, d.locationOf serviceType = M (comId, serviceType)

/-- **How an operation is answered** by a registry of a version, given the map. -/
def Operation.IsAnswered (version : String) (M : Locations) : Operation → Outcome → Prop
  | exchangeVersion _, .version result => result = .ok version
  | register comId serviceType location, .registered result =>
    result = if comId = "" ∨ serviceType = .unknown ∨ location = ""
      then .error (.of .invalidInputParameter) else .ok ()
  | registerEntry comId entry, .registered result =>
    result = if comId = "" ∨ entry.location = ""
      then .error (.of .invalidInputParameter) else .ok ()
  | discover comId, .discovered result =>
    if comId = "" then result = .error (.of .invalidInputParameter)
    else ∃ d : Discovered, result = .ok d ∧ d.IsOf M comId
  | unregister comId serviceType, .unregistered was => was = (M (comId, serviceType)).isSome
  | evict comId, .evicted count =>
    count = ServiceType.all.countP fun serviceType => (M (comId, serviceType)).isSome
  | _, _ => False

section Run

variable {version : String} {ticket : Nat} {await : StateM Table (Option (CallResult ByteArray))}
  {t : Table} {M : Locations}

/-- A registration that is refused in some cases. -/
theorem Table.Follows.register_unless (h : t.Follows M) (comId : String)
    (serviceType : ServiceType) (location : String) {bad : Prop} [Decidable bad]
    {failure : CallFailure} :
    let after : CallResult Unit × Table :=
      if bad then (.error failure, t) else (.ok (), t.register comId serviceType location)
    after.1 = (if bad then .error failure else .ok ()) ∧ after.2.Follows
      (if bad then M else Function.update M (comId, serviceType) (some location)) := by
  by_cases hbad : bad
  · simp only [if_pos hbad]
    exact ⟨trivial, h⟩
  · simp only [if_neg hbad]
    exact ⟨trivial, h.register comId serviceType location⟩

theorem Table.Follows.isOf_discover (h : t.Follows M) (comId : String) :
    (⟨comId, t.discover comId⟩ : Discovered).IsOf M comId := by
  obtain ⟨rfl, -⟩ := h
  exact ⟨rfl, fun _ => mem_discover, pairwise_discover, locationOf_discover⟩

/-- **One operation**: it is answered from the map, and the table stands for the map after it
as well. -/
theorem Operation.perform_follows (h : t.Follows M) (op : Operation) :
    op.IsAnswered version M (op.perform version ticket await t).1
      ∧ (op.perform version ticket await t).2.Follows (op.refer M) := by
  cases op with
  | exchangeVersion own =>
    have hperform : (exchangeVersion own).perform version ticket await t
        = (.version _, _) := map_apply ..
    rw [hperform, ask_exchangeVersion]
    exact ⟨rfl, h⟩
  | register comId serviceType location =>
    have hperform : (register comId serviceType location).perform version ticket await t
        = (.registered _, _) := map_apply ..
    rw [hperform, ask_registerService]
    exact h.register_unless comId serviceType location
  | registerEntry comId entry =>
    have hperform : (registerEntry comId entry).perform version ticket await t
        = (.registered _, _) := map_apply ..
    rw [hperform, ask_registerEntry]
    exact h.register_unless comId (.ofWire entry.serviceType) entry.location
  | discover comId =>
    have hperform : (discover comId).perform version ticket await t
        = (.discovered _, _) := map_apply ..
    rw [hperform, ask_discover]
    by_cases hcomId : comId = ""
    · rw [if_pos hcomId]
      refine ⟨?_, h⟩
      rw [IsAnswered, if_pos hcomId]
    · rw [if_neg hcomId]
      refine ⟨?_, h⟩
      rw [IsAnswered, if_neg hcomId]
      exact ⟨_, rfl, h.isOf_discover comId⟩
  | unregister comId serviceType =>
    exact ⟨congrArg Option.isSome (congrFun h.locations_eq (comId, serviceType)),
      h.unregister comId serviceType⟩
  | evict comId => exact ⟨h.count_eq comId, h.evict comId⟩

variable (version await)

/-- The table of a registry that was new before these operations, each with its ticket. -/
def tableAfter (done : List (Nat × Operation)) : Table :=
  done.foldl (fun t step => (step.2.perform version step.1 await t).2) .empty

/-- The map after these operations, if it was empty before. -/
def mapAfter (done : List (Nat × Operation)) : Locations :=
  done.foldl (fun M step => step.2.refer M) fun _ => none

/-- **Any number of operations**: the table stands for the map all the time. -/
theorem tableAfter_follows (done : List (Nat × Operation)) :
    (tableAfter version await done).Follows (mapAfter done) := by
  induction done using List.reverseRecOn with
  | nil => exact Table.follows_empty
  | append_singleton done step ih =>
    unfold tableAfter mapAfter
    rw [List.foldl_append, List.foldl_append]
    exact (step.2.perform_follows ih).2

end Run

/-- **A registry behaves as a map in which the last to write wins.** After any operations, by
however many clients, the next one is answered from the map that they have made, and the table
is this map. Numbers of no type share the place of the unknown one. -/
theorem answers_as_map (version : String) (await : StateM Table (Option (CallResult ByteArray)))
    (done : List (Nat × Operation)) (ticket : Nat) (op : Operation) :
    op.IsAnswered version (mapAfter done)
        (op.perform version ticket await (tableAfter version await done)).1
      ∧ (tableAfter version await done).locations = mapAfter done
      ∧ (∀ serviceType : ServiceType, ServiceType.ofWire serviceType.toWire = serviceType)
      ∧ ∀ n, (∀ serviceType : ServiceType, serviceType.toWire ≠ n) →
        ServiceType.ofWire n = .unknown := by
  obtain ⟨hlocations, hproper⟩ := tableAfter_follows version await done
  exact ⟨(op.perform_follows ⟨hlocations, hproper⟩).1, hlocations, ServiceType.ofWire_toWire,
    fun _ => ServiceType.ofWire_of_forall_ne⟩

end Switchboard.Registry
