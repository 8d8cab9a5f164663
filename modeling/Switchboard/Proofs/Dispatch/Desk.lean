import Mathlib.Data.List.Induction
import Mathlib.Data.List.Nodup
import Switchboard.Proofs.Dispatch.Dispatcher

/-!
# A dispatcher in use

A dispatcher is asked to handle requests while handlers are bound to its methods
and bound anew, and while earlier requests still wait for their answers. `Desk`
is a dispatcher with the program that it belongs to and with the requests that it
has been asked to handle, and `Desk.Event` is what can happen to it.

What is to be done about a request is decided when it is looked up, and done some
time later. Nothing that happens in between can change the decision, since it is
made from the dispatcher alone (`Desk.requests_run_decided`). When it is carried
out, a refusal does nothing, and anything else is one run of one handler. From
then on only the responder of that run counts (`Desk.requests_run_acted`), and it
counts once.

`Desk.decides_in_order` says what the decision is, in terms of the handlers that had been
bound before and of nothing else about the past.
-/

namespace Switchboard

open Wire (Request Reply)

/-- **How far a request has come** when it has been answered or not. Only one that waits takes an
answer. -/
def Progress.resolve : Progress → Option (CallResult ByteArray) → Progress
  | .waiting, some result => .finished result
  | progress, _ => progress

@[simp] theorem Progress.resolve_none (p : Progress) : p.resolve none = p := by
  cases p <;> rfl

/-- The first answer is the one that counts. -/
theorem Progress.resolve_resolve (p : Progress) (first second : Option (CallResult ByteArray)) :
    (p.resolve first).resolve second = p.resolve (first.or second) := by
  cases p <;> cases first <;> rfl

/-- **How a request stands.** -/
inductive Standing (σ : Type) where
  /-- It has been decided what to do about it. -/
  | decided (act : σ → σ × Progress)
  /-- That has been done, and the request has come so far. -/
  | acted (progress : Progress)

/-- **A dispatcher in use.** -/
structure Desk (σ : Type) where
  dispatcher : Dispatcher σ
  program : σ
  /-- The requests that have been looked up, by ticket. -/
  requests : List (Standing σ) := []

namespace Desk

variable {σ : Type}

/-- **What can happen.** -/
inductive Event (σ : Type) : Type 1 where
  /-- A handler is to be bound to a method, which may belong to another service. -/
  | bind {Req Resp : Type} (m : Method Req Resp) (h : Handler σ Req Resp)
  /-- A request comes in and is looked up. -/
  | lookup (request : Request)
  /-- What has been decided about a request is done. -/
  | carryOut (ticket : Nat)
  /-- A responder is used for an answer, or given up. -/
  | respond {α : Type} (r : Responder α) (given : Option (CallResult α))
  /-- The program does something of its own. -/
  | proceed (f : σ → σ)

/-- **The desk after something has happened.** Nothing is bound to a method of another service.
What has been decided is done once, and of the uses of a responder the first counts. -/
def step (d : Desk σ) : Event σ → Desk σ
  | .bind m h => { d with dispatcher := (d.dispatcher.bind? m h).getD d.dispatcher }
  | .lookup request =>
    { d with
      requests := d.requests ++ [.decided (d.dispatcher.handle request d.requests.length)] }
  | .carryOut ticket =>
    match d.requests[ticket]? with
    | some (.decided act) =>
      { d with
        program := (act d.program).1
        requests := d.requests.set ticket (.acted (act d.program).2) }
    | _ => d
  | .respond r given =>
    match d.requests[r.ticket]? with
    | some (.acted .waiting) =>
      { d with requests := d.requests.set r.ticket (.acted (.finished (r.close given))) }
    | _ => d
  | .proceed f => { d with program := f d.program }

/-- **The desk after several things have happened**, one after another. -/
def run (d : Desk σ) (events : List (Event σ)) : Desk σ := events.foldl step d

/-- A desk at which nothing has happened. -/
def start (service : ServiceType) (methods : List MethodKind) (program : σ) : Desk σ :=
  ⟨⟨service, methods, []⟩, program, []⟩

@[simp] theorem run_nil (d : Desk σ) : d.run [] = d := rfl

@[simp] theorem run_cons (d : Desk σ) (e : Event σ) (events : List (Event σ)) :
    d.run (e :: events) = (d.step e).run events := rfl

@[simp] theorem run_append (d : Desk σ) (events later : List (Event σ)) :
    d.run (events ++ later) = (d.run events).run later := List.foldl_append

/-! ## The handler that is bound -/

/-- What binds a handler to the method with a number in a service. -/
def Event.Binds (service : ServiceType) (functionId : UInt32) : Event σ → Prop
  | .bind m _ => m.kind.service = service ∧ m.kind.functionId = functionId
  | _ => False

/-- **The handler that was bound last** to the method with a number in a service. -/
def IsLastBound (events : List (Event σ)) (service : ServiceType) (functionId : UInt32)
    {Req Resp : Type} (m : Method Req Resp) (h : Handler σ Req Resp) : Prop :=
  ∃ front back, events = front ++ .bind m h :: back
    ∧ (m.kind.service = service ∧ m.kind.functionId = functionId)
    ∧ ∀ e ∈ back, ¬ e.Binds service functionId

/-- **If anything has been bound to a method, something was bound to it last.** -/
theorem none_or_isLastBound (events : List (Event σ)) (service : ServiceType)
    (functionId : UInt32) :
    (∀ e ∈ events, ¬ e.Binds service functionId)
      ∨ ∃ (Req Resp : Type) (m : Method Req Resp) (h : Handler σ Req Resp),
        IsLastBound events service functionId m h := by
  induction events using List.reverseRecOn with
  | nil => exact .inl nofun
  | append_singleton events e ih =>
    by_cases hbinds : e.Binds service functionId
    · cases e with
      | bind m h => exact .inr ⟨_, _, m, h, events, [], rfl, hbinds, nofun⟩
      | lookup | carryOut | respond | proceed => exact hbinds.elim
    · have he : ∀ e' ∈ [e], ¬ e'.Binds service functionId := by simpa using hbinds
      obtain hnone | ⟨Req, Resp, m, h, front, back, rfl, hkey, hback⟩ := ih
      · exact .inl (List.forall_mem_append.mpr ⟨hnone, he⟩)
      · exact .inr ⟨Req, Resp, m, h, front, back ++ [e], by simp, hkey,
          List.forall_mem_append.mpr ⟨hback, he⟩⟩

/-- Only a binding changes the dispatcher. -/
theorem dispatcher_step (d : Desk σ) (e : Event σ) :
    (d.step e).dispatcher = match e with
      | .bind m h => (d.dispatcher.bind? m h).getD d.dispatcher
      | _ => d.dispatcher := by
  cases e with
  | bind m h => rfl
  | lookup request => rfl
  | carryOut ticket =>
    rw [step]
    split <;> rfl
  | respond r given =>
    rw [step]
    split <;> rfl
  | proceed f => rfl

/-- Service and methods stay. -/
theorem service_step (d : Desk σ) (e : Event σ) :
    (d.step e).dispatcher.service = d.dispatcher.service
      ∧ (d.step e).dispatcher.methods = d.dispatcher.methods := by
  rw [dispatcher_step]
  cases e with
  | bind m h =>
    show ((d.dispatcher.bind? m h).getD d.dispatcher).service = _
      ∧ ((d.dispatcher.bind? m h).getD d.dispatcher).methods = _
    rw [Dispatcher.bind?]
    split <;> exact ⟨rfl, rfl⟩
  | lookup request => exact ⟨rfl, rfl⟩
  | carryOut ticket => exact ⟨rfl, rfl⟩
  | respond r given => exact ⟨rfl, rfl⟩
  | proceed f => exact ⟨rfl, rfl⟩

theorem service_run (d : Desk σ) (events : List (Event σ)) :
    (d.run events).dispatcher.service = d.dispatcher.service
      ∧ (d.run events).dispatcher.methods = d.dispatcher.methods := by
  induction events generalizing d with
  | nil => exact ⟨rfl, rfl⟩
  | cons e events ih =>
    obtain ⟨hservice, hmethods⟩ := ih (d.step e)
    obtain ⟨hservice', hmethods'⟩ := d.service_step e
    exact ⟨hservice.trans hservice', hmethods.trans hmethods'⟩

variable {kind : MethodKind}

/-- What binds nothing to a method leaves what is bound to it. -/
theorem binding?_step (d : Desk σ) {e : Event σ} (h : ¬ e.Binds kind.service kind.functionId) :
    (d.step e).dispatcher.binding? kind = d.dispatcher.binding? kind := by
  rw [dispatcher_step]
  cases e with
  | bind m handler =>
    show ((d.dispatcher.bind? m handler).getD d.dispatcher).binding? kind = _
    rw [Dispatcher.bind?]
    split
    · next own =>
      refine d.dispatcher.binding?_bind_of_ne m handler own fun heq => h ?_
      exact ⟨(congrArg Prod.fst heq).symm, (congrArg Prod.snd heq).symm⟩
    · rfl
  | lookup request => rfl
  | carryOut ticket => rfl
  | respond r given => rfl
  | proceed f => rfl

theorem binding?_run (d : Desk σ) {events : List (Event σ)}
    (h : ∀ e ∈ events, ¬ e.Binds kind.service kind.functionId) :
    (d.run events).dispatcher.binding? kind = d.dispatcher.binding? kind := by
  induction events generalizing d with
  | nil => rfl
  | cons e events ih =>
    obtain ⟨he, hevents⟩ := List.forall_mem_cons.mp h
    rw [run_cons, ih _ hevents, d.binding?_step he]

/-- **The handler that was bound last is bound.** -/
theorem binding?_of_isLastBound (d : Desk σ) {events : List (Event σ)}
    (hservice : kind.service = d.dispatcher.service) {Req Resp : Type} {m : Method Req Resp}
    {h : Handler σ Req Resp} (hlast : IsLastBound events kind.service kind.functionId m h) :
    (d.run events).dispatcher.binding? kind = some (h.bindTo m) := by
  obtain ⟨front, back, rfl, ⟨hkind, hfunction⟩, hback⟩ := hlast
  have hfront : kind.service = (d.run front).dispatcher.service :=
    hservice.trans (d.service_run front).1.symm
  have hown : m.kind.service = (d.run front).dispatcher.service := hkind.trans hfront
  rw [run_append, run_cons, binding?_run _ hback, dispatcher_step]
  show (((d.run front).dispatcher.bind? m h).getD _).binding? kind = _
  rw [Dispatcher.bind?, dif_pos hown, Option.getD_some]
  show ((d.run front).dispatcher.bind m h hown).bindings.lookup (kind.service, kind.functionId) = _
  rw [← hkind, ← hfunction]
  exact (d.run front).dispatcher.binding?_bind_self m h hown

/-! ## What comes of a request -/

/-- What a use of the responder with a ticket makes the result of the call. -/
def Event.answer? (ticket : Nat) : Event σ → Option (CallResult ByteArray)
  | .respond r given => if r.ticket = ticket then some (r.close given) else none
  | _ => none

/-- **The first answer to a request**, among all that happens. -/
def firstAnswer? (ticket : Nat) (events : List (Event σ)) : Option (CallResult ByteArray) :=
  events.findSome? (Event.answer? ticket)

variable {ticket : Nat}

/-- **A decision stays as it is made** until it is carried out. -/
theorem requests_step_decided {d : Desk σ} {act : σ → σ × Progress}
    (h : d.requests[ticket]? = some (.decided act)) {e : Event σ} (he : e ≠ .carryOut ticket) :
    (d.step e).requests[ticket]? = some (.decided act) := by
  obtain ⟨hlt, -⟩ := List.getElem?_eq_some_iff.mp h
  cases e with
  | bind m handler => exact h
  | lookup request => exact (List.getElem?_append_left hlt).trans h
  | carryOut other =>
    have hne : other ≠ ticket := fun heq => he (congrArg _ heq)
    rw [step]
    split
    · exact (List.getElem?_set_ne hne).trans h
    · exact h
  | respond r given =>
    rw [step]
    split
    · next hwaiting =>
      have hne : r.ticket ≠ ticket := by
        rintro rfl
        cases hwaiting.symm.trans h
      exact (List.getElem?_set_ne hne).trans h
    · exact h
  | proceed f => exact h

theorem requests_run_decided {d : Desk σ} {act : σ → σ × Progress}
    (h : d.requests[ticket]? = some (.decided act)) {events : List (Event σ)}
    (hevents : .carryOut ticket ∉ events) :
    (d.run events).requests[ticket]? = some (.decided act) := by
  induction events generalizing d with
  | nil => exact h
  | cons e events ih =>
    obtain ⟨he, hevents⟩ := not_or.mp (mt List.mem_cons.mpr hevents)
    exact ih (requests_step_decided h (Ne.symm he)) hevents

/-- What has been decided is carried out. -/
theorem step_carryOut {d : Desk σ} {act : σ → σ × Progress}
    (h : d.requests[ticket]? = some (.decided act)) :
    (d.step (.carryOut ticket)).program = (act d.program).1
      ∧ (d.step (.carryOut ticket)).requests[ticket]? = some (.acted (act d.program).2) := by
  obtain ⟨hlt, -⟩ := List.getElem?_eq_some_iff.mp h
  rw [step, h]
  exact ⟨rfl, List.getElem?_set_self hlt⟩

/-- **What has been done is not done again.** -/
theorem step_carryOut_again {d : Desk σ} {progress : Progress}
    (h : d.requests[ticket]? = some (.acted progress)) : d.step (.carryOut ticket) = d := by
  rw [step, h]

/-- **A request that has been acted upon takes an answer to it**, and nothing else matters. -/
theorem requests_step_acted {d : Desk σ} {progress : Progress}
    (h : d.requests[ticket]? = some (.acted progress)) (e : Event σ) :
    (d.step e).requests[ticket]? = some (.acted (progress.resolve (e.answer? ticket))) := by
  obtain ⟨hlt, -⟩ := List.getElem?_eq_some_iff.mp h
  have hkept : d.requests[ticket]? = some (.acted (progress.resolve none)) := by
    rw [Progress.resolve_none, h]
  cases e with
  | bind m handler => exact hkept
  | lookup request => exact (List.getElem?_append_left hlt).trans hkept
  | carryOut other =>
    -- what is carried out now was decided only, so it is another request
    show (d.step (.carryOut other)).requests[ticket]? = some (.acted (progress.resolve none))
    rw [step]
    split
    · next hdecided =>
      have hne : other ≠ ticket := by
        rintro rfl
        cases hdecided.symm.trans h
      exact (List.getElem?_set_ne hne).trans hkept
    · exact hkept
  | respond r given =>
    rw [Event.answer?]
    split_ifs with hticket
    · subst hticket
      rw [step, h]
      cases progress with
      | waiting => exact List.getElem?_set_self hlt
      | finished result => exact h
      | crashed reason => exact h
    · rw [step]
      split
      · exact (List.getElem?_set_ne hticket).trans hkept
      · exact hkept
  | proceed f => exact hkept

theorem requests_run_acted {d : Desk σ} {progress : Progress}
    (h : d.requests[ticket]? = some (.acted progress)) (events : List (Event σ)) :
    (d.run events).requests[ticket]?
      = some (.acted (progress.resolve (firstAnswer? ticket events))) := by
  induction events generalizing d progress with
  | nil => simpa [firstAnswer?] using h
  | cons e events ih =>
    rw [run_cons, ih (requests_step_acted h e), Progress.resolve_resolve, firstAnswer?,
      firstAnswer?, List.findSome?_cons]
    cases e.answer? ticket <;> rfl

/-- The reply to a request, once it is known. -/
def reply? (d : Desk σ) (ticket : Nat) : Option Reply :=
  match d.requests[ticket]? with
  | some (.acted progress) => progress.reply?
  | _ => none

theorem reply?_of_decided {d : Desk σ} {act : σ → σ × Progress}
    (h : d.requests[ticket]? = some (.decided act)) : d.reply? ticket = none := by
  rw [reply?, h]

theorem reply?_of_acted {d : Desk σ} {progress : Progress}
    (h : d.requests[ticket]? = some (.acted progress)) : d.reply? ticket = progress.reply? := by
  rw [reply?, h]

/-- There is no reply to what has not been acted upon. -/
theorem exists_of_reply? {d : Desk σ} {reply : Reply} (h : d.reply? ticket = some reply) :
    ∃ progress : Progress, progress.reply? = some reply := by
  unfold reply? at h
  split at h
  · next progress _ => exact ⟨progress, h⟩
  · cases h

end Desk

/-! ## The decision -/

/-- The method with a number in a table in which each number stands once. -/
theorem MethodKind.find?_of_mem {methods : List MethodKind}
    (hunique : (methods.map (·.functionId)).Nodup) {kind : MethodKind} (hkind : kind ∈ methods) :
    find? methods kind.functionId = some kind := by
  unfold find?
  cases hfound : methods.find? fun other => other.functionId == kind.functionId with
  | none =>
    exact absurd (beq_self_eq_true kind.functionId) (List.find?_eq_none.mp hfound kind hkind)
  | some other =>
    have hsame : other.functionId = kind.functionId := by simpa using List.find?_some hfound
    rw [List.inj_on_of_nodup_map hunique (List.mem_of_find?_eq_some hfound) hkind hsame]

namespace Dispatcher

variable {σ : Type} {d : Dispatcher σ} {request : Request}

/-- **A refusal**, which runs nothing. -/
def refuse (failure : CallFailure) : σ → σ × Progress := fun s => (s, .finished (.error failure))

/-- A request names no session if it has none or an empty one. -/
theorem namedComId_eq_none :
    namedComId request = none ↔ request.comId = none ∨ request.comId = some "" := by
  unfold namedComId
  cases request.comId <;> simp

/-- The session of a request is empty if none is named. -/
theorem getD_namedComId : (namedComId request).getD "" = request.comId.getD "" := by
  unfold namedComId
  cases request.comId with
  | none => rfl
  | some comId =>
    by_cases h : comId = ""
    · subst h
      rfl
    · rw [Option.filter_some_pos (by simpa using h)]

/-- A request for a method that is not in the table is refused, whatever else it holds. -/
theorem handle_unlisted (h : ∀ kind ∈ d.methods, kind.functionId ≠ request.functionId)
    (ticket : Nat) : d.handle request ticket = refuse (.of .noCallbackRegistered) := by
  have hfind : MethodKind.find? d.methods request.functionId = none :=
    List.find?_eq_none.mpr fun kind hkind => by simpa using h kind hkind
  funext s
  rw [handle, hfind]
  rfl

/-- A request without the session that its method wants is refused. -/
theorem handle_without_comId {kind : MethodKind}
    (hfind : MethodKind.find? d.methods request.functionId = some kind)
    (hcomId : kind.needsComId = true ∧ namedComId request = none) (ticket : Nat) :
    d.handle request ticket = refuse (.of .noComId) := by
  funext s
  rw [handle, hfind]
  exact if_pos hcomId

end Dispatcher

open Dispatcher (refuse namedComId)

/-- A bound handler is not run on what cannot be unpacked. -/
theorem Handler.bindTo_of_unreadable {σ Req Resp : Type} {m : Method Req Resp}
    {h : Handler σ Req Resp} {payload : ByteArray} (hunpack : m.request.unpack? payload = none)
    (comId : String) (ticket : Nat) :
    h.bindTo m comId payload ticket = refuse ⟨.invalidInputParameter,
      Method.complaint "decode" m.kind "request" Method.unreadable⟩ := by
  funext s
  rw [bindTo, hunpack,
    ← CallFailure.because_of_ne_empty (Method.complaint_ne_empty "decode" _ "request" _)]
  rfl

/-- **A failed reply** carries no payload, and says why. -/
theorem Progress.of_failed_reply {progress : Progress} {reply : Reply}
    (h : progress.reply? = some reply) (hfailed : reply.status.outcome.isOk = false) :
    reply.payload = .empty ∧ reply.status.outcome.errorMessage ≠ "" := by
  have hsays : ∀ failure : CallFailure,
      (Reply.failed failure).status.outcome.errorMessage ≠ "" := fun failure => by
    show (if failure.message = "" then FailureKind.aborted.defaultMessage else failure.message) ≠ ""
    split_ifs with hempty
    · exact FailureKind.defaultMessage_ne_empty .aborted
    · exact hempty
  cases progress with
  | waiting => cases h
  | crashed reason =>
    obtain rfl := Option.some_inj.mp h
    exact ⟨rfl, hsays _⟩
  | finished result =>
    obtain rfl := Option.some_inj.mp h
    cases result with
    | ok payload => cases hfailed
    | error failure => exact ⟨rfl, hsays failure⟩

namespace Desk

variable {σ : Type}

/-- **A dispatcher decides in a fixed order**, whatever handlers have been bound and whatever
requests are under way. It refuses a request for a method that is not in its table; then one that
names no session although its method wants one; then one for a method to which no handler has
been bound; and then one whose payload cannot be read. None of these refusals runs anything. What
is left is one run of one handler: the one that was bound last, on the session and the request,
with a responder of its own. There is such a handler as soon as anything has been bound.

Until that is carried out there is no reply. Then it is done to the program as it stands, once,
and the reply is that of the run, or of the first use of its responder if the run has kept it;
nothing else that happens matters to it. Failed replies carry no payload and say why. -/
theorem decides_in_order (service : ServiceType) (methods : List MethodKind) (program : σ)
    (hown : ∀ kind ∈ methods, kind.service = service)
    (hunique : (methods.map (·.functionId)).Nodup) (before : List (Event σ)) (request : Request) :
    let desk := (start service methods program).run before
    let ticket := desk.requests.length
    let act := desk.dispatcher.handle request ticket
    ((∀ kind ∈ methods, kind.functionId ≠ request.functionId) →
      act = refuse (.of .noCallbackRegistered))
    ∧ (∀ kind ∈ methods, kind.functionId = request.functionId →
      let lacksComId :=
        kind.needsComId = true ∧ (request.comId = none ∨ request.comId = some "")
      (lacksComId → act = refuse (.of .noComId))
      ∧ (¬ lacksComId →
        ((∀ e ∈ before, ¬ e.Binds service request.functionId) →
          act = refuse (.of .noCallbackRegistered))
        ∧ ∀ (Req Resp : Type) (m : Method Req Resp) (h : Handler σ Req Resp),
          IsLastBound before service request.functionId m h →
          (m.request.unpack? request.payload = none → act = refuse ⟨.invalidInputParameter,
            Method.complaint "decode" m.kind "request" Method.unreadable⟩)
          ∧ ∀ value, m.request.unpack? request.payload = some value →
            act = Prod.map id (m.responder ticket).progress ∘
              h (request.comId.getD "") value (m.responder ticket)))
    ∧ ((∀ e ∈ before, ¬ e.Binds service request.functionId)
      ∨ ∃ (Req Resp : Type) (m : Method Req Resp) (h : Handler σ Req Resp),
        IsLastBound before service request.functionId m h)
    ∧ (∀ wait rest, .carryOut ticket ∉ wait →
      let found := desk.run (.lookup request :: wait)
      let done := found.step (.carryOut ticket)
      found.reply? ticket = none
      ∧ done.program = (act found.program).1
      ∧ (done.run rest).step (.carryOut ticket) = done.run rest
      ∧ (done.run rest).reply? ticket
        = ((act found.program).2.resolve (firstAnswer? ticket rest)).reply?)
    ∧ ∀ number reply, desk.reply? number = some reply → reply.status.outcome.isOk = false →
      reply.payload = .empty ∧ reply.status.outcome.errorMessage ≠ "" := by
  intro desk ticket act
  obtain ⟨hservice, hmethods⟩ := (start service methods program).service_run before
  refine ⟨fun hunlisted => ?_, fun kind hkind hfunction => ?_,
    none_or_isLastBound before service request.functionId, fun wait rest hwait => ?_,
    fun number reply hreply => ?_⟩
  · refine Dispatcher.handle_unlisted (fun kind hkind => hunlisted kind ?_) ticket
    rwa [hmethods] at hkind
  -- the dispatcher asks whether there is a session, the statement for what is missing
  · have hlacks : (kind.needsComId = true ∧ (request.comId = none ∨ request.comId = some ""))
        ↔ kind.needsComId = true ∧ namedComId request = none := by
      rw [Dispatcher.namedComId_eq_none]
    have hfind : MethodKind.find? desk.dispatcher.methods request.functionId = some kind := by
      rw [hmethods, ← hfunction]
      exact MethodKind.find?_of_mem hunique hkind
    have hkey : kind.service = service := hown kind hkind
    rw [← hkey, ← hfunction]
    refine ⟨fun h => Dispatcher.handle_without_comId hfind (hlacks.mp h) ticket, fun hnamed => ?_⟩
    rw [hlacks] at hnamed
    refine ⟨fun hnone => ?_, fun Req Resp m h hlast => ?_⟩
    -- nothing has been bound to the method, or something was bound to it last
    · have hunbound : desk.dispatcher.binding? kind = none := binding?_run _ hnone
      funext s
      exact Dispatcher.handle_unbound hfind hnamed hunbound ticket s
    · have hbound : desk.dispatcher.binding? kind = some (h.bindTo m) :=
        binding?_of_isLastBound _ hkey hlast
      have hact : act = h.bindTo m (request.comId.getD "") request.payload ticket := by
        funext s
        rw [← Dispatcher.getD_namedComId]
        exact Dispatcher.handle_bound hfind hnamed hbound ticket s
      rw [hact]
      refine ⟨fun hunpack => Handler.bindTo_of_unreadable hunpack _ ticket, fun value hunpack => ?_⟩
      funext s
      exact Handler.bindTo_of_unpack hunpack _ ticket s
  -- what was decided does not change until it is carried out, and then never again
  · intro found done
    have hlooked : (desk.step (.lookup request)).requests[ticket]? = some (.decided act) :=
      List.getElem?_concat_length
    have hfound : found.requests[ticket]? = some (.decided act) :=
      requests_run_decided hlooked hwait
    obtain ⟨hprogram, hdone⟩ := step_carryOut hfound
    have hacted := requests_run_acted hdone rest
    exact ⟨reply?_of_decided hfound, hprogram, step_carryOut_again hacted, reply?_of_acted hacted⟩
  · obtain ⟨progress, hprogress⟩ := exists_of_reply? hreply
    exact Progress.of_failed_reply hprogress

/-! ## A method that is bound three times -/

/-- Tells how long a text is. -/
def measureMethod : Method String UInt32 := .json ⟨.image, "Measure", 1, true⟩

/-- Notes under its own name what it is asked, and keeps the responder. -/
def noting (name : String) : Handler (List String) String UInt32 := fun comId text _ notes =>
  (notes ++ [name ++ ": " ++ text ++ " in " ++ comId], .kept)

/-- A handler has been bound, a request has come in, and another handler has been bound. -/
def boundTwice : List (Event (List String)) :=
  [.bind measureMethod (noting "first"), .lookup ⟨none, 1, .empty⟩,
    .bind measureMethod (noting "second")]

/-- A request to measure a text. -/
def measureHello : Request := ⟨some "room", 1, (encode "hello").toByteArray⟩

/-- A handler is bound that comes too late. -/
def boundAgain : List (Event (List String)) := [.bind measureMethod (noting "third")]

/-- The responder of the second request is used, and used again. -/
def answeredTwice : List (Event (List String)) :=
  [.respond (measureMethod.responder 1) (some (.ok 5)),
    .respond (measureMethod.responder 1) (some (.error (.of .aborted)))]

theorem decides_in_order_rebound :
    (∀ kind ∈ [measureMethod.kind], kind.service = .image)
    ∧ ([measureMethod.kind].map (·.functionId)).Nodup
    ∧ (let desk := (start .image [measureMethod.kind] []).run boundTwice
      let done := (desk.run (.lookup measureHello :: boundAgain)).step (.carryOut 1)
      done.program = ["second: hello in room"]
      ∧ (done.run answeredTwice).reply? 1 = some (.ok (encode (5 : UInt32)).toByteArray)) := by
  have hown : ∀ kind ∈ [measureMethod.kind], kind.service = .image := by decide
  have hunique : ([measureMethod.kind].map (·.functionId)).Nodup := by decide
  obtain ⟨-, hdecision, -, hcourse, -⟩ :=
    decides_in_order .image [measureMethod.kind] [] hown hunique boundTwice measureHello
  have hlast : IsLastBound boundTwice .image 1 measureMethod (noting "second") :=
    ⟨boundTwice.take 2, [], rfl, ⟨rfl, rfl⟩, nofun⟩
  have hact := (((hdecision measureMethod.kind (List.mem_singleton_self _) rfl).2 (by decide)).2
    String UInt32 measureMethod (noting "second") hlast).2 "hello"
    (Packing.isLawful_json String "hello" _ rfl)
  obtain ⟨-, hprogram, -, hreply⟩ := hcourse boundAgain answeredTwice (by simp [boundAgain])
  refine ⟨hown, hunique, ?_, ?_⟩
  · refine hprogram.trans ?_
    rw [hact]
    rfl
  · refine hreply.trans ?_
    rw [hact]
    rfl

end Desk

end Switchboard
