import Mathlib.Tactic.Common
import Switchboard.Dispatch.Dispatcher
import Switchboard.Proofs.Json.Codec

/-!
# From a request to its reply

A dispatcher asks its questions in a fixed order. Here is what it does once
they have all been answered with yes: it runs the handler that was bound last,
on the very session and request of the call (`Dispatcher.handle_bound`).

A handler may answer at once, or later, or not at all, and it may do so through
a responder that converts its answers. What comes of the call is the same in
all cases: a function of the answer that was given in the end, if one was
(`Responder.close`). And the status of a reply brings a failure to the other
end as it was, except for one that was given no message.
-/

namespace Switchboard

open Wire (Request Reply)

/-! ## Packings -/

/-- **What is packed can be unpacked**, and is the same then. -/
def Packing.IsLawful {α : Type} (p : Packing α) : Prop :=
  ∀ a payload, p.pack a = .ok payload → p.unpack? payload = some a

/-- JSON is lawful for all types that survive it. -/
theorem Packing.isLawful_json (α : Type) [JsonCodec α] [LawfulJsonCodec α] :
    (Packing.json α).IsLawful := by
  intro a payload hpack
  obtain rfl := Except.ok.inj hpack
  show decode? (encode a).toByteArray.data.toList = some a
  rw [List.toList_data_toByteArray, decode?_encode]

/-- A complaint is never empty, whatever it is about. -/
theorem Method.complaint_ne_empty (action : String) (kind : MethodKind) (part reason : String) :
    Method.complaint action kind part reason ≠ "" := by
  intro h
  obtain ⟨hfront, -⟩ := String.append_eq_empty_iff.mp h
  obtain ⟨-, hcolon⟩ := String.append_eq_empty_iff.mp hfront
  exact absurd hcolon (by decide)

/-! ## Failures under way -/

theorem FailureKind.defaultMessage_ne_empty (kind : FailureKind) : kind.defaultMessage ≠ "" := by
  cases kind <;> decide

theorem CallFailure.because_of_ne_empty {kind : FailureKind} {reason : String} (h : reason ≠ "") :
    CallFailure.because kind reason = ⟨kind, reason⟩ := by
  rw [because, if_neg h]

/-- The status of a success reports a success. -/
theorem Wire.Status.toResult_ok : Status.ok.toResult = .ok () := rfl

/-- **A failure with a message arrives as it was.** -/
theorem Wire.Status.toResult_failed {failure : CallFailure} (h : failure.message ≠ "") :
    (Status.failed failure).toResult = .error failure := by
  show Except.error (CallFailure.because failure.kind
    (if failure.message = "" then FailureKind.aborted.defaultMessage else failure.message)) = _
  rw [if_neg h, CallFailure.because_of_ne_empty h]

/-! ## Responders -/

namespace Responder

variable {α β : Type}

/-- A value that can be packed is the result. -/
theorem answer_ok {r : Responder α} {a : α} {payload : ByteArray} (h : r.pack a = .ok payload) :
    r.answer (.ok a) = .ok payload := by
  unfold answer
  dsimp only
  rw [h]

/-- A value that cannot be packed fails the call, and the failure says why. -/
theorem answer_unpackable {r : Responder α} {a : α} {reason : String}
    (h : r.pack a = .error reason) :
    r.answer (.ok a) = .error ⟨.aborted, Method.complaint "encode" r.method "response" reason⟩ := by
  unfold answer
  dsimp only
  rw [h, ← CallFailure.because_of_ne_empty (Method.complaint_ne_empty "encode" _ "response" _)]
  rfl

/-- **The result of a call**, given the answer that its responder was used for; nothing if it was
given up. -/
def close (r : Responder α) (given : Option (CallResult α)) : CallResult ByteArray :=
  (given.map r.answer).getD notSent

/-- **What is awaited of a responder that was kept**: the result that the program makes with it in
the end, unless it loses it. -/
def awaited {σ : Type} (r : Responder α) (later : StateM σ (Option (CallResult α))) :
    StateM σ (Option (CallResult ByteArray)) :=
  (·.map r.answer) <$> later

/-- Answers through a converting responder are converted answers. -/
theorem answer_map (r : Responder α) (convert : β → α) (result : CallResult β) :
    (r.map convert).answer result = r.answer (result.map convert) := by
  cases result <;> rfl

theorem awaited_map {σ : Type} (r : Responder α) (convert : β → α)
    (later : StateM σ (Option (CallResult β))) :
    (r.map convert).awaited later = r.awaited ((·.map (·.map convert)) <$> later) := by
  unfold awaited
  rw [← comp_map]
  refine congrArg (· <$> later) (funext fun given => ?_)
  show given.map (r.map convert).answer = (given.map (·.map convert)).map r.answer
  rw [Option.map_map]
  exact congrArg (given.map ·) (funext (r.answer_map convert))

end Responder

/-- The responder for a call of a method. -/
def Method.responder {Req Resp : Type} (m : Method Req Resp) (ticket : Nat) : Responder Resp :=
  ⟨ticket, m.kind, m.response.pack⟩

namespace Handler

variable {σ Req Resp : Type}

/-- The handler never breaks down. -/
def IsCalm (h : Handler σ Req Resp) : Prop :=
  ∀ comId request responder s reason, (h comId request responder s).2 ≠ .crashed reason

/-- **What a handler answers in the end**, given what the program does later if it keeps its
responder. A responder that is lost answers nothing. -/
def answer (h : Handler σ Req Resp) (later : StateM σ (Option (CallResult Resp)))
    (comId : String) (request : Req) (responder : Responder Resp) :
    StateM σ (Option (CallResult Resp)) := do
  match ← modifyGet fun s => (h comId request responder s).swap with
  | .answered result => return some result
  | .kept => later
  | .dropped => return none
  | .crashed _ => return none

/-- A handler that answers at once does so with other types as well. -/
theorem adapt_direct {Req' Resp' : Type} (toRequest : Req → Req') (ofResponse : Resp' → Resp)
    (run : String → Req' → σ → σ × CallResult Resp') :
    (direct run).adapt toRequest ofResponse = direct fun comId request s =>
      ((run comId (toRequest request) s).1,
        (run comId (toRequest request) s).2.map ofResponse) := rfl

end Handler

/-! ## Dispatchers -/

namespace Dispatcher

variable {σ Req Resp : Type}

/-- The handler bound last is the one that is bound. -/
theorem binding?_bind_self (d : Dispatcher σ) (m : Method Req Resp) (h : Handler σ Req Resp)
    (own : m.kind.service = d.service) : (d.bind m h own).binding? m.kind = some (h.bindTo m) := by
  unfold binding? bind
  exact List.lookup_cons_self

/-- Binding a handler leaves the other methods alone. -/
theorem binding?_bind_of_ne (d : Dispatcher σ) (m : Method Req Resp) (h : Handler σ Req Resp)
    (own : m.kind.service = d.service) {kind : MethodKind}
    (hne : (kind.service, kind.functionId) ≠ (m.kind.service, m.kind.functionId)) :
    (d.bind m h own).binding? kind = d.binding? kind := by
  unfold binding? bind
  rw [List.lookup_cons, beq_false_of_ne hne]

variable {d : Dispatcher σ} {request : Request} {kind : MethodKind}

/-- A request for a method without a handler runs none. -/
theorem handle_unbound (hfind : MethodKind.find? d.methods request.functionId = some kind)
    (hcomId : ¬ (kind.needsComId = true ∧ namedComId request = none))
    (hnone : d.binding? kind = none) (ticket : Nat) (s : σ) :
    d.handle request ticket s = (s, .finished (.error (.of .noCallbackRegistered))) := by
  unfold handle
  rw [hfind]
  dsimp only
  rw [if_neg hcomId, hnone]

/-- A request for a method with a handler runs it. -/
theorem handle_bound (hfind : MethodKind.find? d.methods request.functionId = some kind)
    (hcomId : ¬ (kind.needsComId = true ∧ namedComId request = none)) {run : Binding σ}
    (hrun : d.binding? kind = some run) (ticket : Nat) (s : σ) :
    d.handle request ticket s = run ((namedComId request).getD "") request.payload ticket s := by
  unfold handle
  rw [hfind]
  dsimp only
  rw [if_neg hcomId, hrun]

end Dispatcher

/-- A bound handler is run on what can be unpacked. -/
theorem Handler.bindTo_of_unpack {σ Req Resp : Type} {m : Method Req Resp}
    {h : Handler σ Req Resp} {payload : ByteArray} {request : Req}
    (hunpack : m.request.unpack? payload = some request) (comId : String) (ticket : Nat) (s : σ) :
    h.bindTo m comId payload ticket s = ((h comId request (m.responder ticket) s).1,
      (m.responder ticket).progress (h comId request (m.responder ticket) s).2) := by
  unfold bindTo
  rw [hunpack]
  rfl

end Switchboard
