import Switchboard.Dispatch.Call
import Switchboard.Proofs.Dispatch.Dispatcher

/-!
# A call is one run of its handler

A client that is bound to a dispatcher in the same program makes its calls over
`Dispatcher.channel`. `invoke_channel` says what such a call is, as a program:
a refusal, which does nothing, or one run of the handler that is bound to the
method, with the session and the request of the call, followed by what the call
makes of the answer.

A program is compared here with a program, in the monad of an arbitrary state.
Neither the handlers nor anything else could tell the two apart, so that a
handler is run as often as it is written down in the right-hand side.
-/

namespace Switchboard

open Wire (Request Reply)

variable {σ Req Resp Out : Type}

/-- **The channel to a dispatcher in the same program.** A result that is not known when the
handler returns is awaited, and it is not sent if the responder is lost meanwhile. -/
def Dispatcher.channel (d : Dispatcher σ) (ticket : Nat)
    (await : StateM σ (Option (CallResult ByteArray))) : ChannelIn (StateM σ) :=
  fun request => do
    let progress ← modifyGet fun s => (d.handle request ticket s).swap
    match progress.reply? with
    | some reply => return .ok reply
    | none => return .ok (.ofResult ((← await).getD notSent))

namespace Call

/-- **A call that is sent**: it names a session if it has to, its request is acceptable, and the
request can be packed. -/
structure IsSendable (c : Call Req Resp Out) (comId : String) : Prop where
  comId_ne : c.method.kind.needsComId = true → comId ≠ ""
  accepts : c.accepts c.request = true
  packs : ∃ payload, c.method.request.pack c.request = .ok payload

/-- A call without the session that it needs, or whose request is not acceptable. -/
theorem prepare_of_unacceptable {c : Call Req Resp Out} {comId : String}
    (h : (c.method.kind.needsComId = true ∧ comId = "") ∨ c.accepts c.request = false) :
    c.prepare comId = .error (.of .invalidInputParameter) := by
  unfold prepare
  obtain hcomId | haccepts := h
  · rw [if_pos hcomId]
  · rw [if_pos haccepts, ite_self]

/-- A call whose request is refused when it is packed. -/
theorem prepare_of_unpackable {c : Call Req Resp Out} {comId reason : String}
    (hcomId : c.method.kind.needsComId = true → comId ≠ "") (haccepts : c.accepts c.request = true)
    (hpack : c.method.request.pack c.request = .error reason) :
    c.prepare comId = .error ⟨.invalidInputParameter,
      Method.complaint "encode" c.method.kind "request" reason⟩ := by
  unfold prepare
  rw [if_neg (fun h => hcomId h.1 h.2), if_neg (by rw [haccepts]; decide), hpack]
  exact congrArg Except.error
    (CallFailure.because_of_ne_empty (Method.complaint_ne_empty "encode" _ "request" _))

/-- **The request that a call is sent as.** A session without a name is not named. -/
def outgoing (c : Call Req Resp Out) (comId : String) (payload : ByteArray) : Request where
  comId := if comId = "" then none else some comId
  functionId := c.method.kind.functionId
  payload := payload

/-- A call that can be sent is sent as it is. -/
theorem prepare_of_packed {c : Call Req Resp Out} {comId : String} {payload : ByteArray}
    (hsend : c.IsSendable comId)
    (hpack : c.method.request.pack c.request = .ok payload) :
    c.prepare comId = .ok (c.outgoing comId payload) := by
  unfold prepare
  rw [if_neg (fun h => hsend.comId_ne h.1 h.2), if_neg (by rw [hsend.accepts]; decide), hpack]
  rfl

/-- A call that is not sent is refused as badly made. -/
theorem prepare_of_not_sendable {c : Call Req Resp Out} {comId : String}
    (h : ¬ c.IsSendable comId) :
    ∃ failure : CallFailure, failure.kind = .invalidInputParameter
      ∧ c.prepare comId = .error failure := by
  by_cases hbad : (c.method.kind.needsComId = true ∧ comId = "") ∨ c.accepts c.request = false
  · exact ⟨_, rfl, prepare_of_unacceptable hbad⟩
  obtain ⟨hcomId, haccepts⟩ := not_or.mp hbad
  replace hcomId : c.method.kind.needsComId = true → comId ≠ "" :=
    fun hneeds hempty => hcomId ⟨hneeds, hempty⟩
  replace haccepts : c.accepts c.request = true := by simpa using haccepts
  cases hpack : c.method.request.pack c.request with
  | error reason => exact ⟨_, rfl, prepare_of_unpackable hcomId haccepts hpack⟩
  | ok payload => exact absurd ⟨hcomId, haccepts, payload, hpack⟩ h

theorem namedComId_outgoing (c : Call Req Resp Out) (comId : String) (payload : ByteArray) :
    Dispatcher.namedComId (c.outgoing comId payload) = if comId = "" then none else some comId := by
  unfold Dispatcher.namedComId outgoing
  dsimp only
  split
  · rfl
  · next hne => exact Option.filter_eq_some_iff.mpr ⟨rfl, decide_eq_true hne⟩

/-- A call that is sent names its session unless that is empty. -/
theorem prepare_of_sendable {c : Call Req Resp Out} {comId : String} (h : c.IsSendable comId) :
    ∃ request : Request, c.prepare comId = .ok request
      ∧ request.functionId = c.method.kind.functionId
      ∧ (Dispatcher.namedComId request).getD "" = comId
      ∧ ¬ (c.method.kind.needsComId = true ∧ Dispatcher.namedComId request = none)
      ∧ c.method.request.pack c.request = .ok request.payload := by
  obtain ⟨payload, hpack⟩ := h.packs
  refine ⟨c.outgoing comId payload, prepare_of_packed h hpack, rfl, ?_, ?_, hpack⟩
  · rw [namedComId_outgoing]
    split
    · next hempty => exact hempty.symm
    · rfl
  · rintro ⟨hneeds, hnone⟩
    rw [namedComId_outgoing, if_neg (h.comId_ne hneeds)] at hnone
    exact absurd hnone (Option.some_ne_none comId)

/-! ## What is made of an answer -/

/-- The result of a call whose request was delivered, given the answer that its responder was
used for. -/
def report (c : Call Req Resp Out) (ticket : Nat) (given : Option (CallResult Resp)) :
    CallResult Out :=
  c.conclude (.ok (.ofResult ((c.method.responder ticket).close given)))

variable (c : Call Req Resp Out) (ticket : Nat)

theorem conclude_failed {failure : CallFailure} (h : failure.message ≠ "") :
    c.conclude (.ok (.failed failure)) = .error failure := by
  unfold conclude Reply.failed
  dsimp only
  rw [Wire.Status.toResult_failed h]

/-- A responder that was given up. -/
theorem report_none : c.report ticket none = .error (.of .responseNotSent) :=
  c.conclude_failed (FailureKind.defaultMessage_ne_empty .responseNotSent)

/-- A failure of the handler's own. -/
theorem report_error {failure : CallFailure} (h : failure.message ≠ "") :
    c.report ticket (some (.error failure)) = .error failure :=
  c.conclude_failed h

/-- A response that could be packed. -/
theorem report_ok (hlawful : c.method.response.IsLawful) {response : Resp} {payload : ByteArray}
    (hpack : c.method.response.pack response = .ok payload) :
    c.report ticket (some (.ok response)) = c.interpret response := by
  have hclose : (c.method.responder ticket).close (some (.ok response)) = .ok payload :=
    Responder.answer_ok hpack
  rw [report, hclose]
  unfold conclude Reply.ofResult Reply.ok
  dsimp only
  rw [Wire.Status.toResult_ok]
  dsimp only
  rw [hlawful response payload hpack]

/-- A response that could not be packed. -/
theorem report_unpackable {response : Resp} {reason : String}
    (hpack : c.method.response.pack response = .error reason) :
    c.report ticket (some (.ok response)) =
      .error ⟨.aborted, Method.complaint "encode" c.method.kind "response" reason⟩ := by
  have hclose : (c.method.responder ticket).close (some (.ok response)) = .error
      ⟨.aborted, Method.complaint "encode" c.method.kind "response" reason⟩ :=
    Responder.answer_unpackable hpack
  rw [report, hclose]
  exact c.conclude_failed (Method.complaint_ne_empty "encode" _ "response" _)

end Call

/-! ## The whole call -/

theorem modifyGet_bind {α β : Type} (f : σ → α × σ) (g : α → StateM σ β) (s : σ) :
    ((modifyGet f : StateM σ α) >>= g) s = g (f s).1 (f s).2 := rfl

theorem map_apply {α β : Type} (f : α → β) (x : StateM σ α) (s : σ) :
    (f <$> x) s = (f (x s).1, (x s).2) := rfl

/-- What the channel makes of a request whose result is known at once. -/
theorem Dispatcher.channel_of_finished {d : Dispatcher σ} {request : Request} {ticket : Nat}
    {s s' : σ} {result : CallResult ByteArray}
    (await : StateM σ (Option (CallResult ByteArray)))
    (hhandle : d.handle request ticket s = (s', .finished result)) :
    d.channel ticket await request s = (.ok (.ofResult result), s') := by
  unfold Dispatcher.channel
  rw [modifyGet_bind, hhandle]
  rfl

/-- What the channel makes of a request whose handler is run. -/
theorem Dispatcher.channel_of_handle {d : Dispatcher σ} {request : Request} {ticket : Nat}
    {m : Method Req Resp} {h : Handler σ Req Resp} {comId : String} {value : Req}
    (later : StateM σ (Option (CallResult Resp)))
    (hhandle : ∀ s, d.handle request ticket s = ((h comId value (m.responder ticket) s).1,
      (m.responder ticket).progress (h comId value (m.responder ticket) s).2))
    (hcalm : h.IsCalm) :
    d.channel ticket ((m.responder ticket).awaited later) request
      = (fun given => .ok (.ofResult ((m.responder ticket).close given)))
        <$> h.answer later comId value (m.responder ticket) := by
  funext s
  have hnot := hcalm comId value (m.responder ticket) s
  unfold Dispatcher.channel Handler.answer
  rw [map_apply, modifyGet_bind, modifyGet_bind, hhandle]
  -- whatever is awaited is awaited in the state that the handler has left
  cases hreaction : h comId value (m.responder ticket) s with
  | mk s' reaction =>
    rw [hreaction] at hnot
    cases reaction with
    | answered result => rfl
    | kept => rfl
    | dropped => rfl
    | crashed reason => exact absurd rfl (hnot reason)

namespace Call

variable {c : Call Req Resp Out} {d : Dispatcher σ} {comId : String}

/-- A call that is refused does nothing. -/
theorem invoke_of_refused {failure : CallFailure} (hprepare : c.prepare comId = .error failure)
    (channel : ChannelIn (StateM σ)) : c.invoke (some channel) comId = pure (.error failure) := by
  unfold invoke Invocation.run Call.on
  rw [hprepare]

/-- A call that is sent does what the channel does. -/
theorem invoke_of_sent {request : Request} (hprepare : c.prepare comId = .ok request)
    (channel : ChannelIn (StateM σ)) :
    c.invoke (some channel) comId = c.conclude <$> channel request := by
  unfold invoke Invocation.run Call.on
  rw [hprepare]
  rfl

/-- A call of a method without a handler. -/
theorem invoke_unbound (hsend : c.IsSendable comId)
    (hkind : MethodKind.find? d.methods c.method.kind.functionId = some c.method.kind)
    (hnone : d.binding? c.method.kind = none) (ticket : Nat)
    (await : StateM σ (Option (CallResult ByteArray))) :
    c.invoke (some (d.channel ticket await)) comId
      = pure (.error (.of .noCallbackRegistered)) := by
  obtain ⟨request, hprepare, hfunction, -, hnamed, -⟩ := prepare_of_sendable hsend
  rw [← hfunction] at hkind
  funext s
  rw [invoke_of_sent hprepare, map_apply, Dispatcher.channel_of_finished await
    (Dispatcher.handle_unbound hkind hnamed hnone ticket s)]
  show (c.conclude (.ok (.failed (.of .noCallbackRegistered))), s) = _
  rw [c.conclude_failed (FailureKind.defaultMessage_ne_empty .noCallbackRegistered)]
  rfl

/-- **The request of a call runs the handler that is bound to its method**, on the session and the
request of the call. -/
theorem handle_of_prepare {h : Handler σ Req Resp} {request : Request} (hsend : c.IsSendable comId)
    (hprepare : c.prepare comId = .ok request)
    (hkind : MethodKind.find? d.methods c.method.kind.functionId = some c.method.kind)
    (hrequest : c.method.request.IsLawful)
    (hrun : d.binding? c.method.kind = some (h.bindTo c.method)) (ticket : Nat) (s : σ) :
    d.handle request ticket s = ((h comId c.request (c.method.responder ticket) s).1,
      (c.method.responder ticket).progress
        (h comId c.request (c.method.responder ticket) s).2) := by
  obtain ⟨prepared, hprepared, hfunction, hcomId, hnamed, hpack⟩ := prepare_of_sendable hsend
  obtain rfl : request = prepared := Except.ok.inj (hprepare.symm.trans hprepared)
  rw [← hfunction] at hkind
  rw [Dispatcher.handle_bound hkind hnamed hrun, hcomId,
    Handler.bindTo_of_unpack (hrequest _ _ hpack)]

/-- A call of a method with a handler. -/
theorem invoke_bound {h : Handler σ Req Resp} (hsend : c.IsSendable comId)
    (hkind : MethodKind.find? d.methods c.method.kind.functionId = some c.method.kind)
    (hrequest : c.method.request.IsLawful)
    (hrun : d.binding? c.method.kind = some (h.bindTo c.method)) (hcalm : h.IsCalm) (ticket : Nat)
    (later : StateM σ (Option (CallResult Resp))) :
    c.invoke (some (d.channel ticket ((c.method.responder ticket).awaited later))) comId
      = c.report ticket <$> h.answer later comId c.request (c.method.responder ticket) := by
  obtain ⟨request, hprepare, -⟩ := prepare_of_sendable hsend
  have hhandle := handle_of_prepare hsend hprepare hkind hrequest hrun ticket
  rw [invoke_of_sent hprepare, Dispatcher.channel_of_handle later hhandle hcalm]
  rfl

/-- A call of a method whose handler answers at once. Nothing is awaited then. -/
theorem invoke_direct {run : String → Req → σ → σ × CallResult Resp} (hsend : c.IsSendable comId)
    (hkind : MethodKind.find? d.methods c.method.kind.functionId = some c.method.kind)
    (hrequest : c.method.request.IsLawful)
    (hrun : d.binding? c.method.kind = some ((Handler.direct run).bindTo c.method)) (ticket : Nat)
    (await : StateM σ (Option (CallResult ByteArray))) (s : σ) :
    c.invoke (some (d.channel ticket await)) comId s
      = (c.report ticket (some (run comId c.request s).2), (run comId c.request s).1) := by
  obtain ⟨request, hprepare, -⟩ := prepare_of_sendable hsend
  have hhandle : d.handle request ticket s = ((run comId c.request s).1,
      .finished ((c.method.responder ticket).answer (run comId c.request s).2)) :=
    handle_of_prepare hsend hprepare hkind hrequest hrun ticket s
  rw [invoke_of_sent hprepare, map_apply, Dispatcher.channel_of_finished await hhandle]
  rfl

end Call

/-- **A call is one run of its handler.** A call that may not be sent and a call of a method
without a handler do nothing but fail. Any other call runs the handler that is bound, once, with
the session and the request of the call, and its result is a function of what the handler answers
in the end, at once or later. Later answers may go through a responder that converts them. -/
theorem Call.invoke_channel (c : Call Req Resp Out) (d : Dispatcher σ)
    (handler : Option (Handler σ Req Resp)) (comId : String) (ticket : Nat) {Late : Type}
    (convert : Late → Resp) (later : StateM σ (Option (CallResult Late)))
    (hkind : MethodKind.find? d.methods c.method.kind.functionId = some c.method.kind)
    (hrequest : c.method.request.IsLawful) (hresponse : c.method.response.IsLawful)
    (hbound : d.binding? c.method.kind = handler.map (·.bindTo c.method))
    (hcalm : ∀ h ∈ handler, h.IsCalm) :
    let channel := d.channel ticket (((c.method.responder ticket).map convert).awaited later)
    (¬ c.IsSendable comId → ∃ failure : CallFailure, failure.kind = .invalidInputParameter ∧
      c.invoke (some channel) comId = pure (.error failure)) ∧
    (c.IsSendable comId → handler = none →
      c.invoke (some channel) comId = pure (.error (.of .noCallbackRegistered))) ∧
    (c.IsSendable comId → ∀ h, handler = some h →
      ∃ report : Option (CallResult Resp) → CallResult Out,
      c.invoke (some channel) comId = report <$>
        h.answer ((·.map (·.map convert)) <$> later) comId c.request
          (c.method.responder ticket) ∧
      (∀ response payload, c.method.response.pack response = .ok payload →
        report (some (.ok response)) = c.interpret response) ∧
      (∀ response reason, c.method.response.pack response = .error reason →
        report (some (.ok response)) =
          .error ⟨.aborted, Method.complaint "encode" c.method.kind "response" reason⟩) ∧
      (∀ failure : CallFailure, failure.message ≠ "" →
        report (some (.error failure)) = .error failure) ∧
      report none = .error (.of .responseNotSent)) := by
  rw [Responder.awaited_map]
  refine ⟨fun hnot => ?_, fun hsend hnone => ?_, fun hsend h hsome => ?_⟩
  · obtain ⟨failure, hfailure, hprepare⟩ := prepare_of_not_sendable hnot
    exact ⟨failure, hfailure, invoke_of_refused hprepare _⟩
  · subst hnone
    exact invoke_unbound hsend hkind hbound ticket _
  · subst hsome
    exact ⟨c.report ticket, invoke_bound hsend hkind hrequest hbound (hcalm h rfl) ticket _,
      fun _ _ => c.report_ok ticket hresponse, fun _ _ => c.report_unpackable ticket,
      fun _ => c.report_error ticket, c.report_none ticket⟩

/-! ## A call that is answered late -/

/-- Asks how long a text is. -/
def askLength : Call String UInt32 UInt32 where
  method := .json ⟨.image, "Length", 1, true⟩
  request := "hello"
  interpret := .ok

/-- A server that has its method, and nothing else. -/
def lengthServer {σ : Type} : Dispatcher σ where
  service := .image
  methods := [askLength.method.kind]

/-- Records its run and keeps the responder. -/
def keepAsked : Handler (List (String × String)) String UInt32 :=
  fun comId text _ runs => (runs ++ [(comId, text)], .kept)

theorem Call.invoke_channel_askLength :
    askLength.IsSendable "room" ∧ keepAsked.IsCalm ∧
    askLength.invoke (some ((lengthServer.bind askLength.method keepAsked rfl).channel 0
        (((askLength.method.responder 0).map UInt32.ofNat).awaited (pure (some (.ok 5)))))) "room" []
      = (.ok 5, [("room", "hello")]) := by
  have hsend : askLength.IsSendable "room" := ⟨by decide, rfl, _, rfl⟩
  have hcalm : keepAsked.IsCalm := by
    rintro comId request responder s reason ⟨⟩
  refine ⟨hsend, hcalm, ?_⟩
  obtain ⟨report, hrun, hok, -⟩ := (Call.invoke_channel askLength _ (some keepAsked) "room" 0
    UInt32.ofNat (pure (some (.ok 5))) (by decide) (Packing.isLawful_json String)
    (Packing.isLawful_json UInt32)
    (lengthServer.binding?_bind_self askLength.method keepAsked rfl)
    (fun _ h => Option.some_inj.mp h ▸ hcalm)).2.2 hsend keepAsked rfl
  rw [hrun]
  show (report (some (.ok 5)), [("room", "hello")]) = _
  rw [hok 5 _ rfl]
  rfl

end Switchboard
