import Switchboard.Access.Methods
import Switchboard.Chat.Methods
import Switchboard.Proofs.Access.Message
import Switchboard.Proofs.Chat.Message
import Switchboard.Proofs.Dispatch.Call
import Switchboard.Proofs.Registry.Message
import Switchboard.Registry.Methods

/-!
# Arguments and answers arrive verbatim

The calls of a service and its handlers speak of chats, features and service
types, and what travels between them are numbers and texts. Four conversions lie
on the way of each call: its arguments are made a request and a payload, and the
handler makes its own arguments of these; its answer is made a response and a
payload, and the call makes its result of these. `IsDelivered` says that nothing
of this can be seen. Such a call is one run of the handler itself, on the very
session and arguments of the call, and ends in the very answer – now or later, or
in the failure that stands for an answer that never comes (`Upshot.result`). As in
the comparison of a call with its handler, programs are compared with programs, so
that a handler is run as often as it is written down.

One statement about a call and a handler that is adapted to its method is enough
(`Call.isDelivered`); what remains for each method is that its conversions undo each
other, of the arguments and of the answer (`services_deliver`).

Undefined features and rules are not sent. So a handler of access control that is
asked about one was not asked by a client of this library
(`Access.calls_same_over`).
-/

namespace Switchboard

open Wire (Request Reply)

variable {σ Req Resp Args Ans Out : Type}

/-! ## What comes of a run -/

/-- **What comes of a run of a handler.** -/
inductive Upshot (α : Type) where
  | answered (result : CallResult α)
  /-- The responder was given up, at once or later. -/
  | lost
  | crashed (reason : Option String)

/-- **A failure as it arrives.** A failure without a message is said to be aborted. -/
def CallFailure.arrived (failure : CallFailure) : CallFailure :=
  ⟨failure.kind,
    if failure.message = "" then FailureKind.aborted.defaultMessage else failure.message⟩

/-- **The result that an upshot leads to.** A value is itself, and so is a failure that says why. -/
def Upshot.result {α : Type} : Upshot α → CallResult α
  | answered (.ok a) => .ok a
  | answered (.error failure) => .error failure.arrived
  | lost => .error (.of .responseNotSent)
  | crashed reason => .error (crashFailure reason)

/-- **One run of a handler**, and what comes of it if its responder is kept until later. -/
def Handler.upshot (h : Handler σ Args Ans) (later : StateM σ (Option (CallResult Ans)))
    (comId : String) (args : Args) (responder : Responder Ans) : StateM σ (Upshot Ans) := do
  match ← modifyGet fun s => (h comId args responder s).swap with
  | .answered result => return .answered result
  | .kept => return ((← later).map Upshot.answered).getD .lost
  | .dropped => return .lost
  | .crashed reason => return .crashed reason

theorem CallFailure.arrived_message_ne_empty (failure : CallFailure) :
    failure.arrived.message ≠ "" := by
  unfold arrived
  dsimp only
  split
  · exact FailureKind.defaultMessage_ne_empty .aborted
  · assumption

/-- What is sent of a failure is what is sent of it as it arrives. -/
theorem Wire.Reply.failed_arrived (failure : CallFailure) :
    Reply.failed failure.arrived = Reply.failed failure := by
  unfold Reply.failed Status.failed CallStatus.failed
  rw [if_neg failure.arrived_message_ne_empty]
  rfl

theorem crashFailure_message_ne_empty (reason : Option String) :
    (crashFailure reason).message ≠ "" := by
  have hreason : "handler panicked: " ++ reason.getD "unknown panic" ≠ "" := fun h =>
    absurd (String.append_eq_empty_iff.mp h).1 (by decide)
  rw [crashFailure, CallFailure.aborted, CallFailure.because_of_ne_empty hreason]
  exact hreason

/-! ## From an upshot to its result -/

/-- The reply that an upshot leads to. -/
def Upshot.reply (r : Responder Ans) : Upshot Ans → Reply
  | answered result => .ofResult (r.answer result)
  | lost => .ofResult notSent
  | crashed reason => .failed (crashFailure reason)

/-- What a handler does through a converting responder. -/
theorem Responder.progress_map (r : Responder Resp) (convert : Ans → Resp)
    (reaction : Reaction Ans) :
    r.progress (reaction.map convert) = (r.map convert).progress reaction := by
  cases reaction with
  | answered result => exact congrArg Progress.finished (r.answer_map convert result).symm
  | kept => rfl
  | dropped => rfl
  | crashed reason => rfl

/-- **The channel to a dispatcher runs the handler**, and what it answers is a function of what
comes of the run. -/
theorem Dispatcher.channel_eq_upshot {d : Dispatcher σ} {request : Request} {ticket : Nat}
    {h : Handler σ Args Ans} {comId : String} {args : Args} {r : Responder Ans}
    (later : StateM σ (Option (CallResult Ans)))
    (hhandle : ∀ s, d.handle request ticket s
      = ((h comId args r s).1, r.progress (h comId args r s).2)) :
    d.channel ticket (r.awaited later) request
      = (fun upshot => .ok (upshot.reply r)) <$> h.upshot later comId args r := by
  funext s
  unfold Dispatcher.channel Handler.upshot
  rw [map_apply, modifyGet_bind, modifyGet_bind, hhandle]
  cases hreaction : h comId args r s with
  | mk s' reaction =>
    cases reaction with
    | answered result => rfl
    | dropped => rfl
    | crashed reason => rfl
    | kept =>
      -- whatever is awaited is awaited in the state that the handler has left
      show (Except.ok (Reply.ofResult (((later s').1.map r.answer).getD notSent)), (later s').2)
        = (Except.ok ((((later s').1.map Upshot.answered).getD .lost).reply r), (later s').2)
      cases (later s').1 <;> rfl

/-- **The result of a call**, if its conversions of a response undo each other. -/
theorem Call.conclude_reply [JsonCodec Resp] [LawfulJsonCodec Resp] {c : Call Req Resp Ans}
    (hresponse : c.method.response = .json Resp) {convert : Ans → Resp}
    (hinterpret : ∀ a, c.interpret (convert a) = .ok a) (ticket : Nat) (upshot : Upshot Ans) :
    c.conclude (.ok (upshot.reply ((c.method.responder ticket).map convert))) = upshot.result := by
  cases upshot with
  | lost => exact c.conclude_failed (FailureKind.defaultMessage_ne_empty .responseNotSent)
  | crashed reason => exact c.conclude_failed (crashFailure_message_ne_empty reason)
  | answered result =>
    show c.conclude (.ok (.ofResult (((c.method.responder ticket).map convert).answer result))) = _
    rw [Responder.answer_map]
    cases result with
    | ok a =>
      have hpack : c.method.response.pack (convert a) = .ok (encode (convert a)).toByteArray := by
        rw [hresponse]
        rfl
      have hlawful : c.method.response.IsLawful := by
        rw [hresponse]
        exact Packing.isLawful_json Resp
      exact (c.report_ok ticket hlawful hpack).trans (hinterpret a)
    | error failure =>
      show c.conclude (.ok (.failed failure)) = _
      rw [← Reply.failed_arrived]
      exact c.conclude_failed failure.arrived_message_ne_empty

/-! ## Delivery -/

/-- **A call is delivered to a handler** of a dispatcher, if it is accepted. Over the channel to
the dispatcher it is one run of this handler, on this session and these arguments, and its result
is that of the run, whether the answer comes at once or later through the responder. A call that
is not accepted does nothing. -/
def IsDelivered (d : Dispatcher σ) (c : Call Req Resp Ans) (comId : String)
    (h : Handler σ Args Ans) (args : Args) (convert : Ans → Resp) (accepted : Prop) : Prop :=
  ∀ (ticket : Nat) (later : StateM σ (Option (CallResult Ans))),
    let responder := (c.method.responder ticket).map convert
    let channel := d.channel ticket (responder.awaited later)
    (accepted →
      c.invoke (some channel) comId = Upshot.result <$> h.upshot later comId args responder)
    ∧ (¬ accepted → c.invoke (some channel) comId = pure (.error (.of .invalidInputParameter)))

/-- **A call is delivered to the handler that is adapted to its method**, if its conversions of a
response undo each other. -/
theorem Call.isDelivered [JsonCodec Req] [LawfulJsonCodec Req] [JsonCodec Resp]
    [LawfulJsonCodec Resp] {c : Call Req Resp Ans} {d : Dispatcher σ} {h : Handler σ Args Ans}
    {comId : String} (toArgs : Req → Args) {convert : Ans → Resp}
    (hrequest : c.method.request = .json Req) (hresponse : c.method.response = .json Resp)
    (hcomId : c.method.kind.needsComId = true → comId ≠ "")
    (hkind : MethodKind.find? d.methods c.method.kind.functionId = some c.method.kind)
    (hrun : d.binding? c.method.kind = some ((h.adapt toArgs convert).bindTo c.method))
    (hinterpret : ∀ a, c.interpret (convert a) = .ok a) {args : Args}
    (hargs : toArgs c.request = args) {accepted : Prop}
    (haccepts : c.accepts c.request = true ↔ accepted) :
    IsDelivered d c comId h args convert accepted := by
  intro ticket later
  refine ⟨fun haccepted => ?_, fun hrefused => ?_⟩
  · have hsend : c.IsSendable comId :=
      ⟨hcomId, haccepts.mpr haccepted, (encode c.request).toByteArray, by rw [hrequest]; rfl⟩
    obtain ⟨request, hprepare, -⟩ := prepare_of_sendable hsend
    -- what the dispatcher runs is the adapted handler, with the responder that converts
    have hhandle : ∀ s, d.handle request ticket s
        = ((h comId args ((c.method.responder ticket).map convert) s).1,
          ((c.method.responder ticket).map convert).progress
            (h comId args ((c.method.responder ticket).map convert) s).2) := by
      intro s
      rw [handle_of_prepare hsend hprepare hkind (hrequest ▸ Packing.isLawful_json Req) hrun,
        ← hargs, ← Responder.progress_map]
      rfl
    rw [invoke_of_sent hprepare, Dispatcher.channel_eq_upshot later hhandle, ← comp_map]
    exact congrArg (· <$> _) (funext (conclude_reply hresponse hinterpret ticket))
  · refine invoke_of_refused (prepare_of_unacceptable (.inr ?_)) _
    exact Bool.eq_false_iff.mpr fun h => hrefused (haccepts.mp h)

/-- Nothing is lost when nothing is converted. -/
theorem Handler.adapt_id (h : Handler σ Req Resp) : h.adapt id id = h := by
  funext comId request responder s
  have hreaction : ∀ reaction : Reaction Resp, reaction.map id = reaction
    | .answered (.ok _) => rfl
    | .answered (.error _) => rfl
    | .kept => rfl
    | .dropped => rfl
    | .crashed _ => rfl
  exact Prod.ext rfl (hreaction _)

/-! ## Undefined features and rules -/

/-- **A call cannot tell two dispatchers apart**: it does the same over the channel to either. -/
def Call.IsSameOver (c : Call Req Resp Out) (d d' : Dispatcher σ) : Prop :=
  ∀ (comId : String) (ticket : Nat) (await : StateM σ (Option (CallResult ByteArray))),
    c.invoke (some (d.channel ticket await)) comId = c.invoke (some (d'.channel ticket await)) comId

/-- **Two handlers that are adapted alike cannot be told apart by a call** if they do the same with
its arguments, once they are accepted. -/
theorem Call.isSameOver [JsonCodec Req] [LawfulJsonCodec Req] {c : Call Req Resp Out}
    {d d' : Dispatcher σ} {h h' : Handler σ Args Ans} (toArgs : Req → Args) (convert : Ans → Resp)
    (hrequest : c.method.request = .json Req)
    (hkind : MethodKind.find? d.methods c.method.kind.functionId = some c.method.kind)
    (hkind' : MethodKind.find? d'.methods c.method.kind.functionId = some c.method.kind)
    (hrun : d.binding? c.method.kind = some ((h.adapt toArgs convert).bindTo c.method))
    (hrun' : d'.binding? c.method.kind = some ((h'.adapt toArgs convert).bindTo c.method))
    {args : Args} (hargs : toArgs c.request = args)
    (hsame : c.accepts c.request = true →
      ∀ comId responder s, h comId args responder s = h' comId args responder s) :
    c.IsSameOver d d' := by
  intro comId ticket await
  by_cases hsend : c.IsSendable comId
  · obtain ⟨request, hprepare, -⟩ := prepare_of_sendable hsend
    have hlawful : c.method.request.IsLawful := hrequest ▸ Packing.isLawful_json Req
    have hadapt : ∀ comId responder s, h.adapt toArgs convert comId c.request responder s
        = h'.adapt toArgs convert comId c.request responder s := by
      intro comId responder s
      unfold Handler.adapt
      rw [hargs, hsame hsend.accepts]
    have hhandle : d.handle request ticket = d'.handle request ticket := by
      funext s
      rw [handle_of_prepare hsend hprepare hkind hlawful hrun,
        handle_of_prepare hsend hprepare hkind' hlawful hrun', hadapt]
    rw [invoke_of_sent hprepare, invoke_of_sent hprepare]
    unfold Dispatcher.channel
    rw [hhandle]
  · obtain ⟨failure, -, hprepare⟩ := prepare_of_not_sendable hsend
    rw [invoke_of_refused hprepare, invoke_of_refused hprepare]

/-! ## The services -/

section Services

variable {comId : String}

/-- **All calls of a chat service are delivered.** A request to load messages has to ask for
some. -/
theorem Chat.calls_delivered (h : Handlers σ) (hcomId : comId ≠ "") :
    IsDelivered h.dispatcher obtainChats comId h.obtainChats () Listing.ofInfos True
    ∧ (∀ chatId, IsDelivered h.dispatcher (selectChat chatId) comId h.selectChat chatId id True)
    ∧ (∀ localId content, IsDelivered h.dispatcher (sendMessage localId content) comId
        h.sendMessage (localId, content) id True)
    ∧ (∀ count lastId, IsDelivered h.dispatcher (loadMessages count lastId) comId
        h.loadMessages (count, lastId) id (count ≠ 0))
    ∧ IsDelivered h.dispatcher deleteHistory comId h.deleteHistory () id True
    ∧ IsDelivered h.dispatcher deleteChat comId h.deleteChat () id True := by
  have hneeds (_ : true = true) := hcomId
  refine ⟨?_, fun chatId => ?_, fun localId content => ?_, fun count lastId => ?_, ?_, ?_⟩
  · exact Call.isDelivered id rfl rfl hneeds rfl rfl Listing.toInfos_ofInfos rfl
      (by simp [obtainChats])
  · exact Call.isDelivered Selection.chatId rfl rfl hneeds rfl rfl (fun _ => rfl) rfl
      (by simp [selectChat])
  · exact Call.isDelivered (fun m : Message => (m.localId, m.content)) rfl rfl hneeds rfl rfl
      (fun _ => rfl) rfl (by simp [sendMessage])
  · exact Call.isDelivered (fun r : HistoryRequest => (r.count, r.lastId)) rfl rfl hneeds rfl rfl
      (fun _ => rfl) rfl (by simp [loadMessages])
  · refine Call.isDelivered id rfl rfl hneeds rfl ?_ (fun _ => rfl) rfl (by simp [deleteHistory])
    rw [Handler.adapt_id]
    rfl
  · refine Call.isDelivered id rfl rfl hneeds rfl ?_ (fun _ => rfl) rfl (by simp [deleteChat])
    rw [Handler.adapt_id]
    rfl

namespace Access

/-- What the handler of a question is given. -/
theorem args_askForConfirmation (feature : Feature) (timeout : UInt32) :
    (fun q : Question => (Feature.ofWire q.feature, q.timeout))
      (askForConfirmation feature timeout).request = (feature, timeout) :=
  congrArg (·, timeout) (Feature.ofWire_toWire feature)

/-- What the handler of a change is given. -/
theorem args_notifyChange (feature : Feature) (rule : Rule) :
    (fun c : Change => (Feature.ofWire c.feature, Rule.ofWire c.rule))
      (notifyChange feature rule).request = (feature, rule) :=
  Prod.ext (Feature.ofWire_toWire feature) (Rule.ofWire_toWire rule)

/-- What the client of a question checks. -/
theorem accepts_askForConfirmation (feature : Feature) (timeout : UInt32) :
    (askForConfirmation feature timeout).accepts (askForConfirmation feature timeout).request = true
      ↔ feature ≠ .undefined := by
  simp [askForConfirmation]

/-- What the client of a change checks. -/
theorem accepts_notifyChange (feature : Feature) (rule : Rule) :
    (notifyChange feature rule).accepts (notifyChange feature rule).request = true
      ↔ feature ≠ .undefined ∧ rule ≠ .undefined := by
  simp [notifyChange]

/-- **All calls of access control are delivered**, if nothing in them is undefined. -/
theorem calls_delivered (h : Handlers σ) (hcomId : comId ≠ "") :
    (∀ feature timeout, IsDelivered h.dispatcher (askForConfirmation feature timeout) comId
      h.askForConfirmation (feature, timeout) Answer.mk (feature ≠ .undefined))
    ∧ ∀ feature rule, IsDelivered h.dispatcher (notifyChange feature rule) comId
      h.notifyChange (feature, rule) id (feature ≠ .undefined ∧ rule ≠ .undefined) := by
  refine ⟨fun feature timeout => ?_, fun feature rule => ?_⟩
  · exact Call.isDelivered _ rfl rfl (fun _ => hcomId) rfl rfl (fun _ => rfl)
      (args_askForConfirmation feature timeout) (accepts_askForConfirmation feature timeout)
  · exact Call.isDelivered _ rfl rfl (fun _ => hcomId) rfl rfl (fun _ => rfl)
      (args_notifyChange feature rule) (accepts_notifyChange feature rule)

/-- **Handlers that differ at most on undefined features and rules.** -/
structure Handlers.AgreeOnDefined (h h' : Handlers σ) : Prop where
  askForConfirmation_eq : ∀ comId feature timeout responder s, feature ≠ .undefined →
    h.askForConfirmation comId (feature, timeout) responder s
      = h'.askForConfirmation comId (feature, timeout) responder s
  notifyChange_eq : ∀ comId feature rule responder s, feature ≠ .undefined → rule ≠ .undefined →
    h.notifyChange comId (feature, rule) responder s
      = h'.notifyChange comId (feature, rule) responder s

/-- **No call of access control asks about what is undefined**: what handlers do with that makes no
difference to it. -/
theorem calls_same_over {h h' : Handlers σ} (hagree : h.AgreeOnDefined h') :
    (∀ feature timeout, (askForConfirmation feature timeout).IsSameOver h.dispatcher h'.dispatcher)
    ∧ ∀ feature rule, (notifyChange feature rule).IsSameOver h.dispatcher h'.dispatcher := by
  refine ⟨fun feature timeout => ?_, fun feature rule => ?_⟩
  · exact Call.isSameOver _ Answer.mk rfl rfl rfl rfl rfl (args_askForConfirmation feature timeout)
      fun haccepts comId responder s =>
        hagree.askForConfirmation_eq comId feature timeout responder s
          ((accepts_askForConfirmation feature timeout).mp haccepts)
  · exact Call.isSameOver _ id rfl rfl rfl rfl rfl (args_notifyChange feature rule)
      fun haccepts comId responder s =>
        have hdefined := (accepts_notifyChange feature rule).mp haccepts
        hagree.notifyChange_eq comId feature rule responder s hdefined.1 hdefined.2

end Access

/-- **All calls of a registry are delivered**, versions outside any session. A service that is
registered has to have a location and a known type. -/
theorem Registry.calls_delivered (h : Handlers σ) (hcomId : comId ≠ "") :
    (∀ version, IsDelivered h.dispatcher (exchangeVersion version) "" h.exchangeVersion version
      VersionMessage.mk True)
    ∧ (∀ serviceType location, IsDelivered h.dispatcher (registerService serviceType location) comId
      h.registerService ⟨serviceType, location⟩ id (location ≠ "" ∧ serviceType ≠ .unknown))
    ∧ IsDelivered h.dispatcher discover comId h.discover () Discovered.toListing True := by
  refine ⟨fun version => ?_, fun serviceType location => ?_, ?_⟩
  · exact Call.isDelivered VersionMessage.version rfl rfl
      (fun hneeds => absurd hneeds Bool.false_ne_true) rfl rfl (fun _ => rfl) rfl
      (by simp [exchangeVersion])
  · exact Call.isDelivered Entry.toInformation rfl rfl (fun _ => hcomId) rfl rfl (fun _ => rfl)
      (Entry.toInformation_ofInformation ⟨serviceType, location⟩)
      (by simp [registerService, Entry.isComplete])
  · exact Call.isDelivered id rfl rfl (fun _ => hcomId) rfl rfl
      (fun d => congrArg Except.ok (toDiscovered_toListing d)) rfl (by simp [discover])

/-- **Arguments and answers arrive verbatim.** In a session with a name, every call of a chat
service, of access control and of a registry is one run of the handler that is bound to its method,
on the arguments of the call, and its result is that of the run; calls that the client refuses do
nothing. So a handler of access control is asked about undefined features and rules by no such
call. -/
theorem services_deliver (chat : Chat.Handlers σ) (access : Access.Handlers σ)
    (registry : Registry.Handlers σ) (hcomId : comId ≠ "") :
    (IsDelivered chat.dispatcher Chat.obtainChats comId chat.obtainChats () Chat.Listing.ofInfos
        True
      ∧ (∀ chatId, IsDelivered chat.dispatcher (Chat.selectChat chatId) comId chat.selectChat
        chatId id True)
      ∧ (∀ localId content, IsDelivered chat.dispatcher (Chat.sendMessage localId content) comId
        chat.sendMessage (localId, content) id True)
      ∧ (∀ count lastId, IsDelivered chat.dispatcher (Chat.loadMessages count lastId) comId
        chat.loadMessages (count, lastId) id (count ≠ 0))
      ∧ IsDelivered chat.dispatcher Chat.deleteHistory comId chat.deleteHistory () id True
      ∧ IsDelivered chat.dispatcher Chat.deleteChat comId chat.deleteChat () id True)
    ∧ ((∀ feature timeout, IsDelivered access.dispatcher
        (Access.askForConfirmation feature timeout) comId access.askForConfirmation
        (feature, timeout) Access.Answer.mk (feature ≠ .undefined))
      ∧ ∀ feature rule, IsDelivered access.dispatcher (Access.notifyChange feature rule) comId
        access.notifyChange (feature, rule) id (feature ≠ .undefined ∧ rule ≠ .undefined))
    ∧ ((∀ version, IsDelivered registry.dispatcher (Registry.exchangeVersion version) ""
        registry.exchangeVersion version Registry.VersionMessage.mk True)
      ∧ (∀ serviceType location, IsDelivered registry.dispatcher
        (Registry.registerService serviceType location) comId registry.registerService
        ⟨serviceType, location⟩ id (location ≠ "" ∧ serviceType ≠ .unknown))
      ∧ IsDelivered registry.dispatcher Registry.discover comId registry.discover ()
        Registry.Discovered.toListing True)
    ∧ ∀ access' : Access.Handlers σ, access.AgreeOnDefined access' →
      (∀ feature timeout, (Access.askForConfirmation feature timeout).IsSameOver access.dispatcher
        access'.dispatcher)
      ∧ ∀ feature rule, (Access.notifyChange feature rule).IsSameOver access.dispatcher
        access'.dispatcher :=
  ⟨Chat.calls_delivered chat hcomId, Access.calls_delivered access hcomId,
    Registry.calls_delivered registry hcomId, fun _ hagree => Access.calls_same_over hagree⟩

end Services

/-! ## A room -/

/-- A chat service that notes what it is asked. It tells its chats later. -/
def notingChat : Chat.Handlers (List String) where
  obtainChats comId _ _ notes := (notes ++ [comId ++ ": chats"], .kept)
  selectChat comId chatId _ notes := (notes ++ [comId ++ ": show " ++ chatId], .answered (.ok ()))
  sendMessage comId message _ notes :=
    (notes ++ [comId ++ ": send " ++ message.2], .answered (.error ⟨.noComId, "not now"⟩))
  loadMessages comId request _ notes :=
    (notes ++ [comId ++ ": load before " ++ request.2], .answered (.ok ()))
  deleteHistory comId _ _ notes := (notes ++ [comId ++ ": delete history"], .dropped)
  deleteChat comId _ _ notes := (notes ++ [comId ++ ": delete chat"], .crashed none)

/-- Access control that denies everything, and notes nothing. -/
def denyingAccess : Access.Handlers (List String) where
  askForConfirmation _ _ _ notes := (notes, .answered (.ok false))
  notifyChange _ _ _ notes := (notes, .answered (.ok ()))

/-- A registry without services. -/
def emptyRegistry : Registry.Handlers (List String) where
  exchangeVersion _ _ _ notes := (notes, .answered (.ok "7.5"))
  registerService _ _ _ notes := (notes, .answered (.ok ()))
  discover comId _ _ notes := (notes, .answered (.ok ⟨comId, []⟩))

theorem services_deliver_room :
    "room" ≠ ""
    ∧ Chat.obtainChats.invoke (some (notingChat.dispatcher.channel 0
        (((Chat.obtainChats.method.responder 0).map Chat.Listing.ofInfos).awaited
          (pure (some (.ok [⟨"a", "Lunch", .session, 7, .closed⟩])))))) "room" []
      = (.ok [⟨"a", "Lunch", .session, 7, .closed⟩], ["room: chats"])
    ∧ (Chat.sendMessage 1 "hello").invoke (some (notingChat.dispatcher.channel 1
        (((Chat.sendMessage 1 "hello").method.responder 1).map id |>.awaited (pure none)))) "room" []
      = (.error ⟨.noComId, "not now"⟩, ["room: send hello"])
    ∧ (Chat.loadMessages 0 "m").invoke (some (notingChat.dispatcher.channel 2
        (((Chat.loadMessages 0 "m").method.responder 2).map id |>.awaited (pure none)))) "room" []
      = (.error (.of .invalidInputParameter), []) := by
  have hcomId : "room" ≠ "" := by decide
  obtain ⟨⟨hchats, -, hsend, hload, -⟩, -⟩ :=
    services_deliver notingChat denyingAccess emptyRegistry hcomId
  refine ⟨hcomId, ?_, ?_, ?_⟩
  · rw [(hchats 0 (pure (some (.ok [⟨"a", "Lunch", .session, 7, .closed⟩])))).1 trivial]
    rfl
  · rw [(hsend 1 "hello" 1 (pure none)).1 trivial]
    rfl
  · rw [(hload 0 "m" 2 (pure none)).2 (by decide)]
    rfl

end Switchboard
