import Switchboard.Client.Basic
import Switchboard.Proofs.Dispatch.Call

/-!
# What a call does with its channel

A call can fail before anything is sent, on the way, on the other side and when
its response is read. This module says which of these it is, for a client in any
state and a channel that does anything at all.

Both halves of a call are described by relations that know neither
`Call.prepare` nor `Call.conclude`. `Call.Unmet` has a constructor for each
condition of sending, with the earlier ones as its hypotheses; `Call.Reads` has
one for each way an answer can be taken. The status of a reply is read as it
arrived: nothing is assumed about its state, kind and message fitting together,
and the payload of a failure is not looked at.

How often the channel is used can be read off a channel that keeps a record of
its requests (`ChannelIn.recorded`).
-/

namespace Switchboard

open Wire (Request Reply)

variable {σ χ Req Resp Out : Type}

theorem append_ne_empty {front back : String} (h : front ≠ "") : front ++ back ≠ "" :=
  fun hempty => h (String.append_eq_empty_iff.mp hempty).1

/-- A lost request is never reported without a word: every report starts with a fixed one. -/
theorem TransportError.message_ne_empty (e : TransportError) : e.message ≠ "" := by
  cases e with
  | connect => exact append_ne_empty (append_ne_empty (append_ne_empty (by decide)))
  | send => exact append_ne_empty (by decide)
  | closed => decide
  | truncated => exact append_ne_empty (by decide)
  | io => exact append_ne_empty (by decide)
  | protocol => exact append_ne_empty (by decide)
  | frameTooLarge => exact append_ne_empty (append_ne_empty (append_ne_empty (by decide)))
  | header => decide

/-- The text that stands in for a missing message is not empty. -/
theorem CallFailure.because_message_ne_empty (kind : FailureKind) (reason : String) :
    (CallFailure.because kind reason).message ≠ "" := by
  show (if reason = "" then kind.defaultMessage else reason) ≠ ""
  split
  · exact kind.defaultMessage_ne_empty
  · assumption

namespace Call

variable {c : Call Req Resp Out} {client : Client χ} {comId : String}

/-! ## What keeps a call from being sent -/

/-- **The first condition that a call does not meet**, with the failure that it ends in. The
conditions are that the client is started, that a session is named if the method needs one, that
the request is acceptable and that it can be packed, in this order. -/
inductive Unmet (c : Call Req Resp Out) (client : Client χ) (comId : String) : CallFailure → Prop
  | start (hstop : client.isStarted = false) : Unmet c client comId (.of .clientNotStarted)
  | session (hstart : client.isStarted = true) (hneeds : c.method.kind.needsComId = true)
      (hempty : comId = "") : Unmet c client comId (.of .invalidInputParameter)
  | acceptance (hstart : client.isStarted = true)
      (hcomId : c.method.kind.needsComId = true → comId ≠ "")
      (haccepts : c.accepts c.request = false) : Unmet c client comId (.of .invalidInputParameter)
  | packing (hstart : client.isStarted = true)
      (hcomId : c.method.kind.needsComId = true → comId ≠ "")
      (haccepts : c.accepts c.request = true) {reason : String}
      (hpack : c.method.request.pack c.request = .error reason) :
      Unmet c client comId ⟨.invalidInputParameter,
        Method.complaint "encode" c.method.kind "request" reason⟩

/-- Some condition is not met unless the client is started and the call can be sent. -/
theorem exists_unmet_iff :
    (∃ failure, c.Unmet client comId failure)
      ↔ ¬ (client.isStarted = true ∧ c.IsSendable comId) := by
  constructor
  · rintro ⟨failure, hunmet⟩ ⟨hstarted, hsend⟩
    cases hunmet with
    | start hstop => exact Bool.false_ne_true (hstop.symm.trans hstarted)
    | session _ hneeds hempty => exact hsend.comId_ne hneeds hempty
    | acceptance _ _ haccepts => exact Bool.false_ne_true (haccepts.symm.trans hsend.accepts)
    | packing _ _ _ hpack =>
      obtain ⟨payload, hpacked⟩ := hsend.packs
      exact nomatch hpack.symm.trans hpacked
  · intro hnot
    by_cases hstart : client.isStarted = true
    · by_cases hcomId : c.method.kind.needsComId = true → comId ≠ ""
      · by_cases haccepts : c.accepts c.request = true
        · cases hpack : c.method.request.pack c.request with
          | error reason => exact ⟨_, .packing hstart hcomId haccepts hpack⟩
          | ok payload => exact absurd ⟨hstart, hcomId, haccepts, payload, hpack⟩ hnot
        · exact ⟨_, .acceptance hstart hcomId (Bool.eq_false_iff.mpr haccepts)⟩
      · obtain ⟨hneeds, hempty⟩ := Classical.not_imp.mp hcomId
        exact ⟨_, .session hstart hneeds (not_not.mp hempty)⟩
    · exact ⟨_, .start (Bool.eq_false_iff.mpr hstart)⟩

/-- Once the client is started, an unmet condition is what `prepare` fails with. -/
theorem Unmet.prepare_eq {failure : CallFailure} (h : c.Unmet client comId failure)
    (hstart : client.isStarted = true) : c.prepare comId = .error failure := by
  cases h with
  | start hstop => exact absurd (hstop.symm.trans hstart) Bool.false_ne_true
  | session _ hneeds hempty => exact prepare_of_unacceptable (.inl ⟨hneeds, hempty⟩)
  | acceptance _ _ haccepts => exact prepare_of_unacceptable (.inr haccepts)
  | packing _ hcomId haccepts hpack => exact prepare_of_unpackable hcomId haccepts hpack

/-- Whatever is not met, there is something to be said about it. -/
theorem Unmet.message_ne_empty {failure : CallFailure} (h : c.Unmet client comId failure) :
    failure.message ≠ "" := by
  cases h with
  | start => exact FailureKind.defaultMessage_ne_empty .clientNotStarted
  | session => exact FailureKind.defaultMessage_ne_empty .invalidInputParameter
  | acceptance => exact FailureKind.defaultMessage_ne_empty .invalidInputParameter
  | packing => exact Method.complaint_ne_empty "encode" _ "request" _

/-! ## What is made of an answer -/

/-- **The result that an answer leads to.** -/
inductive Reads (c : Call Req Resp Out) : Except TransportError Reply → CallResult Out → Prop
  | lost (e : TransportError) : Reads c (.error e) (.error ⟨.transportFailure, e.message⟩)
  | failed {reply : Reply} {kind : FailureKind} {message : String}
      (hstate : reply.status.outcome.state = .failed)
      (hkind : reply.status.kind.getD .aborted = kind)
      (hmessage : (if reply.status.outcome.errorMessage = "" then kind.defaultMessage
        else reply.status.outcome.errorMessage) = message) :
      Reads c (.ok reply) (.error ⟨kind, message⟩)
  | unreadable {reply : Reply} (hstate : reply.status.outcome.state = .ok)
      (hunpack : c.method.response.unpack? reply.payload = none) :
      Reads c (.ok reply) (.error ⟨.invalidResponseValue,
        Method.complaint "decode" c.method.kind "response" Method.unreadable⟩)
  | interpreted {reply : Reply} {response : Resp} (hstate : reply.status.outcome.state = .ok)
      (hunpack : c.method.response.unpack? reply.payload = some response) :
      Reads c (.ok reply) (c.interpret response)

/-- A status reports a success exactly if that is its state. -/
theorem toResult_of_state_ok {status : Wire.Status} (h : status.outcome.state = .ok) :
    status.toResult = .ok () :=
  if_pos (decide_eq_true h)

theorem toResult_of_state_failed {status : Wire.Status} (h : status.outcome.state = .failed) :
    status.toResult
      = .error (.because (status.kind.getD .aborted) status.outcome.errorMessage) :=
  if_neg (by rw [CallStatus.isOk, h]; decide)

/-- Every answer is read in some way. -/
theorem exists_reads (c : Call Req Resp Out) (answer : Except TransportError Reply) :
    ∃ result, c.Reads answer result := by
  cases answer with
  | error e => exact ⟨_, .lost e⟩
  | ok reply =>
    cases hstate : reply.status.outcome.state with
    | failed => exact ⟨_, .failed hstate rfl rfl⟩
    | ok =>
      cases hunpack : c.method.response.unpack? reply.payload with
      | none => exact ⟨_, .unreadable hstate hunpack⟩
      | some response => exact ⟨_, .interpreted hstate hunpack⟩

/-- **The result of a call is what is read in the answer.** -/
theorem Reads.conclude_eq {answer : Except TransportError Reply} {result : CallResult Out}
    (h : c.Reads answer result) : c.conclude answer = result := by
  cases h with
  | lost e => exact congrArg Except.error (CallFailure.because_of_ne_empty e.message_ne_empty)
  | failed hstate hkind hmessage =>
    subst hkind hmessage
    unfold conclude
    dsimp only
    rw [toResult_of_state_failed hstate]
    rfl
  | unreadable hstate hunpack =>
    unfold conclude
    dsimp only
    rw [toResult_of_state_ok hstate, hunpack]
    exact congrArg Except.error
      (CallFailure.because_of_ne_empty (Method.complaint_ne_empty "decode" _ "response" _))
  | interpreted hstate hunpack =>
    unfold conclude
    dsimp only
    rw [toResult_of_state_ok hstate, hunpack]

/-- **A failure that is read has a message**, unless it is a failure that the response was
interpreted as. -/
theorem Reads.interpreted_of_silent {answer : Except TransportError Reply} {failure : CallFailure}
    (h : c.Reads answer (.error failure)) (hsilent : failure.message = "") :
    ∃ reply response, answer = .ok reply ∧ reply.status.outcome.state = .ok
      ∧ c.method.response.unpack? reply.payload = some response
      ∧ c.interpret response = .error failure := by
  generalize hresult : (Except.error failure : CallResult Out) = result at h
  cases h with
  | lost e =>
    obtain rfl := Except.error.inj hresult
    exact absurd hsilent e.message_ne_empty
  | failed hstate hkind hmessage =>
    obtain rfl := Except.error.inj hresult
    exact absurd (hmessage.trans hsilent)
      (CallFailure.because_message_ne_empty _ _)
  | unreadable hstate hunpack =>
    obtain rfl := Except.error.inj hresult
    exact absurd hsilent (Method.complaint_ne_empty "decode" _ "response" _)
  | interpreted hstate hunpack => exact ⟨_, _, rfl, hstate, hunpack, rfl⟩

end Call

/-! ## The channel that is used -/

/-- **A channel that keeps a record** of the requests it is used for. -/
def ChannelIn.recorded (send : ChannelIn (StateM σ)) : ChannelIn (StateM (List Request × σ)) :=
  fun request (requests, s) =>
    ((send request s).1, requests ++ [request], (send request s).2)

namespace Call

variable {c : Call Req Resp Out} {client : Client (ChannelIn (StateM σ))} {comId : String}

/-- A call with an unmet condition fails, and does nothing else. -/
theorem Unmet.invoke_eq {failure : CallFailure} (h : c.Unmet client comId failure) :
    c.invoke (client.channel.map ChannelIn.recorded) comId = pure (.error failure) := by
  cases hchannel : client.channel with
  | none =>
    have hstop : client.isStarted = false := by rw [Client.isStarted, hchannel]; rfl
    cases h with
    | start => rfl
    | session hstart | acceptance hstart | packing hstart =>
      exact absurd (hstop.symm.trans hstart) Bool.false_ne_true
  | some send =>
    have hstart : client.isStarted = true := by rw [Client.isStarted, hchannel]; rfl
    exact invoke_of_refused (h.prepare_eq hstart) send.recorded

/-- A call that can be sent uses its channel once. -/
theorem invoke_recorded {send : ChannelIn (StateM σ)} {payload : ByteArray}
    (hchannel : client.channel = some send) (hsend : c.IsSendable comId)
    (hpack : c.method.request.pack c.request = .ok payload) (requests : List Request) (s : σ) :
    let request := c.outgoing comId payload
    c.invoke (client.channel.map ChannelIn.recorded) comId (requests, s)
      = (c.conclude (send request s).1, requests ++ [request], (send request s).2) := by
  rw [hchannel]
  exact congrFun (invoke_of_sent (prepare_of_packed hsend hpack) send.recorded) (requests, s)

/-- **A call uses its channel exactly when it may, and classifies every answer.** Let a call be
made by a client in any state, over a channel that does anything and keeps a record of its
requests.

* Unless the client is started and the call can be sent, there is a first condition that is not
  met. The call ends in the failure that belongs to it; no request is recorded and nothing else
  is done.
* Otherwise exactly one request is recorded. It names the session if that is not empty, and the
  method, and it carries the packed request. What the channel does is all that is done, and the
  call ends in the result that is read in the answer.
* Every answer is read, in one way only.
* A failure without a message is one that a response was interpreted as. -/
theorem invoke_classified (c : Call Req Resp Out) (client : Client (ChannelIn (StateM σ)))
    (comId : String) (requests : List Request) (s : σ) :
    let invoked := c.invoke (client.channel.map ChannelIn.recorded) comId (requests, s)
    ((∃ failure, c.Unmet client comId failure)
      ↔ ¬ (client.isStarted = true ∧ c.IsSendable comId)) ∧
    (∀ failure, c.Unmet client comId failure → invoked = (.error failure, requests, s)) ∧
    (∀ send payload, client.channel = some send → c.IsSendable comId →
      c.method.request.pack c.request = .ok payload →
      let request := c.outgoing comId payload
      ∀ result, c.Reads (send request s).1 result →
        invoked = (result, requests ++ [request], (send request s).2)) ∧
    (∀ answer, ∃! result, c.Reads answer result) ∧
    (∀ failure, invoked.1 = .error failure → failure.message = "" →
      ∃ send request reply response, client.channel = some send
        ∧ invoked.2.1 = requests ++ [request] ∧ (send request s).1 = .ok reply
        ∧ reply.status.outcome.state = .ok
        ∧ c.method.response.unpack? reply.payload = some response
        ∧ c.interpret response = .error failure) := by
  intro invoked
  refine ⟨exists_unmet_iff, fun failure hunmet => ?_, fun send payload hchannel hsend hpack => ?_,
    fun answer => ?_, fun failure hfailed hsilent => ?_⟩
  · exact congrFun hunmet.invoke_eq (requests, s)
  · intro request result hreads
    rw [← hreads.conclude_eq]
    exact invoke_recorded hchannel hsend hpack requests s
  · obtain ⟨result, hreads⟩ := c.exists_reads answer
    exact ⟨result, hreads, fun other hother => hother.conclude_eq.symm.trans hreads.conclude_eq⟩
  -- a call that may not be sent fails with a message, so this one was sent
  · by_cases hmay : client.isStarted = true ∧ c.IsSendable comId
    · obtain ⟨hstart, hsend⟩ := hmay
      obtain ⟨send, hchannel⟩ := Option.isSome_iff_exists.mp hstart
      obtain ⟨payload, hpack⟩ := hsend.packs
      have hinvoked : invoked = _ := invoke_recorded hchannel hsend hpack requests s
      rw [hinvoked] at hfailed ⊢
      obtain ⟨result, hreads⟩ := c.exists_reads (send (c.outgoing comId payload) s).1
      obtain rfl : result = .error failure := hreads.conclude_eq.symm.trans hfailed
      obtain ⟨reply, response, hreply⟩ := hreads.interpreted_of_silent hsilent
      exact ⟨send, _, reply, response, hchannel, rfl, hreply⟩
    · obtain ⟨unmet, hunmet⟩ := exists_unmet_iff.mpr hmay
      have hinvoked : invoked = (.error unmet, requests, s) :=
        congrFun hunmet.invoke_eq (requests, s)
      rw [hinvoked] at hfailed
      obtain rfl := Except.error.inj hfailed
      exact absurd hsilent hunmet.message_ne_empty

/-- A failure that comes without a kind and a message is not left without them. -/
example : (askLength.invoke (some fun _ => pure (.ok ⟨⟨⟨.failed, ""⟩, none⟩, .empty⟩)) "room" :
    StateM Unit (CallResult UInt32)) () = (.error ⟨.aborted, "call aborted"⟩, ()) := rfl

end Call

end Switchboard
