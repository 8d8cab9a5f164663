import Switchboard.Proofs.Channel.Routing

/-!
# Replies in portions

The bytes of a link come in portions that have nothing to do with envelopes.
How they are cut makes no difference to anybody: a link that takes two portions
one after the other ends up as if it had taken both at once, it hands out the
same replies to the same calls in the same order, and loses the same ones
(`Link.receive_append`). So does a channel (`Channel.receiveAll_eq`).
-/

namespace Switchboard.Client

open Wire (ReplyEnvelope)

namespace Link

/-- Handing out replies goes on where it has stopped. -/
theorem route_append (l : Link) (first second : List ReplyEnvelope) :
    l.route (first ++ second) =
      (((l.route first).1.route second).1,
        (l.route first).2 ++ ((l.route first).1.route second).2) := by
  induction first generalizing l with
  | nil => rfl
  | cons envelope rest ih =>
    rw [List.cons_append, route, route]
    cases l.waiting.lookup envelope.header.callId with
    | none => exact ih l
    | some call =>
      dsimp only
      rw [ih]
      rfl

/-- The link with other bytes that are kept for later. -/
def keep (l : Link) (pending : List UInt8) : Link := { l with inbound := pending }

/-- They do not matter to it. -/
theorem route_keep (l : Link) (pending : List UInt8) (envelopes : List ReplyEnvelope) :
    (l.keep pending).route envelopes
      = ((l.route envelopes).1.keep pending, (l.route envelopes).2) := by
  induction envelopes generalizing l with
  | nil => rfl
  | cons envelope rest ih =>
    rw [route, route, show (l.keep pending).waiting = l.waiting from rfl]
    cases l.waiting.lookup envelope.header.callId with
    | none => exact ih l
    | some call =>
      dsimp only
      rw [show (l.keep pending).forget envelope.header.callId
        = (l.forget envelope.header.callId).keep pending from rfl, ih]

/-- What a link makes of bytes, by what has arrived with them. -/
theorem receive_of_open {l : Link} (hopen : l.isOpen = true) {bytes : List UInt8}
    {arrived : Wire.Arrivals ReplyEnvelope}
    (harrived : Wire.arrivals Wire.readReply (l.inbound ++ bytes) = arrived) :
    l.receive bytes = match arrived.error with
      | none => ((l.route arrived.values).1.keep arrived.pending, (l.route arrived.values).2, [])
      | some _ => ((l.route arrived.values).1.close.1, (l.route arrived.values).2,
          (l.route arrived.values).1.close.2) := by
  unfold receive
  rw [if_pos hopen, harrived]
  rfl

/-- A link that has lost replies reads nothing more. -/
theorem lost_eq_nil_or (l : Link) (bytes more : List UInt8) :
    (l.receive bytes).2.2 = [] ∨
      (l.receive bytes).1.receive more = ((l.receive bytes).1, [], []) := by
  cases hopen : l.isOpen with
  | false =>
    rw [receive_of_closed hopen]
    exact .inl rfl
  | true =>
    rw [receive_of_open hopen rfl]
    cases (Wire.arrivals Wire.readReply (l.inbound ++ bytes)).error with
    | none => exact .inl rfl
    | some error => exact .inr (receive_of_closed rfl more)

/-- **Two portions are as good as one.** -/
theorem receive_append (l : Link) (bytes more : List UInt8) :
    l.receive (bytes ++ more) =
      (((l.receive bytes).1.receive more).1,
        (l.receive bytes).2.1 ++ ((l.receive bytes).1.receive more).2.1,
        (l.receive bytes).2.2 ++ ((l.receive bytes).1.receive more).2.2) := by
  cases hopen : l.isOpen with
  | false => rw [receive_of_closed hopen, receive_of_closed hopen, receive_of_closed hopen]; rfl
  | true =>
    have happend := Wire.Read.steady_reply.arrivals_append (by decide) (l.inbound ++ bytes) more
    rw [List.append_assoc] at happend
    rw [receive_of_open hopen happend]
    generalize hfirst : Wire.arrivals Wire.readReply (l.inbound ++ bytes) = first
    rw [receive_of_open hopen hfirst]
    obtain ⟨values, pending, error⟩ := first
    cases error with
    | some error =>
      -- nothing is read behind an error
      dsimp only
      rw [receive_of_closed rfl, List.append_nil, List.append_nil]
    | none =>
      dsimp only
      have hrouted : ((l.route values).1.keep pending).isOpen = true :=
        (isOpen_route l values).trans hopen
      generalize hsecond : Wire.arrivals Wire.readReply (pending ++ more) = second
      rw [receive_of_open hrouted hsecond, route_append, route_keep]
      cases second.error <;> rfl

end Link

namespace Channel

/-- The channel after bytes have come in on a link, portion by portion. -/
def receiveAll (ch : Channel) (link : Nat) (portions : List (List UInt8)) : Channel :=
  portions.foldl (fun ch bytes => ch.receive link bytes) ch

theorem receive_append (ch : Channel) (link : Nat) (bytes more : List UInt8) :
    ch.receive link (bytes ++ more) = (ch.receive link bytes).receive link more := by
  cases hlink : ch.links[link]? with
  | none =>
    rw [receive_of_none hlink, receive_of_none hlink, receive_of_none hlink]
  | some l =>
    have hafter := getElem?_receive ch link link bytes
    rw [if_pos rfl, hlink, Option.map_some] at hafter
    rw [receive_of_some hlink, receive_of_some hafter, receive_of_some hlink, l.receive_append,
      tell_changeLink, changeLink_changeLink, ← tell_append]
    refine congrArg _ ?_
    dsimp only
    rw [List.map_append, List.map_append]
    obtain hlost | hover := l.lost_eq_nil_or bytes more
    · rw [hlost, List.map_nil, List.append_nil, List.nil_append, List.append_assoc]
    · rw [hover, List.map_nil, List.map_nil, List.append_nil, List.append_nil, List.append_nil,
        List.append_nil]

/-- **However the bytes are cut**, a channel makes the same of them. -/
theorem receiveAll_eq {ch : Channel} {link : Nat} {l : Link} (hlink : ch.links[link]? = some l)
    (hinbound : l.inbound = []) (portions : List (List UInt8)) :
    ch.receiveAll link portions = ch.receive link portions.flatten := by
  have hnothing : ch.receive link [] = ch := by
    have hsame : l.receive [] = (l, [], []) := by
      cases hopen : l.isOpen with
      | false => exact Link.receive_of_closed hopen []
      | true =>
        rw [Link.receive_of_open hopen rfl, hinbound]
        show (l.keep [], _, _) = _
        rw [show l.keep [] = l from hinbound ▸ rfl]
        rfl
    rw [receive_of_some hlink, hsame]
    exact changeLink_self hlink rfl
  suffices h : ∀ bytes, (ch.receive link bytes).receiveAll link portions
      = ch.receive link (bytes ++ portions.flatten) by
    have hstart := h []
    rwa [hnothing] at hstart
  induction portions with
  | nil =>
    intro bytes
    rw [List.flatten_nil, List.append_nil]
    rfl
  | cons portion rest ih =>
    intro bytes
    rw [List.flatten_cons, ← List.append_assoc, ← ih, receive_append]
    rfl

end Channel

end Switchboard.Client
