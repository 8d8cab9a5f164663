import Switchboard.Proofs.Channel.Waiting

/-!
# What is written on links

The links of a channel are written on by its calls and by nobody else, so what
has gone out on a link is what has been noted of its calls, in the order in
which they wrote. A call has a link to write on because it keeps the number of
one that is there, and links are not taken away (`Channel.Linked`).
-/

namespace Switchboard.Client

open Wire (Request ReplyEnvelope)

/-- What calls have written on a link, one after another. -/
def writtenOn (link : Nat) (outgoing : List Outgoing) : List UInt8 :=
  (outgoing.filter (·.link = link)).flatMap (·.bytes)

theorem writtenOn_append (link : Nat) (outgoing outgoing' : List Outgoing) :
    writtenOn link (outgoing ++ outgoing')
      = writtenOn link outgoing ++ writtenOn link outgoing' := by
  unfold writtenOn
  rw [List.filter_append, List.flatMap_append]

theorem link?_learn (phase : Phase) (answer : Answer) :
    (phase.learn answer).link? = phase.link? := by
  cases phase with
  | writing link callId known | waiting link callId known => cases known <;> rfl
  | _ => rfl

namespace Channel

variable {ch : Channel} {link k : Nat}

/-- What has gone out on a link. -/
def outbound (ch : Channel) (link : Nat) : List UInt8 := (ch.links[link]?).elim [] (·.outbound)

/-- **Every call's link is there.** -/
def Linked (ch : Channel) : Prop :=
  ∀ (c : Nat) (e : Exchange), ch.calls[c]? = some e →
    ∀ link, e.phase.link? = some link → link < ch.links.length

@[simp] theorem length_withdraw (ch : Channel) (link : Nat) (callId : UInt64) :
    (ch.withdraw link callId).links.length = ch.links.length := by
  unfold withdraw
  split
  · rfl
  · rw [links_tell, length_changeLink]

/-! ## Calls and their links -/

namespace Linked

/-- A change to the links takes none away. -/
theorem congr (h : ch.Linked) {ch' : Channel} (hcalls : ch'.calls = ch.calls)
    (hlength : ch.links.length ≤ ch'.links.length) : ch'.Linked := by
  intro c e he link hlink
  rw [hcalls] at he
  exact Nat.lt_of_lt_of_le (h c e he link hlink) hlength

theorem changeLink (h : ch.Linked) (link : Nat) (f : Link → Link) : (ch.changeLink link f).Linked :=
  h.congr rfl (Nat.le_of_eq (length_changeLink ..).symm)

theorem discard (h : ch.Linked) (link : Nat) : (ch.discard link).Linked :=
  h.congr (calls_discard ..) (Nat.le_of_eq (by rw [links_discard]))

theorem dial (h : ch.Linked) : ch.dial.Linked :=
  h.congr rfl (length_dial ch ▸ Nat.le_succ _)

theorem draw (h : ch.Linked) : ch.draw.Linked := h.congr rfl (Nat.le_refl _)

theorem begin (h : ch.Linked) (request : Request) : (ch.begin request).1.Linked := by
  intro c e he link hlink
  obtain he | rfl := of_getElem?_begin he
  · exact h c e he link hlink
  · exact absurd hlink nofun

theorem changeCall (h : ch.Linked) (call : Nat) {f : Exchange → Exchange}
    (hf : ∀ e, ch.calls[call]? = some e → ∀ link, (f e).phase.link? = some link →
      link < ch.links.length) : (ch.changeCall call f).Linked := by
  intro c e he link hlink
  rw [getElem?_changeCall] at he
  split at he
  · next hc =>
    obtain ⟨e', he', rfl⟩ := Option.map_eq_some_iff.mp he
    exact hf e' (hc ▸ he') link hlink
  · exact h c e he link hlink

theorem setPhase (h : ch.Linked) (call : Nat) {phase : Phase}
    (hphase : ∀ link, phase.link? = some link → link < ch.links.length) :
    (ch.setPhase call phase).Linked :=
  h.changeCall call fun _ _ => hphase

theorem fail (h : ch.Linked) (call : Nat) (error : TransportError) :
    (ch.fail call error).Linked := by
  refine h.changeCall call fun e _ link hlink => ?_
  unfold Exchange.fail at hlink
  split at hlink <;> exact absurd hlink nofun

theorem tell (h : ch.Linked) (news : List (Nat × Answer)) : (ch.tell news).Linked := by
  intro c e he link hlink
  rw [getElem?_tell] at he
  obtain ⟨e', he', rfl⟩ := Option.map_eq_some_iff.mp he
  rw [links_tell]
  have hsame := learned_iff (P := fun phase => phase.link? = some link)
    (fun phase answer => by rw [link?_learn]) c news e'.phase
  exact h c e' he' link (hsame.mp hlink)

theorem withdraw (h : ch.Linked) (link : Nat) (callId : UInt64) :
    (ch.withdraw link callId).Linked := by
  unfold Channel.withdraw
  split
  · exact h
  · exact (h.changeLink _ _).tell _

/-- **Every event leaves each call with a link that is there.** -/
theorem step {ch' : Channel} {event : Event} {notes : Notes} (h : ch.Linked)
    (hstep : Step ch event ch' notes) : ch'.Linked := by
  have hown {call : Nat} {e : Exchange} (hcall : ch.calls[call]? = some e) {link : Nat}
      (hlink : e.phase.link? = some link) : link < ch.links.length := h call e hcall link hlink
  cases hstep with
  | idle => exact h
  | begin request => exact h.begin request
  | share hcall hphase hcurrent =>
    -- the link that is shared is open, so it is there
    refine h.setPhase _ fun link hlink => ?_
    obtain ⟨-, hthere⟩ := Option.filter_eq_some_iff.mp hcurrent
    obtain ⟨l, hl, -⟩ := isOpen_iff.mp hthere
    rw [← Option.some_inj.mp hlink]
    exact (List.getElem?_eq_some_iff.mp hl).1
  | refuse => exact h.fail _ _
  | dial hcall hphase =>
    refine h.dial.setPhase _ fun link hlink => ?_
    rw [← Option.some_inj.mp hlink, length_dial]
    exact Nat.lt_succ_self _
  | leave hcall hphase hlink =>
    refine ((h.draw.withdraw _ _).changeLink _ _).setPhase _ fun link hsame => ?_
    rw [length_changeLink, length_withdraw]
    exact hown hcall (by rw [hphase]; exact hsame)
  | miss => exact (h.draw.discard _).fail _ _
  | write hcall hphase =>
    refine (h.changeLink _ _).setPhase _ fun link hlink => ?_
    rw [length_changeLink]
    exact hown hcall (by rw [hphase]; exact hlink)
  | breakOff => exact (((h.changeLink _ _).withdraw _ _).discard _).fail _ _
  | writeAlone => exact (h.changeLink _ _).setPhase _ nofun
  | answer | abandon => exact h.setPhase _ nofun
  | lose => exact (h.discard _).fail _ _
  | detach hcall hphase =>
    exact h.setPhase _ fun link hlink => hown hcall (by rw [hphase]; exact hlink)
  | receive hlink =>
    rw [receive_of_some hlink]
    exact (h.changeLink _ _).tell _
  | endLink hlink | endAgain hlink =>
    rw [endLink_of_some hlink]
    exact (h.changeLink _ _).tell _

end Linked

/-! ## Links and what is on them -/

theorem outbound_congr {ch' : Channel} (hlinks : ch'.links = ch.links) :
    ch'.outbound k = ch.outbound k := by
  unfold outbound
  rw [hlinks]

/-- What is done with a link but writing leaves alone what is on it. -/
theorem outbound_of_map {ch' : Channel} {f : Link → Link}
    (hlinks : ch'.links[k]? = if link = k then (ch.links[k]?).map f else ch.links[k]?)
    (hf : ∀ l, (f l).outbound = l.outbound) : ch'.outbound k = ch.outbound k := by
  unfold outbound
  rw [hlinks]
  split
  · cases ch.links[k]? with
    | none => rfl
    | some l => exact hf l
  · rfl

theorem outbound_write (hlink : link < ch.links.length) (bytes : List UInt8) :
    (ch.changeLink link (·.write bytes)).outbound k
      = ch.outbound k ++ if link = k then bytes else [] := by
  unfold outbound
  rw [getElem?_changeLink]
  split
  · next hk =>
    rw [List.getElem?_eq_getElem (hk ▸ hlink)]
    rfl
  · exact (List.append_nil _).symm

@[simp] theorem outbound_withdraw (ch : Channel) (link k : Nat) (callId : UInt64) :
    (ch.withdraw link callId).outbound k = ch.outbound k := by
  unfold withdraw
  split
  · rfl
  · exact (outbound_congr (links_tell ..)).trans
      (outbound_of_map (getElem?_changeLink ..) fun _ => rfl)

theorem outbound_receive (l : Link) (bytes : List UInt8) :
    (l.receive bytes).1.outbound = l.outbound := by
  have hroute := l.route_keeps (·.outbound) fun _ _ => rfl
  unfold Link.receive
  split
  · dsimp only
    split <;> exact hroute _
  · rfl

/-- **An event adds to what is on the links what is noted of it.** -/
theorem Step.outbound_eq {ch' : Channel} {event : Event} {notes : Notes}
    (h : Step ch event ch' notes) (hlinked : ch.Linked) (k : Nat) :
    ch'.outbound k = ch.outbound k ++ writtenOn k notes.outgoing.toList := by
  have hnothing {ch' : Channel} (hsame : ch'.outbound k = ch.outbound k) :
      ch'.outbound k = ch.outbound k ++ writtenOn k [] := hsame.trans (List.append_nil _).symm
  have hwrite {call link : Nat} {callId : UInt64} {e : Exchange} (broken : Option Break)
      (hcall : ch.calls[call]? = some e) (hlink : e.phase.link? = some link) :
      (ch.changeLink link (·.write (written callId e.request broken).bytes)).outbound k
        = ch.outbound k ++ writtenOn k [sending call link callId e.request broken] := by
    rw [outbound_write (hlinked call e hcall link hlink)]
    unfold writtenOn sending
    by_cases hk : link = k <;> simp [hk]
  -- three events write, a whole request or the part of one; the others leave all bytes alone
  cases h with
  | idle | begin | share | answer | detach | abandon | refuse => exact hnothing rfl
  | dial =>
    refine hnothing ?_
    unfold outbound
    rw [links_setPhase, getElem?_dial]
    split
    · next hk => rw [hk, List.getElem?_eq_none (Nat.le_refl _)]; rfl
    · rfl
  | leave =>
    refine hnothing ((outbound_congr (links_setPhase ..)).trans ?_)
    exact (outbound_of_map (getElem?_changeLink _ _ _ (·.expect _ _)) fun _ => rfl).trans
      (outbound_withdraw ch.draw ..)
  | miss | lose => exact hnothing (outbound_congr ((links_fail ..).trans (links_discard ..)))
  | write hcall hphase =>
    exact (outbound_congr (links_setPhase ..)).trans (hwrite _ hcall (by rw [hphase]; rfl))
  | breakOff hcall hphase =>
    refine (outbound_congr ((links_fail ..).trans (links_discard ..))).trans ?_
    exact (outbound_withdraw ..).trans (hwrite _ hcall (by rw [hphase]; rfl))
  | writeAlone hcall hphase =>
    exact (outbound_congr (links_setPhase ..)).trans (hwrite _ hcall (by rw [hphase]; rfl))
  | receive => exact hnothing (outbound_of_map (getElem?_receive ..) fun l => outbound_receive l _)
  | endLink | endAgain => exact hnothing (outbound_of_map (getElem?_endLink ..) fun _ => rfl)

end Channel

end Switchboard.Client
