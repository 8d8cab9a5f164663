import Switchboard.Proofs.Channel.Orderly

/-!
# Nobody waits on a dead link

What the state of a link and the calls that use it can be, in any race. Whether
a link is open, who waits there, which link is the current one and what the next
id is are told under different locks, so each of these can change between two
moves of a call. What holds all the same (`Race.IsTidy`):

* nobody waits on a link that is closed, or on one that the channel has
  forgotten and no call uses any more, and nobody ever will;
* a call that waits does so on an open link, and its id is there;
* a call that has finished has left nothing behind;
* the ids of all calls that wait differ, as long as the ids have not begun
  again;
* the channel forgets a link only by a call that has failed on that very link.
-/

namespace Switchboard.Client

open Wire (Request Reply)

/-! ## Ids that have been left -/

/-- The ids that have been left with links, in the order of the log. -/
def leftIds (log : List Moment) : List UInt64 := (log.filterMap Moment.wait?).map (·.callId)

theorem leftIds_append (log log' : List Moment) :
    leftIds (log ++ log') = leftIds log ++ leftIds log' := by
  unfold leftIds
  rw [List.filterMap_append, List.map_append]

theorem map_callId_waits (log : List Moment) : (waits log).map (·.callId) = leftIds log := by
  induction log with
  | nil => rfl
  | cons m log ih =>
    cases m with
    | left link callId call => exact congrArg (callId :: ·) ih
    | _ => exact ih

/-- Moments at which no call leaves an id. -/
theorem leftIds_eq_nil {moments : List Moment} (h : ∀ m ∈ moments, m.wait? = none) :
    leftIds moments = [] := by
  unfold leftIds
  rw [List.filterMap_eq_nil_iff.mpr h]
  rfl

namespace Channel

variable {ch : Channel}

/-- An event that is a move as a whole leaves no id. -/
theorem leftIds_notes (ch : Channel) {move : Move} {event : Event}
    (hevent : move.event? = some event) : leftIds (ch.notes event).moments = [] := by
  have hstep := ch.step event
  generalize ch.after event = ch', ch.notes event = notes at hstep
  cases hstep with
  | receive =>
    refine leftIds_eq_nil fun m hm => ?_
    obtain ⟨envelope, -, rfl⟩ | ⟨-, rfl⟩ := mem_arrivalMoments.mp hm <;> rfl
  | leave | breakOff => cases move <;> exact absurd hevent nofun
  | _ => rfl

@[simp] theorem nextCallId_tell (ch : Channel) (news : List (Nat × Answer)) :
    (ch.tell news).nextCallId = ch.nextCallId := by
  induction news generalizing ch with
  | nil => rfl
  | cons first news ih => exact ih _

@[simp] theorem nextCallId_discard (ch : Channel) (link : Nat) :
    (ch.discard link).nextCallId = ch.nextCallId := by
  unfold discard
  split <;> rfl

@[simp] theorem nextCallId_withdraw (ch : Channel) (link : Nat) (callId : UInt64) :
    (ch.withdraw link callId).nextCallId = ch.nextCallId := by
  unfold withdraw
  split
  · rfl
  · exact nextCallId_tell ..

/-- An event that is a move as a whole draws no id. -/
theorem nextCallId_after (ch : Channel) {move : Move} {event : Event}
    (hevent : move.event? = some event) : (ch.after event).nextCallId = ch.nextCallId := by
  have hstep := ch.step event
  generalize ch.after event = ch', ch.notes event = notes at hstep
  cases hstep with
  | lose => exact nextCallId_discard ..
  | receive hlink => rw [receive_of_some hlink, nextCallId_tell]; rfl
  | endLink hlink | endAgain hlink => rw [endLink_of_some hlink, nextCallId_tell]; rfl
  | leave | miss | breakOff => cases move <;> exact absurd hevent nofun
  | _ => rfl

/-! ## The current link -/

theorem current_tell (ch : Channel) (news : List (Nat × Answer)) :
    (ch.tell news).current = ch.current := by
  induction news generalizing ch with
  | nil => rfl
  | cons first news ih => exact ih _

theorem current_withdraw (ch : Channel) (link : Nat) (callId : UInt64) :
    (ch.withdraw link callId).current = ch.current := by
  unfold withdraw
  split
  · rfl
  · exact current_tell ..

theorem current_receive (ch : Channel) (link : Nat) (bytes : List UInt8) :
    (ch.receive link bytes).current = ch.current := by
  unfold receive
  split
  · rfl
  · exact current_tell ..

theorem current_endLink (ch : Channel) (link : Nat) : (ch.endLink link).current = ch.current := by
  unfold endLink
  split
  · rfl
  · exact current_tell ..

/-- Forgetting a link leaves any other. -/
theorem current_discard {current : Nat} (hcurrent : ch.current = some current) (link : Nat) :
    (ch.discard link).current = some current ∨ link = current := by
  unfold discard
  split
  · next hsame => exact .inr (Option.some_inj.mp (hsame.symm.trans hcurrent))
  · exact .inl hcurrent

end Channel

/-! ## Ids that differ -/

namespace Race

variable {r r' : Race} {move : Move}

/-- **No id has been given to two calls.** -/
structure Distinct (r : Race) : Prop where
  left_nodup : (leftIds r.log).Nodup
  left_le : ∀ id ∈ leftIds r.log, id.toNat ≤ r.given
  numbered_le : ∀ c link id, r.stage c = some (.numbered link id) → id.toNat ≤ r.given
  numbered_new : ∀ c link id, r.stage c = some (.numbered link id) → id ∉ leftIds r.log
  numbered_inj : ∀ c c' link link' id, r.stage c = some (.numbered link id) →
    r.stage c' = some (.numbered link' id) → c = c'

/-- A call that has no id to leave makes no difference to the others. -/
theorem Distinct.congr (h : r.Distinct) (hgiven : r'.given = r.given)
    (hleft : leftIds r'.log = leftIds r.log)
    (hstage : ∀ c link id, r'.stage c = some (.numbered link id) →
      r.stage c = some (.numbered link id)) : r'.Distinct where
  left_nodup := hleft ▸ h.left_nodup
  left_le id hid := hgiven ▸ h.left_le id (hleft ▸ hid)
  numbered_le c link id hc := hgiven ▸ h.numbered_le c link id (hstage c link id hc)
  numbered_new c link id hc := hleft ▸ h.numbered_new c link id (hstage c link id hc)
  numbered_inj c c' link link' id hc hc' :=
    h.numbered_inj c c' link link' id (hstage c link id hc) (hstage c' link' id hc')

/-- A stage without an id takes the place of another. -/
theorem numbered_of_update {stage : Nat → Option Stage} {call : Nat} (s : Option Stage)
    (hs : ∀ link id, s ≠ some (.numbered link id)) {c link : Nat} {id : UInt64}
    (hc : Function.update stage call s c = some (.numbered link id)) :
    c ≠ call ∧ stage c = some (.numbered link id) := by
  by_cases hcall : c = call
  · subst hcall
    rw [Function.update_self] at hc
    exact absurd hc (hs link id)
  · rw [Function.update_of_ne hcall] at hc
    exact ⟨hcall, hc⟩

/-- A call draws an id that is larger than all others. -/
theorem Distinct.draw (h : r.Distinct) (call link : Nat)
    (hnext : r.channel.nextCallId.toNat = r.given + 1) : (r.number call link).Distinct := by
  have hcases (c link' : Nat) (id : UInt64)
      (hc : (r.number call link).stage c = some (.numbered link' id)) :
      (c = call ∧ id = r.channel.nextCallId) ∨ r.stage c = some (.numbered link' id) := by
    change Function.update r.stage call _ c = _ at hc
    by_cases hcall : c = call
    · subst hcall
      rw [Function.update_self, Option.some.injEq, Stage.numbered.injEq] at hc
      exact .inl ⟨rfl, hc.2.symm⟩
    · rw [Function.update_of_ne hcall] at hc
      exact .inr hc
  -- all ids that were given are below the next one, as long as they have not begun again
  have hnew (id : UInt64) (hid : id.toNat ≤ r.given) : id ≠ r.channel.nextCallId := by
    rintro rfl
    omega
  refine ⟨h.left_nodup, fun id hid => Nat.le_succ_of_le (h.left_le id hid), ?_, ?_, ?_⟩
  · intro c link' id hc
    obtain ⟨-, rfl⟩ | hold := hcases c link' id hc
    · exact Nat.le_of_eq hnext
    · exact Nat.le_succ_of_le (h.numbered_le c link' id hold)
  · intro c link' id hc hid
    obtain ⟨-, rfl⟩ | hold := hcases c link' id hc
    · exact hnew _ (h.left_le _ hid) rfl
    · exact h.numbered_new c link' id hold hid
  · intro c c' link' link'' id hc hc'
    obtain ⟨rfl, rfl⟩ | hold := hcases c link' id hc
    · obtain ⟨rfl, -⟩ | hold' := hcases c' link'' _ hc'
      · rfl
      · exact absurd rfl (hnew _ (h.numbered_le c' link'' _ hold'))
    · obtain ⟨rfl, rfl⟩ | hold' := hcases c' link'' id hc'
      · exact absurd rfl (hnew _ (h.numbered_le c link' _ hold))
      · exact h.numbered_inj c c' link' link'' id hold hold'

/-- A call leaves the id that it has drawn. -/
theorem Distinct.leave (h : r.Distinct) {call link : Nat} {callId : UInt64}
    (hstage : r.stage call = some (.numbered link callId)) :
    (r.enter call link callId).Distinct := by
  have hleft : leftIds (r.enter call link callId).log = leftIds r.log ++ [callId] :=
    leftIds_append ..
  have hother (c link' : Nat) (id : UInt64)
      (hc : Function.update r.stage call none c = some (.numbered link' id)) :
      c ≠ call ∧ r.stage c = some (.numbered link' id) := numbered_of_update none nofun hc
  -- the id goes from the stage of its call into the log, where it is new
  refine ⟨?_, fun id hid => ?_, fun c link' id hc => ?_, fun c link' id hc hid => ?_, ?_⟩
  · rw [hleft]
    exact (List.nodup_append.mpr ⟨h.left_nodup, List.nodup_singleton _, fun id hid id' hid' heq =>
      h.numbered_new call link callId hstage (List.mem_singleton.mp hid' ▸ heq ▸ hid)⟩)
  · rw [hleft] at hid
    obtain hid | hid := List.mem_append.mp hid
    · exact h.left_le id hid
    · exact List.mem_singleton.mp hid ▸ h.numbered_le call link callId hstage
  · exact h.numbered_le c link' id (hother c link' id hc).2
  · obtain ⟨hne, hold⟩ := hother c link' id hc
    rw [hleft] at hid
    obtain hid | hid := List.mem_append.mp hid
    · exact h.numbered_new c link' id hold hid
    · obtain rfl := List.mem_singleton.mp hid
      exact hne (h.numbered_inj c call link' link id hold hstage)
  · intro c c' link' link'' id hc hc'
    exact h.numbered_inj c c' link' link'' id (hother c link' id hc).2 (hother c' link'' id hc').2

/-- **The ids are counted**, and none is given twice before they begin again. -/
structure Counted (r : Race) : Prop where
  next_eq : r.channel.nextCallId = UInt64.ofNat (r.given + 1)
  distinct : r.given < UInt64.size → r.Distinct

theorem counted_start (destination : Address) (attempts : Nat) :
    Counted (start destination attempts) :=
  ⟨rfl, fun _ => ⟨List.nodup_nil, nofun, nofun, nofun, nofun⟩⟩

theorem Counted.step (h : r.Counted) (hstep : Steps r move r') : r'.Counted := by
  cases hstep with
  | idle => exact h
  | @event _ event hevent =>
    refine ⟨(r.channel.nextCallId_after hevent).trans h.next_eq, fun hgiven => ?_⟩
    refine (h.distinct hgiven).congr rfl ?_ fun _ _ _ => id
    rw [happen, leftIds_append, r.channel.leftIds_notes hevent, List.append_nil]
  | @draw call link =>
    have hnext : r.channel.nextCallId + 1 = UInt64.ofNat (r.given + 1 + 1) := by
      rw [h.next_eq, UInt64.ofNat_add (r.given + 1) 1]
      rfl
    -- below the bound the next id is one more than have been given, and not zero again
    refine ⟨hnext, fun hgiven => (h.distinct (Nat.lt_of_succ_lt hgiven)).draw call link ?_⟩
    rw [h.next_eq, UInt64.toNat_ofNat_of_lt' (show r.given + 1 < UInt64.size from hgiven)]
  | leave hstage =>
    refine ⟨(Channel.nextCallId_withdraw ..).trans h.next_eq, fun hgiven => ?_⟩
    exact (h.distinct hgiven).leave hstage
  | @miss call link =>
    refine ⟨h.next_eq, fun hgiven => (h.distinct hgiven).congr rfl rfl fun c link' id hc => ?_⟩
    exact (numbered_of_update (some (.failed link (.send "not connected"))) nofun hc).2
  | write => exact ⟨h.next_eq, fun hgiven => (h.distinct hgiven).congr rfl rfl fun _ _ _ => id⟩
  | @spoil call link callId answer broken e error =>
    refine ⟨h.next_eq, fun hgiven => (h.distinct hgiven).congr rfl rfl fun c link' id hc => ?_⟩
    exact (numbered_of_update (some (.broken link callId error)) nofun hc).2
  | @takeBack call link callId error =>
    refine ⟨(Channel.nextCallId_withdraw ..).trans h.next_eq, fun hgiven => ?_⟩
    refine (h.distinct hgiven).congr rfl ?_ fun c link' id hc => ?_
    · exact (leftIds_append ..).trans (List.append_nil _)
    · exact (numbered_of_update (some (.failed link error)) nofun hc).2
  | giveUp =>
    refine ⟨(Channel.nextCallId_discard ..).trans h.next_eq, fun hgiven => ?_⟩
    refine (h.distinct hgiven).congr rfl rfl fun c link' id hc => ?_
    exact (numbered_of_update none nofun hc).2

end Race

/-! ## Links that are left to some calls -/

/-- **A link that is left to some calls**: it is not the current one, and nobody else has it. -/
structure Channel.LeftTo (ch : Channel) (callers : Nat → Prop) (link : Nat) : Prop where
  current_ne : ch.current ≠ some link
  caller : ch.Each fun c phase => phase.link? = some link → callers c

/-- A link that is not used is left to nobody. -/
theorem Channel.isUsed_eq_false_iff {ch : Channel} {link : Nat} :
    ch.isUsed link = false ↔ ch.LeftTo (fun _ => False) link := by
  have hcalls : (ch.calls.any fun e => e.phase.link? = some link) = false
      ↔ ch.Each fun _ phase => phase.link? = some link → False := by
    simp only [List.any_eq_false, decide_eq_true_eq, Each, List.mem_iff_getElem?]
    exact ⟨fun h c e he => h e ⟨c, he⟩, fun h e ⟨c, he⟩ => h c e he⟩
  rw [isUsed, Bool.or_eq_false_iff, decide_eq_false_iff_not, hcalls]
  exact ⟨fun h => ⟨h.1, h.2⟩, fun h => ⟨h.1, h.2⟩⟩

namespace Race

variable {r r' : Race} {move : Move} {callers : Nat → Prop} {link : Nat}

/-- The current link stays, is forgotten, or is a new one. -/
theorem Steps.current_cases (h : Steps r move r') :
    r'.channel.current = r.channel.current ∨ r'.channel.current = none
      ∨ r'.channel.current = some r.channel.links.length := by
  have hdiscard (ch : Channel) (other : Nat) :
      (ch.discard other).current = ch.current ∨ (ch.discard other).current = none := by
    unfold Channel.discard
    split
    · exact .inr rfl
    · exact .inl rfl
  cases h with
  | idle | miss | draw | write | spoil => exact .inl rfl
  | leave | takeBack => exact .inl (r.channel.current_withdraw ..)
  | giveUp => exact (hdiscard r.channel _).imp_right .inl
  | @event _ event hevent =>
    show (r.channel.after event).current = _ ∨ (r.channel.after event).current = none
      ∨ (r.channel.after event).current = _
    have hstep := r.channel.step event
    generalize r.channel.after event = ch', r.channel.notes event = notes at hstep
    cases hstep with
    | dial => exact .inr (.inr rfl)
    | lose => exact (hdiscard r.channel _).imp_right .inl
    | receive => exact .inl (r.channel.current_receive ..)
    | endLink | endAgain => exact .inl (r.channel.current_endLink ..)
    | leave | miss | breakOff => cases move <;> exact absurd hevent nofun
    | _ => exact .inl rfl

/-- Calls take the current link or a new one. -/
theorem keeps_caller (hlink : link < r.channel.links.length)
    (hcurrent : r.channel.current ≠ some link) :
    r.Keeps fun c phase => phase.link? = some link → callers c where
  learn c phase answer h := by rwa [link?_learn]
  begin := nofun
  join c other hother _ hsame := by
    obtain rfl := Option.some_inj.mp hsame
    obtain hopen | rfl := hother
    · exact absurd (Option.filter_eq_some_iff.mp hopen).1 hcurrent
    · exact absurd hlink (Nat.lt_irrefl _)
  refuse _ _ _ := nofun
  answer _ _ _ _ _ _ := nofun
  lose _ _ _ _ := ⟨nofun, nofun⟩
  enter _ _ _ := id
  write _ _ _ _ := id
  drop _ _ _ _ _ _ := ⟨nofun, nofun⟩

/-- **A link that is left to some calls stays left to them.** -/
theorem Orderly.leftTo_step (ho : r.Orderly) (h : Steps r move r')
    (hlink : link < r.channel.links.length) (hleft : r.channel.LeftTo callers link) :
    r'.channel.LeftTo callers link where
  current_ne := by
    obtain hsame | hnone | hnew := h.current_cases
    · rw [hsame]
      exact hleft.current_ne
    · rw [hnone]
      exact nofun
    · rw [hnew]
      exact fun hsame => Nat.ne_of_gt hlink (Option.some_inj.mp hsame)
  caller := ho.each_step h (keeps_caller hlink hleft.current_ne) hleft.caller

/-- Nobody waits on a link that is not used. -/
theorem Orderly.nobody_of_unused (ho : r.Orderly) {l : Link}
    (hlink : r.channel.links[link]? = some l) (hunused : r.channel.LeftTo (fun _ => False) link) :
    l.waiting = [] := by
  rw [ho.follows.waiting_eq link l hlink, List.map_eq_nil_iff]
  refine List.eq_nil_iff_forall_not_mem.mpr fun w hw => ?_
  obtain ⟨hmem, rfl, hawaited⟩ := mem_awaiting.mp hw
  obtain ⟨e, hcall, hawaits⟩ := ho.follows.awaits w hmem hawaited
  have hne := hunused.caller w.call e hcall
  cases hphase : e.phase with
  | writing | waiting | detached =>
    rw [hphase] at hawaits hne
    exact hne (congrArg some hawaits.1)
  | abandoned =>
    have hsuits := ho.staged.suits w.call e hcall
    dsimp only at hsuits
    rw [hphase] at hsuits
    have hstage := hsuits.eq_none nofun nofun
    rw [hstage] at hsuits
    exact hsuits.2 rfl
  | _ =>
    rw [hphase] at hawaits
    exact hawaits

end Race

/-! ## Ids of calls that wait -/

/-- **The ids of all calls that wait**, over all links. -/
def Channel.waitingIds (ch : Channel) : List UInt64 :=
  ch.links.flatMap fun l => l.waiting.map (·.1)

namespace Race

variable {r r' : Race} {move : Move} {link : Nat}

/-- The ids that a link keeps are those of the waits there. -/
theorem Orderly.map_waiting (ho : r.Orderly) {l : Link} (hlink : r.channel.links[link]? = some l) :
    l.waiting.map (·.1) = (awaiting link (waits r.log)).map (·.callId) := by
  rw [ho.follows.waiting_eq link l hlink, List.map_map]
  rfl

theorem Orderly.mem_leftIds (ho : r.Orderly) {id : UInt64} (hid : id ∈ r.channel.waitingIds) :
    id ∈ leftIds r.log := by
  obtain ⟨l, hl, hid⟩ := List.mem_flatMap.mp hid
  obtain ⟨link, hlink⟩ := List.mem_iff_getElem?.mp hl
  rw [ho.map_waiting hlink] at hid
  obtain ⟨w, hw, rfl⟩ := List.mem_map.mp hid
  rw [← map_callId_waits]
  exact List.mem_map_of_mem (mem_awaiting.mp hw).1

/-- **No two calls wait with one id**, on whichever links. -/
theorem Orderly.nodup_waitingIds (ho : r.Orderly) (hd : r.Distinct) :
    r.channel.waitingIds.Nodup := by
  have hwaits : ((waits r.log).map (·.callId)).Nodup := map_callId_waits r.log ▸ hd.left_nodup
  refine List.nodup_flatMap.mpr ⟨fun l hl => ?_, List.pairwise_iff_getElem.mpr ?_⟩
  · obtain ⟨link, hlink⟩ := List.mem_iff_getElem?.mp hl
    rw [ho.map_waiting hlink]
    exact ho.follows.nodup link
  · intro i j hi hj hij id hid hid'
    dsimp only at hid hid'
    rw [ho.map_waiting (List.getElem?_eq_getElem hi)] at hid
    rw [ho.map_waiting (List.getElem?_eq_getElem hj)] at hid'
    obtain ⟨w, hw, rfl⟩ := List.mem_map.mp hid
    obtain ⟨w', hw', hsame⟩ := List.mem_map.mp hid'
    obtain ⟨hmem, hlink, -⟩ := mem_awaiting.mp hw
    obtain ⟨hmem', hlink', -⟩ := mem_awaiting.mp hw'
    obtain rfl := List.inj_on_of_nodup_map hwaits hmem' hmem hsame
    exact absurd (hlink.symm.trans hlink') (Nat.ne_of_lt hij)

/-! ## Waits and links -/

/-- **A call that waits does so on an open link**, which has its id. -/
theorem Orderly.attended (ho : r.Orderly) {call : Nat} {e : Exchange} {callId : UInt64}
    (hcall : r.channel.calls[call]? = some e)
    (hwait : e.phase.wait? call = some ⟨link, callId, call, .awaited⟩) :
    ∃ l, r.channel.links[link]? = some l ∧ l.isOpen = true ∧ (callId, call) ∈ l.waiting := by
  obtain ⟨l, hlink⟩ := ho.follows.exists_link hcall hwait
  have hmem := (mem_of_lastWait? (ho.follows.knows call e _ hcall hwait)).1
  have hwaiting : (callId, call) ∈ l.waiting := by
    rw [ho.follows.waiting_eq link l hlink]
    exact List.mem_map_of_mem (mem_awaiting.mpr ⟨hmem, rfl, rfl⟩)
  refine ⟨l, hlink, ?_, hwaiting⟩
  cases hopen : l.isOpen with
  | true => rfl
  | false =>
    rw [ho.nobody link l hlink hopen] at hwaiting
    cases hwaiting

/-- **Whose id is with a link waits for the reply.** -/
theorem Orderly.awaits_of_mem (ho : r.Orderly) {l : Link} (hl : l ∈ r.channel.links) {call : Nat}
    {callId : UInt64} (hmem : (callId, call) ∈ l.waiting) :
    ∃ e link, r.channel.calls[call]? = some e ∧ e.phase.Awaits link callId := by
  obtain ⟨link, hlink⟩ := List.mem_iff_getElem?.mp hl
  rw [ho.follows.waiting_eq link l hlink] at hmem
  obtain ⟨w, hw, hentry⟩ := List.mem_map.mp hmem
  obtain ⟨hmem, -, hawaited⟩ := mem_awaiting.mp hw
  obtain ⟨e, hcall, hawaits⟩ := ho.follows.awaits w hmem hawaited
  obtain ⟨rfl, rfl⟩ := Prod.mk.inj hentry
  exact ⟨e, w.link, hcall, hawaits⟩

/-! ## How a link is forgotten -/

/-- **How a channel can forget a link**: by a call that has failed on it, or by one that has found
it closed. -/
inductive Forgets (r : Race) : Move → Nat → Prop where
  /-- The call could not leave its id, or could not write. -/
  | failed {call link : Nat} {error : TransportError}
      (hstage : r.stage call = some (.failed link error)) : Forgets r (.giveUp call) link
  /-- The reply to the call has been lost with the link. -/
  | lost {call link : Nat} {callId : UInt64} {e : Exchange}
      (hcall : r.channel.calls[call]? = some e) (hphase : e.phase = .waiting link callId .lost) :
      Forgets r (.finish call) link
  /-- Another link takes its place, because it is closed. -/
  | replaced {call link : Nat} (hphase : r.channel.phase? call = some .starting)
      (hclosed : r.channel.isOpen link = false) : Forgets r (.join call (.ok ())) link

/-- A current link that is open is not replaced. -/
theorem current_join (hcurrent : r.channel.current = some link) (call : Nat)
    (dialled : Except String Unit) :
    (r.channel.join call dialled).current = some link ∨ r.Forgets (.join call dialled) link := by
  unfold Channel.join
  split
  · next hphase =>
    split
    · exact .inl hcurrent
    · exact .inl hcurrent
    · next hnone =>
      refine .inr (.replaced hphase ?_)
      have hfilter := Option.filter_eq_none_iff.mp hnone link hcurrent
      exact Bool.not_eq_true _ ▸ hfilter
  · exact .inl hcurrent

theorem current_finish (hcurrent : r.channel.current = some link) (call : Nat) :
    (r.channel.finish call).current = some link ∨ r.Forgets (.finish call) link := by
  unfold Channel.finish
  split
  · exact .inl hcurrent
  · next e hcall =>
    split
    · exact .inl hcurrent
    · next other callId hphase =>
      obtain hkept | rfl := Channel.current_discard hcurrent other
      · exact .inl hkept
      · exact .inr (.lost hcall hphase)
    · exact .inl hcurrent

/-- **The channel keeps its link** but for those moves. -/
theorem current_step (hcurrent : r.channel.current = some link) (move : Move) :
    (r.step move).channel.current = some link ∨ r.Forgets move link := by
  cases move with
  | begin request => exact .inl hcurrent
  | join call dialled => exact current_join hcurrent call dialled
  | finish call => exact current_finish hcurrent call
  | receive other bytes => exact .inl ((r.channel.current_receive other bytes).trans hcurrent)
  | endLink other => exact .inl ((r.channel.current_endLink other).trans hcurrent)
  | draw call =>
    -- these four change no more than a call and its link
    show (r.draw call).channel.current = _ ∨ _
    unfold draw
    split <;> exact .inl hcurrent
  | leave call =>
    show (r.leave call).channel.current = _ ∨ _
    unfold leave
    split
    · split
      · exact .inl ((Channel.current_withdraw ..).trans hcurrent)
      · exact .inl hcurrent
    · exact .inl hcurrent
  | write call broken =>
    show (r.write call broken).channel.current = _ ∨ _
    unfold write
    split
    · split
      · dsimp only
        split <;> exact .inl hcurrent
      · exact .inl hcurrent
    · exact .inl hcurrent
  | takeBack call =>
    show (r.takeBack call).channel.current = _ ∨ _
    unfold takeBack
    split
    · exact .inl ((Channel.current_withdraw ..).trans hcurrent)
    · exact .inl hcurrent
  | giveUp call =>
    -- a call that has failed forgets its own link, and the channel has kept it if it is another
    show (r.giveUp call).channel.current = _ ∨ _
    unfold giveUp
    split
    · next other error hstage =>
      obtain hkept | rfl := Channel.current_discard hcurrent other
      · exact .inl hkept
      · exact .inr (.failed hstage)
    · exact .inl hcurrent

/-! ## Tidy races -/

/-- **A race is tidy**: nobody is stranded on a dead link, and no failure takes a live one away. -/
structure IsTidy (r : Race) : Prop where
  /-- A link that is closed stays so, and nobody waits there, now or later. -/
  closed : ∀ (link : Nat) (l : Link), r.channel.links[link]? = some l → l.isOpen = false →
    ∀ moves, ∃ l' : Link, (r.run moves).channel.links[link]? = some l'
      ∧ l'.isOpen = false ∧ l'.waiting = []
  /-- A link that is not used stays so, and nobody waits there, now or later. -/
  unused : ∀ (link : Nat) (l : Link), r.channel.links[link]? = some l →
    r.channel.isUsed link = false → ∀ moves, (r.run moves).channel.isUsed link = false
      ∧ ∃ l' : Link, (r.run moves).channel.links[link]? = some l' ∧ l'.waiting = []
  /-- A call that waits does so on an open link, where its id is. -/
  attended : ∀ (call : Nat) (e : Exchange) (link : Nat) (callId : UInt64),
    r.channel.calls[call]? = some e → e.phase.wait? call = some ⟨link, callId, call, .awaited⟩ →
    ∃ l : Link, r.channel.links[link]? = some l ∧ l.isOpen = true ∧ (callId, call) ∈ l.waiting
  /-- The ids of all calls that wait differ and are below the next one, as long as not all have
  been drawn. -/
  distinct : r.given < UInt64.size → r.channel.waitingIds.Nodup
    ∧ ∀ id ∈ r.channel.waitingIds, id.toNat < r.given + 1
      ∧ (r.given + 1 < UInt64.size → id < r.channel.nextCallId)
  /-- A call that has finished, or has to start again, has left no id behind. -/
  released : ∀ call, (∃ outcome, r.channel.phase? call = some (.finished outcome))
      ∨ r.channel.phase? call = some .starting →
    ∀ l ∈ r.channel.links, ∀ id, (id, call) ∉ l.waiting
  /-- The channel forgets a link by a call that has failed on it, and by no other. -/
  loyal : ∀ move link, r.channel.current = some link →
    (r.step move).channel.current = some link ∨ r.Forgets move link

theorem Counted.run (h : r.Counted) (moves : List Move) : (r.run moves).Counted := by
  induction moves generalizing r with
  | nil => exact h
  | cons move moves ih => exact ih (h.step (r.steps move))

/-- A closed link stays closed. -/
theorem closed_run (moves : List Move) {l : Link} (hlink : r.channel.links[link]? = some l)
    (hclosed : l.isOpen = false) :
    ∃ l', (r.run moves).channel.links[link]? = some l' ∧ l'.isOpen = false := by
  induction moves generalizing r l with
  | nil => exact ⟨l, hlink, hclosed⟩
  | cons move moves ih =>
    have hages := (r.steps move).ages link
    rw [hlink] at hages
    generalize hl' : (r.step move).channel.links[link]? = o' at hages
    cases hages with
    | older closed => exact ih hl' (closed hclosed)

theorem lt_length_links_run (moves : List Move) (hlink : link < r.channel.links.length) :
    link < (r.run moves).channel.links.length := by
  induction moves generalizing r with
  | nil => exact hlink
  | cons move moves ih => exact ih ((r.steps move).lt_length_links hlink)

theorem Orderly.leftTo_run (ho : r.Orderly) (moves : List Move)
    (hlink : link < r.channel.links.length) {callers : Nat → Prop}
    (hleft : r.channel.LeftTo callers link) : (r.run moves).channel.LeftTo callers link := by
  induction moves generalizing r with
  | nil => exact hleft
  | cons move moves ih =>
    exact ih (ho.step move) ((r.steps move).lt_length_links hlink)
      (ho.leftTo_step (r.steps move) hlink hleft)

theorem Orderly.isTidy (ho : r.Orderly) (hc : r.Counted) : r.IsTidy where
  closed link l hlink hclosed moves := by
    obtain ⟨l', hl', hclosed'⟩ := closed_run moves hlink hclosed
    exact ⟨l', hl', hclosed', (ho.run moves).nobody link l' hl' hclosed'⟩
  unused link l hlink hunused moves := by
    have hlt := (List.getElem?_eq_some_iff.mp hlink).1
    have hunused' := ho.leftTo_run moves hlt (Channel.isUsed_eq_false_iff.mp hunused)
    have hl' := List.getElem?_eq_getElem (lt_length_links_run moves hlt)
    exact ⟨Channel.isUsed_eq_false_iff.mpr hunused', _, hl',
      (ho.run moves).nobody_of_unused hl' hunused'⟩
  attended _ _ _ _ hcall hwait := ho.attended hcall hwait
  distinct hgiven := by
    have hd := hc.distinct hgiven
    refine ⟨ho.nodup_waitingIds hd, fun id hid => ?_⟩
    have hle := hd.left_le id (ho.mem_leftIds hid)
    refine ⟨Nat.lt_succ_of_le hle, fun hnext => ?_⟩
    rw [UInt64.lt_iff_toNat_lt, hc.next_eq, UInt64.toNat_ofNat_of_lt' hnext]
    exact Nat.lt_succ_of_le hle
  released call hphase l hl id hmem := by
    obtain ⟨e, link, hcall, hawaits⟩ := ho.awaits_of_mem hl hmem
    have hsome (phase : Phase) (hphase : r.channel.phase? call = some phase) : e.phase = phase := by
      obtain ⟨e', hcall', hphase'⟩ := Channel.phase?_eq_some.mp hphase
      obtain rfl := Option.some_inj.mp (hcall.symm.trans hcall')
      exact hphase'
    obtain ⟨outcome, hfinished⟩ | hstarting := hphase
    · rw [hsome _ hfinished] at hawaits
      exact hawaits
    · rw [hsome _ hstarting] at hawaits
      exact hawaits
  loyal move _ hcurrent := current_step hcurrent move

/-- **Every race is tidy**, however its calls and links are interleaved. -/
theorem race_tidy (destination : Address) (attempts : Nat) (moves : List Move) :
    ((start destination attempts).run moves).IsTidy :=
  ((Orderly.start destination attempts).run moves).isTidy
    ((counted_start destination attempts).run moves)

end Race

end Switchboard.Client
