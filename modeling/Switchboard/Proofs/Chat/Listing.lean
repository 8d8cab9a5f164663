import Switchboard.Chat.Methods
import Switchboard.Proofs.Chat.Message
import Switchboard.Proofs.Dispatch.Invocation

/-!
# All chats or none

A chat is known if the numbers for its kind and its state stand for some
(`WireInfo.IsKnown`). Known chats are those that are the wire form of a chat, and
a known chat is read as the chat that it is the wire form of; so nothing is lost
or made up when it is read (`WireInfo.toInfo_cases`).

A listing is read chat by chat. It is read if every chat is known, and then it is
the wire form of what has been read; a single unknown chat, wherever it stands,
fails the whole (`Listing.toInfos_cases`). What a client makes of a listing is
the same, whichever server has sent it (`obtainChats_all_or_nothing`).
-/

namespace Switchboard.Chat

open Wire (Reply)

/-! ## Chats -/

/-- A number that stands for no kind is not read. -/
theorem Kind.ofWire?_eq_none {n : Int32} (h : ∀ k : Kind, k.toWire ≠ n) : ofWire? n = none := by
  rw [ofWire?, List.find?_eq_none]
  exact fun k _ => by simpa using h k

/-- A number that stands for no state is not read. -/
theorem State.ofWire?_eq_none {n : Int32} (h : ∀ s : State, s.toWire ≠ n) : ofWire? n = none := by
  rw [ofWire?, List.find?_eq_none]
  exact fun s _ => by simpa using h s

/-- **The numbers of a chat are known**: they stand for a kind and for a state. -/
structure WireInfo.IsKnown (w : WireInfo) : Prop where
  kind : ∃ k : Kind, k.toWire = w.kind
  state : ∃ s : State, s.toWire = w.state

namespace WireInfo

/-- What a chat travels as is known. -/
theorem isKnown_toWire (i : Info) : i.toWire.IsKnown := ⟨⟨i.kind, rfl⟩, i.state, rfl⟩

/-- A chat with an unknown number cannot be read. -/
theorem toInfo_of_unknown {w : WireInfo} (h : ¬ w.IsKnown) :
    w.toInfo = .error (.of .invalidResponseValue) := by
  unfold toInfo
  by_cases hkind : ∃ k : Kind, k.toWire = w.kind
  · have hstate : State.ofWire? w.state = none :=
      State.ofWire?_eq_none fun s hs => h ⟨hkind, s, hs⟩
    rw [hstate]
    split
    · next hread => cases hread
    · rfl
  · have hnone : Kind.ofWire? w.kind = none :=
      Kind.ofWire?_eq_none fun k hk => hkind ⟨k, hk⟩
    rw [hnone]

/-- **A chat is read as what it is the wire form of**, or it is unknown and not read. -/
theorem toInfo_cases (w : WireInfo) :
    (∃ i : Info, i.toWire = w ∧ w.toInfo = .ok i)
    ∨ (¬ w.IsKnown ∧ w.toInfo = .error (.of .invalidResponseValue)) := by
  by_cases h : w.IsKnown
  · obtain ⟨⟨k, hk⟩, s, hs⟩ := h
    have hw : (⟨w.chatId, w.title, k, w.kindId, s⟩ : Info).toWire = w := by
      rw [Info.toWire, hk, hs]
    refine .inl ⟨_, hw, ?_⟩
    conv_lhs => rw [← hw]
    exact toInfo_toWire _
  · exact .inr ⟨h, toInfo_of_unknown h⟩

end WireInfo

/-! ## Listings -/

/-- **A listing is read as what it is the wire form of**, or there is an unknown chat in it and
nothing is read. -/
theorem Listing.toInfos_cases (l : Listing) :
    (∃ infos : List Info, infos.map Info.toWire = l.chats ∧ l.toInfos = .ok infos)
    ∨ ((∃ w ∈ l.chats, ¬ w.IsKnown) ∧ l.toInfos = .error (.of .invalidResponseValue)) := by
  obtain ⟨chats⟩ := l
  unfold toInfos
  dsimp only
  -- reading stops at the first chat that is unknown, whatever comes behind it
  induction chats with
  | nil => exact .inl ⟨[], rfl, rfl⟩
  | cons w chats ih =>
    rw [List.mapM_cons]
    obtain ⟨i, hi, hread⟩ | ⟨hunknown, hread⟩ := w.toInfo_cases
    · obtain ⟨infos, hinfos, hrest⟩ | ⟨⟨w', hw', hunknown⟩, hrest⟩ := ih
      · refine .inl ⟨i :: infos, by rw [List.map_cons, hi, hinfos], ?_⟩
        rw [hread, hrest]
        rfl
      · refine .inr ⟨⟨w', List.mem_cons_of_mem w hw', hunknown⟩, ?_⟩
        rw [hread, hrest]
        rfl
    · refine .inr ⟨⟨w, List.mem_cons_self .., hunknown⟩, ?_⟩
      rw [hread]
      rfl

/-- A listing without an unknown chat is one that is read. -/
theorem Listing.isKnown_of_map {infos : List Info} {chats : List WireInfo}
    (h : infos.map Info.toWire = chats) : ∀ w ∈ chats, w.IsKnown := by
  subst h
  exact List.forall_mem_map.mpr fun i _ => WireInfo.isKnown_toWire i

/-! ## Calls -/

variable {σ : Type}

/-- Every listing can be what a server answers with. -/
theorem unpack?_encode (l : Listing) :
    obtainChats.method.response.unpack? (encode l).toByteArray = some l :=
  Packing.isLawful_json Listing l _ rfl

/-- What a client makes of a listing that has come with a success. -/
theorem obtainChats_of_listing {send : ChannelIn (StateM σ)} {comId : String} (hcomId : comId ≠ "")
    {s : σ} {reply : Reply} {chats : List WireInfo}
    (hanswer : (send (obtainChats.outgoing comId (encode ()).toByteArray) s).1 = .ok reply)
    (hok : reply.status.outcome.state = .ok)
    (hchats : obtainChats.method.response.unpack? reply.payload = some ⟨chats⟩) :
    (obtainChats.invoke (some send) comId s).1 = Listing.toInfos ⟨chats⟩ := by
  have hsend : obtainChats.IsSendable comId := ⟨fun _ => hcomId, rfl, _, rfl⟩
  have hpack : obtainChats.method.request.pack obtainChats.request
      = .ok (encode ()).toByteArray := rfl
  rw [Call.invoke_of_sent (Call.prepare_of_packed hsend hpack)]
  show obtainChats.conclude (send _ s).1 = _
  rw [hanswer]
  exact (Call.Reads.interpreted hok hchats).conclude_eq

/-- **Either all chats of a session are obtained or none.** Let a server answer with a success that
carries any listing, be its numbers known or not. Then a client obtains chats exactly if every
chat of the listing is known. They are as many as have been listed, in the same order, and
what they travel as is the listing that has come. If a chat is unknown, wherever it stands in
the listing, the client obtains nothing but the failure that says so. -/
theorem obtainChats_all_or_nothing {send : ChannelIn (StateM σ)} {comId : String}
    (hcomId : comId ≠ "") {s : σ} {reply : Reply} {chats : List WireInfo}
    (hanswer : (send (obtainChats.outgoing comId (encode ()).toByteArray) s).1 = .ok reply)
    (hok : reply.status.outcome.state = .ok)
    (hchats : obtainChats.method.response.unpack? reply.payload = some ⟨chats⟩) :
    let result := (obtainChats.invoke (some send) comId s).1
    ((∃ infos, result = .ok infos) ↔ ∀ w ∈ chats, w.IsKnown)
      ∧ (∀ infos, result = .ok infos →
          infos.length = chats.length ∧ infos.map Info.toWire = chats)
      ∧ ((∃ w ∈ chats, ¬ w.IsKnown) → result = .error (.of .invalidResponseValue)) := by
  intro result
  have hresult : result = Listing.toInfos ⟨chats⟩ :=
    obtainChats_of_listing hcomId hanswer hok hchats
  rw [hresult]
  obtain ⟨infos, hinfos, hread⟩ | ⟨hunknown, hread⟩ := Listing.toInfos_cases ⟨chats⟩
  · have hknown := Listing.isKnown_of_map hinfos
    rw [hread]
    refine ⟨iff_of_true ⟨infos, rfl⟩ hknown, ?_, fun ⟨w, hw, hnot⟩ => absurd (hknown w hw) hnot⟩
    rintro _ ⟨⟩
    refine ⟨?_, hinfos⟩
    rw [← List.length_map Info.toWire, hinfos]
  · rw [hread]
    obtain ⟨w, hw, hnot⟩ := hunknown
    refine ⟨iff_of_false ?_ fun hknown => hnot (hknown w hw), ?_, fun _ => rfl⟩
    · rintro ⟨_, ⟨⟩⟩
    · rintro _ ⟨⟩

/-- A server that answers every request with the same listing. -/
def answering (l : Listing) : ChannelIn (StateM Unit) :=
  fun _ => pure (.ok (.ok (encode l).toByteArray))

/-- A session with two chats, the second of which is of a kind that nobody knows. -/
def strangeListing : Listing := ⟨[⟨"a", "A", 1, 7, 0⟩, ⟨"b", "B", 2, 7, 1⟩]⟩

/-- Not even the first chat is obtained, which could be read. -/
theorem obtainChats_all_or_nothing_strange :
    WireInfo.toInfo ⟨"a", "A", 1, 7, 0⟩ = .ok ⟨"a", "A", .session, 7, .opened⟩
      ∧ (obtainChats.invoke (some (answering strangeListing)) "room" ()).1
        = .error (.of .invalidResponseValue) := by
  have hnothing (l : Listing) : (∃ w ∈ l.chats, ¬ w.IsKnown) →
      (obtainChats.invoke (some (answering l)) "room" ()).1 = .error (.of .invalidResponseValue) :=
    have hanswer : (answering l (obtainChats.outgoing "room" (encode ()).toByteArray) ()).1
        = .ok (.ok (encode l).toByteArray) := rfl
    (obtainChats_all_or_nothing (by decide) hanswer rfl (unpack?_encode l)).2.2
  have hunknown : ¬ WireInfo.IsKnown ⟨"b", "B", 2, 7, 1⟩ := by
    rintro ⟨⟨_ | _, hkind⟩, -⟩
    · exact absurd hkind (by decide)
    · exact absurd hkind (by decide)
  exact ⟨by decide, hnothing strangeListing ⟨_, .tail _ (.head _), hunknown⟩⟩

end Switchboard.Chat
