import Switchboard.Proofs.Wire.Envelope
import Switchboard.Wire.Arrival

/-!
# Whatever arrives

A peer may send anything. What a reader makes of bytes that nobody has written
as an envelope is not said here, only what does not depend on that: how the
bytes are cut makes no difference, and a result that is settled, which is to
say neither a truncation nor nothing at all, stays the same when more bytes
follow (`Read.Steady`).

So a receiver that takes bytes off as they come reads what it would have read
of all of them at once (`arrivals_append`), and what it reads are the things at
the head of the stream, up to the first that is none (`readAll_eq_arrivals`).
-/

namespace Switchboard.Wire

namespace Read

variable {α β : Type}

/-- **A result that more bytes cannot change**: an error other than a truncation, or something
that was read to its end. -/
def IsSettled (done : α → Prop) : Except TransportError α → Prop
  | .ok a => done a
  | .error e => e.isTruncation = false

/-- **A steady reader.** However the bytes are cut, it makes the same of them; what is settled
stays when more bytes follow; and whatever it reads to its end takes `cost` bytes at least. -/
def Steady (r : Read α) (done : α → Prop) (cost : Nat) : Prop :=
  ∀ bytes, ∃ result rest, Takes r bytes result rest ∧
    (IsSettled done result → ∀ more, Takes r (bytes ++ more) result (rest ++ more)) ∧
    ∀ a, result = .ok a → done a → rest.length + cost ≤ bytes.length

theorem steady_pure (a : α) (done : α → Prop) : Steady (pure a) done 0 :=
  fun bytes =>
    ⟨.ok a, bytes, takes_pure a bytes, fun _ _ => takes_pure a _, fun _ _ _ => Nat.le_refl _⟩

theorem steady_throw (e : TransportError) (done : α → Prop) : Steady (throw e) done 0 :=
  fun bytes => ⟨.error e, bytes, takes_throw e bytes, fun _ _ => takes_throw e _, nofun⟩

theorem Steady.free {r : Read α} {done : α → Prop} {cost : Nat} (h : Steady r done cost) :
    Steady r done 0 := by
  intro bytes
  obtain ⟨result, rest, htakes, hmore, hcost⟩ := h bytes
  exact ⟨result, rest, htakes, hmore, fun a ha hdone => Nat.le_of_add_right_le (hcost a ha hdone)⟩

/-- A reader that has come to the end of the stream too early, or has nothing to report. -/
def Unsettled (r : Read α) (done : α → Prop) : Prop :=
  ∀ bytes, ∃ result, Takes r bytes result bytes ∧ ¬ IsSettled done result

theorem unsettled_none (done : Option α → Prop) (hnone : ¬ done none) :
    Unsettled (pure none) done :=
  fun bytes => ⟨.ok none, takes_pure none bytes, hnone⟩

theorem unsettled_truncated (part : String) (done : α → Prop) :
    Unsettled (throw (.truncated part)) done :=
  fun bytes => ⟨_, takes_throw _ bytes, Bool.noConfusion⟩

/-- **Steady readers in a row are steady**, if the second one has nothing settled to say where the
first has not. -/
theorem Steady.bind {r : Read α} {f : α → Read β} {done : α → Prop} {done' : β → Prop}
    {cost : Nat} (hr : Steady r done cost) (hf : ∀ a, done a → Steady (f a) done' 0)
    (hopen : ∀ a, ¬ done a → Unsettled (f a) done') : Steady (r >>= f) done' cost := by
  intro bytes
  obtain ⟨result, rest, htakes, hmore, hcost⟩ := hr bytes
  cases result with
  | error e =>
    exact ⟨.error e, rest, htakes.bind_error, fun h more => (hmore h more).bind_error, nofun⟩
  | ok a =>
    by_cases ha : done a
    · obtain ⟨result', rest', htakes', hmore', hcost'⟩ := hf a ha rest
      refine ⟨result', rest', htakes.bind htakes',
        fun h more => (hmore ha more).bind (hmore' h more),
        fun b hb hdone => ?_⟩
      have hfirst := hcost a rfl ha
      have hsecond := hcost' b hb hdone
      omega
    · obtain ⟨result', htakes', hnot⟩ := hopen a ha rest
      exact ⟨result', rest, htakes.bind htakes', fun h => absurd h hnot,
        fun b hb hdone => absurd (hb ▸ hdone) hnot⟩

/-! ## The readers of envelopes -/

theorem steady_word (part : String) : Steady (readWord part) (·.isSome = true) 4 := by
  intro bytes
  have hword (a b c d : UInt8) (rest : List UInt8) : Takes (readWord part)
      (a :: b :: c :: d :: rest) (.ok (some (wordOf a b c d))) rest := by
    unfold readWord
    exact (takes_bytes 4 (a :: b :: c :: d :: rest)).bind (takes_pure _ rest)
  unfold readWord
  obtain _ | ⟨a, _ | ⟨b, _ | ⟨c, _ | ⟨d, rest⟩⟩⟩⟩ := bytes
  · exact ⟨.ok none, [], (takes_bytes 4 []).bind (takes_pure none []), nofun,
      fun a ha h => absurd (Except.ok.inj ha ▸ h) nofun⟩
  · exact ⟨_, [], (takes_bytes 4 [a]).bind (takes_throw _ []), Bool.noConfusion, nofun⟩
  · exact ⟨_, [], (takes_bytes 4 [a, b]).bind (takes_throw _ []), Bool.noConfusion, nofun⟩
  · exact ⟨_, [], (takes_bytes 4 [a, b, c]).bind (takes_throw _ []), Bool.noConfusion, nofun⟩
  · exact ⟨.ok (some (wordOf a b c d)), rest, hword a b c d rest,
      fun _ more => hword a b c d (rest ++ more), fun _ _ _ => Nat.le_refl _⟩

theorem steady_body (length : UInt32) : Steady (readBody length) (·.isSome = true) 0 := by
  intro bytes
  unfold readBody
  by_cases hlarge : Limits.maxFrame < length.toNat
  · rw [if_pos hlarge]
    exact steady_throw _ _ bytes
  rw [if_neg hlarge]
  by_cases hshort : bytes.length < length.toNat
  · refine ⟨.error (.truncated "frame body"), bytes.drop length.toNat,
      (takes_bytes length.toNat bytes).bind ?_, Bool.noConfusion, nofun⟩
    rw [if_pos (by rw [List.length_take]; omega)]
    exact takes_throw _ _
  · have hle : length.toNat ≤ bytes.length := Nat.le_of_not_lt hshort
    refine ⟨.ok (some (bytes.take length.toNat).toByteArray), bytes.drop length.toNat,
      (takes_bytes length.toNat bytes).bind ?_, fun _ more => (takes_bytes length.toNat _).bind ?_,
      fun _ _ _ => ?_⟩
    · rw [if_neg (by rw [List.length_take]; omega)]
      exact takes_pure _ _
    · rw [List.take_append_of_le_length hle, List.drop_append_of_le_length hle,
        if_neg (by rw [List.length_take]; omega)]
      exact takes_pure _ _
    · rw [List.length_drop]
      omega

theorem steady_frame : Steady readFrame (·.isSome = true) 4 := by
  rw [readFrame_eq]
  refine (steady_word "frame length").bind (fun length hlength => ?_) (fun length hlength => ?_)
  · obtain ⟨length, rfl⟩ := Option.isSome_iff_exists.mp hlength
    exact steady_body length
  · obtain rfl : length = none := Option.not_isSome_iff_eq_none.mp hlength
    exact unsettled_none _ nofun

theorem steady_part (part : String) : Steady (readPart part) (fun _ => True) 4 := by
  unfold readPart
  refine steady_frame.bind (fun body hbody => ?_) (fun body hbody => ?_)
  · obtain ⟨body, rfl⟩ := Option.isSome_iff_exists.mp hbody
    exact steady_pure body _
  · obtain rfl : body = none := Option.not_isSome_iff_eq_none.mp hbody
    exact unsettled_truncated part _

theorem steady_envelope : Steady readEnvelope (fun _ => True) 4 := by
  unfold readEnvelope
  refine (steady_part "envelope header").bind (fun text _ => ?_) (fun _ h => absurd trivial h)
  cases (decode? text.data.toList : Option Header) with
  | none => exact steady_throw _ _
  | some header =>
    exact ((steady_part "envelope payload").bind (fun payload _ => steady_pure (header, payload) _)
      fun _ h => absurd trivial h).free

theorem steady_reply : Steady readReply (·.isSome = true) 4 := by
  rw [readReply_eq]
  refine (steady_word "envelope magic").bind (fun word hword => ?_) (fun word hword => ?_)
  · obtain ⟨word, rfl⟩ := Option.isSome_iff_exists.mp hword
    dsimp only
    split
    · exact steady_throw _ _
    · exact (steady_envelope.bind (fun _ _ => steady_pure _ _) fun _ h => absurd trivial h).free
  · obtain rfl : word = none := Option.not_isSome_iff_eq_none.mp hword
    exact unsettled_none _ nofun

theorem steady_marked : Steady readMarked (·.isSome = true) 4 := by
  unfold readMarked
  refine (steady_word "envelope magic").bind (fun word hword => ?_) (fun word hword => ?_)
  · obtain ⟨word, rfl⟩ := Option.isSome_iff_exists.mp hword
    dsimp only
    split
    · exact steady_throw _ _
    · exact (steady_envelope.bind (fun _ _ => steady_pure _ _) fun _ h => absurd trivial h).free
  · obtain rfl : word = none := Option.not_isSome_iff_eq_none.mp hword
    exact unsettled_truncated _ _

theorem steady_request : Steady readRequest (·.isSome = true) 4 := by
  rw [readRequest_eq]
  refine (steady_word "preamble").bind (fun word hword => ?_) (fun word hword => ?_)
  · obtain ⟨word, rfl⟩ := Option.isSome_iff_exists.mp hword
    dsimp only
    split
    · exact steady_throw _ _
    · exact steady_marked.free
  · obtain rfl : word = none := Option.not_isSome_iff_eq_none.mp hword
    exact unsettled_none _ nofun

end Read

/-! ## What has arrived -/

section Steady

open Read

variable {α : Type} {r : Read (Option α)} {cost : Nat}

/-- Neither the cut of the bytes nor turns to spare make a difference. -/
theorem Read.Steady.arrivals_go_eq (hr : Steady r (·.isSome = true) cost) (hpos : 0 < cost) :
    ∀ {turns turns' : Nat} {s s' : Stream}, s.bytes = s'.bytes → s.bytes.length < turns →
      s.bytes.length < turns' → arrivals.go r turns s = arrivals.go r turns' s' := by
  intro turns
  induction turns with
  | zero => exact fun _ h => absurd h (Nat.not_lt_zero _)
  | succ turns ih =>
    intro turns' s s' hbytes hturns hturns'
    obtain ⟨turns', rfl⟩ := Nat.exists_eq_add_one.mpr (Nat.zero_lt_of_lt hturns')
    obtain ⟨result, rest, htakes, -, hcost⟩ := hr s.bytes
    obtain ⟨left, houtcome, hleft⟩ := htakes.outcome_eq rfl
    obtain ⟨left', houtcome', hleft'⟩ := htakes.outcome_eq hbytes.symm
    rw [arrivals.go, arrivals.go, houtcome, houtcome']
    match result with
    | .error e => exact congrArg (Arrivals.mk _ · _) hbytes
    | .ok none => exact congrArg (Arrivals.mk _ · _) hbytes
    | .ok (some a) =>
      have hrest := hcost _ rfl rfl
      rw [← hleft] at hrest
      dsimp only
      have hgo : arrivals.go r turns left = arrivals.go r turns' left' :=
        ih (hleft.trans hleft'.symm) (by omega) (by omega)
      rw [hgo]

/-- **The cases of what has arrived**: nothing that is settled, an error, or a thing with more
behind it. -/
theorem Read.Steady.arrivals_cases (hr : Steady r (·.isSome = true) cost) (hpos : 0 < cost)
    (bytes : List UInt8) :
    arrivals r bytes = ⟨[], bytes, none⟩ ∨
    (∃ e, ∀ more, arrivals r (bytes ++ more) = ⟨[], bytes ++ more, some e⟩) ∨
    ∃ a rest, rest.length < bytes.length ∧ ∀ more, arrivals r (bytes ++ more) =
      { arrivals r (rest ++ more) with values := a :: (arrivals r (rest ++ more)).values } := by
  have hstart (all : List UInt8) : Stream.bytes [all] = all := List.append_nil all
  obtain ⟨result, rest, htakes, hmore, hcost⟩ := hr bytes
  match result with
  | .ok none =>
    obtain ⟨left, houtcome, -⟩ := htakes.outcome_eq (hstart bytes)
    refine .inl ?_
    rw [arrivals, arrivals.go, houtcome]
    exact congrArg (Arrivals.mk _ · _) (hstart bytes)
  | .error e =>
    -- a truncation is waited out, as more may come; any other error stands whatever comes
    by_cases he : e.isTruncation
    · obtain ⟨left, houtcome, -⟩ := htakes.outcome_eq (hstart bytes)
      refine .inl ?_
      rw [arrivals, arrivals.go, houtcome]
      dsimp only
      rw [if_pos he]
      exact congrArg (Arrivals.mk _ · _) (hstart bytes)
    · refine .inr (.inl ⟨e, fun more => ?_⟩)
      obtain ⟨left, houtcome, -⟩ :=
        (hmore (Bool.eq_false_iff.mpr he) more).outcome_eq (hstart _)
      rw [arrivals, arrivals.go, houtcome]
      dsimp only
      rw [if_neg he]
      exact congrArg (Arrivals.mk _ · _) (hstart _)
  | .ok (some a) =>
    -- a thing takes a byte at least, so that there are turns enough for the rest
    have hlt : rest.length < bytes.length := by
      have := hcost _ rfl rfl
      omega
    refine .inr (.inr ⟨a, rest, hlt, fun more => ?_⟩)
    obtain ⟨left, houtcome, hleft⟩ := (hmore rfl more).outcome_eq (hstart _)
    rw [arrivals, arrivals.go, houtcome]
    dsimp only
    have hlength : (rest ++ more).length < (bytes ++ more).length := by
      rw [List.length_append, List.length_append]
      omega
    rw [arrivals, hr.arrivals_go_eq hpos (hleft.trans (hstart _).symm) (by rwa [hleft])
      (by rw [hleft]; exact Nat.lt_succ_self _)]

/-- **Bytes that come in later** are read behind those that have been kept. -/
theorem Read.Steady.arrivals_append (hr : Steady r (·.isSome = true) cost) (hpos : 0 < cost)
    (bytes more : List UInt8) :
    arrivals r (bytes ++ more) = match arrivals r bytes with
      | ⟨values, pending, none⟩ =>
        { arrivals r (pending ++ more) with
          values := values ++ (arrivals r (pending ++ more)).values }
      | ⟨values, pending, some e⟩ => ⟨values, pending ++ more, some e⟩ := by
  obtain hnone | ⟨e, herror⟩ | ⟨a, rest, hlt, hsome⟩ := hr.arrivals_cases hpos bytes
  · rw [hnone]
    rfl
  · have hbytes := herror []
    rw [List.append_nil] at hbytes
    rw [herror, hbytes]
  · have hbytes := hsome []
    rw [List.append_nil, List.append_nil] at hbytes
    have ih := Read.Steady.arrivals_append hr hpos rest more
    rw [hsome, hbytes, ih]
    cases arrivals r rest with
    | mk values pending error => cases error <;> rfl
termination_by bytes.length

/-- **What has arrived is what is read to the end**, and the error that makes the rest meaningless
is the one that reading meets, if that is none of a stream that stops too early. -/
theorem Read.Steady.readAll_eq_arrivals (hr : Steady r (·.isSome = true) cost) (hpos : 0 < cost)
    (s : Stream) :
    (readAll r s).1 = (arrivals r s.bytes).values ∧
      (readAll r s).2.1.filter (!·.isTruncation) = (arrivals r s.bytes).error := by
  have hgo (turns : Nat) : ∀ s : Stream, (readAll.go r turns s).1 = (arrivals.go r turns s).values ∧
      (readAll.go r turns s).2.1.filter (!·.isTruncation) = (arrivals.go r turns s).error := by
    induction turns with
    | zero => exact fun _ => ⟨rfl, rfl⟩
    | succ turns ih =>
      intro s
      rw [readAll.go, arrivals.go]
      match r.outcome s with
      | (.ok none, _) => exact ⟨rfl, rfl⟩
      | (.ok (some a), rest) => exact ⟨congrArg (a :: ·) (ih rest).1, (ih rest).2⟩
      | (.error e, _) =>
        refine ⟨rfl, ?_⟩
        dsimp only
        cases h : e.isTruncation
        · exact Option.filter_some_pos (by rw [h]; rfl)
        · exact Option.filter_some_neg (by rw [h]; rfl)
  have hstart : s.bytes = Stream.bytes [s.bytes] := (List.append_nil _).symm
  rw [arrivals, ← hr.arrivals_go_eq hpos hstart (Nat.lt_succ_self _) (Nat.lt_succ_self _)]
  exact hgo _ s

end Steady

end Switchboard.Wire
