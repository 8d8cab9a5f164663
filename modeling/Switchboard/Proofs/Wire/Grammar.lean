import Switchboard.Proofs.Wire.Arrival
import Switchboard.Proofs.Wire.Verdict

/-!
# Requests among any bytes

A peer may send anything, and only some of it is a request. `IsRequest` says
which bytes are the envelope of which request, without a reader. It does not
matter who has written the text of its header, or whether it is the one that
would have been written here.

A stream of bytes has a longest run of such envelopes at its beginning
(`IsLongestRun`). What is taken off an open connection is that run, no more and
no less (`isLongestRun_iff`). So the reader has no say in which requests there
are, however the bytes come in. It offers what is an envelope, and where no
envelope stands there is nothing, or a fault (`request_total`).
-/

namespace Switchboard.Wire

/-- **The longest run of request envelopes** at the beginning of some bytes. -/
inductive IsLongestRun : List UInt8 → List (UInt64 × Request) → Prop where
  | stop (bytes : List UInt8) (h : ∀ whole message, IsRequest whole message → ¬ whole <+: bytes) :
      IsLongestRun bytes []
  | step {whole rest : List UInt8} {message : UInt64 × Request}
      {messages : List (UInt64 × Request)} (h : IsRequest whole message)
      (hrest : IsLongestRun rest messages) : IsLongestRun (whole ++ rest) (message :: messages)

/-- An envelope at the front is the first that has arrived. -/
theorem IsRequest.arrivals_append {whole : List UInt8} {message : UInt64 × Request}
    (h : IsRequest whole message) (rest : List UInt8) :
    (arrivals readRequest (whole ++ rest)).values
      = message :: (arrivals readRequest rest).values := by
  have hbytes : Stream.bytes [whole ++ rest] = whole ++ rest := List.append_nil _
  obtain ⟨left, houtcome, hleft⟩ := (h.offers.takes_append rest).outcome_eq hbytes
  have hlonger : rest.length < (whole ++ rest).length := by
    have hpos := List.length_pos_iff.mpr h.offers.whole_ne_nil
    rw [List.length_append]
    omega
  have hgo : arrivals.go readRequest (whole ++ rest).length left = arrivals readRequest rest :=
    Read.steady_request.arrivals_go_eq (by decide) (hleft.trans (List.append_nil rest).symm)
      (by rwa [hleft]) (by rw [hleft]; exact Nat.lt_succ_self _)
  rw [arrivals, arrivals.go, houtcome]
  dsimp only
  rw [hgo]

/-- Nothing has arrived if no envelope is at the front. -/
theorem values_eq_nil {bytes : List UInt8}
    (h : ∀ whole message, IsRequest whole message → ¬ whole <+: bytes) :
    (arrivals readRequest bytes).values = [] := by
  -- what is read first is then nothing, or a fault
  have hnone : ∃ result rest, Read.Takes readRequest bytes result rest
      ∧ ∀ message, result ≠ .ok (some message) := by
    obtain rfl | ⟨e, rest, hfault⟩ | ⟨whole, message, rest, hwhole, rfl⟩ := request_total bytes
    · exact ⟨_, _, takes_request_nil, nofun⟩
    · exact ⟨_, _, hfault.takes, nofun⟩
    · exact absurd (List.prefix_append whole rest) (h whole message hwhole)
  obtain ⟨result, rest, htakes, hresult⟩ := hnone
  obtain ⟨left, houtcome, -⟩ := htakes.outcome_eq (s := [bytes]) (List.append_nil bytes)
  rw [arrivals, arrivals.go, houtcome]
  cases result with
  | error e => rfl
  | ok o =>
    cases o with
    | none => rfl
    | some message => exact absurd rfl (hresult message)

theorem isLongestRun_arrivals (bytes : List UInt8) :
    IsLongestRun bytes (arrivals readRequest bytes).values := by
  by_cases h : ∃ whole message, IsRequest whole message ∧ whole <+: bytes
  · obtain ⟨whole, message, hwhole, rest, hrest⟩ := h
    have hshorter : rest.length < bytes.length := by
      have hpos := List.length_pos_iff.mpr hwhole.offers.whole_ne_nil
      rw [← hrest, List.length_append]
      omega
    have ih := isLongestRun_arrivals rest
    rw [← hrest, hwhole.arrivals_append]
    exact .step hwhole ih
  · have hnone : ∀ whole message, IsRequest whole message → ¬ whole <+: bytes :=
      fun whole message hwhole hprefix => h ⟨whole, message, hwhole, hprefix⟩
    rw [values_eq_nil hnone]
    exact .stop bytes hnone
termination_by bytes.length

/-- **What has arrived is the longest run of envelopes**, of which there is only one. -/
theorem isLongestRun_iff {bytes : List UInt8} {messages : List (UInt64 × Request)} :
    IsLongestRun bytes messages ↔ messages = (arrivals readRequest bytes).values := by
  refine ⟨fun h => ?_, fun h => h ▸ isLongestRun_arrivals bytes⟩
  induction h with
  | stop bytes hnone => exact (values_eq_nil hnone).symm
  | step hwhole _ ih => rw [hwhole.arrivals_append, ih]

end Switchboard.Wire
