import Switchboard.Proofs.Wire.Sequence

/-!
# Things under way

Between a writer and a reader there are bytes in two places: those that have
been written and not been taken yet, and those that have come in and are not
yet a whole thing. Together they are all that has been written and not been
read, in order (`Pipe`).

A pipe stays one when something is written (`Pipe.push`) and when some bytes
move from one end to the other, however many (`Pipe.carry`); and if none are
left to be moved, everything has been read (`Pipe.left_eq_nil`).
-/

namespace Switchboard.Wire

variable {α : Type} {write : α → List UInt8}

/-- **What is under way**: the bytes that wait at the reader and those that wait at the writer are
the things that are left, and the reader has none of them as a whole. -/
structure Pipe (write : α → List UInt8) (inbound outbound : List UInt8) (left : List α) :
    Prop where
  bytes_eq : inbound ++ outbound = left.flatMap write
  inbound_start : inbound = [] ∨ ∃ a ∈ left.head?, IsStart inbound (write a)

/-- Nothing is under way before anything has been written. -/
theorem pipe_nil : Pipe write [] [] [] := ⟨rfl, .inl rfl⟩

namespace Pipe

variable {inbound outbound : List UInt8} {left : List α}

/-- What is written is left. -/
theorem push (h : Pipe write inbound outbound left) (a : α) :
    Pipe write inbound (outbound ++ write a) (left ++ [a]) where
  bytes_eq := by
    rw [← List.append_assoc, h.bytes_eq, List.flatMap_append, List.flatMap_singleton]
  inbound_start := by
    cases left with
    | nil => exact .inl (List.append_eq_nil_iff.mp h.bytes_eq).1
    | cons b left => exact h.inbound_start

/-- **Bytes that are carried over** bring the reader the things that become whole by them, and
leave the others under way. -/
theorem carry {r : Read (Option α)} {Ok : α → Prop} (h : Pipe write inbound outbound left)
    (hr : Reads r write Ok) (hok : ∀ a ∈ left, Ok a) (count : Nat) :
    ∃ done left' pending, left = done ++ left'
      ∧ arrivals r (inbound ++ outbound.take count) = ⟨done, pending, none⟩
      ∧ Pipe write pending (outbound.drop count) left' := by
  have hbytes : (inbound ++ outbound.take count) ++ outbound.drop count = left.flatMap write := by
    rw [List.append_assoc, List.take_append_drop, h.bytes_eq]
  obtain ⟨done, left', pending, rfl, hcut, hpending⟩ := exists_cut write hbytes
  refine ⟨done, left', pending, rfl, ?_, hpending, hcut.pending_start⟩
  exact hr.arrivals_of_cut hcut (fun a ha => hok a (List.mem_append_left _ ha))
    (fun a ha => hok a (List.mem_append_right _ ha))

/-- When no bytes are left to be carried over, nothing is left. -/
theorem left_eq_nil {r : Read (Option α)} {Ok : α → Prop} (h : Pipe write inbound [] left)
    (hr : Reads r write Ok) (hok : ∀ a ∈ left, Ok a) : left = [] := by
  cases left with
  | nil => rfl
  | cons a left =>
    have hbytes := h.bytes_eq
    rw [List.append_nil, List.flatMap_cons] at hbytes
    obtain hnil | ⟨b, hb, k, hk, hstart⟩ := h.inbound_start
    · rw [hnil] at hbytes
      have hwrite := (List.append_eq_nil_iff.mp hbytes.symm).1
      exact absurd hwrite (hr.offers a (hok a List.mem_cons_self)).whole_ne_nil
    · -- the reader would have the whole of it
      obtain rfl := Option.some_inj.mp hb
      have hlength := congrArg List.length (hstart.symm.trans hbytes)
      rw [List.length_take, List.length_append] at hlength
      omega

end Pipe

end Switchboard.Wire
