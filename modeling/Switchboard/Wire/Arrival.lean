import Switchboard.Wire.Stream

/-!
# Envelopes that are still arriving

While a connection is open, its end has not been seen: bytes that stop in the
middle of an envelope are not truncated, the rest of it is still to come. The
receiver keeps such bytes and reads them again when more have arrived.

`arrivals` takes off all envelopes that are complete. It stops at the first
one that cannot be an envelope whatever may follow, and nothing behind it is
looked at.
-/

namespace Switchboard.Wire

/-- **What has arrived**: the complete things in order, the bytes that are kept for later,
and the error that makes the bytes behind meaningless, if there is one. -/
structure Arrivals (α : Type) where
  values : List α
  pending : List UInt8
  error : Option TransportError
deriving Inhabited

/-- **The things that are complete** in the bytes of an open connection. Each of them takes
at least one byte, so as many turns as there are bytes are enough. -/
def arrivals {α : Type} (r : Read (Option α)) (inbound : List UInt8) : Arrivals α :=
  go (inbound.length + 1) [inbound]
where
  /-- At most `turns` things. -/
  go : Nat → Stream → Arrivals α
    | 0, s => ⟨[], s.bytes, none⟩
    | turns + 1, s =>
      match r.outcome s with
      | (.ok (some a), rest) =>
        let later := go turns rest
        { later with values := a :: later.values }
      | (.ok none, _) => ⟨[], s.bytes, none⟩
      | (.error e, _) => ⟨[], s.bytes, if e.isTruncation then none else some e⟩

/-- **So many of the things that are complete**, at most, and what is left. -/
def arrivedUpTo {α : Type} (r : Read (Option α)) : Nat → Stream → List α × Stream
  | 0, s => ([], s)
  | count + 1, s =>
    match r.outcome s with
    | (.ok (some a), rest) =>
      let (more, rest) := arrivedUpTo r count rest
      (a :: more, rest)
    | _ => ([], s)

end Switchboard.Wire
