import TlsScan.Decimal.Binary

/-!
# The shortest decimal of a double

The fewest decimal digits that read back as a given double, and of those the ones nearest
to it.

## Main Definitions

* `Decimal.shortest` — the digits as one whole number, and their power of ten.
-/

namespace TlsScan.Decimal

/-- The multiple of `step` that reads back as `b` and is nearest to it.  Only the two
neighbours of `b` on that grid can be; a tie goes to the even multiple. -/
def nearestOnGrid (b : Binary) (step : Rat) : Option Nat :=
  let down := (b.magnitude / step).floor.toNat
  let up := down + 1
  match b.isReadFrom (down * step), b.isReadFrom (up * step) with
  | false, false => none
  | true, false => some down
  | false, true => some up
  | true, true =>
    let middle := (down + up : Nat) * step
    if 2 * b.magnitude < middle then some down
    else if middle < 2 * b.magnitude then some up
    else some (if down % 2 = 0 then down else up)

/-- Move trailing zeros of the digits into the power of ten.  Nothing is lost by leaving
the rest after `limit` zeros, which no double reaches. -/
def dropZeros : Nat → Nat → Int → Nat × Int
  | 0, digits, power => (digits, power)
  | limit + 1, digits, power =>
    if digits % 10 = 0 ∧ digits ≠ 0 then dropZeros limit (digits / 10) (power + 1)
    else (digits, power)

/-- **The shortest decimal**: the pair `(d, p)` with the fewest digits for which
`d · 10 ^ p` reads back as `b`.  Seventeen digits always suffice. -/
def shortest (b : Binary) : Nat × Int :=
  let count := digitCount b.magnitude
  let found := (List.range 17).findSome? fun (n : Nat) =>
    let power := count - Int.ofNat (n + 1)
    (nearestOnGrid b ((10 : Rat) ^ power)).map fun d => (d, power)
  match found with
  | some (d, p) => dropZeros 20 d p
  | none => (0, 0)

end TlsScan.Decimal
