/-!
# Doubles as exact numbers

A finite double is a whole number times a power of two.  Everything printed about a double
is computed from that exact value.

## Main Definitions

* `Decimal.Binary` — sign, mantissa and exponent.
* `Decimal.Binary.ofBits` — the parts of a double's 64 bits.
* `Decimal.Binary.magnitude` — the exact absolute value.
-/

namespace TlsScan.Decimal

/-- **A finite double**: a sign, and an absolute value of `mantissa · 2 ^ exponent`. -/
structure Binary where
  negative : Bool
  mantissa : Nat
  exponent : Int
  deriving DecidableEq, Repr

namespace Binary

/-- The leading bit of a mantissa, which the bits of a double leave out. -/
def hiddenBit : Nat := Nat.pow 2 52

/-- The parts of a double.  Infinities and not-a-numbers are never stored, and get some
value here. -/
def ofBits (bits : UInt64) : Binary :=
  let fraction := bits.toNat % hiddenBit
  let biased : Nat := bits.toNat / hiddenBit % 2048
  { negative := decide (UInt64.size / 2 ≤ bits.toNat)
    mantissa := if biased = 0 then fraction else hiddenBit + fraction
    exponent := if biased = 0 then -1074 else Int.ofNat biased - 1075 }

/-- The exact absolute value. -/
def magnitude (b : Binary) : Rat := (b.mantissa : Rat) * (2 : Rat) ^ b.exponent

/-- Half the distance to the next larger double. -/
def halfAbove (b : Binary) : Rat := (2 : Rat) ^ (b.exponent - 1)

/-- Half the distance to the next smaller double, which is nearer at a power of two. -/
def halfBelow (b : Binary) : Rat :=
  if b.mantissa = hiddenBit ∧ -1074 < b.exponent then (2 : Rat) ^ (b.exponent - 2)
  else b.halfAbove

/-- Whether reading `x` gives this double: it lies no farther than half the way to the
neighbours, where the way's middle goes to the even mantissa. -/
def isReadFrom (b : Binary) (x : Rat) : Bool :=
  let low := b.magnitude - b.halfBelow
  let high := b.magnitude + b.halfAbove
  if b.mantissa % 2 = 0 then low ≤ x && x ≤ high else low < x && x < high

end Binary

/-- The number of decimal digits before the point of a positive number, so that
`10 ^ (digitCount x - 1) ≤ x < 10 ^ digitCount x`. -/
def digitCount (x : Rat) : Int :=
  let estimate : Int :=
    (Nat.toDigits 10 x.num.natAbs).length - (Nat.toDigits 10 x.den).length
  if (10 : Rat) ^ estimate ≤ x then estimate + 1 else estimate

end TlsScan.Decimal
