import TlsScan.Decimal.Shortest
import TlsScan.Json
import TlsScan.Text.Number

/-!
# Numbers in JSON

The literals in which numbers are written, their values, and the text of a value.

## Main Definitions

* `Json.Literal` — a number as it is spelled.
* `Json.Literal.parse?` — the literal of a word.
* `Json.Literal.value?` — its value: a whole number where it can be, else a double.
* `Json.Number.text` — the written form: whole numbers plainly, doubles with the fewest
  digits that read back.

## Design Notes

A literal and its value are apart because a literal may have no value: one that is too
large for a double is still well formed, and is an error only where its value is needed.
-/

namespace TlsScan.Json

/-- **A number as it is spelled**: digits before the point, after it, and an exponent. -/
structure Literal where
  negative : Bool
  whole : List Nat
  fraction : Option (List Nat)
  /-- The sign and the digits of the exponent. -/
  exponent : Option (Bool × List Nat)
  deriving DecidableEq, Repr

namespace Literal

/-- The decimal digits at the start of a word, and the rest. -/
def takeDigits : List Char → List Nat × List Char
  | [] => ([], [])
  | c :: cs =>
    match Text.digitValue? 10 c with
    | some d => let (ds, rest) := takeDigits cs; (d :: ds, rest)
    | none => ([], c :: cs)

/-- The exponent that ends a word, if anything is left of it. -/
def exponentPart? : List Char → Option (Option (Bool × List Nat))
  | [] => some none
  | e :: cs =>
    if e = 'e' ∨ e = 'E' then
      let (negative, cs) := match cs with
        | '-' :: cs => (true, cs)
        | '+' :: cs => (false, cs)
        | cs => (false, cs)
      match takeDigits cs with
      | ([], _) => none
      | (ds, []) => some (some (negative, ds))
      | (_, _ :: _) => none
    else none

/-- The fraction and the exponent after the whole digits. -/
def tail? : List Char → Option (Option (List Nat) × Option (Bool × List Nat))
  | '.' :: cs =>
    match takeDigits cs with
    | ([], _) => none
    | (ds, rest) => (exponentPart? rest).map fun e => (some ds, e)
  | cs => (exponentPart? cs).map fun e => (none, e)

/-- **The literal that a word spells.**  A leading zero stands alone; a point and an
exponent are followed by digits. -/
def parse? (word : List Char) : Option Literal :=
  let (negative, cs) := match word with
    | '-' :: cs => (true, cs)
    | cs => (false, cs)
  match takeDigits cs with
  | ([], _) => none
  | (0 :: _ :: _, _) => none
  | (whole, rest) => (tail? rest).map fun (fraction, exponent) =>
      ⟨negative, whole, fraction, exponent⟩

/-! ### Values -/

/-- One digit more, if the number still fits 64 bits. -/
def extend? (n d : Nat) : Option Nat :=
  if n * 10 + d < UInt64.size then some (n * 10 + d) else none

/-- The number of leading digits that fit 64 bits, and how many digits are left over. -/
def leading (n : Nat) : List Nat → Nat × Nat
  | [] => (n, 0)
  | d :: ds =>
    match extend? n d with
    | some m => leading m ds
    | none => (n, ds.length + 1)

/-- `10 ^ n` as a double. -/
def powerOfTen (n : Nat) : Float := Float.ofScientific (Nat.pow 10 n) false 0

/-- Divide by a power of ten that may be larger than any double. -/
def divideByPower (f : Float) (n : Nat) : Float :=
  if n ≤ 308 then f / powerOfTen n
  else if f == 0 then f
  else divideByPower (f / powerOfTen 308) (n - 308)
  termination_by n

/-- The double of a 64-bit number scaled by a power of ten: one correctly rounded
multiplication or division.  `none` if it is too large. -/
def scaled? (significand : Nat) (power : Int) : Option Float :=
  let f := significand.toUInt64.toFloat
  if power < 0 then some (divideByPower f power.natAbs)
  else if power ≤ 308 then
    let r := f * powerOfTen power.toNat
    if r.isInf then none else some r
  else if significand = 0 then some f
  else none

/-- The value of an exponent's digits, `none` beyond 31 bits. -/
def exponentValue? (ds : List Nat) : Option Nat :=
  ds.foldl (fun n d => n.bind fun n =>
    if n * 10 + d < UInt32.size / 2 then some (n * 10 + d) else none) (some 0)

/-- The double that a literal stands for.  The digits that fit 64 bits count and all
further ones only set the magnitude. -/
def double? (l : Literal) : Option Float :=
  let (n, dropped) := leading 0 l.whole
  let (n, places) := match l.fraction with
    | none => (n, 0)
    | some ds => let (m, left) := leading n ds; (m, ds.length - left)
  let power : Int := dropped - places
  let magnitude : Option Float := match l.exponent with
    | none => scaled? n power
    | some (negative, ds) =>
      match exponentValue? ds with
      | some e => scaled? n (if negative then power - e else power + e)
      | none => if n ≠ 0 ∧ !negative then none else some 0
  magnitude.map fun f => if l.negative then -f else f

/-- The whole number that a literal spells, if it has neither fraction nor exponent and
fits 64 bits; there is no negative zero among them. -/
def whole? (l : Literal) : Option Int :=
  match l.fraction, l.exponent, leading 0 l.whole with
  | none, none, (n, 0) =>
    if l.negative then (if 0 < n ∧ n ≤ UInt64.size / 2 then some (-(n : Int)) else none)
    else some n
  | _, _, _ => none

/-- **The value of a literal**, `none` if it is too large for a double. -/
def value? (l : Literal) : Option Number :=
  match l.whole? with
  | some n => some (.whole n)
  | none => l.double?.map fun f => .real f.toBits

/-- The natural number up to `bound` that a literal spells. -/
def natural? (bound : Nat) (l : Literal) : Option Nat :=
  match l.whole? with
  | some n => if 0 ≤ n ∧ n.toNat ≤ bound then some n.toNat else none
  | none => none

end Literal

/-! ### Writing -/

namespace Number

/-- The text of the double `d · 10 ^ p`: positional from a ten-thousandth of a
hundred-thousandth up to sixteen digits, with a point in any case, and otherwise one digit,
the rest behind a point, and the exponent. -/
def decimalText (d : Nat) (p : Int) : List Char :=
  let digits := Text.decimal d
  let length : Int := digits.length
  let places := length + p
  if 0 ≤ p ∧ places ≤ 16 then digits ++ List.replicate p.toNat '0' ++ ['.', '0']
  else if 0 < places ∧ places ≤ 16 then
    digits.take places.toNat ++ '.' :: digits.drop places.toNat
  else if -5 < places ∧ places ≤ 0 then
    '0' :: '.' :: List.replicate (-places).toNat '0' ++ digits
  else
    let power := places - 1
    let sign := if power < 0 then ['-'] else []
    let mantissa := match digits with
      | [c] => [c]
      | c :: cs => c :: '.' :: cs
      | [] => []
    mantissa ++ 'e' :: sign ++ Text.decimal power.natAbs

/-- The text of a double. -/
def realText (bits : UInt64) : List Char :=
  let b := Decimal.Binary.ofBits bits
  let body := if b.mantissa = 0 then ['0', '.', '0'] else
    let (d, p) := Decimal.shortest b
    decimalText d p
  if b.negative then '-' :: body else body

/-- **The written form of a number.** -/
def text : Number → List Char
  | whole n => if n < 0 then '-' :: Text.decimal n.natAbs else Text.decimal n.natAbs
  | real bits => realText bits

end Number

end TlsScan.Json
