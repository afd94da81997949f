/-!
# Whole numbers in text

Reading and writing of the whole numbers that appear in targets, on the command line and
in configuration files.

## Main Definitions

* `Text.digitValue?` — the value of a digit in a base up to thirty-six.
* `Text.NumberFault` — why a text is not a number.
* `Text.readBounded` — a decimal number with an optional plus sign and an upper bound.
* `Text.decimal`, `Text.padded` — writing.
-/

namespace TlsScan.Text

/-- The value of a digit, where letters of either case continue after nine. -/
def digitValue? (base : Nat) (c : Char) : Option Nat :=
  let v :=
    if '0' ≤ c ∧ c ≤ '9' then c.toNat - '0'.toNat
    else if 'a' ≤ c ∧ c ≤ 'z' then c.toNat - 'a'.toNat + 10
    else if 'A' ≤ c ∧ c ≤ 'Z' then c.toNat - 'A'.toNat + 10
    else base
  if v < base then some v else none

/-- Why a text is not a number of the wanted range. -/
inductive NumberFault where
  | noText
  | invalidDigit
  | tooLarge
  deriving DecidableEq, Repr

/-- The wording of a fault. -/
def NumberFault.message : NumberFault → String
  | noText => "cannot parse integer from empty string"
  | invalidDigit => "invalid digit found in string"
  | tooLarge => "number too large to fit in target type"

/-- Read digits after a value already read.  The first character that is no digit, or that
carries the value past the bound, decides the fault. -/
def readDigits (bound : Nat) : Nat → List Char → Except NumberFault Nat
  | n, [] => .ok n
  | n, c :: cs =>
    match digitValue? 10 c with
    | none => .error .invalidDigit
    | some d => if n * 10 + d ≤ bound then readDigits bound (n * 10 + d) cs else .error .tooLarge

/-- **A decimal number up to `bound`.**  One leading plus sign is allowed, leading zeros
are, and nothing else is. -/
def readBounded (bound : Nat) (text : List Char) : Except NumberFault Nat :=
  match text with
  | [] => .error .noText
  | ['+'] => .error .invalidDigit
  | '+' :: cs => readDigits bound 0 cs
  | cs => readDigits bound 0 cs

/-- The decimal digits of a number, without padding. -/
def decimal (n : Nat) : List Char := Nat.toDigits 10 n

/-- The decimal digits of a number, padded with zeros to a width. -/
def padded (width n : Nat) : List Char :=
  List.replicate (width - (decimal n).length) '0' ++ decimal n

end TlsScan.Text
