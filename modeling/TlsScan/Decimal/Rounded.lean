import TlsScan.Decimal.Binary
import TlsScan.Text.Number

/-!
# Rounded decimals

Writing of non-negative numbers with a fixed number of places, positional and scientific.
A tie goes to the even digit.
-/

namespace TlsScan.Decimal

/-- The whole number nearest to a non-negative number; a tie goes to the even one. -/
def roundHalfEven (x : Rat) : Nat :=
  let down := x.floor.toNat
  let twice := 2 * (x - down)
  if twice < 1 then down
  else if 1 < twice then down + 1
  else if down % 2 = 0 then down else down + 1

/-- Positional, with `places` digits after the point. -/
def fixed (places : Nat) (x : Rat) : String :=
  let scaled := roundHalfEven (x * (10 : Rat) ^ (places : Int))
  let unit := Nat.pow 10 places
  String.ofList <|
    Text.decimal (scaled / unit) ++ '.' :: Text.padded places (scaled % unit)

/-- One digit, a point, `places` digits and the power of ten. -/
def scientific (places : Nat) (x : Rat) : String :=
  if x ≤ 0 then
    String.ofList ('0' :: '.' :: List.replicate places '0' ++ ['e', '0'])
  else
    let power := digitCount x - 1
    let rounded := roundHalfEven (x * (10 : Rat) ^ ((places : Int) - power))
    let (digits, power) :=
      if Nat.pow 10 (places + 1) ≤ rounded then (rounded / 10, power + 1) else (rounded, power)
    let sign := if power < 0 then ['-'] else []
    let unit := Nat.pow 10 places
    String.ofList <|
      Text.decimal (digits / unit) ++ '.' :: Text.padded places (digits % unit)
        ++ 'e' :: sign ++ Text.decimal power.natAbs

end TlsScan.Decimal
