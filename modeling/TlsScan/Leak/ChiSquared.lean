/-!
# The chi-squared distribution

The upper tail of the chi-squared distribution in doubles.

## Main Definitions

* `Leak.logGamma` — the logarithm of the gamma function.
* `Leak.gammaUpper` — the upper incomplete gamma function, divided by the gamma function.
* `Leak.chiSquaredTail` — how likely a statistic at least as large is.

## Design Notes

Left of the mean the lower tail is summed as a power series; right of it the upper tail is
a continued fraction.  Both stop at fifteen digits, and after a number of terms that no
argument in question reaches.  A tail too small for a double is zero.
-/

namespace TlsScan.Leak

/-- Coefficients of the approximation of the gamma function. -/
def gammaCoefficients : List Float :=
  [1.05142378581721974210, -3.45687097222016235469, 4.51227709466894823700,
   -2.98285225323576655721, 1.05639711577126713077, -1.95428773191645869583e-1,
   1.70970543404441224307e-2, -5.71926117404305781283e-4, 4.63399473359905636708e-6,
   -2.71994908488607703910e-9]

/-- The constant term of the approximation. -/
def gammaConstant : Float := 2.48574089138753565546e-5

/-- The shift of the approximation. -/
def gammaShift : Float := 10.900511

/-- Euler's number. -/
def eulerNumber : Float := 2.71828182845904523536028747135266250

/-- The logarithm of twice the square root of Euler's number over pi. -/
def logTwoRootEOverPi : Float := 0.6207822376352452223455184457816472122518527279025978

/-- **The logarithm of the gamma function** for arguments of one half and more. -/
def logGamma (x : Float) : Float :=
  let sum := (gammaCoefficients.foldl
    (fun (sum, i) k => (sum + k / (x + i - 1), i + 1)) (gammaConstant, (1 : Float))).1
  Float.log sum + logTwoRootEOverPi
    + (x - 0.5) * Float.log ((x - 0.5 + gammaShift) / eulerNumber)

/-- Where sums stop. -/
def precision : Float := 1e-15

/-- The number of terms after which sums stop in any case. -/
def termLimit : Nat := 1000000

/-- The power series of the lower tail, after the term `c` with sum `sum`. -/
def seriesSum (x : Float) : Nat → Float → Float → Float → Float
  | 0, _, _, sum => sum
  | fuel + 1, r, c, sum =>
    let r := r + 1
    let c := c * (x / r)
    let sum := sum + c
    if c / sum ≤ precision then sum else seriesSum x fuel r c sum

/-- The state of a continued fraction: the last two numerators and denominators, and the
coefficients of the next step. -/
structure Fraction where
  numerator : Float
  numeratorBefore : Float
  denominator : Float
  denominatorBefore : Float
  y : Float
  z : Float
  c : Float
  value : Float

/-- From where on numerators and denominators are scaled down. -/
def scaleLimit : Float := 4503599627370496.0

/-- By how much numerators and denominators are scaled down. -/
def scaleFactor : Float := 2.22044604925031308085e-16

/-- The continued fraction of the upper tail. -/
def fractionValue : Nat → Fraction → Float
  | 0, s => s.value
  | fuel + 1, s =>
    let y := s.y + 1
    let z := s.z + 2
    let c := s.c + 1
    let yc := y * c
    let p := s.numerator * z - s.numeratorBefore * yc
    let q := s.denominator * z - s.denominatorBefore * yc
    let scale := if p.abs > scaleLimit then scaleFactor else 1
    let value := if q == 0 then s.value else p / q
    let change := if q == 0 then 1 else ((s.value - value) / value).abs
    if change ≤ precision then value
    else fractionValue fuel
      { numerator := p * scale, numeratorBefore := s.numerator * scale
        denominator := q * scale, denominatorBefore := s.denominator * scale
        y := y, z := z, c := c, value := value }

/-- The exponent below which a tail is zero. -/
def exponentLimit : Float := -709.78271289338399

/-- **The upper incomplete gamma function** for positive arguments, divided by the gamma
function. -/
def gammaUpper (a x : Float) : Float :=
  let exponent := a * Float.log x - x - logGamma a
  if x < 1 || x ≤ a then
    if x ≤ 1.11e-17 then 1
    else if exponent < exponentLimit then (if a < x then 0 else 1)
    else 1 - Float.exp exponent * seriesSum x termLimit a 1 1 / a
  else if exponent < exponentLimit then 0
  else
    let y := 1 - a
    let z := x + y + 1
    fractionValue termLimit
      { numerator := x + 1, numeratorBefore := 1
        denominator := z * x, denominatorBefore := x
        y := y, z := z, c := 0, value := (x + 1) / (z * x) } * Float.exp exponent

/-- **How likely a chi-squared statistic of at least `chi` is**, with a positive number of
degrees of freedom. -/
def chiSquaredTail (degreesOfFreedom : Nat) (chi : Float) : Float :=
  if chi ≤ 0 then 1 else gammaUpper (Float.ofNat degreesOfFreedom / 2) (chi * 0.5)

end TlsScan.Leak
