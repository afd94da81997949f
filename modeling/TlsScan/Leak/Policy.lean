import TlsScan.Leak.Test
import TlsScan.Log

/-!
# The policy of leak tests

How many rounds a leak test takes, and when it takes more, by the thoroughness of the scan.
-/

namespace TlsScan.Thoroughness

open Leak

/-- Rounds before anything is decided. -/
def initialRounds (t : Thoroughness) : Nat := if t.atLeast .normal then 3 else 1

/-- Rounds of a test once it has been extended. -/
def escalationRounds : Thoroughness → Nat
  | quick | normal => 10
  | detailed => 12
  | all => 15

/-- Rounds that an extension adds. -/
def additionalRounds (t : Thoroughness) : Nat := t.escalationRounds - t.initialRounds

/-- Whether any test is extended, given whether the reactions of one differ. -/
def escalates (t : Thoroughness) (anyDistinct : Bool) : Bool := anyDistinct || t.atLeast .normal

/-- Whether one test is extended. -/
def extends? {ι : Type} (t : Thoroughness) (test : Test ι) : Bool :=
  test.isDistinct || t.atLeast .detailed

/-- How much longer an extension waits. -/
def additionalTimeout (t : Thoroughness) : Duration :=
  .ofMillis (if t.atLeast .detailed then 1000 else 50)

/-- Whether an extension waits longer with every attempt. -/
def increasingTimeout (t : Thoroughness) : Bool := t.atLeast .detailed

end TlsScan.Thoroughness
