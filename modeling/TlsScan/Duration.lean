import TlsScan.Text.Number

/-!
# Durations

A duration is a number of seconds and a fraction in nanoseconds, with the text that logs
show.

## Main Definitions

* `Duration` — seconds in 64 bits and nanoseconds below one second.
* `Duration.ofMillis` — the duration of a number of milliseconds.
* `Duration.toNanos` — its length in nanoseconds, without any bound.
* `Duration.sub?`, `Duration.saturatingSub` — what is left of a duration after another one.
* `Duration.text` — the text in the largest unit that leaves a whole part.
-/

namespace TlsScan

/-- Nanoseconds in one second. -/
abbrev nanosPerSecond : Nat := 1000000000

/-- **A span of time** of up to 2⁶⁴ seconds, exact to the nanosecond. -/
structure Duration where
  /-- Whole seconds. -/
  seconds : UInt64
  /-- Nanoseconds beyond the whole seconds. -/
  nanos : Fin nanosPerSecond
  deriving DecidableEq, Repr

namespace Duration

/-- No time at all. -/
def zero : Duration := ⟨0, 0⟩

instance : Inhabited Duration := ⟨zero⟩

/-- The duration of a number of milliseconds; 64 bits of them always fit. -/
def ofMillis (ms : UInt64) : Duration where
  seconds := ms / 1000
  nanos := ⟨ms.toNat % 1000 * 1000000, by
    have := Nat.mod_lt ms.toNat (show 1000 > 0 by decide)
    show _ < 1000000000
    omega⟩

/-- Seconds and nanoseconds where the nanoseconds may exceed a second and carry over;
`none` when the seconds then no longer fit. -/
def ofParts? (seconds nanos : Nat) : Option Duration :=
  let total := seconds + nanos / nanosPerSecond
  if h : total < UInt64.size then
    some ⟨UInt64.ofNatLT total h, ⟨nanos % nanosPerSecond, Nat.mod_lt _ (by decide)⟩⟩
  else
    none

/-- Whole milliseconds, the rest cut off. -/
def toMillis (d : Duration) : Nat :=
  d.seconds.toNat * 1000 + d.nanos.val / 1000000

/-- Its length in nanoseconds. -/
def toNanos (d : Duration) : Nat := d.seconds.toNat * nanosPerSecond + d.nanos.val

/-- What is left of a duration after another one; `none` if that one is longer.  Where the
nanoseconds do not suffice, a second is broken. -/
def sub? (a b : Duration) : Option Duration :=
  if h : b.nanos.val ≤ a.nanos.val then
    if b.seconds ≤ a.seconds then
      some ⟨a.seconds - b.seconds,
        ⟨a.nanos.val - b.nanos.val, Nat.lt_of_le_of_lt (Nat.sub_le ..) a.nanos.isLt⟩⟩
    else none
  else if b.seconds < a.seconds then
    some ⟨a.seconds - b.seconds - 1,
      ⟨nanosPerSecond - (b.nanos.val - a.nanos.val),
        Nat.sub_lt (by decide) (Nat.sub_pos_of_lt (Nat.lt_of_not_le h))⟩⟩
  else none

/-- What is left of a duration after another one, which is nothing if that one is longer. -/
def saturatingSub (a b : Duration) : Duration := (a.sub? b).getD zero

/-- A whole part and a fraction out of `places` digits, without trailing zeros. -/
def decimalText (whole fraction places : Nat) : String :=
  let digits := (Text.padded places fraction).reverse.dropWhile (· == '0')
  String.ofList
    (Text.decimal whole ++ if digits.isEmpty then [] else '.' :: digits.reverse)

/-- **The text shown in logs**: seconds if there is a whole second, else milliseconds, else
microseconds, else nanoseconds, with as many places as needed. -/
def text (d : Duration) : String :=
  if d.seconds ≠ 0 then decimalText d.seconds.toNat d.nanos.val 9 ++ "s"
  else if 1000000 ≤ d.nanos.val then
    decimalText (d.nanos.val / 1000000) (d.nanos.val % 1000000) 6 ++ "ms"
  else if 1000 ≤ d.nanos.val then
    decimalText (d.nanos.val / 1000) (d.nanos.val % 1000) 3 ++ "µs"
  else decimalText d.nanos.val 0 0 ++ "ns"

/-! ### Lengths -/

/-- **Milliseconds are taken over exactly**, whatever their number. -/
@[simp] theorem toNanos_ofMillis (ms : UInt64) :
    (ofMillis ms).toNanos = ms.toNat * 1000000 := by
  have hseconds : (ms / 1000).toNat = ms.toNat / 1000 := by rw [UInt64.toNat_div]; rfl
  simp only [toNanos, ofMillis, hseconds, nanosPerSecond]
  omega

@[simp] theorem toMillis_ofMillis (ms : UInt64) : (ofMillis ms).toMillis = ms.toNat := by
  have hseconds : (ms / 1000).toNat = ms.toNat / 1000 := by rw [UInt64.toNat_div]; rfl
  simp only [toMillis, ofMillis, hseconds]
  omega

/-- Whole milliseconds are what the length has of them. -/
theorem toMillis_eq (d : Duration) : d.toMillis = d.toNanos / 1000000 := by
  simp only [toMillis, toNanos, nanosPerSecond]
  omega

/-- Something is left exactly if the other duration is not longer, -/
theorem isSome_sub? (a b : Duration) : (a.sub? b).isSome = true ↔ b.toNanos ≤ a.toNanos := by
  have ha : a.nanos.val < 1000000000 := a.nanos.isLt
  have hb : b.nanos.val < 1000000000 := b.nanos.isLt
  simp only [sub?, toNanos, nanosPerSecond, UInt64.le_iff_toNat_le, UInt64.lt_iff_toNat_lt]
  split <;> split <;> simp <;> omega

/-- and it is as long as the difference. -/
theorem toNanos_of_sub? {a b c : Duration} (h : a.sub? b = some c) :
    c.toNanos = a.toNanos - b.toNanos := by
  have ha : a.nanos.val < 1000000000 := a.nanos.isLt
  have hb : b.nanos.val < 1000000000 := b.nanos.isLt
  unfold sub? at h
  split at h
  · split at h <;> cases h
    rename_i hnanos hseconds
    simp only [toNanos, nanosPerSecond, UInt64.toNat_sub_of_le _ _ hseconds]
    rw [UInt64.le_iff_toNat_le] at hseconds
    omega
  · split at h <;> cases h
    rename_i hnanos hseconds
    have hle : b.seconds ≤ a.seconds := UInt64.le_of_lt hseconds
    rw [UInt64.lt_iff_toNat_lt] at hseconds
    have hone : 1 ≤ a.seconds - b.seconds := by
      rw [UInt64.le_iff_toNat_le, UInt64.toNat_sub_of_le _ _ hle, UInt64.toNat_one]
      omega
    simp only [toNanos, nanosPerSecond, UInt64.toNat_sub_of_le _ _ hone,
      UInt64.toNat_sub_of_le _ _ hle, UInt64.toNat_one]
    omega

/-- **What is left is the difference**, in the natural numbers. -/
@[simp] theorem toNanos_saturatingSub (a b : Duration) :
    (a.saturatingSub b).toNanos = a.toNanos - b.toNanos := by
  unfold saturatingSub
  cases h : a.sub? b with
  | some c => exact toNanos_of_sub? h
  | none =>
      have hlt : ¬ b.toNanos ≤ a.toNanos := by
        rw [← isSome_sub?, h]
        exact Bool.false_ne_true
      rw [Option.getD_none, Nat.sub_eq_zero_of_le (Nat.le_of_not_le hlt)]
      rfl

end Duration

end TlsScan
