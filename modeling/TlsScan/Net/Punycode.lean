/-!
# Punycode

Texts of any characters as letters, digits and hyphens.

## Main Definitions

* `Net.Punycode.encode` — the form in ASCII.
* `Net.Punycode.decode?` — the text that an ASCII form stands for.

## Design Notes

The characters of ASCII come first, behind them a hyphen.  The others follow in the order
of their code points as insertions: a number for each says how many places it lies behind
the insertion before, when a round through the text is made for every code point on the
way.  Such a number is written in digits up to 35 whose weights adapt to the numbers seen
so far.
-/

namespace TlsScan.Net.Punycode

/-! ### Digits and weights -/

/-- The character of a digit. -/
def digitChar (d : Nat) : Char :=
  if d < 26 then Char.ofNat ('a'.toNat + d) else Char.ofNat ('0'.toNat + (d - 26))

/-- The digit of a character of either case. -/
def digit? (c : Char) : Option Nat :=
  if 'a' ≤ c ∧ c ≤ 'z' then some (c.toNat - 'a'.toNat)
  else if 'A' ≤ c ∧ c ≤ 'Z' then some (c.toNat - 'A'.toNat)
  else if '0' ≤ c ∧ c ≤ '9' then some (c.toNat - '0'.toNat + 26)
  else none

/-- The digit at place `k`, counted in steps of 36, from which on another digit follows. -/
def threshold (bias k : Nat) : Nat := max 1 (min 26 (k - bias))

theorem threshold_pos (bias k : Nat) : 1 ≤ threshold bias k := by unfold threshold; omega

/-- How often a number can be divided by 35 until it is small, in steps of 36, and what is
left of it. -/
def scaleDown (delta : Nat) : Nat × Nat :=
  if 455 < delta then
    let (k, d) := scaleDown (delta / 35)
    (k + 36, d)
  else (0, delta)
termination_by delta
decreasing_by omega

/-- The bias after a number, given how many characters there are then. -/
def adapt (delta count : Nat) (isFirst : Bool) : Nat :=
  let delta := if isFirst then delta / 700 else delta / 2
  let (k, d) := scaleDown (delta + delta / count)
  k + 36 * d / (d + 38)

/-! ### Writing -/

/-- The digits of a number. -/
def writeNumber (bias k q : Nat) : List Char :=
  let t := threshold bias k
  if q < t then [digitChar q]
  else digitChar (t + (q - t) % (36 - t)) :: writeNumber bias (k + 36) ((q - t) / (36 - t))
termination_by q
decreasing_by
  have h₁ := threshold_pos bias k
  have h₂ : (q - threshold bias k) / (36 - threshold bias k) ≤ q - threshold bias k :=
    Nat.div_le_self ..
  show (q - threshold bias k) / (36 - threshold bias k) < q
  have _h₃ : ¬q < threshold bias k := ‹_›
  omega

/-- The state of writing. -/
structure Writer where
  /-- The places passed since the last insertion. -/
  delta : Nat
  /-- The characters written so far. -/
  count : Nat
  bias : Nat
  /-- The code point up to which everything is written. -/
  reached : Nat
  basicCount : Nat
  digits : List Char

/-- Pass one character while `m` is being inserted. -/
def Writer.pass (m : Nat) (w : Writer) (c : Char) : Writer :=
  if c.toNat < m then { w with delta := w.delta + 1 }
  else if c.toNat = m then
    { w with
      digits := w.digits ++ writeNumber w.bias 36 w.delta
      bias := adapt w.delta (w.count + 1) (w.count = w.basicCount)
      delta := 0
      count := w.count + 1 }
  else w

/-- Insert the code point `m` wherever it occurs in a text. -/
def Writer.insertAll (text : List Char) (w : Writer) (m : Nat) : Writer :=
  let start := { w with delta := w.delta + (m - w.reached) * (w.count + 1) }
  let last := text.foldl (pass m) start
  { last with delta := last.delta + 1, reached := m + 1 }

/-- Whether a character needs no insertion. -/
def isBasic (c : Char) : Bool := c.toNat < 0x80

/-- **The form of a text in ASCII.** -/
def encode (text : List Char) : List Char :=
  let basic := text.filter isBasic
  let others := ((text.filter fun c => !isBasic c).map Char.toNat).eraseDups.mergeSort
  let start : Writer := ⟨0, basic.length, 72, 0x80, basic.length, []⟩
  let front := if basic.isEmpty then [] else basic ++ ['-']
  front ++ (others.foldl (Writer.insertAll text) start).digits

/-! ### Reading -/

/-- A number, and the characters behind it.  `weight` is the weight of the next digit. -/
def readNumber? (bias : Nat) (k weight value : Nat) : List Char → Option (Nat × List Char)
  | [] => none
  | c :: cs => do
    let d ← digit? c
    let t := threshold bias k
    if d < t then return (value + d * weight, cs)
    else readNumber? bias (k + 36) (weight * (36 - t)) (value + d * weight) cs

/-- A number leaves fewer characters. -/
theorem length_of_readNumber? {bias k weight value n : Nat} {cs rest : List Char}
    (h : readNumber? bias k weight value cs = some (n, rest)) : rest.length < cs.length := by
  induction cs generalizing k weight value with
  | nil => cases h
  | cons c cs ih =>
    simp only [readNumber?, Option.bind_eq_bind, Option.bind_eq_some_iff] at h
    obtain ⟨d, _, h⟩ := h
    split at h
    · cases h; simp
    · exact Nat.lt_succ_of_lt (ih h)

/-- The character of a code point beyond ASCII. -/
def char? (n : Nat) : Option Char :=
  if n.isValidChar then some (Char.ofNat n) else none

/-- Carry out insertions: `reached` and `place` are those of the last one. -/
def insertions? (bias reached place : Nat) (isFirst : Bool) (text : List Char)
    (cs : List Char) : Option (List Char) :=
  match _h : cs with
  | [] => some text
  | c :: cs' =>
    match _hn : readNumber? bias 36 1 0 (c :: cs') with
    | none => none
    | some (delta, rest) =>
      let count := text.length + 1
      let n := reached + (place + delta) / count
      let i := (place + delta) % count
      match char? n with
      | none => none
      | some x =>
        insertions? (adapt delta count isFirst) n (i + 1) false
          (text.take i ++ x :: text.drop i) rest
termination_by cs.length
decreasing_by exact length_of_readNumber? _hn

/-- What stands before the last hyphen, and what behind it.  A hyphen at the very start
does not count. -/
def cutBasic (cs : List Char) : List Char × List Char :=
  let tail := (cs.reverse.takeWhile (· ≠ '-')).reverse
  let front := cs.take (cs.length - tail.length - 1)
  if front.isEmpty then ([], cs) else (front, tail)

/-- **The text that an ASCII form stands for.** -/
def decode? (cs : List Char) : Option (List Char) :=
  let (basic, rest) := cutBasic cs
  if basic.all isBasic then insertions? 72 0x80 0 true basic rest else none

end TlsScan.Net.Punycode
