import Std.Data.ExtTreeMap
import TlsScan.Leak.Fingerprint

/-!
# Contingency tables

Observations counted by request and by reaction, and Pearson's statistic of such a table.

## Main Definitions

* `Leak.Tally` — how often each of some things occurs.
* `Leak.reactions` — the reactions of some observations, counted.
* `Leak.Contingency` — the table: a row of reactions for every request, with running totals.
* `Leak.Contingency.pearson` — Pearson's statistic, in any arithmetic.
* `Leak.chiSquared`, `Leak.exactChiSquared` — the statistic in doubles and in exact arithmetic.
* `Leak.hasDistinctAnswers` — whether some reaction differs from the first.

## Design Notes

A table takes in one observation after another, and has no cell for a request and a reaction
that never occur together.  Doubles are added in the order of rows and columns, which fixes
the last bit.
-/

namespace TlsScan.Leak

open Std

/-! ### Counting -/

/-- **How often each of some things occurs**, in their order. -/
abbrev Tally (α : Type) [Ord α] := ExtTreeMap α Nat

/-- Count one more occurrence. -/
def Tally.increment {α : Type} [Ord α] [TransOrd α] (t : Tally α) (a : α) : Tally α :=
  t.alter a fun n => some (n.getD 0 + 1)

/-- How often all of them occur together. -/
def Tally.total {α : Type} [Ord α] [TransOrd α] (t : Tally α) : Nat :=
  t.foldl (fun n _ count => n + count) 0

/-- **The reactions of some observations**, with how often they occur. -/
def reactions (l : List Observation) : Tally Fingerprint :=
  l.foldl (fun t o => t.increment o.fingerprint) ∅

/-- Whether some reaction differs from the first one. -/
def hasDistinctAnswers : List Observation → Bool
  | [] => false
  | o :: l => l.any fun p => p.fingerprint ≠ o.fingerprint

/-! ### Tables -/

/-- **A contingency table** of requests and reactions. -/
@[ext] structure Contingency where
  /-- For every request that occurs, its row: its reactions, counted. -/
  counts : ExtTreeMap String (Tally Fingerprint)
  /-- All reactions, counted. -/
  columnTotals : Tally Fingerprint
  /-- The number of observations. -/
  total : Nat

namespace Contingency

/-- The table of no observations. -/
def empty : Contingency := ⟨∅, ∅, 0⟩

/-- Take in one observation. -/
def add (t : Contingency) (o : Observation) : Contingency where
  counts := t.counts.alter o.vector fun row => some ((row.getD ∅).increment o.fingerprint)
  columnTotals := t.columnTotals.increment o.fingerprint
  total := t.total + 1

/-- **The table of some observations.** -/
def ofObservations (l : List Observation) : Contingency := l.foldl add empty

/-- The number of requests that occur. -/
def rows (t : Contingency) : Nat := t.counts.size

/-- The number of reactions that occur. -/
def columns (t : Contingency) : Nat := t.columnTotals.size

/-- How much of the table is left open by its totals. -/
def degreesOfFreedom (t : Contingency) : Nat := (t.rows - 1) * (t.columns - 1)

end Contingency

/-! ### Pearson's statistic -/

/-- **What a statistic is computed in.** -/
structure Arithmetic (κ : Type) where
  /-- A count as a number. -/
  ofNat : Nat → κ
  add : κ → κ → κ
  sub : κ → κ → κ
  mul : κ → κ → κ
  div : κ → κ → κ

/-- The arithmetic of doubles. -/
def Arithmetic.doubles : Arithmetic Float :=
  ⟨Float.ofNat, Float.add, Float.sub, Float.mul, Float.div⟩

/-- Exact arithmetic. -/
def Arithmetic.exact : Arithmetic Rat := ⟨fun n => n, Rat.add, Rat.sub, Rat.mul, Rat.div⟩

namespace Contingency

variable {κ : Type}

/-- The count that independence would lead one to expect in a cell. -/
def expected (a : Arithmetic κ) (t : Contingency) (rowTotal columnTotal : Nat) : κ :=
  a.div (a.mul (a.ofNat rowTotal) (a.ofNat columnTotal)) (a.ofNat t.total)

/-- What a cell adds to the statistic: the squared distance from the expectation, relative to
the expectation. -/
def deviation (a : Arithmetic κ) (t : Contingency) (rowTotal columnTotal count : Nat) : κ :=
  let expected := t.expected a rowTotal columnTotal
  let distance := a.sub (a.ofNat count) expected
  a.div (a.mul distance distance) expected

/-- **Pearson's statistic**, added up row by row.  A row has a cell for every column, also
for reactions that it does not have. -/
def pearson (a : Arithmetic κ) (t : Contingency) : κ :=
  if t.total = 0 then a.ofNat 0
  else
    t.counts.foldl (fun sum _ row =>
      let rowTotal := row.total
      t.columnTotals.foldl (fun sum f columnTotal =>
        a.add sum (t.deviation a rowTotal columnTotal (row.getD f 0))) sum) (a.ofNat 0)

end Contingency

/-! ### Observations -/

/-- The reactions that occur, in order, with how often they do. -/
def classes (l : List Observation) : List (Fingerprint × Nat) := (reactions l).toList

/-- The names of the requests that occur, in order. -/
def rows (l : List Observation) : List String := (Contingency.ofObservations l).counts.keys

/-- The reactions that occur, in order. -/
def columns (l : List Observation) : List Fingerprint :=
  (Contingency.ofObservations l).columnTotals.keys

/-- The degrees of freedom of the table. -/
def degreesOfFreedom (l : List Observation) : Nat :=
  (Contingency.ofObservations l).degreesOfFreedom

/-- **Pearson's statistic in doubles.** -/
def chiSquared (l : List Observation) : Float :=
  (Contingency.ofObservations l).pearson .doubles

/-- **Pearson's statistic in exact arithmetic.** -/
def exactChiSquared (l : List Observation) : Rat :=
  (Contingency.ofObservations l).pearson .exact

end TlsScan.Leak
