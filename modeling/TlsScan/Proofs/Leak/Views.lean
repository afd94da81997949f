import Mathlib.Algebra.Order.BigOperators.Group.Finset
import TlsScan.Proofs.Leak.Counts

/-!
# Three views of the same observations

Observations are looked at in three ways: by comparing them with the first one, by counting
their reactions, and by a table of requests and reactions that keeps running totals.  Each
takes in the observations in its own way.  Here each of them is compared with what is simply
counted in the list, so that they agree with each other, and do not depend on the order.

## Main Definitions

* `Leak.Contingency.Tabulates` — the cells and totals of a table are what is counted.

## Main Results

* `Leak.Contingency.tabulates_ofObservations` — the table of some observations is right.
* `Leak.hasDistinctAnswers_iff_size`, `Leak.degreesOfFreedom_eq_zero_iff` — when reactions
  differ, and when the table says nothing.
* `Leak.Contingency.ofObservations_eq_of_perm` — the order of the observations is forgotten.
* `Leak.views_agree` — the three views together.
-/

namespace TlsScan.Leak

open Std

namespace Contingency

/-! ## The table -/

/-- **A table is that of some observations**: its cells and totals are what is counted, and
all three ways of adding them up come to the number of observations. -/
structure Tabulates (t : Contingency) (l : List Observation) : Prop where
  cells : ∀ v f, (t.counts.getD v ∅).getD f 0 = cell l v f
  rowTotals : ∀ v, (t.counts.getD v ∅).total = rowTotal l v
  columnTotals : ∀ f, t.columnTotals.getD f 0 = columnTotal l f
  total : t.total = l.length
  rows : t.rows = (vectorNames l).card
  columns : t.columns = (fingerprints l).card
  sum_cells : t.counts.foldl (fun n _ row => row.foldl (fun n _ count => n + count) n) 0
    = l.length
  sum_rowTotals : t.counts.foldl (fun n _ row => n + row.total) 0 = l.length
  sum_columnTotals : t.columnTotals.total = l.length

theorem getD_counts (l : List Observation) (v : String) :
    (ofObservations l).counts.getD v ∅ = reactions (ofVector l v) :=
  (hasEntries_counts l).getD_eq fun hv => by
    rw [ofVector_eq_nil l v hv]
    rfl

theorem rows_ofObservations (l : List Observation) :
    (ofObservations l).rows = (vectorNames l).card :=
  (hasEntries_counts l).size_eq

theorem columns_ofObservations (l : List Observation) :
    (ofObservations l).columns = (fingerprints l).card := by
  rw [columns, columnTotals_ofObservations]
  exact (hasEntries_reactions l).size_eq

/-- A running sum along a row goes on by the total of the row. -/
theorem foldl_row (row : Tally Fingerprint) (n : Nat) :
    row.foldl (fun n _ count => n + count) n = n + row.total := by
  rw [Tally.total, ExtTreeMap.foldl_eq_foldl_toList, ExtTreeMap.foldl_eq_foldl_toList,
    foldl_add_eq row.toList Prod.snd, foldl_add_eq row.toList Prod.snd, zero_add]

/-- The rows add up to all observations. -/
theorem sum_rows (l : List Observation) :
    (ofObservations l).counts.foldl (fun n _ row => n + row.total) 0 = l.length := by
  rw [(hasEntries_counts l).foldl_add fun _ row => row.total, zero_add]
  simp only [total_reactions, length_ofVector]
  exact sum_rowTotal l

theorem tabulates_ofObservations (l : List Observation) : (ofObservations l).Tabulates l where
  cells v f := by rw [getD_counts, getD_reactions, columnTotal_ofVector]
  rowTotals v := by rw [getD_counts, total_reactions, length_ofVector]
  columnTotals f := by rw [columnTotals_ofObservations, getD_reactions]
  total := total_ofObservations l
  rows := rows_ofObservations l
  columns := columns_ofObservations l
  sum_cells := by
    rw [← sum_rows l]
    simp only [foldl_row]
  sum_rowTotals := sum_rows l
  sum_columnTotals := by rw [columnTotals_ofObservations, total_reactions]

end Contingency

/-! ## How many there are -/

theorem one_lt_card_fingerprints_iff {l : List Observation} :
    1 < (fingerprints l).card ↔ Differ l := by
  rw [Finset.one_lt_card]
  simp [fingerprints, Differ]

theorem card_vectorNames_le_one_iff {l : List Observation} :
    (vectorNames l).card ≤ 1 ↔ ∀ o ∈ l, ∀ p ∈ l, o.vector = p.vector := by
  rw [Finset.card_le_one]
  simp [vectorNames]

/-- **Comparing with the first observation finds out whether there is more than one
reaction.** -/
theorem hasDistinctAnswers_iff_size {l : List Observation} :
    hasDistinctAnswers l = true ↔ 1 < (reactions l).size := by
  rw [hasDistinctAnswers_iff, (hasEntries_reactions l).size_eq]
  exact one_lt_card_fingerprints_iff.symm

/-- **When a table has no degrees of freedom.** -/
theorem degreesOfFreedom_eq_zero_iff {l : List Observation} : degreesOfFreedom l = 0
    ↔ hasDistinctAnswers l = false ∨ ∀ o ∈ l, ∀ p ∈ l, o.vector = p.vector := by
  rw [degreesOfFreedom, Contingency.degreesOfFreedom, Contingency.rows_ofObservations,
    Contingency.columns_ofObservations, Nat.mul_eq_zero, Nat.sub_eq_zero_iff_le,
    Nat.sub_eq_zero_iff_le, card_vectorNames_le_one_iff, Bool.eq_false_iff, ne_eq,
    hasDistinctAnswers_iff, ← one_lt_card_fingerprints_iff, Nat.not_lt, or_comm]

/-! ## Longer lists, and lists in another order -/

section
variable {l m : List Observation}

theorem columnTotal_append (l m : List Observation) (f : Fingerprint) :
    columnTotal (l ++ m) f = columnTotal l f + columnTotal m f := List.countP_append

theorem mem_reactions {f : Fingerprint} :
    f ∈ reactions l ↔ f ∈ l.map Observation.fingerprint := (hasEntries_reactions l).mem_iff

/-- The order of the observations does not matter for the reactions, -/
theorem reactions_eq_of_perm (h : l.Perm m) : reactions l = reactions m :=
  (hasEntries_reactions l).eq (hasEntries_reactions m) (fun _ => (h.map _).mem_iff)
    fun _ _ => h.countP_eq _

/-- nor for the table. -/
theorem Contingency.ofObservations_eq_of_perm (h : l.Perm m) :
    ofObservations l = ofObservations m := by
  have hcounts : (ofObservations l).counts = (ofObservations m).counts :=
    (hasEntries_counts l).eq (hasEntries_counts m) (fun _ => (h.map _).mem_iff)
      fun _ _ => reactions_eq_of_perm (h.filter _)
  have hcolumns : (ofObservations l).columnTotals = (ofObservations m).columnTotals := by
    rw [columnTotals_ofObservations, columnTotals_ofObservations, reactions_eq_of_perm h]
  have htotal : (ofObservations l).total = (ofObservations m).total := by
    rw [total_ofObservations, total_ofObservations, h.length_eq]
  exact Contingency.ext hcounts hcolumns htotal

end

/-- **All views of some observations agree.**  The table holds what is counted, and its cells,
its rows and its columns each add up to the number of observations.  Its column totals are the
counted reactions.  There are at least two of them, and so two columns, exactly if some
reaction differs from the first one.  Without that, or with a single request, there are no
degrees of freedom, and nowhere else; the p-value is one then.  Reactions of appended lists are
added up, so that a test which has seen a difference keeps it.  Nothing depends on the order of
the observations. -/
theorem views_agree (l : List Observation) :
    (Contingency.ofObservations l).Tabulates l
      ∧ (Contingency.ofObservations l).columnTotals = reactions l
      ∧ (hasDistinctAnswers l = true ↔ 1 < (reactions l).size)
      ∧ (1 < (reactions l).size ↔ 1 < (Contingency.ofObservations l).columns)
      ∧ (degreesOfFreedom l = 0
        ↔ hasDistinctAnswers l = false ∨ ∀ o ∈ l, ∀ p ∈ l, o.vector = p.vector)
      ∧ (degreesOfFreedom l = 0 → pValue l = 1)
      ∧ (∀ m f, (reactions (l ++ m)).getD f 0 = (reactions l).getD f 0 + (reactions m).getD f 0
        ∧ (f ∈ reactions (l ++ m) ↔ f ∈ reactions l ∨ f ∈ reactions m))
      ∧ (∀ (ι : Type) (t : Test ι) (batch : List Observation),
        t.isDistinct = true → (t.extend batch).isDistinct = true)
      ∧ ∀ m, l.Perm m → Contingency.ofObservations l = Contingency.ofObservations m
        ∧ classes l = classes m ∧ rows l = rows m ∧ columns l = columns m
        ∧ degreesOfFreedom l = degreesOfFreedom m ∧ chiSquared l = chiSquared m
        ∧ exactChiSquared l = exactChiSquared m := by
  refine ⟨Contingency.tabulates_ofObservations l, Contingency.columnTotals_ofObservations l,
    hasDistinctAnswers_iff_size, ?_, degreesOfFreedom_eq_zero_iff, fun h => if_pos h,
    fun m f => ⟨?_, ?_⟩, fun ι t batch h => ?_, fun m h => ?_⟩
  · rw [Contingency.columns, Contingency.columnTotals_ofObservations]
  · rw [getD_reactions, columnTotal_append, getD_reactions, getD_reactions]
  · rw [mem_reactions, mem_reactions, mem_reactions, List.map_append, List.mem_append]
  · rw [Test.isDistinct, hasDistinctAnswers_iff] at h ⊢
    exact h.mono (List.subset_append_left ..)
  · have htable := Contingency.ofObservations_eq_of_perm h
    refine ⟨htable, ?_, ?_, ?_, ?_, ?_, ?_⟩
    · rw [classes, reactions_eq_of_perm h, classes]
    · rw [rows, htable, rows]
    · rw [columns, htable, columns]
    · rw [degreesOfFreedom, htable, degreesOfFreedom]
    · rw [chiSquared, htable, chiSquared]
    · rw [exactChiSquared, htable, exactChiSquared]

theorem views_agree_sample :
    1 < (reactions Test.Sample.differing).size
      ∧ (Contingency.ofObservations Test.Sample.differing).total = 2
      ∧ ((Test.start () Test.Sample.differing).extend Test.Sample.collapsed).isDistinct = true
      ∧ pValue Test.Sample.collapsed = 1
      ∧ chiSquared Test.Sample.differing = chiSquared Test.Sample.differing.reverse := by
  obtain ⟨htable, -, hdistinct, -, -, -, -, hextend, hperm⟩ := views_agree Test.Sample.differing
  obtain ⟨-, -, -, -, hzero, hvalue, -⟩ := views_agree Test.Sample.collapsed
  refine ⟨hdistinct.mp (by decide), htable.total, hextend Unit _ _ (by decide), ?_, ?_⟩
  · exact hvalue (hzero.mpr (Or.inl (by decide)))
  · exact (hperm _ (List.reverse_perm _).symm).2.2.2.2.2.1

end TlsScan.Leak
