import Mathlib.Algebra.BigOperators.Field
import Mathlib.Algebra.Order.BigOperators.Group.Finset
import Mathlib.Algebra.Order.Field.Rat
import Mathlib.Tactic.FieldSimp
import Mathlib.Tactic.Positivity
import Mathlib.Tactic.Ring
import TlsScan.Proofs.Leak.Counts

/-!
# Pearson's statistic

The statistic is added up over a table that has no cell for what never occurs together.  Here
it becomes a sum over all pairs of a request and a reaction that occur, and then algebra takes
over.  Written out, each summand is a squared cell relative to its row and column, less twice
the cell, and the expectation of the cell.  Cells and expectations both add up to the number
of observations, so that only the squares are left, which are called the concentration here.

A squared cell relative to its row and column is a product of two shares, the one that the
cell has in its row and the one in its column.  Neither is above one, and the shares in the
columns add up to the number of columns; this bounds the statistic.  The bound is reached if
every cell that is not empty has all of its row.

## Main Definitions

* `Leak.Arithmetic.checked` — exact arithmetic in which a division by zero fails.
* `Leak.expectation`, `Leak.cellDeviation` — what is added up.
* `Leak.concentration` — the sum of the squared cells, relative to their rows and columns.
* `Leak.Determined` — every request is always answered alike.

## Main Results

* `Leak.Contingency.pearson_checked` — no division by zero takes place.
* `Leak.exactChiSquared_eq_sum` — the statistic as a sum over all cells.
* `Leak.exactChiSquared_eq` — the statistic in terms of the concentration.
* `Leak.exactChiSquared_le`, `Leak.exactChiSquared_eq_zero_iff` — its bounds, and when it is
  zero.
* `Leak.pearson_is_exact` — all of this.
-/

namespace TlsScan.Leak

open Std

/-! ## Arithmetic in which division can fail -/

namespace Arithmetic

/-- **Exact arithmetic in which a division by zero fails.** -/
def checked : Arithmetic (Option Rat) where
  ofNat n := some n
  add := Option.map₂ (· + ·)
  sub := Option.map₂ (· - ·)
  mul := Option.map₂ (· * ·)
  div
    | some x, some y => if y = 0 then none else some (x / y)
    | _, _ => none

end Arithmetic

namespace Contingency

variable {t : Contingency} {r c : Nat}

theorem expected_exact (t : Contingency) (r c : Nat) :
    t.expected .exact r c = (r * c / t.total : ℚ) := rfl

theorem deviation_exact (t : Contingency) (r c n : Nat) : t.deviation .exact r c n
    = ((n - t.expected .exact r c) * (n - t.expected .exact r c) / t.expected .exact r c : ℚ) :=
  rfl

theorem expected_pos (ht : t.total ≠ 0) (hr : r ≠ 0) (hc : c ≠ 0) :
    0 < t.expected .exact r c := by
  rw [expected_exact]
  positivity

theorem deviation_checked (ht : t.total ≠ 0) (hr : r ≠ 0) (hc : c ≠ 0) (n : Nat) :
    t.deviation .checked r c n = some (t.deviation .exact r c n) := by
  have hexpected : t.expected .checked r c = some (t.expected .exact r c) :=
    if_neg (Nat.cast_ne_zero.mpr ht)
  rw [deviation, hexpected]
  exact if_neg (expected_pos ht hr hc).ne'

end Contingency

/-- A fold goes on as long as no step fails. -/
theorem foldl_some_eq {α σ : Type} {f : Option σ → α → Option σ} {g : σ → α → σ} {l : List α}
    (h : ∀ a ∈ l, ∀ s, f (some s) a = some (g s a)) (s : σ) :
    l.foldl f (some s) = some (l.foldl g s) := by
  induction l generalizing s with
  | nil => rfl
  | cons a l ih =>
      rw [List.foldl_cons, h a List.mem_cons_self, List.foldl_cons]
      exact ih (fun b hb => h b (List.mem_cons_of_mem a hb)) _

variable {l : List Observation} {v : String} {f : Fingerprint}

theorem mem_vectorNames : v ∈ vectorNames l ↔ v ∈ l.map Observation.vector := List.mem_toFinset

theorem mem_fingerprints : f ∈ fingerprints l ↔ f ∈ l.map Observation.fingerprint :=
  List.mem_toFinset

theorem rowTotal_pos (h : v ∈ vectorNames l) : 0 < rowTotal l v := by
  simpa [rowTotal, vectorNames, List.countP_pos_iff] using h

theorem columnTotal_pos (h : f ∈ fingerprints l) : 0 < columnTotal l f := by
  simpa [columnTotal, fingerprints, List.countP_pos_iff] using h

namespace Contingency

/-- **The statistic never divides by zero.** -/
theorem pearson_checked (l : List Observation) :
    (ofObservations l).pearson .checked = some (exactChiSquared l) := by
  rw [exactChiSquared, pearson, pearson]
  by_cases ht : (ofObservations l).total = 0
  · rw [if_pos ht, if_pos ht]
    rfl
  rw [if_neg ht, if_neg ht, ExtTreeMap.foldl_eq_foldl_toList, ExtTreeMap.foldl_eq_foldl_toList]
  refine foldl_some_eq (fun ⟨v, row⟩ hrow s => ?_) _
  obtain ⟨hv, rfl⟩ := (hasEntries_counts l).mem_toList_iff.mp hrow
  rw [ExtTreeMap.foldl_eq_foldl_toList, ExtTreeMap.foldl_eq_foldl_toList]
  refine foldl_some_eq (fun ⟨f, n⟩ hn s => ?_) _
  rw [columnTotals_ofObservations] at hn
  obtain ⟨hf, rfl⟩ := (hasEntries_reactions l).mem_toList_iff.mp hn
  have hr : (reactions (ofVector l v)).total ≠ 0 := by
    rw [total_reactions, length_ofVector]
    exact (rowTotal_pos (mem_vectorNames.mpr hv)).ne'
  have hc : columnTotal l f ≠ 0 := (columnTotal_pos (mem_fingerprints.mpr hf)).ne'
  rw [deviation_checked ht hr hc]
  rfl

end Contingency

/-! ## The statistic as a sum over cells -/

/-- The count that independence would lead one to expect in a cell. -/
def expectation (l : List Observation) (v : String) (f : Fingerprint) : ℚ :=
  rowTotal l v * columnTotal l f / l.length

/-- How far a cell is from its expectation: the squared distance, relative to it. -/
def cellDeviation (l : List Observation) (v : String) (f : Fingerprint) : ℚ :=
  (cell l v f - expectation l v f) * (cell l v f - expectation l v f) / expectation l v f

section
variable (l : List Observation)

/-- One row is added up. -/
theorem foldl_columnTotals (row : Tally Fingerprint) (s : ℚ) :
    (Contingency.ofObservations l).columnTotals.foldl (fun sum f n => sum
        + (Contingency.ofObservations l).deviation .exact row.total n (row.getD f 0)) s
      = s + ∑ f ∈ fingerprints l, (Contingency.ofObservations l).deviation .exact row.total
        (columnTotal l f) (row.getD f 0) := by
  rw [Contingency.columnTotals_ofObservations]
  exact (hasEntries_reactions l).foldl_add (fun f n =>
    (Contingency.ofObservations l).deviation .exact row.total n (row.getD f 0)) s

theorem deviation_ofVector (v : String) (f : Fingerprint) :
    (Contingency.ofObservations l).deviation .exact (reactions (ofVector l v)).total
      (columnTotal l f) ((reactions (ofVector l v)).getD f 0) = cellDeviation l v f := by
  rw [Contingency.deviation_exact, Contingency.expected_exact, Contingency.total_ofObservations,
    total_reactions, length_ofVector, getD_reactions, columnTotal_ofVector]
  rfl

/-- **The statistic is the sum of its cells.** -/
theorem exactChiSquared_eq_sum : exactChiSquared l
    = ∑ v ∈ vectorNames l, ∑ f ∈ fingerprints l, cellDeviation l v f := by
  rw [exactChiSquared, Contingency.pearson]
  split
  · rename_i hzero
    rw [Contingency.total_ofObservations, List.length_eq_zero_iff] at hzero
    subst hzero
    rfl
  · calc _ = (Contingency.ofObservations l).counts.foldl (fun sum _ row => sum
          + ∑ f ∈ fingerprints l, (Contingency.ofObservations l).deviation .exact row.total
            (columnTotal l f) (row.getD f 0)) 0 := by
          simp only [← foldl_columnTotals]
          rfl
      _ = _ := by
          rw [(Contingency.hasEntries_counts l).foldl_add, zero_add]
          simp only [deviation_ofVector]
          rfl

end

/-! ## Sums over a table -/

/-- How much the observations of every request keep to few reactions, and the other way
round: the sum of the squared cells, relative to the totals of their rows and columns. -/
def concentration (l : List Observation) : ℚ :=
  ∑ v ∈ vectorNames l, ∑ f ∈ fingerprints l,
    (cell l v f : ℚ) ^ 2 / (rowTotal l v * columnTotal l f)

theorem sum_sum_cell (l : List Observation) :
    ∑ v ∈ vectorNames l, ∑ f ∈ fingerprints l, (cell l v f : ℚ) = l.length := by
  rw [← sum_rowTotal l, Nat.cast_sum]
  refine Finset.sum_congr rfl fun v _ => ?_
  rw [← sum_cell_row l v, Nat.cast_sum]

theorem sum_sum_expectation (hl : l ≠ []) :
    ∑ v ∈ vectorNames l, ∑ f ∈ fingerprints l, expectation l v f = l.length := by
  have hlength : (l.length : ℚ) ≠ 0 := by simpa using hl
  have hrows : ∑ v ∈ vectorNames l, (rowTotal l v : ℚ) = l.length := by
    rw [← sum_rowTotal l, Nat.cast_sum]
  have hcolumns : ∑ f ∈ fingerprints l, (columnTotal l f : ℚ) = l.length := by
    rw [← sum_columnTotal l, Nat.cast_sum]
  simp only [expectation, ← Finset.sum_div, ← Finset.mul_sum, ← Finset.sum_mul, hrows, hcolumns]
  rw [mul_self_div_self]

section
variable (hl : l ≠ []) (hv : v ∈ vectorNames l) (hf : f ∈ fingerprints l)
include hl hv hf

theorem expectation_pos : 0 < expectation l v f := by
  have hlength : 0 < l.length := List.length_pos_of_ne_nil hl
  have hr := rowTotal_pos hv
  have hc := columnTotal_pos hf
  rw [expectation]
  positivity

theorem cellDeviation_eq : cellDeviation l v f
    = l.length * ((cell l v f : ℚ) ^ 2 / (rowTotal l v * columnTotal l f)) - 2 * cell l v f
      + expectation l v f := by
  have hlength : (l.length : ℚ) ≠ 0 := by simpa using hl
  have hr : (rowTotal l v : ℚ) ≠ 0 := Nat.cast_ne_zero.mpr (rowTotal_pos hv).ne'
  have hc : (columnTotal l f : ℚ) ≠ 0 := Nat.cast_ne_zero.mpr (columnTotal_pos hf).ne'
  rw [cellDeviation, expectation]
  field_simp
  ring

theorem cellDeviation_nonneg : 0 ≤ cellDeviation l v f :=
  div_nonneg (mul_self_nonneg _) (expectation_pos hl hv hf).le

/-- A cell adds nothing exactly if it is as expected. -/
theorem cellDeviation_eq_zero_iff : cellDeviation l v f = 0
    ↔ cell l v f * l.length = rowTotal l v * columnTotal l f := by
  have hlength : (l.length : ℚ) ≠ 0 := by simpa using hl
  rw [cellDeviation, div_eq_zero_iff, or_iff_left (expectation_pos hl hv hf).ne',
    mul_self_eq_zero, sub_eq_zero, expectation, eq_div_iff hlength]
  exact_mod_cast Iff.rfl

end

/-- **The statistic in terms of concentration.** -/
theorem exactChiSquared_eq (hl : l ≠ []) :
    exactChiSquared l = l.length * (concentration l - 1) := by
  have hcells : ∀ v ∈ vectorNames l, ∀ f ∈ fingerprints l, cellDeviation l v f
      = l.length * ((cell l v f : ℚ) ^ 2 / (rowTotal l v * columnTotal l f)) - 2 * cell l v f
        + expectation l v f := fun v hv f hf => cellDeviation_eq hl hv hf
  calc exactChiSquared l
      = ∑ v ∈ vectorNames l, ∑ f ∈ fingerprints l,
          (l.length * ((cell l v f : ℚ) ^ 2 / (rowTotal l v * columnTotal l f))
            - 2 * cell l v f + expectation l v f) := by
        rw [exactChiSquared_eq_sum]
        exact Finset.sum_congr rfl fun v hv => Finset.sum_congr rfl (hcells v hv)
    _ = l.length * concentration l - 2 * l.length + l.length := by
        simp only [Finset.sum_add_distrib, Finset.sum_sub_distrib, ← Finset.mul_sum,
          sum_sum_cell, sum_sum_expectation hl]
        rfl
    _ = l.length * (concentration l - 1) := by ring

/-! ## Bounds -/

theorem cell_le_rowTotal (l : List Observation) (v : String) (f : Fingerprint) :
    cell l v f ≤ rowTotal l v :=
  List.countP_mono_left fun o _ h => by simp_all

theorem cell_le_columnTotal (l : List Observation) (v : String) (f : Fingerprint) :
    cell l v f ≤ columnTotal l f :=
  List.countP_mono_left fun o _ h => by simp_all

/-- The shares of the cells in their columns add up to the number of columns, -/
theorem sum_share_column (l : List Observation) :
    ∑ v ∈ vectorNames l, ∑ f ∈ fingerprints l, (cell l v f / columnTotal l f : ℚ)
      = (fingerprints l).card := by
  rw [Finset.sum_comm, Finset.card_eq_sum_ones, Nat.cast_sum, Nat.cast_one]
  refine Finset.sum_congr rfl fun f hf => ?_
  rw [← Finset.sum_div, ← Nat.cast_sum, sum_cell_column]
  exact div_self (Nat.cast_ne_zero.mpr (columnTotal_pos hf).ne')

/-- and the shares in their rows to the number of rows. -/
theorem sum_share_row (l : List Observation) :
    ∑ v ∈ vectorNames l, ∑ f ∈ fingerprints l, (cell l v f / rowTotal l v : ℚ)
      = (vectorNames l).card := by
  rw [Finset.card_eq_sum_ones, Nat.cast_sum, Nat.cast_one]
  refine Finset.sum_congr rfl fun v hv => ?_
  rw [← Finset.sum_div, ← Nat.cast_sum, sum_cell_row]
  exact div_self (Nat.cast_ne_zero.mpr (rowTotal_pos hv).ne')

theorem sq_div_eq_mul (n r c : ℚ) : n ^ 2 / (r * c) = n / r * (n / c) := by
  rw [pow_two, mul_div_mul_comm]

/-- A share is at most everything. -/
theorem share_le_one {n m : Nat} (h : n ≤ m) : (n / m : ℚ) ≤ 1 :=
  div_le_one_of_le₀ (Nat.cast_le.mpr h) (Nat.cast_nonneg m)

theorem concentration_le_columns (l : List Observation) :
    concentration l ≤ (fingerprints l).card := by
  rw [← sum_share_column l]
  refine Finset.sum_le_sum fun v _ => Finset.sum_le_sum fun f _ => ?_
  rw [sq_div_eq_mul]
  exact mul_le_of_le_one_left (by positivity) (share_le_one (cell_le_rowTotal l v f))

theorem concentration_le_rows (l : List Observation) :
    concentration l ≤ (vectorNames l).card := by
  rw [← sum_share_row l]
  refine Finset.sum_le_sum fun v _ => Finset.sum_le_sum fun f _ => ?_
  rw [sq_div_eq_mul]
  exact mul_le_of_le_one_right (by positivity) (share_le_one (cell_le_columnTotal l v f))

/-- **Every request is always answered alike.** -/
def Determined (l : List Observation) : Prop :=
  ∀ o ∈ l, ∀ p ∈ l, o.vector = p.vector → o.fingerprint = p.fingerprint

/-- Then a cell is empty, or has all of its row. -/
theorem Determined.cell_eq (h : Determined l) (v : String) (f : Fingerprint) :
    cell l v f = 0 ∨ cell l v f = rowTotal l v := by
  by_cases hsome : ∃ o ∈ l, o.vector = v ∧ o.fingerprint = f
  · obtain ⟨o, ho, rfl, rfl⟩ := hsome
    refine Or.inr (List.countP_congr fun p hp => ?_)
    simp only [decide_eq_true_eq]
    exact and_iff_left_of_imp fun hpo => h p hp o ho hpo
  · refine Or.inl (List.countP_eq_zero.mpr fun o ho hcell => hsome ⟨o, ho, ?_⟩)
    exact of_decide_eq_true hcell

theorem Determined.concentration_eq (h : Determined l) :
    concentration l = (fingerprints l).card := by
  rw [← sum_share_column l]
  refine Finset.sum_congr rfl fun v hv => Finset.sum_congr rfl fun f _ => ?_
  have hr : (rowTotal l v : ℚ) ≠ 0 := Nat.cast_ne_zero.mpr (rowTotal_pos hv).ne'
  rw [sq_div_eq_mul]
  rcases h.cell_eq v f with hcell | hcell
  · simp [hcell]
  · rw [hcell, div_self hr, one_mul]

/-- The statistic is zero exactly if every cell is as expected. -/
theorem exactChiSquared_eq_zero_iff (hl : l ≠ []) : exactChiSquared l = 0
    ↔ ∀ v ∈ vectorNames l, ∀ f ∈ fingerprints l,
      cell l v f * l.length = rowTotal l v * columnTotal l f := by
  have hcells : ∀ v ∈ vectorNames l, ∀ f ∈ fingerprints l, 0 ≤ cellDeviation l v f :=
    fun v hv f hf => cellDeviation_nonneg hl hv hf
  rw [exactChiSquared_eq_sum,
    Finset.sum_eq_zero_iff_of_nonneg fun v hv => Finset.sum_nonneg (hcells v hv)]
  refine forall₂_congr fun v hv => ?_
  rw [Finset.sum_eq_zero_iff_of_nonneg (hcells v hv)]
  exact forall₂_congr fun f hf => cellDeviation_eq_zero_iff hl hv hf

section
variable (hl : l ≠ [])
include hl

theorem card_fingerprints_pos : 0 < (fingerprints l).card := by
  simpa [fingerprints] using hl

theorem card_vectorNames_pos : 0 < (vectorNames l).card := by
  simpa [vectorNames] using hl

theorem exactChiSquared_nonneg : 0 ≤ exactChiSquared l := by
  rw [exactChiSquared_eq_sum]
  exact Finset.sum_nonneg fun v hv => Finset.sum_nonneg fun f hf => cellDeviation_nonneg hl hv hf

theorem exactChiSquared_le : exactChiSquared l
    ≤ l.length * (min ((vectorNames l).card - 1) ((fingerprints l).card - 1) : ℕ) := by
  rw [exactChiSquared_eq hl, Nat.cast_min, Nat.cast_pred (card_vectorNames_pos hl),
    Nat.cast_pred (card_fingerprints_pos hl)]
  refine mul_le_mul_of_nonneg_left (le_min ?_ ?_) (Nat.cast_nonneg _)
  · exact sub_le_sub_right (concentration_le_rows l) 1
  · exact sub_le_sub_right (concentration_le_columns l) 1

/-- **Pearson's statistic is what it should be.**  Take some observations, and read the
statistic in exact arithmetic.  Nothing is divided by zero on the way, as every expected count
is positive.  The value is that of the closed form, so it is not negative, and at most as many
times the number of observations as there are requests or reactions beside the first.  It is
zero exactly if every cell is as expected.  If every request is always answered alike, it is
as large as the number of reactions allows. -/
theorem pearson_is_exact :
    (Contingency.ofObservations l).pearson .checked = some (exactChiSquared l)
      ∧ (∀ v ∈ vectorNames l, ∀ f ∈ fingerprints l,
        0 < (Contingency.ofObservations l).expected .exact (rowTotal l v) (columnTotal l f))
      ∧ exactChiSquared l = l.length * (∑ v ∈ vectorNames l, ∑ f ∈ fingerprints l,
        (cell l v f : ℚ) ^ 2 / (rowTotal l v * columnTotal l f) - 1)
      ∧ 0 ≤ exactChiSquared l
      ∧ exactChiSquared l
        ≤ l.length * (min ((vectorNames l).card - 1) ((fingerprints l).card - 1) : ℕ)
      ∧ (exactChiSquared l = 0 ↔ ∀ v ∈ vectorNames l, ∀ f ∈ fingerprints l,
        cell l v f * l.length = rowTotal l v * columnTotal l f)
      ∧ ((∀ o ∈ l, ∀ p ∈ l, o.vector = p.vector → o.fingerprint = p.fingerprint) →
        exactChiSquared l = l.length * ((fingerprints l).card - 1 : ℕ)) := by
  refine ⟨Contingency.pearson_checked l, fun v hv f hf => ?_, exactChiSquared_eq hl,
    exactChiSquared_nonneg hl, exactChiSquared_le hl, exactChiSquared_eq_zero_iff hl,
    fun h => ?_⟩
  · rw [Contingency.expected_exact, Contingency.total_ofObservations]
    exact expectation_pos hl hv hf
  · rw [exactChiSquared_eq hl, Determined.concentration_eq h,
      Nat.cast_pred (card_fingerprints_pos hl)]

end

theorem pearson_is_exact_sample :
    Test.Sample.differing ≠ []
      ∧ (Contingency.ofObservations Test.Sample.differing).pearson .checked = some 2
      ∧ exactChiSquared Test.Sample.collapsed = 0 := by
  have hdiffering : Test.Sample.differing ≠ [] := by decide
  obtain ⟨hchecked, -, -, -, -, -, hdetermined⟩ := pearson_is_exact hdiffering
  obtain ⟨-, -, -, -, -, hzero, -⟩ :=
    pearson_is_exact (l := Test.Sample.collapsed) (by decide)
  refine ⟨hdiffering, ?_, hzero.mpr (by decide)⟩
  have hcard : (fingerprints Test.Sample.differing).card = 2 := by decide
  rw [hchecked, hdetermined (by decide), hcard]
  norm_num [Test.Sample.differing]

end TlsScan.Leak
