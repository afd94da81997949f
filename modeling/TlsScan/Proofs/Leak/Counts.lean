import Mathlib.Algebra.BigOperators.Group.Finset.Basic
import TlsScan.Proofs.Leak.Significance

/-!
# Counts of observations

Reactions are counted in a map, and requests with their reactions in a map of maps, one
observation after the other.  This file says once and for all what such maps hold: the keys
are what occurs in the list, and the value of a key is what is counted for it in the list.
Everything else about them is then read off this, and is a fact about counts in a list.

## Main Definitions

* `Leak.HasEntries` — a map with known keys and values.
* `Leak.rowTotal`, `Leak.columnTotal`, `Leak.cell` — how often a request is observed, a
  reaction, and both together.
* `Leak.vectorNames`, `Leak.fingerprints` — the requests and the reactions that occur.

## Main Results

* `Leak.HasEntries.alter` — one more occurrence is counted.
* `Leak.hasEntries_reactions`, `Leak.Contingency.hasEntries_counts` — what the maps hold.
* `Leak.sum_columnTotal`, `Leak.sum_rowTotal`, `Leak.sum_cell_row`, `Leak.sum_cell_column` —
  counts add up.
-/

namespace TlsScan.Leak

open Std

/-! ## Maps with known entries -/

section
variable {α β : Type} [Ord α] [TransOrd α] [DecidableEq α]

/-- **A map has the members of a list as its keys**, and the value of each is given by a
function. -/
def HasEntries (t : ExtTreeMap α β) (keys : List α) (value : α → β) : Prop :=
  ∀ a, t[a]? = if a ∈ keys then some (value a) else none

variable {t t' : ExtTreeMap α β} {keys keys' : List α} {value value' : α → β}

theorem HasEntries.mem_iff (h : HasEntries t keys value) {a : α} : a ∈ t ↔ a ∈ keys := by
  rw [ExtTreeMap.mem_iff_isSome_getElem?, h a]
  split <;> simp [*]

/-- A look-up finds the value of every key, if it falls back on that of all others. -/
theorem HasEntries.getD_eq (h : HasEntries t keys value) {a : α} {fallback : β}
    (hother : a ∉ keys → value a = fallback) : t.getD a fallback = value a := by
  rw [ExtTreeMap.getD_eq_getD_getElem?, h a]
  split
  · rfl
  · rename_i ha
    exact (hother ha).symm

variable [LawfulEqOrd α]

/-- **A map is determined by its entries.** -/
theorem HasEntries.eq (h : HasEntries t keys value) (h' : HasEntries t' keys' value')
    (hkeys : ∀ a, a ∈ keys ↔ a ∈ keys') (hvalue : ∀ a ∈ keys, value a = value' a) :
    t = t' := by
  refine ExtTreeMap.ext_getElem? fun a => ?_
  rw [h a, h' a]
  by_cases ha : a ∈ keys
  · rw [if_pos ha, if_pos ((hkeys a).mp ha), hvalue a ha]
  · rw [if_neg ha, if_neg (mt (hkeys a).mpr ha)]

theorem HasEntries.toFinset_keys (h : HasEntries t keys value) :
    t.keys.toFinset = keys.toFinset := by
  ext a
  rw [List.mem_toFinset, List.mem_toFinset, ExtTreeMap.mem_keys, h.mem_iff]

theorem HasEntries.size_eq (h : HasEntries t keys value) : t.size = keys.toFinset.card := by
  rw [← h.toFinset_keys, List.toFinset_card_of_nodup ExtTreeMap.nodup_keys,
    ExtTreeMap.length_keys]

theorem HasEntries.mem_toList_iff (h : HasEntries t keys value) {a : α} {b : β} :
    (a, b) ∈ t.toList ↔ a ∈ keys ∧ value a = b := by
  rw [ExtTreeMap.mem_toList_iff_getElem?_eq_some, h a]
  by_cases ha : a ∈ keys <;> simp [ha]

/-- The list of a map has every key once, with its value. -/
theorem HasEntries.toList_eq (h : HasEntries t keys value) :
    t.toList = t.keys.map fun a => (a, value a) := by
  have hentry : ∀ e ∈ t.toList, (e.1, value e.1) = e := fun e he =>
    Prod.ext rfl (h.mem_toList_iff.mp he).2
  rw [← ExtTreeMap.map_fst_toList_eq_keys, List.map_map]
  exact ((List.map_congr_left hentry).trans (List.map_id _)).symm

section
variable {M : Type} [AddCommMonoid M]

/-- **A sum over the list of a map** is a sum over its keys. -/
theorem HasEntries.sum_toList (h : HasEntries t keys value) (g : α → β → M) :
    (t.toList.map fun e => g e.1 e.2).sum = ∑ a ∈ keys.toFinset, g a (value a) := by
  rw [h.toList_eq, List.map_map, ← h.toFinset_keys, List.sum_toFinset _ ExtTreeMap.nodup_keys]
  rfl

theorem foldl_add_eq {γ : Type} (l : List γ) (g : γ → M) (s : M) :
    l.foldl (fun sum a => sum + g a) s = s + (l.map g).sum := by
  induction l generalizing s with
  | nil => exact (add_zero s).symm
  | cons a l ih => rw [List.foldl_cons, ih, List.map_cons, List.sum_cons, add_assoc]

/-- And so is a running sum along the map. -/
theorem HasEntries.foldl_add (h : HasEntries t keys value) (g : α → β → M) (s : M) :
    t.foldl (fun sum a b => sum + g a b) s = s + ∑ a ∈ keys.toFinset, g a (value a) := by
  rw [ExtTreeMap.foldl_eq_foldl_toList, ← h.sum_toList]
  exact foldl_add_eq t.toList (fun e => g e.1 e.2) s

end

/-- **One entry is changed**, or made from what every new entry starts with. -/
theorem HasEntries.alter (h : HasEntries t keys value) (a : α) (f : β → β) {start : β}
    (hother : ∀ b, b ∉ keys → value b = start) :
    HasEntries (t.alter a fun b => some (f (b.getD start))) (keys ++ [a])
      fun b => if a = b then f (value b) else value b := by
  intro b
  rw [ExtTreeMap.getElem?_alter]
  dsimp only
  by_cases hb : a = b
  · subst hb
    rw [if_pos (LawfulEqOrd.compare_eq_iff_eq.mpr rfl), if_pos (by simp), if_pos rfl,
      ← ExtTreeMap.getD_eq_getD_getElem?, h.getD_eq (hother a)]
  · have hkeys : b ∈ keys ++ [a] ↔ b ∈ keys := by simp [Ne.symm hb]
    rw [if_neg (mt LawfulEqOrd.compare_eq_iff_eq.mp hb), h b, if_neg hb]
    simp only [hkeys]

end

/-! ## Observations that are counted -/

/-- How often a request is observed. -/
def rowTotal (l : List Observation) (v : String) : Nat := l.countP fun o => o.vector = v

/-- How often a reaction is observed. -/
def columnTotal (l : List Observation) (f : Fingerprint) : Nat :=
  l.countP fun o => o.fingerprint = f

/-- The observations of one request. -/
def ofVector (l : List Observation) (v : String) : List Observation :=
  l.filter fun o => o.vector = v

/-- How often a request and a reaction are observed together. -/
def cell (l : List Observation) (v : String) (f : Fingerprint) : Nat :=
  l.countP fun o => o.vector = v ∧ o.fingerprint = f

section
variable (l : List Observation) (o : Observation) (v : String) (f : Fingerprint)

theorem columnTotal_concat : columnTotal (l ++ [o]) f
    = if o.fingerprint = f then columnTotal l f + 1 else columnTotal l f := by
  rw [columnTotal, List.countP_append, List.countP_singleton]
  by_cases h : o.fingerprint = f <;> simp [h, columnTotal]

theorem columnTotal_eq_zero (h : f ∉ l.map Observation.fingerprint) : columnTotal l f = 0 := by
  simpa [columnTotal] using h

theorem length_ofVector : (ofVector l v).length = rowTotal l v :=
  List.countP_eq_length_filter.symm

theorem columnTotal_ofVector : columnTotal (ofVector l v) f = cell l v f := by
  simp [columnTotal, ofVector, cell, List.countP_filter, Bool.and_comm]

theorem ofVector_concat : ofVector (l ++ [o]) v
    = if o.vector = v then ofVector l v ++ [o] else ofVector l v := by
  rw [ofVector, List.filter_append]
  by_cases h : o.vector = v <;> simp [h, ofVector]

theorem ofVector_eq_nil (h : v ∉ l.map Observation.vector) : ofVector l v = [] := by
  simpa [ofVector] using h

theorem reactions_concat : reactions (l ++ [o]) = (reactions l).increment o.fingerprint := by
  rw [reactions, List.foldl_append]
  rfl

/-- **The reactions are counted as often as they are observed.** -/
theorem hasEntries_reactions :
    HasEntries (reactions l) (l.map Observation.fingerprint) (columnTotal l) := by
  induction l using List.reverseRecOn with
  | nil => intro f; simp [reactions]
  | append_singleton l o ih =>
      have hvalue : columnTotal (l ++ [o])
          = fun f => if o.fingerprint = f then columnTotal l f + 1 else columnTotal l f :=
        funext (columnTotal_concat l o)
      rw [reactions_concat, List.map_append, hvalue]
      exact ih.alter o.fingerprint (· + 1) (columnTotal_eq_zero l)

theorem getD_reactions : (reactions l).getD f 0 = columnTotal l f :=
  (hasEntries_reactions l).getD_eq (columnTotal_eq_zero l f)

namespace Contingency

theorem ofObservations_concat : ofObservations (l ++ [o]) = (ofObservations l).add o := by
  rw [ofObservations, List.foldl_append]
  rfl

theorem total_ofObservations : (ofObservations l).total = l.length := by
  induction l using List.reverseRecOn with
  | nil => rfl
  | append_singleton l o ih =>
      rw [ofObservations_concat, add, ih, List.length_append, List.length_singleton]

/-- **The totals of the columns are the counted reactions.** -/
theorem columnTotals_ofObservations : (ofObservations l).columnTotals = reactions l := by
  induction l using List.reverseRecOn with
  | nil => rfl
  | append_singleton l o ih => rw [ofObservations_concat, add, ih, reactions_concat]

/-- **The row of a request are the counted reactions to it.** -/
theorem hasEntries_counts : HasEntries (ofObservations l).counts (l.map Observation.vector)
    fun v => reactions (ofVector l v) := by
  induction l using List.reverseRecOn with
  | nil => intro v; simp [ofObservations, empty]
  | append_singleton l o ih =>
      have hvalue : (fun v => reactions (ofVector (l ++ [o]) v))
          = fun v => if o.vector = v then (reactions (ofVector l v)).increment o.fingerprint
            else reactions (ofVector l v) := by
        funext v
        rw [ofVector_concat]
        split
        · rw [reactions_concat]
        · rfl
      rw [ofObservations_concat, List.map_append, hvalue]
      exact ih.alter o.vector (·.increment o.fingerprint) fun v hv => by
        rw [ofVector_eq_nil l v hv]
        rfl

end Contingency

end

/-! ## Sums of counts -/

/-- The names of the requests that occur. -/
def vectorNames (l : List Observation) : Finset String := (l.map Observation.vector).toFinset

/-- The reactions that occur. -/
def fingerprints (l : List Observation) : Finset Fingerprint :=
  (l.map Observation.fingerprint).toFinset

/-- **Observations counted by something that they have** add up to all of them. -/
theorem sum_countP_eq_length {γ : Type} [DecidableEq γ] (g : Observation → γ) {s : Finset γ}
    {l : List Observation} (h : ∀ o ∈ l, g o ∈ s) :
    ∑ a ∈ s, l.countP (fun o => g o = a) = l.length := by
  have hmem : ∀ a ∈ (l.map g : Multiset γ), a ∈ s := by simpa using h
  calc ∑ a ∈ s, l.countP (fun o => g o = a)
      = ∑ a ∈ s, (l.map g : Multiset γ).count a :=
        Finset.sum_congr rfl fun a _ => by
          rw [Multiset.coe_count, List.count, List.countP_map]
          rfl
    _ = l.length := by rw [Multiset.sum_count_eq_card hmem, Multiset.coe_card, List.length_map]

section
variable (l : List Observation) (v : String) (f : Fingerprint)

theorem sum_columnTotal : ∑ f ∈ fingerprints l, columnTotal l f = l.length :=
  sum_countP_eq_length Observation.fingerprint fun o ho => by
    simpa [fingerprints] using ⟨o, ho, rfl⟩

theorem sum_rowTotal : ∑ v ∈ vectorNames l, rowTotal l v = l.length :=
  sum_countP_eq_length Observation.vector fun o ho => by
    simpa [vectorNames] using ⟨o, ho, rfl⟩

theorem sum_cell_row : ∑ f ∈ fingerprints l, cell l v f = rowTotal l v := by
  simp only [← columnTotal_ofVector, ← length_ofVector]
  refine sum_countP_eq_length Observation.fingerprint fun o ho => ?_
  simpa [fingerprints] using ⟨o, List.mem_of_mem_filter ho, rfl⟩

theorem sum_cell_column : ∑ v ∈ vectorNames l, cell l v f = columnTotal l f := by
  have hcell : ∀ v, cell l v f
      = (l.filter fun o => o.fingerprint = f).countP fun o => o.vector = v := fun v => by
    simp [cell, List.countP_filter]
  simp only [hcell, columnTotal, List.countP_eq_length_filter (p := fun o => _ = f)]
  refine sum_countP_eq_length Observation.vector fun o ho => ?_
  simpa [vectorNames] using ⟨o, List.mem_of_mem_filter ho, rfl⟩

theorem total_reactions : (reactions l).total = l.length := by
  rw [Tally.total, (hasEntries_reactions l).foldl_add fun _ n => n, zero_add]
  exact sum_columnTotal l

end

end TlsScan.Leak
