import TlsScan.Leak.Test

/-!
# What makes a leak test significant

A leak test keeps all its observations in one row, and beside them only the sizes of the
batches that it was extended by.  To ask whether the reactions differ in every batch it goes
back from the end, one size after the other.  The sizes are those of the batches, and the
batches are the end of the row, so each of these steps lands where a batch begins, and what
is looked at are the batches themselves.

## Main Definitions

* `Leak.Differ` — some observations have two different fingerprints.
* `Leak.Test.initial`, `Leak.Test.batches` — what a test started with, and what it was
  extended by.
* `Leak.Test.gathered` — a test that was extended by some batches.

## Main Results

* `Leak.Test.parts`, `Leak.Test.parts_eq` — the observations are what the test started with
  and then its batches, and they can be parted in no other way.
* `Leak.Test.isSignificant_iff` — when a test shows a leak.
* `Leak.Test.significant_iff_persistent` — a leak is shown exactly if the reactions keep
  differing in every batch, and differ altogether, and not by chance.
-/

namespace TlsScan.Leak

/-! ## Reactions that differ -/

/-- **Some observations have two different fingerprints.** -/
def Differ (l : List Observation) : Prop :=
  ∃ o ∈ l, ∃ p ∈ l, o.fingerprint ≠ p.fingerprint

theorem Differ.mono {l m : List Observation} (h : Differ l) (hl : l ⊆ m) : Differ m := by
  obtain ⟨o, ho, p, hp, hne⟩ := h
  exact ⟨o, hl ho, p, hl hp, hne⟩

/-- Comparing with the first observation is enough. -/
theorem hasDistinctAnswers_iff {l : List Observation} :
    hasDistinctAnswers l = true ↔ Differ l := by
  cases l with
  | nil => exact iff_of_false Bool.false_ne_true fun ⟨_, ho, _⟩ => List.not_mem_nil ho
  | cons o l =>
      simp only [hasDistinctAnswers, List.any_eq_true, decide_eq_true_eq]
      constructor
      · rintro ⟨p, hp, hne⟩
        exact ⟨p, List.mem_cons_of_mem _ hp, o, List.mem_cons_self, hne⟩
      · rintro ⟨p, hp, q, hq, hne⟩
        -- One of the two differs from the first one, as they differ from each other.
        by_cases hpo : p.fingerprint = o.fingerprint
        · have hqo : q.fingerprint ≠ o.fingerprint := fun h => hne (hpo.trans h.symm)
          exact ⟨q, List.mem_of_ne_of_mem (fun h => hqo (congrArg _ h)) hq, hqo⟩
        · exact ⟨p, List.mem_of_ne_of_mem (fun h => hpo (congrArg _ h)) hp, hpo⟩

/-! ## The parts of a test -/

/-- Take apart a row that ends with batches of some sizes, given from the last to the first. -/
def takeApart (l : List Observation) : List Nat → List Observation × List (List Observation)
  | [] => (l, [])
  | size :: sizes =>
    let (initial, batches) := takeApart (l.take (l.length - size)) sizes
    (initial, batches ++ [l.drop (l.length - size)])

/-- Batches in a row are found again by their sizes. -/
theorem takeApart_eq (initial : List Observation) (batches : List (List Observation)) :
    takeApart (initial ++ batches.reverse.flatten) (batches.map List.length)
      = (initial, batches.reverse) := by
  induction batches with
  | nil => rw [List.reverse_nil, List.flatten_nil, List.append_nil]; rfl
  | cons b l ih =>
      rw [List.reverse_cons, List.flatten_append, List.flatten_singleton, ← List.append_assoc,
        List.map_cons, takeApart, List.length_append, Nat.add_sub_cancel, List.take_left,
        List.drop_left, ih]

namespace Test

variable {ι : Type}

/-- **The observations that a test started with.** -/
def initial (t : Test ι) : List Observation :=
  (takeApart t.observations t.extensions.reverse).1

/-- **The batches that it was extended by**, in order. -/
def batches (t : Test ι) : List (List Observation) :=
  (takeApart t.observations t.extensions.reverse).2

section
variable (t : Test ι)

/-- **There is one way only to part the observations of a test** into a start and batches of
its sizes. -/
theorem parts_eq {t : Test ι} {initial : List Observation} {batches : List (List Observation)}
    (h : Parts t.observations t.extensions initial batches) :
    t.initial = initial ∧ t.batches = batches := by
  have hparts := takeApart_eq initial batches.reverse
  rw [List.reverse_reverse, List.map_reverse, ← h.row, ← h.lengths] at hparts
  rw [Test.initial, Test.batches, hparts]
  exact ⟨rfl, rfl⟩

/-- **The observations of a test are what it started with, and then its batches.** -/
theorem parts : Parts t.observations t.extensions t.initial t.batches := by
  obtain ⟨initial, batches, h⟩ := t.parted
  rw [(parts_eq h).1, (parts_eq h).2]
  exact h

theorem initial_append_batches : t.initial ++ t.batches.flatten = t.observations :=
  t.parts.row.symm

theorem isExtended_eq : t.isExtended = !t.batches.isEmpty := by
  rw [isExtended, t.parts.lengths, List.isEmpty_map]

/-- A test starts without batches, -/
theorem parts_start (c : ι) (l : List Observation) :
    (start c l).initial = l ∧ (start c l).batches = [] :=
  parts_eq ⟨(List.append_nil l).symm, rfl⟩

/-- and is extended by one more. -/
theorem parts_extend (b : List Observation) :
    (t.extend b).initial = t.initial ∧ (t.extend b).batches = t.batches ++ [b] :=
  parts_eq (t.parts.append b)

end

/-! ## Significance -/

/-- **When a test shows a leak**, whatever it was made of. -/
theorem isSignificant_iff {t : Test ι} :
    t.isSignificant = true ↔ t.batches ≠ [] ∧ (∀ b ∈ t.batches, Differ b)
      ∧ Differ t.observations ∧ pValue t.observations < significanceLevel := by
  have hanswer := Option.some_inj.mp
    (t.isSignificant?_eq_some.symm.trans (isSignificant?_of_parts t.parts))
  simp only [hanswer, isExtended_eq, isDistinct, Bool.and_eq_true, decide_eq_true_eq,
    hasDistinctAnswers_iff, List.all_eq_true, Bool.not_eq_true', List.isEmpty_eq_false_iff]
  rw [and_assoc, and_assoc, and_left_comm (a := Differ _)]

/-! ## Tests that were extended -/

/-- **A test that was extended by some batches**, one after the other. -/
def gathered (c : ι) (initial : List Observation) (batches : List (List Observation)) :
    Test ι := batches.foldl extend (start c initial)

theorem foldl_extend (t : Test ι) (l : List (List Observation)) :
    (l.foldl extend t).initial = t.initial ∧ (l.foldl extend t).batches = t.batches ++ l := by
  induction l generalizing t with
  | nil => exact ⟨rfl, (List.append_nil _).symm⟩
  | cons b l ih =>
      obtain ⟨hinitial, hbatches⟩ := t.parts_extend b
      obtain ⟨hinitial', hbatches'⟩ := ih (t.extend b)
      refine ⟨hinitial'.trans hinitial, hbatches'.trans ?_⟩
      rw [hbatches, List.append_assoc, List.singleton_append]

/-- The parts of a test are what it was made of. -/
theorem parts_gathered (c : ι) (initial : List Observation)
    (batches : List (List Observation)) :
    (gathered c initial batches).initial = initial
      ∧ (gathered c initial batches).batches = batches := by
  obtain ⟨hinitial, hbatches⟩ := foldl_extend (start c initial) batches
  obtain ⟨hstart, hnone⟩ := parts_start c initial
  rw [hnone, List.nil_append] at hbatches
  exact ⟨hinitial.trans hstart, hbatches⟩

/-- **A leak has to persist.**  Take any observations, and batches of any sizes appended to
them.  Whether there is a leak can always be said, as every step back through the row lands
where a batch begins.  There is one exactly if there are batches, the reactions differ in
each of them and altogether, and they are unlikely to differ by chance.  So once they do not
differ in one batch, no further batches ever show a leak. -/
theorem significant_iff_persistent (c : ι) (initial : List Observation)
    (batches : List (List Observation)) :
    (gathered c initial batches).observations = initial ++ batches.flatten
      ∧ (gathered c initial batches).extensions = batches.map List.length
      ∧ (∃ answer, (gathered c initial batches).isSignificant? = some answer
        ∧ (answer = true ↔ batches ≠ [] ∧ (∀ b ∈ batches, Differ b)
          ∧ Differ (initial ++ batches.flatten)
          ∧ pValue (initial ++ batches.flatten) < significanceLevel))
      ∧ ∀ b ∈ batches, ¬ Differ b → ∀ more : List (List Observation),
        (more.foldl extend (gathered c initial batches)).isSignificant? = some false := by
  obtain ⟨hinitial, hbatches⟩ := parts_gathered c initial batches
  have hparts := (gathered c initial batches).parts
  rw [hinitial, hbatches] at hparts
  refine ⟨hparts.row, hparts.lengths, ⟨_, isSignificant?_eq_some _, ?_⟩,
    fun b hb hsame more => ?_⟩
  · refine isSignificant_iff.trans ?_
    rw [hbatches, ← hparts.row]
  · obtain ⟨-, hmore⟩ := foldl_extend (gathered c initial batches) more
    have hno : (more.foldl extend (gathered c initial batches)).isSignificant = false := by
      rw [Bool.eq_false_iff]
      intro hyes
      obtain ⟨-, hall, -⟩ := isSignificant_iff.mp hyes
      refine hsame (hall b ?_)
      rw [hmore, hbatches]
      exact List.mem_append_left _ hb
    rw [isSignificant?_eq_some, hno]

namespace Sample

/-- A request that the target answers by a closed connection, and one that it fails. -/
def differing : List Observation :=
  [⟨"short", .observed [] .closed⟩, ⟨"long", .unavailable⟩]

/-- Later both fail. -/
def collapsed : List Observation := [⟨"short", .unavailable⟩, ⟨"long", .unavailable⟩]

end Sample

theorem significant_iff_persistent_sample :
    Differ Sample.differing ∧ ¬ Differ Sample.collapsed
      ∧ ∀ more : List (List Observation),
        (more.foldl extend (gathered () Sample.differing [Sample.collapsed])).isSignificant?
          = some false := by
  have hsame : ¬ Differ Sample.collapsed := by
    rw [← hasDistinctAnswers_iff]
    decide
  obtain ⟨-, -, -, hlost⟩ := significant_iff_persistent () Sample.differing [Sample.collapsed]
  exact ⟨hasDistinctAnswers_iff.mp (by decide), hsame,
    hlost _ (List.mem_singleton_self _) hsame⟩

end Test

end TlsScan.Leak
