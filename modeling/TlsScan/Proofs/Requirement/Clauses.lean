import Mathlib.Algebra.Ring.Parity
import TlsScan.Requirement

/-!
# What a requirement asks for

A requirement is a tree.  At each of its nodes there are clauses about facts, and below the
node are alternatives, of which one has to hold, and a requirement that must not hold.  What is
said about evaluation rests on how one node is read (`holds_iff`), and on the induction over the
tree (`tree_induction`).

The place of a clause in the tree decides one thing only, which is whether the clause counts
for the whole or against it: each exclusion above it turns that round.  So if every clause
goes over from one report to another in the direction that its place asks for, the whole
requirement goes over.  What a report has to keep for a requirement to stay met, and what it
may gain, are both instances of this.

## Main Definitions

* `Requirement.Clause`, `Requirement.clauses` — one clause about facts, and those of a node.
* `Requirement.Clause.Met` — a report meets a clause.
* `Requirement.Asks` — a clause sits somewhere in a requirement, under some number of
  exclusions.
* `Requirement.Clause.Carries` — a clause goes over in the direction of its place.

## Main Results

* `Requirement.holds_iff` — a requirement holds if its clauses are met, one of its
  alternatives holds, and what it excludes does not.
* `Requirement.tree_induction` — what goes over from its alternatives and from what it
  excludes to a requirement holds of all requirements.
* `Requirement.holds_of_carries` — a requirement goes over if all its clauses do.
-/

namespace TlsScan

namespace Requirement

/-! ## Clauses -/

/-- **One clause about facts.** -/
inductive Clause where
  | probes (l : List ProbeId)
  | properties (l : List Property)
  | propertiesNot (l : List Property)
  | versions (l : List ProtocolVersion)
  | extensions (l : List Extension)

/-- **What it takes to meet a clause.**  Single facts have to be as asked for.  A set has to
be known, even if nothing is asked of it, and to have what is asked of it. -/
def Clause.Met (r : Report) : Clause → Prop
  | probes l => ∀ p ∈ l, r.isExecuted p = true
  | properties l => ∀ p ∈ l, r.finding? p = some .holds
  | propertiesNot l => ∀ p ∈ l, r.finding? p = some .fails
  | versions l => ∃ s, r.versions = some s ∧ ∀ v ∈ l, s.contains v = true
  | extensions l => ∃ s, r.extensions = some s ∧ ∀ e ∈ l, s.contains e = true

/-- The clauses of a requirement itself, without those of its alternatives and of what it
excludes. -/
def clauses (q : Requirement) : List Clause :=
  (q.probes.map .probes).toList ++ (q.properties.map .properties).toList
    ++ (q.propertiesNot.map .propertiesNot).toList ++ (q.versions.map .versions).toList
    ++ (q.extensions.map .extensions).toList

/-- What holds of all clauses, kind by kind. -/
theorem forall_clauses {q : Requirement} {P : Clause → Prop} :
    (∀ c ∈ q.clauses, P c)
      ↔ (∀ l, q.probes = some l → P (.probes l))
        ∧ (∀ l, q.properties = some l → P (.properties l))
        ∧ (∀ l, q.propertiesNot = some l → P (.propertiesNot l))
        ∧ (∀ l, q.versions = some l → P (.versions l))
        ∧ ∀ l, q.extensions = some l → P (.extensions l) := by
  simp only [clauses, List.forall_mem_append, Option.mem_toList,
    Option.map_eq_some_iff, forall_exists_index, and_imp, forall_apply_eq_imp_iff₂, and_assoc]

/-! ## One node -/

section
variable {α : Type} {clause : Option (List α)} {r : Report}

theorem clauseHolds_iff {test : α → Bool} :
    clauseHolds clause test = true ↔ ∀ l, clause = some l → ∀ a ∈ l, test a = true := by
  cases clause <;> simp [clauseHolds]

theorem setClauseHolds_iff {known : Option (Selection α)} :
    setClauseHolds clause known = true
      ↔ ∀ l, clause = some l → ∃ s, known = some s ∧ ∀ a ∈ l, s.contains a = true := by
  cases clause <;> cases known <;> simp [setClauseHolds]

theorem anyHolds_eq (r : Report) (l : List Requirement) : anyHolds r l = l.any (holds r) := by
  induction l with
  | nil => rfl
  | cons q l ih => rw [anyHolds, ih, List.any_cons]

theorem choiceHolds_iff {c : Option (List Requirement)} :
    choiceHolds r c = true ↔ ∀ l, c = some l → ∃ a ∈ l, holds r a = true := by
  cases c <;> simp [choiceHolds, anyHolds_eq]

theorem exclusionHolds_iff {x : Option Requirement} :
    exclusionHolds r x = true ↔ ∀ e, x = some e → holds r e = false := by
  cases x <;> simp [exclusionHolds]

/-- **When a requirement holds**: its clauses are met, one of its alternatives holds if there
is a choice, and what it excludes does not hold. -/
theorem holds_iff {q : Requirement} :
    holds r q = true
      ↔ (∀ c ∈ q.clauses, c.Met r)
        ∧ (∀ l, q.alternatives = some l → ∃ a ∈ l, holds r a = true)
        ∧ ∀ e, q.excluded = some e → holds r e = false := by
  obtain ⟨probes, properties, propertiesNot, versions, extensions, alternatives, excluded⟩ := q
  rw [forall_clauses]
  simp only [holds, Bool.and_eq_true, clauseHolds_iff, setClauseHolds_iff, choiceHolds_iff,
    exclusionHolds_iff, beq_iff_eq, Clause.Met, and_assoc]

end

/-! ## The tree -/

/-- **Induction over a requirement**: what holds of it as soon as it holds of its alternatives
and of what it excludes holds of all requirements. -/
theorem tree_induction {motive : Requirement → Prop}
    (node : ∀ q : Requirement, (∀ l, q.alternatives = some l → ∀ a ∈ l, motive a) →
      (∀ e, q.excluded = some e → motive e) → motive q)
    (q : Requirement) : motive q := by
  apply node q
  · intro l hl a ha
    exact tree_induction node a
  · intro e he
    exact tree_induction node e
termination_by q
decreasing_by
  · cases q
    cases hl
    have hlt := List.sizeOf_lt_of_mem ha
    simp only [mk.sizeOf_spec, Option.some.sizeOf_spec]
    omega
  · cases q
    cases he
    simp only [mk.sizeOf_spec, Option.some.sizeOf_spec]
    omega

/-- **A clause sits in a requirement under some number of exclusions**: it is one of its own,
or it sits in an alternative, or in what is excluded. -/
inductive Asks (c : Clause) : Requirement → Nat → Prop
  | own {q : Requirement} (h : c ∈ q.clauses) : Asks c q 0
  | alternative {q : Requirement} {l : List Requirement} {a : Requirement} {n : Nat}
      (hl : q.alternatives = some l) (ha : a ∈ l) (h : Asks c a n) : Asks c q n
  | excluded {q e : Requirement} {n : Nat}
      (he : q.excluded = some e) (h : Asks c e n) : Asks c q (n + 1)

/-- All clauses of a mere exclusion sit under one exclusion more than in what is excluded. -/
theorem Asks.of_except {c : Clause} {e : Requirement} {n : Nat} (h : Asks c (none.except e) n) :
    ∃ m, n = m + 1 ∧ Asks c e m := by
  cases h with
  | own hc => cases hc
  | alternative hl => cases hl
  | excluded he hc =>
      cases he
      exact ⟨_, rfl, hc⟩

/-- **A clause goes over from one report to another in the direction of its place**: forwards
if it sits under an even number of exclusions, and backwards if the number is odd. -/
structure Clause.Carries (r r' : Report) (n : Nat) (c : Clause) : Prop where
  forwards : Even n → c.Met r → c.Met r'
  backwards : Odd n → c.Met r' → c.Met r

/-- One exclusion less, and the direction is the other one. -/
theorem Clause.Carries.symm {r r' : Report} {n : Nat} {c : Clause}
    (h : c.Carries r r' (n + 1)) : c.Carries r' r n :=
  ⟨fun hn => h.backwards hn.add_one, fun hn => h.forwards hn.add_one⟩

/-- **A requirement goes over from one report to another if all its clauses do**, each in the
direction of its place. -/
theorem holds_of_carries {r r' : Report} {q : Requirement}
    (hcarries : ∀ c n, Asks c q n → c.Carries r r' n) (hq : holds r q = true) :
    holds r' q = true := by
  -- What is excluded goes over backwards, so the two reports change places on the way down.
  induction q using tree_induction generalizing r r' with
  | node q ihalternative ihexcluded =>
      rw [holds_iff] at hq ⊢
      obtain ⟨hclauses, hchoice, hexclusion⟩ := hq
      refine ⟨?_, ?_, ?_⟩
      · intro c hc
        exact (hcarries c 0 (.own hc)).forwards Even.zero (hclauses c hc)
      · intro l hl
        obtain ⟨a, ha, hholds⟩ := hchoice l hl
        refine ⟨a, ha, ihalternative l hl a ha ?_ hholds⟩
        intro c n hc
        exact hcarries c n (.alternative hl ha hc)
      · intro e he
        rw [← Bool.not_eq_true]
        intro hholds
        have hback : holds r e = true := by
          refine ihexcluded e he ?_ hholds
          intro c n hc
          exact (hcarries c (n + 1) (.excluded he hc)).symm
        exact absurd (hback.symm.trans (hexclusion e he)) (by decide)

end Requirement

end TlsScan
