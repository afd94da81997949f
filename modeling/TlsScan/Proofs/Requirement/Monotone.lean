import TlsScan.Proofs.Requirement.Clauses

/-!
# Requirements on growing reports

A scan only ever adds to what its report knows.  All that a clause asks about are facts that
stay, so a clause that is met stays met.  What becomes of a requirement then depends on the
places of its clauses: if all of them sit under an even number of exclusions it goes on to
hold, and if all of them sit under an odd number it can only come to fail.

## Main Definitions

* `Report.Extends` — one report knows all that another one knows, as far as
  requirements can ask for it.
* `Requirement.isPositive` — nothing is excluded, at any depth of the choices.

## Main Results

* `Requirement.Clause.Met.of_extends` — a clause that is met stays met.
* `Requirement.holds_of_extends` — a positive requirement that holds goes on to
  hold.
* `Requirement.monotone_by_polarity` — the same for every requirement whose clauses sit
  under an even number of exclusions, and the other way round if the number is odd.
-/

namespace TlsScan

/-- **One report knows all that another one knows.**  Findings count here only as
far as a requirement can ask for them: as a yes or as a no. -/
structure Report.Extends (r r' : Report) : Prop where
  executed : ∀ p, r.isExecuted p = true → r'.isExecuted p = true
  holds : ∀ q, r.finding? q = some .holds → r'.finding? q = some .holds
  fails : ∀ q, r.finding? q = some .fails → r'.finding? q = some .fails
  versions : ∀ s, r.versions = some s → ∃ s', r'.versions = some s'
    ∧ ∀ v, s.contains v = true → s'.contains v = true
  extensions : ∀ s, r.extensions = some s → ∃ s', r'.extensions = some s'
    ∧ ∀ e, s.contains e = true → s'.contains e = true

/-- Values that are added to a set leave all that was known. -/
theorem Report.extends_addVersions (r : Report) (l : List ProtocolVersion) :
    r.Extends (r.addVersions l) := by
  refine ⟨fun p hp => hp, fun q hq => hq, fun q hq => hq, ?_, ?_⟩
  · intro s hs
    refine ⟨s.insertAll l, ?_, ?_⟩
    · rw [addVersions, hs, Option.getD_some]
    · intro v hv
      rw [Selection.contains_insertAll, hv, Bool.or_true]
  · intro s hs
    exact ⟨s, hs, fun e he => he⟩

namespace Requirement

/-! ## Requirements without exclusions -/

mutual

/-- **Whether a requirement excludes nothing**, at any depth. -/
def isPositive : Requirement → Bool
  | ⟨_, _, _, _, _, alternatives, excluded⟩ =>
    excluded.isNone && isPositiveChoice alternatives

/-- Whether no alternative of a choice excludes anything. -/
def isPositiveChoice : Option (List Requirement) → Bool
  | .none => true
  | some l => arePositive l

/-- Whether no requirement of a list excludes anything. -/
def arePositive : List Requirement → Bool
  | [] => true
  | q :: l => isPositive q && arePositive l

end

/-! ## Monotonicity -/

section
variable {r r' : Report}

/-- **A clause that is met stays met** in every report that knows more. -/
theorem Clause.Met.of_extends {c : Clause} (h : r.Extends r') (hc : c.Met r) : c.Met r' := by
  cases c with
  | probes l => exact fun p hp => h.executed p (hc p hp)
  | properties l => exact fun p hp => h.holds p (hc p hp)
  | propertiesNot l => exact fun p hp => h.fails p (hc p hp)
  | versions l =>
      obtain ⟨s, hs, hl⟩ := hc
      obtain ⟨s', hs', hle⟩ := h.versions s hs
      exact ⟨s', hs', fun v hv => hle v (hl v hv)⟩
  | extensions l =>
      obtain ⟨s, hs, hl⟩ := hc
      obtain ⟨s', hs', hle⟩ := h.extensions s hs
      exact ⟨s', hs', fun e he => hle e (hl e he)⟩

/-- A requirement holds on in a report that knows more if all its clauses sit under an even
number of exclusions. -/
theorem holds_of_even (h : r.Extends r') {q : Requirement}
    (heven : ∀ c n, Asks c q n → Even n) (hq : holds r q = true) : holds r' q = true := by
  apply holds_of_carries ?_ hq
  intro c n hc
  refine ⟨fun _ hmet => hmet.of_extends h, fun hodd => ?_⟩
  exact absurd (heven c n hc) (Nat.not_even_iff_odd.mpr hodd)

/-- If the number is odd, it held already in a report that knows less. -/
theorem holds_of_odd (h : r.Extends r') {q : Requirement}
    (hodd : ∀ c n, Asks c q n → Odd n) (hq : holds r' q = true) : holds r q = true := by
  apply holds_of_carries ?_ hq
  intro c n hc
  refine ⟨fun heven => ?_, fun _ hmet => hmet.of_extends h⟩
  exact absurd heven (Nat.not_even_iff_odd.mpr (hodd c n hc))

theorem arePositive_iff {l : List Requirement} :
    arePositive l = true ↔ ∀ a ∈ l, isPositive a = true := by
  induction l with
  | nil => exact iff_of_true rfl (List.forall_mem_nil _)
  | cons q l ih => rw [arePositive, Bool.and_eq_true, ih, List.forall_mem_cons]

/-- When a requirement excludes nothing. -/
theorem isPositive_iff {q : Requirement} :
    isPositive q = true
      ↔ q.excluded = .none ∧ ∀ l, q.alternatives = some l → ∀ a ∈ l, isPositive a = true := by
  obtain ⟨_, _, _, _, _, alternatives, excluded⟩ := q
  rw [isPositive, Bool.and_eq_true, Option.isNone_iff_eq_none]
  cases alternatives with
  | none => simp [isPositiveChoice]
  | some l => simp [isPositiveChoice, arePositive_iff]

/-- **The clauses of a positive requirement sit under no exclusions.** -/
theorem Asks.eq_zero {c : Clause} {q : Requirement} {n : Nat} (h : Asks c q n)
    (hpos : q.isPositive = true) : n = 0 := by
  induction h with
  | own h => rfl
  | alternative hl ha h ih => exact ih ((isPositive_iff.mp hpos).2 _ hl _ ha)
  | excluded he h ih => exact absurd ((isPositive_iff.mp hpos).1.symm.trans he) nofun

/-- **A positive requirement that holds goes on to hold** in every report that
knows more. -/
theorem holds_of_extends (h : r.Extends r') (q : Requirement)
    (hpos : q.isPositive = true) (hq : holds r q = true) : holds r' q = true := by
  refine holds_of_even h ?_ hq
  intro c n hc
  rw [hc.eq_zero hpos]
  exact Even.zero

/-- **Evaluation is monotone by polarity.**  Take a report that knows all that another one
knows.  A requirement whose clauses all sit under an even number of exclusions goes on to
hold in it; this is so in particular if nothing is excluded at any depth.  A requirement whose
clauses all sit under an odd number of exclusions held before if it holds in it. -/
theorem monotone_by_polarity (h : r.Extends r') (q : Requirement) :
    ((∀ c n, Asks c q n → Even n) → holds r q = true → holds r' q = true)
      ∧ (q.isPositive = true → holds r q = true → holds r' q = true)
      ∧ ((∀ c n, Asks c q n → Odd n) → holds r' q = true → holds r q = true) :=
  ⟨holds_of_even h, holds_of_extends h q, holds_of_odd h⟩

end

namespace Sample

/-- A report that knows of one version, -/
def known : Report := (Report.new "" default).addVersions [.tls12]

/-- and a requirement for it, under two exclusions, -/
def notWithout : Requirement := none.except (none.except (none.requireVersions [.tls12]))

/-- and one against another version. -/
def without : Requirement := none.except (none.requireVersions [.ssl2])

end Sample

theorem monotone_by_polarity_sample :
    Sample.known.Extends (Sample.known.addVersions [.tls13])
      ∧ holds (Sample.known.addVersions [.tls13]) Sample.notWithout = true
      ∧ holds Sample.known Sample.without = true := by
  have hextends := Report.extends_addVersions Sample.known [.tls13]
  refine ⟨hextends, ?_, ?_⟩
  · refine (monotone_by_polarity hextends Sample.notWithout).1 ?_ (by decide)
    intro c n hc
    obtain ⟨m, rfl, hm⟩ := hc.of_except
    obtain ⟨k, rfl, hk⟩ := hm.of_except
    rw [hk.eq_zero rfl]
    exact even_two
  · refine (monotone_by_polarity hextends Sample.without).2.2 ?_ (by decide)
    intro c n hc
    obtain ⟨m, rfl, hm⟩ := hc.of_except
    rw [hm.eq_zero rfl]
    exact odd_one

end Requirement

end TlsScan
