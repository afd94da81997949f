import Mathlib.Data.List.Basic
import TlsScan.Proofs.Requirement.Monotone

/-!
# What a requirement refers to

Before a scan every requirement is searched for what it refers to: probes, properties and
sets of supported values, each by a search of its own.  All of them go down through the
alternatives and keep out of what is excluded.  So what they find is what the clauses name
that sit under no exclusion (`iff_exists_asks`), and of a requirement that excludes nothing
these are all clauses.  Two reports that agree there cannot be told apart by it.

## Main Definitions

* `Report.AgreeOn` — two reports agree on some facts.
* `Requirement.Clause.namedProbes`, `Requirement.Clause.namedProperties`,
  `Requirement.Clause.namedFactSets` — what one clause names.

## Main Results

* `Requirement.mem_referencedProbes`, `Requirement.mem_referencedProperties`,
  `Requirement.contains_referencedFactSets` — what is found is what such clauses name, and
  nothing else.
* `Requirement.Clause.met_iff_of_agreeOn` — a clause reads nothing but what it names.
* `Requirement.holds_iff_of_references` — a requirement that excludes nothing reads nothing
  but what it refers to.
-/

namespace TlsScan

/-- **Two reports agree on some facts**: on whether some probes are executed, on what was
found of some properties, and on some of the sets, be they known or not. -/
structure Report.AgreeOn (probes : List ProbeId) (properties : List Property)
    (sets : Selection FactSet) (r r' : Report) : Prop where
  executed : ∀ p ∈ probes, r.isExecuted p = r'.isExecuted p
  findings : ∀ q ∈ properties, r.finding? q = r'.finding? q
  versions : sets.contains .versions = true → r.versions = r'.versions
  extensions : sets.contains .extensions = true → r.extensions = r'.extensions

theorem Report.AgreeOn.symm {probes : List ProbeId} {properties : List Property}
    {sets : Selection FactSet} {r r' : Report} (h : AgreeOn probes properties sets r r') :
    AgreeOn probes properties sets r' r :=
  ⟨fun p hp => (h.executed p hp).symm, fun q hq => (h.findings q hq).symm,
    fun hset => (h.versions hset).symm, fun hset => (h.extensions hset).symm⟩

namespace Requirement

/-! ## What a clause names -/

namespace Clause

/-- The probes that a clause names. -/
def namedProbes : Clause → List ProbeId
  | probes l => l
  | _ => []

/-- The properties that a clause names, be it to hold or to fail. -/
def namedProperties : Clause → List Property
  | properties l | propertiesNot l => l
  | _ => []

/-- The set that a clause asks about, if it does, even if it asks nothing of it. -/
def namedFactSets : Clause → Selection FactSet
  | versions _ => Selection.empty.insert .versions
  | extensions _ => Selection.empty.insert .extensions
  | _ => .empty

/-- **A clause reads nothing but what it names.** -/
theorem met_iff_of_agreeOn {c : Clause} {r r' : Report}
    (h : Report.AgreeOn c.namedProbes c.namedProperties c.namedFactSets r r') :
    c.Met r ↔ c.Met r' := by
  cases c with
  | probes l => exact forall₂_congr fun p hp => by rw [h.executed p hp]
  | properties l => exact forall₂_congr fun q hq => by rw [h.findings q hq]
  | propertiesNot l => exact forall₂_congr fun q hq => by rw [h.findings q hq]
  | versions l => rw [Met, Met, h.versions rfl]
  | extensions l => rw [Met, Met, h.extensions rfl]

end Clause

/-! ## Searching a requirement -/

/-- What some clause of a node is, kind by kind. -/
theorem exists_clauses {q : Requirement} {P : Clause → Prop} :
    (∃ c ∈ q.clauses, P c)
      ↔ (∃ l, q.probes = some l ∧ P (.probes l))
        ∨ (∃ l, q.properties = some l ∧ P (.properties l))
        ∨ (∃ l, q.propertiesNot = some l ∧ P (.propertiesNot l))
        ∨ (∃ l, q.versions = some l ∧ P (.versions l))
        ∨ ∃ l, q.extensions = some l ∧ P (.extensions l) := by
  have h := not_congr (forall_clauses (q := q) (P := fun c => ¬ P c))
  simpa only [not_forall, not_not, exists_prop, not_and_or] using h

/-- **A search that looks at the clauses of a node and goes down through its alternatives
finds what the clauses have that sit under no exclusion**, and nothing else. -/
theorem iff_exists_asks {P : Clause → Prop} (found : Requirement → Prop)
    (node : ∀ q : Requirement, found q
      ↔ (∃ c ∈ q.clauses, P c) ∨ ∃ l, q.alternatives = some l ∧ ∃ a ∈ l, found a)
    (q : Requirement) : found q ↔ ∃ c, Asks c q 0 ∧ P c := by
  induction q using tree_induction with
  | node q ihalternative _ =>
      rw [node]
      constructor
      · rintro (⟨c, hc, hP⟩ | ⟨l, hl, a, ha, hfound⟩)
        · exact ⟨c, .own hc, hP⟩
        · obtain ⟨c, hc, hP⟩ := (ihalternative l hl a ha).mp hfound
          exact ⟨c, .alternative hl ha hc, hP⟩
      · rintro ⟨c, hc, hP⟩
        cases hc with
        | own hc => exact Or.inl ⟨c, hc, hP⟩
        | alternative hl ha hc =>
            exact Or.inr ⟨_, hl, _, ha, (ihalternative _ hl _ ha).mpr ⟨c, hc, hP⟩⟩

theorem mem_listedProbes {p : ProbeId} {l : List Requirement} :
    p ∈ listedProbes l ↔ ∃ a ∈ l, p ∈ a.referencedProbes := by
  induction l with
  | nil => simp [listedProbes]
  | cons q l ih => rw [listedProbes, List.mem_append, ih, List.exists_mem_cons_iff]

theorem mem_listedProperties {k : Property} {l : List Requirement} :
    k ∈ listedProperties l ↔ ∃ a ∈ l, k ∈ a.referencedProperties := by
  induction l with
  | nil => simp [listedProperties]
  | cons q l ih => rw [listedProperties, List.mem_append, ih, List.exists_mem_cons_iff]

theorem anyReferences_iff {t : FactSet} {l : List Requirement} :
    anyReferences t l = true ↔ ∃ a ∈ l, references t a = true := by
  induction l with
  | nil => simp [anyReferences]
  | cons q l ih => rw [anyReferences, Bool.or_eq_true, ih, List.exists_mem_cons_iff]

/-- **The probes that a requirement refers to** are those that its clauses name, as far as
they sit under no exclusion. -/
theorem mem_referencedProbes {p : ProbeId} (q : Requirement) :
    p ∈ q.referencedProbes ↔ ∃ c, Asks c q 0 ∧ p ∈ c.namedProbes := by
  refine iff_exists_asks (fun q => p ∈ q.referencedProbes) ?_ q
  rintro ⟨probes, _, _, _, _, alternatives, _⟩
  rw [exists_clauses, referencedProbes, List.mem_append]
  refine or_congr ?_ ?_
  · cases probes <;> simp [Clause.namedProbes]
  · cases alternatives <;> simp [alternativeProbes, mem_listedProbes]

/-- The same for properties, -/
theorem mem_referencedProperties {k : Property} (q : Requirement) :
    k ∈ q.referencedProperties ↔ ∃ c, Asks c q 0 ∧ k ∈ c.namedProperties := by
  refine iff_exists_asks (fun q => k ∈ q.referencedProperties) ?_ q
  rintro ⟨_, properties, propertiesNot, _, _, alternatives, _⟩
  rw [exists_clauses, referencedProperties, List.mem_append, List.mem_append]
  refine or_congr ?_ ?_
  · cases properties <;> cases propertiesNot <;> simp [Clause.namedProperties]
  · cases alternatives <;> simp [alternativeProperties, mem_listedProperties]

/-- and for sets. -/
theorem contains_referencedFactSets {t : FactSet} (q : Requirement) :
    q.referencedFactSets.contains t = true
      ↔ ∃ c, Asks c q 0 ∧ c.namedFactSets.contains t = true := by
  refine iff_exists_asks (fun q => q.referencedFactSets.contains t = true) ?_ q
  rintro ⟨_, _, _, versions, extensions, alternatives, _⟩
  rw [exists_clauses]
  show references t _ = true ↔ _
  rw [references.eq_def, Bool.or_eq_true]
  refine or_congr ?_ ?_
  · cases t <;> cases versions <;> cases extensions <;> simp [Clause.namedFactSets]
  · cases alternatives with
    | none => simp [choiceReferences]
    | some l => simp [choiceReferences, anyReferences_iff, referencedFactSets]

/-! ## Reading no more -/

section
variable {q : Requirement} {r r' : Report}

/-- Reports that agree on what a requirement refers to agree on what any clause names that
sits under no exclusion. -/
theorem Asks.agreeOn {c : Clause} (hc : Asks c q 0)
    (h : Report.AgreeOn q.referencedProbes q.referencedProperties q.referencedFactSets r r') :
    Report.AgreeOn c.namedProbes c.namedProperties c.namedFactSets r r' := by
  refine ⟨?_, ?_, ?_, ?_⟩
  · intro p hp
    exact h.executed p ((mem_referencedProbes q).mpr ⟨c, hc, hp⟩)
  · intro k hk
    exact h.findings k ((mem_referencedProperties q).mpr ⟨c, hc, hk⟩)
  · intro hset
    exact h.versions ((contains_referencedFactSets q).mpr ⟨c, hc, hset⟩)
  · intro hset
    exact h.extensions ((contains_referencedFactSets q).mpr ⟨c, hc, hset⟩)

/-- A requirement that excludes nothing and holds goes on to hold wherever what it refers to
is the same. -/
theorem holds_of_agreeOn (hpos : q.isPositive = true)
    (h : Report.AgreeOn q.referencedProbes q.referencedProperties q.referencedFactSets r r')
    (hq : holds r q = true) : holds r' q = true := by
  apply holds_of_carries ?_ hq
  intro c n hc
  have hzero : n = 0 := hc.eq_zero hpos
  subst hzero
  have hmet := Clause.met_iff_of_agreeOn (hc.agreeOn h)
  exact ⟨fun _ => hmet.mp, fun _ => hmet.mpr⟩

/-- **What a requirement refers to is all that matters to it.**  Take a requirement that
excludes nothing, at any depth of its choices, and two reports that agree on whether each
probe that it refers to is executed, on what was found of each property that it refers to,
and on each set that it refers to.  It holds in both of them or in none, however they
differ in anything else. -/
theorem holds_iff_of_references (hpos : q.isPositive = true)
    (h : Report.AgreeOn q.referencedProbes q.referencedProperties q.referencedFactSets r r') :
    holds r q = holds r' q := by
  rw [Bool.eq_iff_iff]
  exact ⟨holds_of_agreeOn hpos h, holds_of_agreeOn hpos h.symm⟩

end

namespace Sample

/-- A requirement with a choice in a choice, which refers to facts of every kind. -/
def choosy : Requirement :=
  (none.requireProbes [.protocolVersion]).anyOf
    [none.requireExtensions [],
      (none.requireVersions [.tls12]).anyOf
        [none.requirePropertiesNot [.supportsRsa], none.requireProperties [.supportsDh]]]

/-- A report in which it holds, -/
def sparse : Report :=
  { ((Report.new "sparse" default).addVersions [.tls12]).putFinding .supportsDh .holds with
    records := Table.empty.insert .protocolVersion (.executed .protocolVersion .null) }

/-- and one that says the same where it matters, and more elsewhere. -/
def rich : Report :=
  { ((Report.new "rich" default).addVersions [.tls12]).putFinding .supportsDh .holds with
    findings := ((Table.empty.insert .supportsDh .holds).insert .supportsHeartbeat .fails)
    records := (Table.empty.insert .protocolVersion
      (.executed .protocolVersion (.text "more"))).insert .alpn (.error .alpn "refused") }

end Sample

theorem holds_iff_of_references_sample :
    Sample.choosy.isPositive = true
      ∧ Report.AgreeOn Sample.choosy.referencedProbes Sample.choosy.referencedProperties
        Sample.choosy.referencedFactSets Sample.sparse Sample.rich
      ∧ Sample.sparse ≠ Sample.rich
      ∧ holds Sample.sparse Sample.choosy = true ∧ holds Sample.rich Sample.choosy = true := by
  have hpos : Sample.choosy.isPositive = true := by decide
  have hagree : Report.AgreeOn Sample.choosy.referencedProbes Sample.choosy.referencedProperties
      Sample.choosy.referencedFactSets Sample.sparse Sample.rich :=
    ⟨by decide, by decide, fun _ => rfl, fun _ => rfl⟩
  have hsame := holds_iff_of_references hpos hagree
  have hholds : holds Sample.sparse Sample.choosy = true := by decide
  exact ⟨hpos, hagree, by decide, hholds, hsame ▸ hholds⟩

end Requirement

end TlsScan
