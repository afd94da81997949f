import TlsScan.Proofs.Report.Writes
import TlsScan.Report.Merge

/-!
# What a merge leaves in a report

A merge writes a result into the report and then compares the journal with the
declaration of the probe.  `merge_eq_ok_iff` says all of it: which lists of
writes are accepted, and what the report then is.  Every other fact about an
accepted merge is read off `Proofs.Report.Writes` through it.

## Main Definitions

* `ProbeResult.OwnRecords` — a result that files no record under another
  identity than its own.
* `ProbeResult.verdict?` — the conclusive finding that a result leaves for a
  property, which is the last conclusive one that it offers.
* `Facts.Conforms` — facts that offer exactly what a declaration announces.

## Main Results

* `Report.takes_merge` — an accepted merge takes in what its result writes.
* `Report.hasRecord_merge_own` — an accepted result of its own adds one identity
  to those with a record.
* `Report.verdict?_merge` — the verdict of a merged result replaces the old one.
* `Report.merge_failure`, `Report.merge_notExecuted`, `Report.merge_diagnosed`,
  `Report.merge_facts` — the substitutes of failed and of unready probes, and
  conforming facts, are always accepted while the probe has no record.
-/

namespace TlsScan

/-! ## Results -/

namespace ProbeResult

/-- **A result that files no record under another identity than its own.** -/
def OwnRecords (x : ProbeResult) : Prop :=
  ∀ p ∈ x.writes.filterMap Write.identity?, p = x.identity

instance (x : ProbeResult) : Decidable x.OwnRecords := by
  unfold OwnRecords
  infer_instance

/-- The findings that a result offers for a property, in order. -/
def offersFor (x : ProbeResult) (q : Property) : List Finding :=
  x.writes.flatMap (Write.offersFor q)

/-- **The conclusive finding that a result leaves for a property**: the last
conclusive one that it offers. -/
def verdict? (x : ProbeResult) (q : Property) : Option Finding :=
  ((x.offersFor q).filter Finding.isConclusive).getLast?

end ProbeResult

namespace Facts

/-- The conclusive finding that facts leave for a property: the last conclusive
one among them. -/
def verdict? (f : Facts) (q : Property) : Option Finding :=
  (((f.findings.filter (·.1 = q)).map (·.2)).filter Finding.isConclusive).getLast?

/-- **Facts that offer exactly what a declaration announces**: findings for its
properties and no other, and values for its sets and no other. -/
structure Conforms (f : Facts) (d : Declaration) : Prop where
  properties : ∀ q, q ∈ f.findings.map (·.1) ↔ q ∈ d.properties
  versions : f.versions.isSome = d.contributions.contains .versions
  extensions : f.extensions.isSome = d.contributions.contains .extensions

end Facts

/-! ### The writes of the stock results -/

namespace ProbeResult

theorem identities_failure (p : ProbeId) (l : List Property) (k : FailureKind)
    (m : String) :
    (failure p l k m).writes.filterMap Write.identity? = [p] := by
  simp [failure, Write.identity?, Record.error, Function.comp_def]

theorem identities_diagnosed (p : ProbeId) (l : List Property) (q : Requirement) :
    (diagnosed p l q).writes.filterMap Write.identity? = [p] := rfl

theorem identities_facts (p : ProbeId) (f : Facts) :
    (facts p f).writes.filterMap Write.identity? = [p] := by
  cases hv : f.versions <;> cases he : f.extensions <;>
    simp [facts, hv, he, Write.identity?, Record.executed, List.filterMap_cons]

theorem ownRecords_failure (p : ProbeId) (l : List Property) (k : FailureKind)
    (m : String) : (failure p l k m).OwnRecords := by
  rw [OwnRecords, identities_failure]
  simp [failure]

theorem ownRecords_diagnosed (p : ProbeId) (l : List Property) (q : Requirement) :
    (diagnosed p l q).OwnRecords := by
  rw [OwnRecords, identities_diagnosed]
  simp [diagnosed]

theorem ownRecords_facts (p : ProbeId) (f : Facts) : (facts p f).OwnRecords := by
  rw [OwnRecords, identities_facts]
  simp [facts]

theorem offersFor_facts (p : ProbeId) (f : Facts) (q : Property) :
    (facts p f).offersFor q = (f.findings.filter (·.1 = q)).map (·.2) := by
  have hfindings : ∀ l : List (Property × Finding),
      (l.map fun x => Write.finding x.1 x.2).flatMap (Write.offersFor q)
        = (l.filter (·.1 = q)).map (·.2) := by
    intro l
    induction l with
    | nil => rfl
    | cons x l ih =>
        rw [List.map_cons, List.flatMap_cons, ih]
        by_cases hx : x.1 = q <;> simp [Write.offersFor, Write.offers, hx]
  simp only [offersFor, facts, List.flatMap_append, hfindings]
  cases f.versions <;> cases f.extensions <;>
    simp [Write.offersFor, Write.offers]

theorem verdict?_facts (p : ProbeId) (f : Facts) (q : Property) :
    (facts p f).verdict? q = f.verdict? q := by
  rw [verdict?, offersFor_facts, Facts.verdict?]

/-- The values that facts add to the sets of a report. -/
theorem sets_facts (p : ProbeId) (f : Facts) :
    (facts p f).writes.filterMap Write.versions? = f.versions.toList
      ∧ (facts p f).writes.filterMap Write.extensions? = f.extensions.toList := by
  cases hv : f.versions <;> cases he : f.extensions <;>
    simp [facts, hv, he, Write.versions?, Write.extensions?, List.filterMap_cons]

/-- Facts can be read off their result, -/
theorem facts_inj {p p' : ProbeId} {f f' : Facts} (h : facts p f = facts p' f') : f = f' := by
  have hwrites : (facts p f).writes = (facts p' f').writes := congrArg writes h
  have hfindings : f.findings = f'.findings := by
    have hoffers : ∀ (p : ProbeId) (f : Facts),
        (facts p f).writes.flatMap Write.offers = f.findings := by
      intro p f
      cases hv : f.versions <;> cases he : f.extensions <;>
        simp [facts, hv, he, Write.offers, List.flatMap_append, List.flatMap_map]
    rw [← hoffers p f, hwrites, hoffers]
  have hversions : f.versions = f'.versions := by
    ext1 l
    have hmem : l ∈ f.versions.toList ↔ l ∈ f'.versions.toList := by
      rw [← (sets_facts p f).1, hwrites, (sets_facts p' f').1]
    simpa using hmem
  have hextensions : f.extensions = f'.extensions := by
    ext1 l
    have hmem : l ∈ f.extensions.toList ↔ l ∈ f'.extensions.toList := by
      rw [← (sets_facts p f).2, hwrites, (sets_facts p' f').2]
    simpa using hmem
  have hdata : f.data = f'.data := by
    have hlast := congrArg List.getLast? hwrites
    simp only [facts, List.getLast?_append, List.getLast?_singleton, Option.some_or,
      Option.some.injEq, Write.record.injEq, Record.executed, Record.mk.injEq] at hlast
    exact hlast.2.2.2
  obtain ⟨_, _, _, _⟩ := f
  obtain ⟨_, _, _, _⟩ := f'
  cases hfindings
  cases hversions
  cases hextensions
  cases hdata
  rfl

/-- and the result of a failure is no facts. -/
theorem failure_ne_facts {p p' : ProbeId} {l : List Property} {k : FailureKind} {m : String}
    {f : Facts} : failure p l k m ≠ facts p' f := by
  intro h
  have hlast := congrArg (fun x => x.writes.getLast?) h
  simp only [failure, facts, List.getLast?_append, List.getLast?_singleton] at hlast
  cases hlast

end ProbeResult

namespace Facts

/-- The conclusive finding that facts leave is one of theirs, -/
theorem mem_of_verdict? {f : Facts} {q : Property} {v : Finding} (h : f.verdict? q = some v) :
    (q, v) ∈ f.findings := by
  have hmem := List.mem_of_getLast? h
  obtain ⟨x, hx, rfl⟩ := List.mem_map.mp (List.mem_filter.mp hmem).1
  obtain ⟨hfinding, hq⟩ := List.mem_filter.mp hx
  rw [← of_decide_eq_true hq]
  exact hfinding

/-- and there is one if any of theirs is conclusive. -/
theorem isSome_verdict? {f : Facts} {q : Property} {v : Finding} (h : (q, v) ∈ f.findings)
    (hv : v.isConclusive = true) : (f.verdict? q).isSome = true := by
  have hmem : v ∈ ((f.findings.filter (·.1 = q)).map (·.2)).filter Finding.isConclusive := by
    refine List.mem_filter.mpr ⟨?_, hv⟩
    exact List.mem_map.mpr ⟨(q, v), List.mem_filter.mpr ⟨h, decide_eq_true rfl⟩, rfl⟩
  rw [verdict?, List.getLast?_eq_some_getLast (List.ne_nil_of_mem hmem)]
  rfl

end Facts

namespace Report

/-! ## Accepted merges -/

/-- The conclusive finding of a property, if there is one. -/
def verdict? (r : Report) (q : Property) : Option Finding :=
  (r.finding? q).filter Finding.isConclusive

theorem difference_eq_nil_iff {α : Type} [Vocabulary α] {s t : Selection α} :
    (s.difference t).toList = [] ↔ ∀ a, s.contains a = true → t.contains a = true := by
  simp [List.eq_nil_iff_forall_not_mem]

/-- **When nothing is wrong with a report that a result was written to.** -/
theorem mergeFault?_eq_none_iff {d : Declaration} {r : Report} :
    mergeFault? d r = none
      ↔ r.hasRecord d.probe = true
        ∧ (∀ q, r.journal.properties.contains q = true ↔ q ∈ d.properties)
        ∧ (∀ t, r.journal.factSets.contains t = true → d.contributions.contains t = true)
        ∧ (r.isExecuted d.probe = true →
            ∀ t, d.contributions.contains t = true → r.journal.factSets.contains t = true) := by
  have hprops : ∀ q, d.propertySet.contains q = true ↔ q ∈ d.properties := by
    simp [Declaration.propertySet]
  constructor
  · intro h
    -- The checks in their order; each has to find nothing for the next one to be made.
    unfold mergeFault? at h
    split at h
    · rename_i hrec
      unfold journalFault? at h
      split at h
      · cases h
      · rename_i hundeclared
        split at h
        · cases h
        · rename_i hmissing
          split at h
          · cases h
          · rename_i hset
            rw [difference_eq_nil_iff] at hundeclared hmissing hset
            refine ⟨hrec, fun q => ⟨fun hq => (hprops q).mp (hundeclared q hq),
              fun hq => hmissing q ((hprops q).mpr hq)⟩, hset, fun hx => ?_⟩
            rw [← difference_eq_nil_iff]
            rw [hx] at h
            cases hl : (d.contributions.difference r.journal.factSets).toList with
            | nil => rfl
            | cons t l => simp [hl] at h
    · cases h
  · rintro ⟨hrec, hq, hset, hexec⟩
    have hundeclared : (r.journal.properties.difference d.propertySet).toList = [] :=
      difference_eq_nil_iff.mpr fun q hj => (hprops q).mpr ((hq q).mp hj)
    have hmissing : (d.propertySet.difference r.journal.properties).toList = [] :=
      difference_eq_nil_iff.mpr fun q hd => (hq q).mpr ((hprops q).mp hd)
    have hsets : (r.journal.factSets.difference d.contributions).toList = [] :=
      difference_eq_nil_iff.mpr hset
    simp only [mergeFault?, journalFault?, hrec, if_true, hundeclared, hmissing, hsets]
    cases hx : r.isExecuted d.probe with
    | false => rfl
    | true => rw [difference_eq_nil_iff.mpr (hexec hx)]

/-- **What an accepted merge is**: the identity is right, the list of writes goes
through, and nothing is wrong with what it leaves. -/
theorem merge_eq_ok_iff {r r' : Report} {d : Declaration} {x : ProbeResult} :
    r.merge d x = .ok r'
      ↔ x.identity = d.probe
        ∧ ∃ s, r.clearJournal.writeAll x.writes = (s, none) ∧ mergeFault? d s = none
          ∧ r' = s.clearJournal := by
  unfold merge
  by_cases hid : x.identity = d.probe
  · rw [if_neg (not_not.mpr hid)]
    constructor
    · intro h
      split at h
      · cases h
      · rename_i s hs
        split at h
        · cases h
        · rename_i hfault
          exact ⟨hid, s, hs, hfault, (Except.ok.inj h).symm⟩
    · rintro ⟨-, s, hs, hfault, rfl⟩
      simp only [hs, hfault]
  · simp [hid]

variable {r r' : Report} {d : Declaration} {x : ProbeResult}

/-- What an accepted merge has written. -/
theorem written_of_merge (h : r.merge d x = .ok r') :
    x.identity = d.probe
      ∧ ∃ s, r.clearJournal.writeAll x.writes = (s, none) ∧ mergeFault? d s = none
        ∧ r' = s.clearJournal :=
  merge_eq_ok_iff.mp h

/-- **An accepted merge takes in what its result writes.** -/
theorem takes_merge (h : r.merge d x = .ok r') : r.Takes x.writes r' := by
  obtain ⟨-, s, hs, -, rfl⟩ := written_of_merge h
  -- The journal, which is cleared before and after, is none of what is taken in.
  obtain ⟨hkept, hfiled, hrecorded, hfindings, hversions, hextensions⟩ := takes_writeAll hs
  exact ⟨hkept, hfiled, hrecorded, hfindings, hversions, hextensions⟩

/-- An accepted merge leaves a record for its probe. -/
theorem hasRecord_of_merge (h : r.merge d x = .ok r') : r'.hasRecord d.probe = true := by
  obtain ⟨-, s, -, hfault, rfl⟩ := written_of_merge h
  exact (mergeFault?_eq_none_iff.mp hfault).1

/-- **No merge changes a record that is there.** -/
theorem get?_merge (h : r.merge d x = .ok r') {p : ProbeId} {rec : Record}
    (hp : r.records.get? p = some rec) : r'.records.get? p = some rec :=
  (takes_merge h).kept p rec hp

theorem filed_merge (h : r.merge d x = .ok r') (hr : r.Filed) : r'.Filed :=
  (takes_merge h).filed_of_filed hr

/-- **An accepted result of its own adds its probe to those with a record.** -/
theorem hasRecord_merge_own (h : r.merge d x = .ok r') (hown : x.OwnRecords)
    (p : ProbeId) : r'.hasRecord p = true ↔ r.hasRecord p = true ∨ p = d.probe := by
  have hmem := (takes_merge h).recorded p
  constructor
  · intro hp
    exact (hmem.mp hp).imp_right fun hw => (hown p hw).trans (written_of_merge h).1
  · rintro (hp | rfl)
    · exact hmem.mpr (Or.inl hp)
    · exact hasRecord_of_merge h

/-- **A merged verdict replaces the old one**; without one, the old one stays. -/
theorem verdict?_merge (h : r.merge d x = .ok r') (q : Property) :
    r'.verdict? q = (x.verdict? q).or (r.verdict? q) := by
  unfold verdict?
  rw [(takes_merge h).findings, Finding.filter_settleAll]
  rfl

/-- **An accepted result offers a finding for exactly what was declared.** -/
theorem offersFor_eq_nil_iff (h : r.merge d x = .ok r') (q : Property) :
    x.offersFor q = [] ↔ q ∉ d.properties := by
  obtain ⟨-, s, hs, hfault, -⟩ := written_of_merge h
  -- The journal was cleared before the merge, so it notes the offers, which were declared.
  have hnoted : q ∈ (x.writes.flatMap Write.offers).map (·.1) ↔ q ∈ d.properties := by
    rw [← (mergeFault?_eq_none_iff.mp hfault).2.1 q]
    exact (((notes_writeAll hs).properties q).trans (or_iff_right nofun)).symm
  rw [← hnoted]
  simp only [ProbeResult.offersFor, Write.offersFor, List.flatMap_eq_nil_iff,
    List.map_eq_nil_iff, List.filter_eq_nil_iff, List.mem_map, List.mem_flatMap,
    decide_eq_true_eq, not_exists, not_and]
  constructor
  · rintro h o ⟨w, hw, ho⟩
    exact h w hw o ho
  · intro h w hw o ho
    exact h o ⟨w, hw, ho⟩

/-- The findings that an accepted result offers are settled after the old ones. -/
theorem finding?_merge (h : r.merge d x = .ok r') (q : Property) :
    r'.finding? q = Finding.settleAll (r.finding? q) (x.offersFor q) :=
  (takes_merge h).findings q

/-- **An accepted merge leaves a finding for what was declared**, besides those that there
were. -/
theorem isSome_finding?_merge (h : r.merge d x = .ok r') (q : Property) :
    (r'.finding? q).isSome = true ↔ (r.finding? q).isSome = true ∨ q ∈ d.properties := by
  rw [finding?_merge h, Finding.isSome_settleAll, ne_eq, offersFor_eq_nil_iff h, not_not]

/-- An accepted merge adds to the sets what its result names. -/
theorem sets_merge (h : r.merge d x = .ok r') :
    r'.versions = Selection.enlarge r.versions (x.writes.filterMap Write.versions?)
      ∧ r'.extensions
        = Selection.enlarge r.extensions (x.writes.filterMap Write.extensions?) :=
  ⟨(takes_merge h).versions, (takes_merge h).extensions⟩

/-! ## The stock results are accepted -/

/-- A result that files the one record of its probe, and offers exactly what was
declared, is accepted as long as the probe has no record. -/
theorem merge_succeeds (hid : x.identity = d.probe)
    (hgive : x.writes.filterMap Write.refusal? = [])
    (hrec : x.writes.filterMap Write.identity? = [d.probe])
    (hfree : r.hasRecord d.probe = false)
    (hprops : ∀ q, q ∈ (x.writes.flatMap Write.offers).map (·.1) ↔ q ∈ d.properties)
    (hsets : ∀ t ∈ x.writes.filterMap Write.factSet?, d.contributions.contains t = true)
    (hexec : ∀ s, r.clearJournal.writeAll x.writes = (s, none) →
      s.isExecuted d.probe = true → ∀ t, d.contributions.contains t = true →
        t ∈ x.writes.filterMap Write.factSet?) :
    ∃ r', r.merge d x = .ok r' := by
  obtain ⟨s, hs⟩ : ∃ s, r.clearJournal.writeAll x.writes = (s, none) := by
    refine writeAll_succeeds hgive ?_ ?_
    · rw [hrec]
      simp
    · intro p hp
      rw [hrec, List.mem_singleton] at hp
      rw [hp]
      exact hfree
  obtain ⟨hj, hjs⟩ := notes_writeAll hs
  refine ⟨s.clearJournal, merge_eq_ok_iff.mpr ⟨hid, s, hs, ?_, rfl⟩⟩
  -- The journal was cleared before the first write, so it holds what the result offers.
  refine mergeFault?_eq_none_iff.mpr ⟨?_, fun q => ?_, fun t ht => ?_, fun hx t ht => ?_⟩
  · exact ((takes_writeAll hs).recorded d.probe).mpr (Or.inr (by rw [hrec]; simp))
  · rw [hj q, hprops q]
    simp [clearJournal, Journal.empty]
  · rcases (hjs t).mp ht with h | h
    · cases h
    · exact hsets t h
  · exact (hjs t).mpr (Or.inr (hexec s hs hx t ht))

/-- The record of a failed probe says so. -/
theorem records_merge_failure {p : ProbeId} {l : List Property} {k : FailureKind}
    {m : String} (h : r.merge d (.failure p l k m) = .ok r') :
    r'.records = r.records.insert p (.error p (k.details m)) := by
  obtain ⟨-, s, hs, -, rfl⟩ := written_of_merge h
  exact records_writeAll_concat hs (by simp [Write.identity?])

/-- The record of facts says that the probe was executed. -/
theorem records_merge_facts {p : ProbeId} {f : Facts}
    (h : r.merge d (.facts p f) = .ok r') :
    r'.records = r.records.insert p (.executed p f.data) := by
  obtain ⟨-, s, hs, -, rfl⟩ := written_of_merge h
  refine records_writeAll_concat hs ?_
  cases f.versions <;> cases f.extensions <;>
    simp [Write.identity?, List.filterMap_cons]

theorem merge_diagnosed_eq (r : Report) (d : Declaration) (p : ProbeId) (l : List Property)
    (q : Requirement) : r.merge d (.diagnosed p l q)
      = r.merge d (.notExecuted p l (q.reason r.clearJournal)) := by
  unfold merge
  rw [writeAll_diagnosed]
  rfl

/-- The record of a probe that was not executed gives the reasons that the report
showed before. -/
theorem records_merge_diagnosed {p : ProbeId} {l : List Property} {q : Requirement}
    (h : r.merge d (.diagnosed p l q) = .ok r') :
    r'.records = r.records.insert p (.notExecuted p (q.reason r.clearJournal)) := by
  rw [merge_diagnosed_eq] at h
  obtain ⟨-, s, hs, -, rfl⟩ := written_of_merge h
  exact records_writeAll_concat hs (by simp [Write.identity?])

/-- What is executed has a record. -/
theorem hasRecord_of_isExecuted {p : ProbeId} (h : r.isExecuted p = true) :
    r.hasRecord p = true := by
  unfold isExecuted at h
  split at h
  · rename_i rec hrec
    exact hasRecord_iff.mpr ⟨rec, hrec⟩
  · cases h

theorem isExecuted_insert (p k : ProbeId) (rec : Record)
    (h : r'.records = r.records.insert p rec) :
    r'.isExecuted k
      = if k = p then decide (rec.status = .executed) else r.isExecuted k := by
  unfold isExecuted
  rw [h, Table.get?_insert]
  by_cases hk : k = p
  · rw [if_pos hk, if_pos hk]
  · rw [if_neg hk, if_neg hk]

/-- **A result without facts is accepted**, whatever was declared: it offers one finding for
all that was declared, and files a record of no execution. -/
theorem merge_without_facts {v : Finding} {rec : Record} (hprobe : rec.probe = d.probe)
    (hstatus : rec.status ≠ .executed) (hfree : r.hasRecord d.probe = false) :
    ∃ r', r.merge d ⟨d.probe,
      d.properties.map (fun q => .finding q v) ++ [.record rec]⟩ = .ok r' := by
  have hsets : (d.properties.map (fun q => Write.finding q v)
      ++ [Write.record rec]).filterMap Write.factSet? = [] := by
    simp [Write.factSet?]
  refine merge_succeeds rfl ?_ ?_ hfree ?_ ?_ ?_
  · simp [Write.refusal?]
  · simp [Write.identity?, Function.comp_def, hprobe]
  · intro q
    simp [Write.offers, List.flatMap_append, List.flatMap_map]
  · rw [hsets]
    exact List.forall_mem_nil _
  · -- Its probe is not executed, so it owes no values.
    intro s hs hx
    have hrec : s.records = r.clearJournal.records.insert rec.probe rec :=
      records_writeAll_concat hs (by simp [Write.identity?])
    rw [isExecuted_insert _ _ _ hrec, if_pos hprobe.symm] at hx
    exact absurd (of_decide_eq_true hx) hstatus

/-- **The substitute of a failed probe is accepted**, whatever was declared. -/
theorem merge_failure (k : FailureKind) (m : String)
    (hfree : r.hasRecord d.probe = false) :
    ∃ r', r.merge d (.failure d.probe d.properties k m) = .ok r' :=
  merge_without_facts rfl (show Status.error ≠ .executed by decide) hfree

/-- So is that of a probe that was not executed, for a given reason, -/
theorem merge_notExecuted (reason : String) (hfree : r.hasRecord d.probe = false) :
    ∃ r', r.merge d (.notExecuted d.probe d.properties reason) = .ok r' :=
  merge_without_facts rfl (show Status.notExecuted ≠ .executed by decide) hfree

/-- and for the reasons that the report shows. -/
theorem merge_diagnosed (q : Requirement) (hfree : r.hasRecord d.probe = false) :
    ∃ r', r.merge d (.diagnosed d.probe d.properties q) = .ok r' := by
  rw [merge_diagnosed_eq]
  exact merge_notExecuted _ hfree

/-- **Conforming facts are accepted.** -/
theorem merge_facts {f : Facts} (hf : f.Conforms d) (hfree : r.hasRecord d.probe = false) :
    ∃ r', r.merge d (.facts d.probe f) = .ok r' := by
  have hset : ∀ t, t ∈ (ProbeResult.facts d.probe f).writes.filterMap Write.factSet?
      ↔ d.contributions.contains t = true := by
    intro t
    have hv := hf.versions
    have he := hf.extensions
    cases hfv : f.versions <;> cases hfe : f.extensions <;> cases t <;>
      simp_all [ProbeResult.facts, Write.factSet?]
  refine merge_succeeds rfl ?_ (ProbeResult.identities_facts ..) hfree ?_ ?_ ?_
  · cases hfv : f.versions <;> cases hfe : f.extensions <;>
      simp [ProbeResult.facts, hfv, hfe, Write.refusal?]
  · intro q
    rw [← hf.properties q]
    cases hfv : f.versions <;> cases hfe : f.extensions <;>
      simp [ProbeResult.facts, hfv, hfe, Write.offers, List.flatMap_append, List.flatMap_map]
  · exact fun t ht => (hset t).mp ht
  · exact fun s _ _ t ht => (hset t).mpr ht

end Report

end TlsScan
