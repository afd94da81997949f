import TlsScan.Proofs.Report.Merging

/-!
# Which results are accepted

`Proofs.Report.Merging` shows that conforming facts are accepted while their probe has
no record.  This file has the converse: facts that are accepted conform, and their
place was free.  What keeps facts out is therefore known in full.

## Main Definitions

* `Facts.Violates` — the four ways in which facts break what was declared.

## Main Results

* `Report.merge_facts_iff` — facts are accepted exactly if the place of their probe is
  free and they go under its identity and conform.
* `Facts.violates_iff` — the ways to break a declaration are all there are.
-/

namespace TlsScan

namespace Report

variable {r r' : Report} {d : Declaration} {x : ProbeResult}

/-! ## Places that were free -/

/-- **A list that goes through files nothing where a record was.** -/
theorem hasRecord_eq_false_of_writeAll {l : List Write} (h : r.writeAll l = (r', none))
    {p : ProbeId} (hp : p ∈ l.filterMap Write.identity?) : r.hasRecord p = false := by
  induction l generalizing r with
  | nil => cases hp
  | cons w l ih =>
      obtain ⟨s, hw, hl⟩ := writeAll_cons.mp h
      rcases records_write hw with ⟨hnone, heq⟩ | ⟨rec, hsome, hfree, heq⟩
      · have hp' : p ∈ l.filterMap Write.identity? := by
          simpa [w.identity?_eq r, hnone] using hp
        have hs := ih hl hp'
        rwa [hasRecord, heq] at hs
      · -- The first write files a record, for this probe or for another one.
        have hid : w.identity? = some rec.probe := by
          rw [w.identity?_eq r, hsome]
          rfl
        rw [List.filterMap_cons, hid, List.mem_cons] at hp
        rcases hp with rfl | hp
        · exact hfree
        · have hs := ih hl hp
          rw [hasRecord, heq, Table.contains_insert, Bool.or_eq_false_iff] at hs
          exact hs.2

/-- An accepted result files nothing where a record was. -/
theorem hasRecord_eq_false_of_merge (h : r.merge d x = .ok r') {p : ProbeId}
    (hp : p ∈ x.writes.filterMap Write.identity?) : r.hasRecord p = false := by
  obtain ⟨-, s, hs, -, -⟩ := written_of_merge h
  have hfree := hasRecord_eq_false_of_writeAll hs hp
  exact hfree

/-- An accepted result goes under the identity of its probe. -/
theorem identity_of_merge (h : r.merge d x = .ok r') : x.identity = d.probe :=
  (written_of_merge h).1

end Report

/-! ## Facts -/

/-- The properties that facts offer a finding for. -/
theorem ProbeResult.offers_facts (p : ProbeId) (f : Facts) (q : Property) :
    q ∈ ((facts p f).writes.flatMap Write.offers).map (·.1) ↔ q ∈ f.findings.map (·.1) := by
  cases hv : f.versions <;> cases he : f.extensions <;>
    simp [facts, hv, he, Write.offers, List.flatMap_append, List.flatMap_map]

/-- The sets that facts add to. -/
theorem ProbeResult.factSets_facts (p : ProbeId) (f : Facts) :
    (FactSet.versions ∈ (facts p f).writes.filterMap Write.factSet?
        ↔ f.versions.isSome = true)
      ∧ (FactSet.extensions ∈ (facts p f).writes.filterMap Write.factSet?
        ↔ f.extensions.isSome = true) := by
  cases hv : f.versions <;> cases he : f.extensions <;>
    simp [facts, hv, he, Write.factSet?]

namespace Report

variable {r r' : Report} {d : Declaration} {i : ProbeId} {f : Facts}

/-- **Facts that are accepted conform.** -/
theorem conforms_of_merge (h : r.merge d (.facts i f) = .ok r') : f.Conforms d := by
  have hrecords := records_merge_facts h
  obtain ⟨hid, s, hs, hfault, rfl⟩ := written_of_merge h
  obtain ⟨hprops, hsets⟩ := notes_writeAll hs
  obtain ⟨-, hdeclared, hunder, hover⟩ := mergeFault?_eq_none_iff.mp hfault
  -- The probe counts as executed, so it owes every set that it declared.
  have hexec : s.clearJournal.isExecuted d.probe = true := by
    rw [isExecuted_insert i d.probe _ hrecords, if_pos (show d.probe = i from hid.symm)]
    rfl
  have hset : ∀ t, t ∈ (ProbeResult.facts i f).writes.filterMap Write.factSet?
      ↔ d.contributions.contains t = true := by
    intro t
    have hjournal : s.journal.factSets.contains t = true
        ↔ t ∈ (ProbeResult.facts i f).writes.filterMap Write.factSet? :=
      (hsets t).trans (or_iff_right nofun)
    rw [← hjournal]
    exact ⟨hunder t, hover hexec t⟩
  refine ⟨fun q => ?_, ?_, ?_⟩
  · rw [← ProbeResult.offers_facts i f q, ← hdeclared q]
    exact ((hprops q).trans (or_iff_right nofun)).symm
  · rw [Bool.eq_iff_iff, ← hset .versions]
    exact (ProbeResult.factSets_facts i f).1.symm
  · rw [Bool.eq_iff_iff, ← hset .extensions]
    exact (ProbeResult.factSets_facts i f).2.symm

/-- **Facts are accepted exactly if** the place of their probe is free, they go under its
identity, and they conform. -/
theorem merge_facts_iff : (∃ r', r.merge d (.facts i f) = .ok r')
    ↔ r.hasRecord d.probe = false ∧ i = d.probe ∧ f.Conforms d := by
  constructor
  · rintro ⟨r', h⟩
    have hid : i = d.probe := identity_of_merge h
    refine ⟨hasRecord_eq_false_of_merge h ?_, hid, conforms_of_merge h⟩
    rw [ProbeResult.identities_facts, hid]
    exact List.mem_singleton_self _
  · rintro ⟨hfree, rfl, hf⟩
    exact merge_facts hf hfree

end Report

/-- **How facts break a declaration.** -/
inductive Facts.Violates (d : Declaration) (i : ProbeId) (f : Facts) : Prop
  /-- They go under another identity. -/
  | identity (h : i ≠ d.probe)
  /-- The properties they write are not those that were declared. -/
  | properties (q : Property) (h : ¬ (q ∈ f.findings.map (·.1) ↔ q ∈ d.properties))
  /-- They have versions without having declared it, or the other way round. -/
  | versions (h : f.versions.isSome ≠ d.contributions.contains .versions)
  /-- They have extensions without having declared it, or the other way round. -/
  | extensions (h : f.extensions.isSome ≠ d.contributions.contains .extensions)

/-- There are no other ways. -/
theorem Facts.violates_iff {d : Declaration} {i : ProbeId} {f : Facts} :
    f.Violates d i ↔ ¬ (i = d.probe ∧ f.Conforms d) := by
  constructor
  · rintro (h | ⟨q, h⟩ | h | h) ⟨hid, hf⟩
    · exact h hid
    · exact h (hf.properties q)
    · exact h hf.versions
    · exact h hf.extensions
  · intro h
    by_contra hnone
    refine h ⟨?_, fun q => ?_, ?_, ?_⟩
    · exact by_contra fun hid => hnone (.identity hid)
    · exact by_contra fun hq => hnone (.properties q hq)
    · exact by_contra fun hv => hnone (.versions hv)
    · exact by_contra fun he => hnone (.extensions he)

end TlsScan
