import TlsScan.Proofs.Report.Acceptance

/-!
# Whose records a merge files

A merge goes through under the declaration of one probe, and what its result may write
is held against that declaration: the findings and the sets that it offers are noted in
the journal.  Records are not.  All that is asked of them is that the probe has one
afterwards, which it may have had before.

So a merge leaves every record as it was and files each new one in a free place, but the
new ones can be those of other probes, or there can be none at all.  It is the records
that a result names which decide: exactly if they are the one of the probe, the report
gains this record and no other.

## Main Definitions

* `ProbeResult.filed` — the identities that a result files records under.
* `Report.GainsOnly` — a report gains the record of one probe, and no other changes.

## Main Results

* `Report.gainsOnly_merge_iff` — an accepted result files the record of its probe and no
  other exactly if this is the one that it names.
* `Report.merge_records_iff` — all that an accepted result does to the records.
* `Report.merge_foreign` — a result that files a record for another probe, and one that
  files none, are both accepted.
-/

namespace TlsScan

/-- **The identities that a result files records under**, in order. -/
def ProbeResult.filed (x : ProbeResult) : List ProbeId := x.writes.filterMap Write.identity?

namespace Report

variable {r r' : Report} {d : Declaration} {x : ProbeResult}

/-- **A report gains the record of one probe**, which had none, and no other record is
added or changed. -/
def GainsOnly (r : Report) (p : ProbeId) (r' : Report) : Prop :=
  r.hasRecord p = false ∧ ∃ rec, rec.probe = p ∧ r'.records = r.records.insert p rec

/-! ## New records -/

/-- **A list that goes through files every identity at most once.** -/
theorem nodup_of_writeAll {l : List Write} (h : r.writeAll l = (r', none)) :
    (l.filterMap Write.identity?).Nodup := by
  induction l generalizing r with
  | nil => exact List.nodup_nil
  | cons w l ih =>
      obtain ⟨s, hw, hl⟩ := writeAll_cons.mp h
      cases hid : w.identity? with
      | none =>
          rw [List.filterMap_cons_none hid]
          exact ih hl
      | some p =>
          rw [List.filterMap_cons_some hid, List.nodup_cons]
          refine ⟨fun hp => ?_, ih hl⟩
          -- The place is taken after the first write, so no later one can file there.
          have htaken : s.hasRecord p = true := by
            have hfirst : r.writeAll [w] = (s, none) := writeAll_cons.mpr ⟨s, hw, rfl⟩
            refine ((takes_writeAll hfirst).recorded p).mpr (Or.inr ?_)
            rw [List.filterMap_cons_some hid]
            exact List.mem_cons_self
          have hfree : s.hasRecord p = false := hasRecord_eq_false_of_writeAll hl hp
          exact absurd (htaken.symm.trans hfree) (by decide)

/-- The identities with a record are the old ones and those that the result files. -/
theorem hasRecord_merge (h : r.merge d x = .ok r') (p : ProbeId) :
    r'.hasRecord p = true ↔ r.hasRecord p = true ∨ p ∈ x.filed := (takes_merge h).recorded p

/-- An accepted result files every identity at most once, -/
theorem nodup_filed_of_merge (h : r.merge d x = .ok r') : x.filed.Nodup := by
  obtain ⟨-, s, hs, -, -⟩ := written_of_merge h
  exact nodup_of_writeAll hs

/-- and a record that is new carries the identity that it is filed under. -/
theorem probe_of_merge (h : r.merge d x = .ok r') {p : ProbeId} {rec : Record}
    (hp : r'.records.get? p = some rec) (hfree : r.hasRecord p = false) : rec.probe = p := by
  rcases (takes_merge h).filed p rec hp with hold | hnew
  · have htaken : r.hasRecord p = true := hasRecord_iff.mpr ⟨rec, hold⟩
    exact absurd (htaken.symm.trans hfree) (by decide)
  · exact hnew

/-! ## The record of the probe -/

/-- **An accepted result files the record of its probe and no other exactly if this is the
one that it names.** -/
theorem gainsOnly_merge_iff (h : r.merge d x = .ok r') :
    r.GainsOnly d.probe r' ↔ x.filed = [d.probe] := by
  constructor
  · rintro ⟨hfree, rec, -, hrecords⟩
    have hgained : ∀ p, r'.hasRecord p = true ↔ p = d.probe ∨ r.hasRecord p = true := by
      intro p
      rw [hasRecord, hrecords, Table.contains_insert, Bool.or_eq_true, decide_eq_true_eq]
      rfl
    -- Both lists have no repetition, and the same members.
    have hmem : ∀ p, p ∈ x.filed ↔ p ∈ [d.probe] := by
      intro p
      rw [List.mem_singleton]
      constructor
      · intro hp
        have hnew : r.hasRecord p = false := hasRecord_eq_false_of_merge h hp
        have htaken := (hgained p).mp ((hasRecord_merge h p).mpr (Or.inr hp))
        exact htaken.resolve_right (by rw [hnew]; decide)
      · rintro rfl
        have htaken := (hasRecord_merge h d.probe).mp (hasRecord_of_merge h)
        exact htaken.resolve_left (by rw [hfree]; decide)
    have hperm : x.filed.Perm [d.probe] :=
      (List.perm_ext_iff_of_nodup (nodup_filed_of_merge h) (List.nodup_cons.mpr (by simp))).mpr
        hmem
    exact List.perm_singleton.mp hperm
  · intro hfiled
    have hfree : r.hasRecord d.probe = false := by
      refine hasRecord_eq_false_of_merge h ?_
      show d.probe ∈ x.filed
      rw [hfiled]
      exact List.mem_singleton_self _
    obtain ⟨rec, hrec⟩ := hasRecord_iff.mp (hasRecord_of_merge h)
    refine ⟨hfree, rec, probe_of_merge h hrec hfree, ?_⟩
    ext1 p
    rw [Table.get?_insert]
    split
    · rename_i hp
      rw [hp, hrec]
    · rename_i hp
      cases hold : r.records.get? p with
      | some old => exact get?_merge h hold
      | none =>
          -- It had no record, and none is filed for it.
          have hnone : ¬ r'.hasRecord p = true := by
            rw [hasRecord_merge h, hfiled, List.mem_singleton, hasRecord_iff, hold]
            simp [hp]
          rw [hasRecord, Table.contains, Option.not_isSome_iff_eq_none] at hnone
          exact hnone

/-- **What an accepted result does to the records.**  Those that were there stay as they
were, each identity that the result files gets one in a place that was free, and nobody
else does; afterwards the probe has one.  So the report gains the record of the probe and
no other exactly if the result names this record and no other. -/
theorem merge_records_iff (h : r.merge d x = .ok r') :
    (∀ p rec, r.records.get? p = some rec → r'.records.get? p = some rec)
      ∧ (∀ p, r'.hasRecord p = true ↔ r.hasRecord p = true ∨ p ∈ x.filed)
      ∧ (∀ p ∈ x.filed, r.hasRecord p = false) ∧ x.filed.Nodup
      ∧ r'.hasRecord d.probe = true
      ∧ (r.GainsOnly d.probe r' ↔ x.filed = [d.probe]) := by
  refine ⟨fun p rec hp => get?_merge h hp, hasRecord_merge h, fun p hp => ?_,
    nodup_filed_of_merge h, hasRecord_of_merge h, gainsOnly_merge_iff h⟩
  exact hasRecord_eq_false_of_merge h hp

/-! ## Records of other probes -/

/-- The empty report of the sample. -/
def Sample.blank : Report := .new "sample" default

/-- A result that files a record for another probe beside its own. -/
def Sample.generous : ProbeResult :=
  ⟨.protocolVersion, [.record (.executed .protocolVersion .null),
    .record (.executed .cipherSuite .null)]⟩

/-- The report after it. -/
def Sample.crowded : Report :=
  { Sample.blank with records := (Sample.blank.records.insert .protocolVersion
      (.executed .protocolVersion .null)).insert .cipherSuite (.executed .cipherSuite .null) }

/-- A result that files nothing. -/
def Sample.silent : ProbeResult := ⟨.cipherSuite, []⟩

theorem Sample.merge_generous :
    Sample.blank.merge (.bare .protocolVersion) Sample.generous = .ok Sample.crowded := by
  decide +kernel

theorem Sample.merge_silent :
    Sample.crowded.merge (.bare .cipherSuite) Sample.silent = .ok Sample.crowded := by
  decide +kernel

/-- A result that names its own record alone: the facts of a probe that has found nothing. -/
theorem merge_records_iff_sample : ∃ r',
    Sample.blank.merge (.bare .alpn) (.facts .alpn {}) = .ok r'
      ∧ Sample.blank.GainsOnly .alpn r' := by
  obtain ⟨r', h⟩ : ∃ r', Sample.blank.merge (.bare .alpn) (.facts .alpn {}) = .ok r' :=
    merge_facts (d := .bare .alpn) ⟨fun q => Iff.rfl, rfl, rfl⟩ rfl
  obtain ⟨-, -, -, -, -, hgains⟩ := merge_records_iff h
  exact ⟨r', h, hgains.mpr rfl⟩

/-- **It is not only the record of the probe that is filed.**  A result is accepted although
it files a record for another probe too.  After that the result of the other probe is
accepted although it files none. -/
theorem merge_foreign :
    Sample.blank.merge (.bare .protocolVersion) Sample.generous = .ok Sample.crowded
      ∧ ¬ Sample.blank.GainsOnly .protocolVersion Sample.crowded
      ∧ Sample.crowded.merge (.bare .cipherSuite) Sample.silent = .ok Sample.crowded
      ∧ ¬ Sample.crowded.GainsOnly .cipherSuite Sample.crowded := by
  refine ⟨Sample.merge_generous, fun h => ?_, Sample.merge_silent, fun h => ?_⟩
  · have hfiled := (gainsOnly_merge_iff Sample.merge_generous).mp h
    cases hfiled
  · have hfiled := (gainsOnly_merge_iff Sample.merge_silent).mp h
    cases hfiled

end Report

end TlsScan
