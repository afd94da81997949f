import TlsScan.Proofs.Report.Ownership
import TlsScan.Proofs.Requirement.SameFacts

/-!
# What the validation of a merge lets through

A merge holds what a result has written against what its probe declared.  For the results
that come with the library this validation is exact.  Facts under the identity of their probe
get through if they are what was declared and the place of their record is free, and not
otherwise; a result that stands in for a probe is made of what was declared, so for it a free
place is all that counts.  What was written to the report before makes no difference, even if
nobody has taken the journal since.

A result that gets through changes nothing but what is its own: its record, the properties
that were declared and, if it has facts, the sets that were declared.

## Main Definitions

* `StandIn` — a result that is made of a declaration alone.
* `Report.ChangesOnly` — two reports differ at most where a declaration allows it.

## Main Results

* `Report.merge_standIn_iff` — when a stand-in is accepted.
* `Report.changesOnly_of_merge` — what an accepted result leaves as it was.
* `Report.validation_is_exact` — which facts and stand-ins are accepted, and what they change.
-/

namespace TlsScan

/-! ## Stand-ins -/

/-- **A result that is made of a declaration alone**, because its probe failed or was not
executed. -/
inductive StandIn where
  | failure (kind : FailureKind) (message : String)
  | notExecuted (reason : String)
  | diagnosed (requirement : Requirement)

namespace StandIn

/-- The result: its identity and its properties are those that were declared. -/
def result (d : Declaration) : StandIn → ProbeResult
  | failure kind message => .failure d.probe d.properties kind message
  | notExecuted reason => .notExecuted d.probe d.properties reason
  | diagnosed requirement => .diagnosed d.probe d.properties requirement

theorem standsFor (d : Declaration) (s : StandIn) : (s.result d).StandsFor d.probe := by
  cases s with
  | failure kind message => exact .failure d.properties kind message
  | notExecuted reason => exact .notExecuted d.properties reason
  | diagnosed requirement => exact .diagnosed d.properties requirement

end StandIn

namespace Report

variable {r r' : Report} {d : Declaration} {x : ProbeResult}

/-- **A stand-in is accepted exactly if the place of its record is free.** -/
theorem merge_standIn_iff {s : StandIn} :
    (∃ r', r.merge d (s.result d) = .ok r') ↔ r.hasRecord d.probe = false := by
  constructor
  · rintro ⟨r', h⟩
    refine hasRecord_eq_false_of_merge h ?_
    rw [(s.standsFor d).identities]
    exact List.mem_singleton_self _
  · intro hfree
    cases s with
    | failure kind message => exact merge_failure kind message hfree
    | notExecuted reason => exact merge_notExecuted reason hfree
    | diagnosed requirement => exact merge_diagnosed requirement hfree

/-! ## Changes -/

/-- **Two reports differ at most where a declaration allows it.**  The second one has a new
record of the probe, and its journal is taken; other than that, only declared properties and
some of the sets may differ. -/
structure ChangesOnly (r : Report) (d : Declaration) (sets : Selection FactSet)
    (r' : Report) : Prop where
  records : r.GainsOnly d.probe r'
  findings : ∀ q, q ∉ d.properties → r'.finding? q = r.finding? q
  versions : sets.contains .versions = false → r'.versions = r.versions
  extensions : sets.contains .extensions = false → r'.extensions = r.extensions
  heading : r'.heading = r.heading
  journal : r'.journal = .empty

/-- No merge touches the heading. -/
theorem heading_merge (h : r.merge d x = .ok r') : r'.heading = r.heading := by
  obtain ⟨-, s, hs, -, rfl⟩ := written_of_merge h
  have hkept := heading_writeAll r.clearJournal x.writes
  rw [hs] at hkept
  exact hkept

/-- An accepted result adds to no set that was not declared. -/
theorem contributes_of_merge (h : r.merge d x = .ok r') :
    ∀ t ∈ x.writes.filterMap Write.factSet?, d.contributions.contains t = true := by
  intro t ht
  obtain ⟨-, s, hs, hfault, -⟩ := written_of_merge h
  obtain ⟨-, -, hunder, -⟩ := mergeFault?_eq_none_iff.mp hfault
  exact hunder t (((notes_writeAll hs).factSets t).mpr (Or.inr ht))

/-- It writes nothing at all that would be noted for such a set. -/
theorem filterMap_eq_nil_of_merge {α : Type} {f : Write → Option α} {t : FactSet}
    (h : r.merge d x = .ok r') (hnoted : ∀ w, (f w).isSome = true → w.factSet? = some t)
    (hset : d.contributions.contains t = false) : x.writes.filterMap f = [] := by
  refine List.filterMap_eq_nil_iff.mpr fun w hw => ?_
  by_contra hsome
  have hmem : t ∈ x.writes.filterMap Write.factSet? :=
    List.mem_filterMap.mpr ⟨w, hw, hnoted w (Option.isSome_iff_ne_none.mpr hsome)⟩
  exact absurd ((contributes_of_merge h t hmem).symm.trans hset) (by decide)

/-- **An accepted result that files the record of its probe and no other changes nothing but
what was declared.** -/
theorem changesOnly_of_merge (h : r.merge d x = .ok r') (hfiled : x.filed = [d.probe]) :
    r.ChangesOnly d d.contributions r' := by
  obtain ⟨hversions, hextensions⟩ := sets_merge h
  refine ⟨(gainsOnly_merge_iff h).mpr hfiled, fun q hq => ?_, fun hset => ?_, fun hset => ?_,
    heading_merge h, ?_⟩
  · rw [finding?_merge h, (offersFor_eq_nil_iff h q).mpr hq]
    rfl
  · have hnone : x.writes.filterMap Write.versions? = [] := by
      refine filterMap_eq_nil_of_merge h (fun w hw => ?_) hset
      cases w with
      | versions l => rfl
      | _ => cases hw
    rw [hversions, hnone]
    rfl
  · have hnone : x.writes.filterMap Write.extensions? = [] := by
      refine filterMap_eq_nil_of_merge h (fun w hw => ?_) hset
      cases w with
      | extensions l => rfl
      | _ => cases hw
    rw [hextensions, hnone]
    rfl
  · obtain ⟨-, s, -, -, rfl⟩ := written_of_merge h
    rfl

/-- Facts that are accepted change nothing but what was declared. -/
theorem changesOnly_of_facts {f : Facts} (h : r.merge d (.facts d.probe f) = .ok r') :
    r.ChangesOnly d d.contributions r' :=
  changesOnly_of_merge h (ProbeResult.identities_facts ..)

/-- A stand-in does not even change the sets. -/
theorem changesOnly_of_standIn {s : StandIn} (h : r.merge d (s.result d) = .ok r') :
    r.ChangesOnly d .empty r' := by
  have hsame := SameFacts.of_merge h (s.standsFor d).settlesNothing
  obtain ⟨hrecords, hfindings, -, -, hheading, hjournal⟩ :=
    changesOnly_of_merge h (s.standsFor d).identities
  exact ⟨hrecords, hfindings, fun _ => hsame.versions, fun _ => hsame.extensions, hheading,
    hjournal⟩

/-- **The validation of a merge is exact.**  Whatever was written to a report before, facts
under the identity of a probe are accepted exactly if the probe has no record yet and they
write the properties and the sets that it declared and no other; and what stands in for the
probe is accepted exactly if it has no record yet.  Of a report that has accepted facts,
nothing has changed but the record of the probe, the declared properties and the declared
sets, and of one that has accepted a stand-in, not even the sets. -/
theorem validation_is_exact (r : Report) (d : Declaration) :
    (∀ f, (∃ r', r.merge d (.facts d.probe f) = .ok r')
        ↔ r.hasRecord d.probe = false ∧ f.Conforms d)
      ∧ (∀ s : StandIn, (∃ r', r.merge d (s.result d) = .ok r')
        ↔ r.hasRecord d.probe = false)
      ∧ (∀ f r', r.merge d (.facts d.probe f) = .ok r' → r.ChangesOnly d d.contributions r')
      ∧ ∀ (s : StandIn) r', r.merge d (s.result d) = .ok r' → r.ChangesOnly d .empty r' := by
  refine ⟨fun f => ?_, fun s => merge_standIn_iff, fun f r' h => changesOnly_of_facts h,
    fun s r' h => changesOnly_of_standIn h⟩
  rw [merge_facts_iff]
  simp only [true_and]

namespace Sample

/-- A report that was written to, with a journal that nobody has taken. -/
def written : Report :=
  ((Report.new "sample" default).putFinding .supportsHeartbeat .holds).addExtensions [.alpn]

/-- A declaration that names a property twice. -/
def repetitive : Declaration where
  probe := .alpn
  requirement := .none
  properties := [.supportsRsa, .supportsDh, .supportsRsa]
  contributions := Selection.empty.insert .versions

/-- Facts about the same properties and, so far, no version. -/
def versionless : Facts where
  findings := [(.supportsDh, .timeout), (.supportsRsa, .fails), (.supportsDh, .holds)]
  versions := some []

theorem conforms_versionless : versionless.Conforms repetitive := by
  refine ⟨fun q => ?_, rfl, rfl⟩
  cases q <;> decide

end Sample

/-- They are accepted and leave the heartbeat alone; without the list of versions, they are
not. -/
theorem validation_is_exact_sample :
    (∃ r', Sample.written.merge Sample.repetitive (.facts .alpn Sample.versionless) = .ok r'
        ∧ r'.finding? .supportsHeartbeat = some .holds)
      ∧ (¬ ∃ r', Sample.written.merge Sample.repetitive
        (.facts .alpn { Sample.versionless with versions := none }) = .ok r')
      ∧ ∃ r', Sample.written.merge Sample.repetitive
          ((StandIn.failure .killed "late").result Sample.repetitive) = .ok r'
        ∧ r'.versions = none := by
  obtain ⟨hfacts, hstandIn, hchanges, hmarks⟩ :=
    validation_is_exact Sample.written Sample.repetitive
  refine ⟨?_, fun h => ?_, ?_⟩
  · obtain ⟨r', h⟩ := (hfacts Sample.versionless).mpr ⟨rfl, Sample.conforms_versionless⟩
    exact ⟨r', h, (hchanges _ r' h).findings .supportsHeartbeat (by decide)⟩
  · have hversions := ((hfacts _).mp h).2.versions
    cases hversions
  · obtain ⟨r', h⟩ := (hstandIn (.failure .killed "late")).mpr rfl
    exact ⟨r', h, (hmarks _ r' h).versions rfl⟩

end Report

end TlsScan
