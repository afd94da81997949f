import TlsScan.Proofs.Scan.Eligibility
import TlsScan.Proofs.Scan.Provenance

/-!
# Probes that can never run

Some probes cannot run whatever a scan finds out, and the declarations alone show it: they
ask, outside of any choice, for something that nothing in the set provides, or for a probe
of which this is true.  The set is admitted nevertheless, with a warning.  No merge puts
anything into a report that was not declared, so such a probe is unready on every report of
a scan, and is left over.

## Main Definitions

* `Requirement.Lacks` — something is asked for in any case that no declaration provides.
* `ProbeSet.Doomed` — a declaration lacks something, or waits for one that does.

## Main Results

* `ProbeSet.warned_of_doomed` — a set with a doomed member is warned of.
* `Scan.Passes.ready_of_handedOut` — what was handed out was ready at some point.
* `Scan.doomed_never_run` — doomed probes are never handed out and end as not executed.
-/

namespace TlsScan

/-! ## What a set of declarations shows -/

/-- **A requirement lacks something in a set of declarations**: outside of its alternatives
and its exclusion it asks for a probe that is no member, for a property that no member
writes, or for a set that no member adds to. -/
inductive Requirement.Lacks (l : List Declaration) (q : Requirement) : Prop
  | probe (p : ProbeId) (hp : p ∈ q.requiredProbes) (hnone : ∀ d ∈ l, d.probe ≠ p)
  | property (k : Property) (hk : k ∈ q.properties.getD [] ∨ k ∈ q.propertiesNot.getD [])
      (hnone : ∀ d ∈ l, k ∉ d.properties)
  | versions (hv : q.versions.isSome = true)
      (hnone : ∀ d ∈ l, d.contributions.contains .versions = false)
  | extensions (he : q.extensions.isSome = true)
      (hnone : ∀ d ∈ l, d.contributions.contains .extensions = false)

/-- **A declaration is doomed in a set** if its requirement lacks something there, or it asks
in any case for a member that is doomed. -/
inductive ProbeSet.Doomed (l : List Declaration) : Declaration → Prop
  | lacks {d : Declaration} (h : d.requirement.Lacks l) : Doomed l d
  | needs {d e : Declaration} (he : e ∈ l) (hdoomed : Doomed l e)
      (hneeds : e.probe ∈ d.dependencies) : Doomed l d

namespace ProbeSet

variable {l : List Declaration} {d : Declaration}

/-- A warning about nothing is none. -/
theorem warningAbout_eq_nil_iff {what : String} {names : List String} :
    warningAbout d what names = [] ↔ names = [] := by
  unfold warningAbout
  cases names <;> simp

/-- **Whatever a requirement lacks is warned of.** -/
theorem warningsOf_ne_nil (h : d.requirement.Lacks l) : warningsOf l d ≠ [] := by
  intro hnil
  simp only [warningsOf, List.append_eq_nil_iff, warningAbout_eq_nil_iff,
    List.map_eq_nil_iff] at hnil
  simp only [List.eq_nil_iff_forall_not_mem, Selection.mem_toList, Selection.contains_ofList,
    Selection.contains_difference] at hnil
  obtain ⟨⟨hprobes, hproperties⟩, hsets⟩ := hnil
  -- Nothing is provided of a set that nobody contributes to.
  have hprovided : ∀ t, (∀ e ∈ l, e.contributions.contains t = false) →
      d.requirement.references t = true → False := by
    intro t hnone hreferences
    refine hsets t ?_
    show (d.requirement.references t && !l.any fun e => e.contributions.contains t) = true
    simpa [hreferences] using hnone
  obtain ⟨probe, ⟨probes, properties, propertiesNot, versions, extensions, alternatives,
    excluded⟩, written, sets⟩ := d
  cases h with
  | probe p hp hnone =>
      refine hprobes p (List.contains_iff_mem.mpr (List.mem_filter.mpr ⟨?_, ?_⟩))
      · exact List.mem_append_left _ hp
      · simpa using hnone
  | property k hk hnone =>
      refine hproperties k ?_
      have hreferenced : k ∈ properties.getD [] ++ propertiesNot.getD []
          ++ Requirement.alternativeProperties alternatives :=
        List.mem_append_left _ (List.mem_append.mpr hk)
      rw [Bool.and_eq_true, List.contains_iff_mem]
      exact ⟨hreferenced, by simpa [declaredProperties] using hnone⟩
  | versions hv hnone =>
      exact hprovided .versions hnone (by simp_all [Requirement.references])
  | extensions he hnone =>
      exact hprovided .extensions hnone (by simp_all [Requirement.references])

/-- **A set with a doomed member is warned of**: so it is for what that member lacks, or what
the one lacks for which it waits in the end. -/
theorem warned_of_doomed (h : Doomed l d) (hd : d ∈ l) : warnings l ≠ [] := by
  induction h with
  | lacks hlacks =>
      intro hnil
      exact warningsOf_ne_nil hlacks (List.flatMap_eq_nil_iff.mp hnil _ hd)
  | needs he _ _ ih => exact ih he

end ProbeSet

namespace Requirement

variable {q : Requirement} {r : Report}

theorem isSome_of_setClauseHolds {α : Type} {clause : Option (List α)}
    {known : Option (Selection α)} (h : setClauseHolds clause known = true)
    (hclause : clause.isSome = true) : known.isSome = true := by
  cases clause with
  | none => cases hclause
  | some l =>
      cases known with
      | none => cases h
      | some s => rfl

/-- **What is asked for in any case is known if a requirement holds.** -/
theorem known_of_holds (h : q.holds r = true) :
    (∀ k, k ∈ q.properties.getD [] ∨ k ∈ q.propertiesNot.getD [] →
        (r.finding? k).isSome = true)
      ∧ (q.versions.isSome = true → r.versions.isSome = true)
      ∧ (q.extensions.isSome = true → r.extensions.isSome = true) := by
  obtain ⟨_, properties, propertiesNot, versions, extensions, _, _⟩ := q
  simp only [holds, Bool.and_eq_true] at h
  obtain ⟨⟨⟨⟨⟨⟨-, hholds⟩, hfails⟩, hversions⟩, hextensions⟩, -⟩, -⟩ := h
  refine ⟨fun k hk => ?_, isSome_of_setClauseHolds hversions,
    isSome_of_setClauseHolds hextensions⟩
  rcases hk with hk | hk
  · rw [eq_of_beq (List.all_eq_true.mp hholds k hk)]
    rfl
  · rw [eq_of_beq (List.all_eq_true.mp hfails k hk)]
    rfl

end Requirement

namespace Scan

variable {β σ : Type}

section
variable {w : Workers β σ} {target : String} {probes : List (Probe β)} {s : σ}
  {x : Point β σ}

/-! ## What was handed out was ready -/

/-- **What was handed out was ready at some point** before it was. -/
theorem Passes.ready_of_handedOut (h : Passes w target probes s x) {p : ProbeId}
    (hout : HandedOut x.state.trace p) :
    ∃ y, Passes w target probes s y ∧ y.stage = .rounds
      ∧ ∃ q ∈ probes, q.id = p ∧ q.isReady y.state.report = true := by
  refine h.invariant (I := fun x => HandedOut x.state.trace p →
    ∃ y, Passes w target probes s y ∧ y.stage = .rounds
      ∧ ∃ q ∈ probes, q.id = p ∧ q.isReady y.state.report = true) ?_ ?_ hout
  · rintro ⟨snapshot, hmem⟩
    cases List.mem_singleton.mp hmem
  intro x y hreach _ ih hm
  -- An event that is new tells of a hand-out only if the move is one.
  have hold : ∀ {es : List Event}, y.state.trace = x.state.trace ++ es →
      (∀ e ∈ es, e.isHandOut p = false) → HandedOut y.state.trace p →
        HandedOut x.state.trace p := by
    rintro es htrace hes ⟨snapshot, hmem⟩
    rw [htrace] at hmem
    rcases List.mem_append.mp hmem with hmem | hmem
    · exact ⟨snapshot, hmem⟩
    · have hnone := hes _ hmem
      rw [(Event.isHandOut_iff _).mpr ⟨snapshot, rfl⟩] at hnone
      cases hnone
  have hquiet : ∀ {es : List Event}, Silent es → ∀ e ∈ es, e.isHandOut p = false := by
    intro es hes e he
    have hsilent := hes e he
    cases e <;> first | rfl | cases hsilent
  cases hm with
  | rest es hes _ _ _ _ _ htrace => exact fun h => ih (hold htrace (hquiet hes) h)
  | hand q hready hx _ hu _ _ htrace =>
      intro h
      by_cases hq : q.id = p
      · have hmem : q ∈ probes :=
          (hreach.given (by simp [hx])).1 q (hu.symm.subset (List.mem_cons_self ..))
        exact ⟨x, hreach, hx, q, hmem, hq, hready⟩
      · refine ih (hold htrace (fun e he => ?_) h)
        rw [List.mem_singleton.mp he]
        exact decide_eq_false hq
  | finish d es e result rec hes hd _ _ _ _ _ _ htrace =>
      rw [List.append_assoc] at htrace
      refine fun h => ih (hold htrace (List.forall_mem_append.mpr ⟨hquiet hes, ?_⟩) h)
      exact List.forall_mem_cons.mpr ⟨hquiet (silent_singleton hd.progress?) e
        (List.mem_singleton_self e), List.forall_mem_singleton.mpr rfl⟩
  | leave es hes _ _ _ _ _ _ _ htrace => exact fun h => ih (hold htrace (hquiet hes) h)
  | drain q _ _ _ _ _ _ htrace =>
      exact fun h => ih (hold htrace (List.forall_mem_singleton.mpr rfl) h)
  | complete t e he _ _ _ _ _ _ _ htrace =>
      exact fun h => ih (hold htrace (hquiet (silent_singleton he)) h)
  | giveUp _ es _ _ _ hes _ _ _ _ _ _ htrace =>
      exact fun h => ih (hold htrace (hquiet hes) h)
  | refuse _ _ _ _ _ _ htrace => exact fun h => ih (by rwa [htrace] at h)

/-! ## Doomed probes -/

/-- **What lacks something is unready on every report of a scan**: only what was declared can
be known there, and only members are executed. -/
theorem Passes.unready_of_lacks (h : Passes w target probes s x)
    (hnodup : (probes.map Probe.id).Nodup) (hsub : ∀ p ∈ probes, p.HasDefaultSubstitute)
    (hf : FactResults (Coordinator.scan w target probes s).1.trace)
    (hx : x.stage ≠ .failed) {q : Requirement}
    (hlacks : q.Lacks (probes.map Probe.declaration)) : q.holds x.state.report = false := by
  have hsourced := h.sourced hnodup hsub hf hx
  by_contra hnot
  have hholds : q.holds x.state.report = true := by simpa using hnot
  obtain ⟨hproperties, hversions, hextensions⟩ := Requirement.known_of_holds hholds
  -- A set that is known was named by facts, which were declared.
  have hprovided : ∀ {f : Facts}, Established x.state.trace f →
      ∃ a ∈ probes, f.Conforms a.declaration := by
    rintro f ⟨p, hp⟩
    obtain ⟨a, ha, -, hconforms⟩ := h.conforms_of_established hp
    exact ⟨a, ha, hconforms⟩
  cases hlacks with
  | probe p hp hnone =>
      obtain ⟨a, ha, hid⟩ := h.exists_of_isExecuted hnodup hx (h.ownResults hsub hf)
        (isExecuted_of_holds hholds hp)
      exact hnone a.declaration (List.mem_map_of_mem ha) hid
  | property k hk hnone =>
      obtain ⟨a, ha, -, hdeclared⟩ := (hsourced.findings k).mp (hproperties k hk)
      exact hnone a.declaration (List.mem_map_of_mem ha) hdeclared
  | versions hv hnone =>
      obtain ⟨f, l, hf', hl⟩ := hsourced.versions.known.mp (hversions hv)
      obtain ⟨a, ha, hconforms⟩ := hprovided hf'
      have hnot := hnone a.declaration (List.mem_map_of_mem ha)
      rw [← hconforms.versions, hl] at hnot
      cases hnot
  | extensions he hnone =>
      obtain ⟨f, l, hf', hl⟩ := hsourced.extensions.known.mp (hextensions he)
      obtain ⟨a, ha, hconforms⟩ := hprovided hf'
      have hnot := hnone a.declaration (List.mem_map_of_mem ha)
      rw [← hconforms.extensions, hl] at hnot
      cases hnot

/-- **A doomed probe is unready on every report of the rounds.** -/
theorem unready_of_doomed (hnodup : (probes.map Probe.id).Nodup)
    (hsub : ∀ p ∈ probes, p.HasDefaultSubstitute)
    (hf : FactResults (Coordinator.scan w target probes s).1.trace) {d : Declaration}
    (hdoomed : ProbeSet.Doomed (probes.map Probe.declaration) d)
    (hx : Passes w target probes s x) (hstage : x.stage = .rounds) :
    d.requirement.holds x.state.report = false := by
  induction hdoomed generalizing x with
  | lacks hlacks => exact hx.unready_of_lacks hnodup hsub hf (by simp [hstage]) hlacks
  | @needs d e he _ hneeds ih =>
      obtain ⟨a, ha, rfl⟩ := List.mem_map.mp he
      by_contra hnot
      have hexec : x.state.report.isExecuted a.id = true :=
        isExecuted_of_holds (by simpa using hnot) hneeds
      -- What is executed has a record, so it is not unscheduled, so it was handed out.
      have hfine : x.stage ≠ .failed := by simp [hstage]
      have hpart := (hx.accounted hfine).partitioned hnodup (hx.ownResults hsub hf)
      have hout : HandedOut x.state.trace a.id := by
        refine (hx.unscheduled_or_handedOut hnodup hstage ha).resolve_left fun hu => ?_
        have hfree := hpart.unscheduled_unrecorded a.id (List.mem_map_of_mem hu)
        exact absurd (hfree.symm.trans (Report.hasRecord_of_isExecuted hexec)) (by decide)
      obtain ⟨y, hy, hrounds, b, hb, hid, hready⟩ := hx.ready_of_handedOut hout
      rw [List.inj_on_of_nodup_map hnodup hb ha hid] at hready
      exact absurd ((ih hy hrounds).symm.trans hready) (by decide)

/-- **Doomed probes never run.**  Take probes that were admitted, have the default substitute
and hand back facts, if anything, and one of them that is doomed: outside of its alternatives
and its exclusion it asks for a probe that is no member, for a property that nobody declares
or for a set that nobody contributes to, or for a member that is doomed itself.  In a scan
that ends with a report it is never handed out, and its record says that it was not
executed. -/
theorem doomed_never_run {config : Config} {warnings : List LogEntry}
    (hprepare : prepare config probes = .ok warnings)
    (hsub : ∀ p ∈ probes, p.HasDefaultSubstitute)
    (hf : FactResults (runWith w target warnings probes s).1.trace) {r : Report}
    (hr : (runWith w target warnings probes s).1.outcome = .ok r) {p : Probe β}
    (hp : p ∈ probes)
    (hdoomed : ProbeSet.Doomed (probes.map Probe.declaration) p.declaration) :
    ¬ HandedOut (runWith w target warnings probes s).1.trace p.id
      ∧ ∃ reason, r.records.get? p.id = some (.notExecuted p.id reason) := by
  obtain ⟨hok, rfl⟩ := outcome_runWith_eq_ok_iff.mp hr
  rw [trace_runWith] at hf ⊢
  have hnodup := nodup_of_prepare hprepare
  have hnever : ¬ HandedOut (Coordinator.scan w target probes s).1.trace p.id := by
    intro hout
    obtain ⟨y, hy, hrounds, a, ha, hid, hready⟩ :=
      (passes_final w target probes s).ready_of_handedOut hout
    rw [List.inj_on_of_nodup_map hnodup ha hp hid] at hready
    have hunready := unready_of_doomed hnodup hsub hf hdoomed hy hrounds
    exact absurd (hunready.symm.trans hready) (by decide)
  obtain ⟨-, -, ⟨hout, -⟩ | ⟨-, -, hdrained⟩⟩ :=
    finished_or_drained hnodup hok (List.mem_map_of_mem hp)
  · exact absurd hout hnever
  · exact ⟨hnever, record_of_drained hnodup hsub hok hdrained⟩

end

namespace Sample

/-- One probe that is executed, and two that are doomed: the first of them asks for a probe
that is no member, and the second asks for the first. -/
def stranded : List (Probe (Work Unit)) :=
  [probe announced (some 5) (.result (.facts .protocolVersion facts)),
    probe (needing .cipherSuite [.alpn]) (some 3) (.panicked none),
    probe (needing .drown [.protocolVersion, .cipherSuite]) (some 0) (.panicked none)]

/-- What their scan comes to. -/
def strandedRun : Run × VirtualTime Unit :=
  runWith (VirtualTime.workers surroundings) "sample"
    (ProbeSet.warnings (stranded.map Probe.declaration)) stranded (.start 2 ())

/-- The report of their scan. -/
def strandedReport : Report :=
  (Coordinator.scan (VirtualTime.workers surroundings) "sample" stranded
    (.start 2 ())).1.report

theorem prepare_stranded :
    prepare {} stranded = .ok (ProbeSet.warnings (stranded.map Probe.declaration)) := by
  have hcheck : (ProbeSet.check (stranded.map Probe.declaration)).isOk = true := by cbv
  exact prepare_of_check hcheck

theorem outcome_stranded : strandedRun.1.outcome = .ok strandedReport :=
  outcome_runWith_eq_ok_iff.mpr ⟨by decide +kernel, rfl⟩

theorem doomed_stranded : ProbeSet.Doomed (stranded.map Probe.declaration)
    (needing .drown [.protocolVersion, .cipherSuite]) := by
  have hlacks : (needing .cipherSuite [.alpn]).requirement.Lacks
      (stranded.map Probe.declaration) :=
    .probe .alpn (List.mem_singleton_self _) (by decide)
  refine .needs (e := needing .cipherSuite [.alpn]) ?_ (.lacks hlacks) ?_
  · exact List.mem_cons_of_mem _ List.mem_cons_self
  · exact List.mem_cons_of_mem _ List.mem_cons_self

end Sample

theorem doomed_never_run_sample : ∃ p ∈ Sample.stranded,
    (∀ q ∈ Sample.stranded, q.HasDefaultSubstitute)
      ∧ FactResults Sample.strandedRun.1.trace
      ∧ Sample.strandedRun.1.outcome = .ok Sample.strandedReport
      ∧ ProbeSet.Doomed (Sample.stranded.map Probe.declaration) p.declaration
      ∧ ¬ HandedOut Sample.strandedRun.1.trace p.id
      ∧ ∃ reason, Sample.strandedReport.records.get? p.id
          = some (.notExecuted p.id reason) := by
  have hsub : ∀ q ∈ Sample.stranded, q.HasDefaultSubstitute := by
    intro q hq r
    simp only [Sample.stranded, List.mem_cons, List.not_mem_nil, or_false] at hq
    rcases hq with rfl | rfl | rfl <;> rfl
  have hfollow : Follows Sample.fateOf Sample.strandedRun.1.trace := by decide +kernel
  have hp := List.getLast_mem (l := Sample.stranded) (List.cons_ne_nil _ _)
  exact ⟨_, hp, hsub, hfollow.factResults, Sample.outcome_stranded, Sample.doomed_stranded,
    doomed_never_run Sample.prepare_stranded hsub hfollow.factResults
      Sample.outcome_stranded hp Sample.doomed_stranded⟩

end Scan

end TlsScan
