import TlsScan.Proofs.Scan.HardDependencies

/-!
# Where the facts of a report come from

Every path by which a probe leaves a scan, be it facts, a failure or not running at all,
offers a finding for each property that the probe declares, and nothing else is accepted.
So the properties of a final report are those declared in the set.  What is known of them
can only have come from facts: marks of failure are not conclusive and never replace what
is, and sets are enlarged by facts alone.

## Main Definitions

* `Scan.Established` — facts that were merged.
* `Scan.Contributed` — facts that an executed probe has handed back.
* `Scan.Point.Sourced` — the report at a point holds what was merged, no more and no less.
* `Scan.Collected` — a set of the final report comes from the executed probes.

## Main Results

* `Scan.Passes.sourced` — every report on the way of a scan is sourced, if probes hand back
  facts.
* `Scan.isExecuted_iff_established` — the executed probes are those whose facts were merged.
* `Scan.facts_have_sources` — the properties and sets of a final report, and where they have
  come from.

## Design Notes

A property may be decided more than once, and the last verdict stays, so a report is not
determined by who was executed.  What is invariant is that a verdict is one of those that
were offered, and that there is one as soon as one was offered.
-/

namespace TlsScan.Scan

variable {β σ : Type}

/-! ## Facts that were merged -/

/-- **Facts that were merged** for some probe. -/
def Established (trace : List Event) (f : Facts) : Prop :=
  ∃ p, (p, ProbeResult.facts p f) ∈ trace.filterMap Event.finished?

theorem established_congr {l m : List Event}
    (h : l.filterMap Event.finished? = m.filterMap Event.finished?) (f : Facts) :
    Established l f ↔ Established m f := by
  rw [Established, Established, h]

/-- What is merged last comes to what was merged before. -/
theorem established_concat {l m es : List Event} {e : Event} {p : ProbeId}
    {result : ProbeResult} {status : Status} (hes : Silent es) (he : e.finished? = none)
    (hm : m = l ++ es ++ [e, .finished p result status]) (f : Facts) :
    Established m f ↔ Established l f ∨ result = .facts p f := by
  have hlast : [e, Event.finished p result status].filterMap Event.finished?
      = [(p, result)] := by
    rw [List.filterMap_cons_none he]
    rfl
  have hsplit : m.filterMap Event.finished?
      = l.filterMap Event.finished? ++ [(p, result)] := by
    rw [hm, List.filterMap_append, List.filterMap_append, finished?_of_silent hes,
      List.append_nil, hlast]
  simp only [Established, hsplit, List.mem_append, List.mem_singleton, exists_or]
  refine or_congr_right ⟨?_, fun h => ⟨p, by rw [h]⟩⟩
  rintro ⟨k, h⟩
  cases h
  rfl

/-! ## Reports with sources -/

/-- **The report at a point holds what was merged**, no more and no less: findings for what
the merged probes declare, verdicts and values that some facts name. -/
structure Point.Sourced (probes : List (Probe β)) (x : Point β σ) : Prop where
  findings : ∀ q, (x.state.report.finding? q).isSome = true
    ↔ ∃ p ∈ probes, p.id ∈ x.merged ∧ q ∈ p.declaration.properties
  /-- A verdict is one of those that were offered. -/
  named : ∀ q v, x.state.report.verdict? q = some v →
    ∃ f, Established x.state.trace f ∧ (q, v) ∈ f.findings
  /-- As soon as one was offered there is one. -/
  decided : ∀ q v f, Established x.state.trace f → (q, v) ∈ f.findings →
    v.isConclusive = true → (x.state.report.verdict? q).isSome = true
  versions : Gathered (Established x.state.trace) Facts.versions x.state.report.versions
  extensions : Gathered (Established x.state.trace) Facts.extensions
    x.state.report.extensions

theorem sourced_initial (w : Workers β σ) (target : String) (probes : List (Probe β))
    (s : σ) : (initial w target probes s).Sourced probes := by
  have hnone : ∀ f, ¬ Established (initial w target probes s).state.trace f := by
    rintro f ⟨p, hp⟩
    cases hp
  refine ⟨fun q => ⟨nofun, ?_⟩, nofun, fun q v f hf => absurd hf (hnone f),
    Gathered.empty hnone, Gathered.empty hnone⟩
  rintro ⟨p, -, hp, -⟩
  cases hp

section
variable {probes : List (Probe β)} {x y : Point β σ}

/-- A step that merges nothing leaves a report sourced, -/
theorem Point.Sourced.stay (hx : x.Sourced probes)
    (hfindings : y.state.report.findings = x.state.report.findings)
    (hversions : y.state.report.versions = x.state.report.versions)
    (hextensions : y.state.report.extensions = x.state.report.extensions)
    (hmerged : y.merged = x.merged)
    (hfinished : y.state.trace.filterMap Event.finished?
      = x.state.trace.filterMap Event.finished?) : y.Sourced probes := by
  have hfinding : ∀ q, y.state.report.finding? q = x.state.report.finding? q := fun q => by
    rw [Report.finding?, hfindings, Report.finding?]
  have hverdict : ∀ q, y.state.report.verdict? q = x.state.report.verdict? q := fun q => by
    rw [Report.verdict?, hfinding, Report.verdict?]
  have hsource := established_congr hfinished
  refine ⟨fun q => ?_, fun q v hv => ?_, fun q v f hf hq hv => ?_, ?_, ?_⟩
  · rw [hfinding, hmerged]
    exact hx.findings q
  · rw [hverdict] at hv
    obtain ⟨f, hf, hq⟩ := hx.named q v hv
    exact ⟨f, (hsource f).mpr hf, hq⟩
  · rw [hverdict]
    exact hx.decided q v f ((hsource f).mp hf) hq hv
  · rw [hversions]
    exact hx.versions.congr fun f => (hsource f).symm
  · rw [hextensions]
    exact hx.extensions.congr fun f => (hsource f).symm

/-- After a merge there are findings for what the probe declares, too. -/
theorem Point.Sourced.findings_merge (hx : x.Sourced probes)
    (hnodup : (probes.map Probe.id).Nodup) {p : Probe β} (hp : p ∈ probes)
    {result : ProbeResult}
    (hmerge : x.state.report.merge p.declaration result = .ok y.state.report)
    (hmerged : y.merged = x.merged ++ [p.id]) (q : Property) :
    (y.state.report.finding? q).isSome = true
      ↔ ∃ p ∈ probes, p.id ∈ y.merged ∧ q ∈ p.declaration.properties := by
  rw [Report.isSome_finding?_merge hmerge, hx.findings q, hmerged]
  simp only [List.mem_append, List.mem_singleton]
  constructor
  · rintro (⟨a, ha, hin, hq⟩ | hq)
    · exact ⟨a, ha, Or.inl hin, hq⟩
    · exact ⟨p, hp, Or.inr rfl, hq⟩
  · rintro ⟨a, ha, hin | hid, hq⟩
    · exact Or.inl ⟨a, ha, hin, hq⟩
    · rw [List.inj_on_of_nodup_map hnodup ha hp hid] at hq
      exact Or.inr hq

/-- a merge that changes no fact does so too, -/
theorem Point.Sourced.blank (hx : x.Sourced probes) (hnodup : (probes.map Probe.id).Nodup)
    {p : Probe β} (hp : p ∈ probes) {result : ProbeResult}
    (hmerge : x.state.report.merge p.declaration result = .ok y.state.report)
    (hsame : x.state.report.SameFacts y.state.report)
    (hmerged : y.merged = x.merged ++ [p.id])
    (hsource : ∀ f, Established y.state.trace f ↔ Established x.state.trace f) :
    y.Sourced probes := by
  refine ⟨hx.findings_merge hnodup hp hmerge hmerged, fun q v hv => ?_,
    fun q v f hf hq hv => ?_, ?_, ?_⟩
  · rw [hsame.verdicts] at hv
    obtain ⟨f, hf, hq⟩ := hx.named q v hv
    exact ⟨f, (hsource f).mpr hf, hq⟩
  · rw [hsame.verdicts]
    exact hx.decided q v f ((hsource f).mp hf) hq hv
  · rw [hsame.versions]
    exact hx.versions.congr fun f => (hsource f).symm
  · rw [hsame.extensions]
    exact hx.extensions.congr fun f => (hsource f).symm

/-- **and so does the merge of facts.** -/
theorem Point.Sourced.facts (hx : x.Sourced probes) (hnodup : (probes.map Probe.id).Nodup)
    {p : Probe β} (hp : p ∈ probes) {f : Facts}
    (hmerge : x.state.report.merge p.declaration (.facts p.id f) = .ok y.state.report)
    (hmerged : y.merged = x.merged ++ [p.id])
    (hsource : ∀ g, Established y.state.trace g ↔ Established x.state.trace g ∨ g = f) :
    y.Sourced probes := by
  have hverdict : ∀ q, y.state.report.verdict? q
      = (f.verdict? q).or (x.state.report.verdict? q) := fun q => by
    rw [Report.verdict?_merge hmerge, ProbeResult.verdict?_facts]
  obtain ⟨hversions, hextensions⟩ := Report.sets_merge hmerge
  rw [(ProbeResult.sets_facts ..).1] at hversions
  rw [(ProbeResult.sets_facts ..).2] at hextensions
  refine ⟨hx.findings_merge hnodup hp hmerge hmerged, fun q v hq => ?_,
    fun q v g hg hq hv => ?_, ?_, ?_⟩
  · rw [hverdict, Option.or_eq_some_iff] at hq
    rcases hq with hnew | ⟨-, hold⟩
    · exact ⟨f, (hsource f).mpr (Or.inr rfl), Facts.mem_of_verdict? hnew⟩
    · obtain ⟨g, hg, hq⟩ := hx.named q v hold
      exact ⟨g, (hsource g).mpr (Or.inl hg), hq⟩
  · rw [hverdict, Option.isSome_or, Bool.or_eq_true]
    rcases (hsource g).mp hg with hold | rfl
    · exact Or.inr (hx.decided q v g hold hq hv)
    · exact Or.inl (Facts.isSome_verdict? hq hv)
  · rw [hversions]
    exact hx.versions.enlarge hsource
  · rw [hextensions]
    exact hx.extensions.enlarge hsource

/-- What follows from the end of a task keeps a report sourced. -/
theorem Point.Sourced.finish (hx : x.Sourced probes) (hnodup : (probes.map Probe.id).Nodup)
    {p : Probe β} (hp : p ∈ probes) {es : List Event} {e : Event} {result : ProbeResult}
    {status : Status} (hes : Silent es) (hd : Outcome p.declaration e result)
    (hf : FactResults y.state.trace)
    (hmerge : x.state.report.merge p.declaration result = .ok y.state.report)
    (htrace : y.state.trace = x.state.trace ++ es ++ [e, .finished p.id result status]) :
    y.Sourced probes := by
  have hquiet := hes.append (silent_singleton hd.progress?)
  have hsplit : y.state.trace
      = x.state.trace ++ (es ++ [e]) ++ [.finished p.id result status] := by
    simp [htrace]
  have hmerged : y.merged = x.merged ++ [p.id] := merged_concat hquiet rfl hsplit
  have hlast : e.finished? = none := by cases hd <;> rfl
  have hsource := established_concat hes hlast htrace
  rcases hd.facts_or_failure hf (by rw [htrace]; simp) with ⟨i, f, -, rfl⟩ | ⟨k, m, rfl⟩
  · obtain rfl : i = p.id := Report.identity_of_merge hmerge
    refine hx.facts hnodup hp hmerge hmerged fun g => ?_
    rw [hsource g]
    refine or_congr_right ⟨fun h => (ProbeResult.facts_inj h).symm, ?_⟩
    rintro rfl
    rfl
  · refine hx.blank hnodup hp hmerge (.of_failure hmerge) hmerged fun f => ?_
    rw [hsource f]
    exact or_iff_left ProbeResult.failure_ne_facts

end

section
variable {w : Workers β σ} {target : String} {probes : List (Probe β)} {s : σ}
  {x : Point β σ}

/-- **Every report on the way of a scan is sourced**, if probes hand back facts and have the
default substitute. -/
theorem Passes.sourced (h : Passes w target probes s x)
    (hnodup : (probes.map Probe.id).Nodup) (hsub : ∀ p ∈ probes, p.HasDefaultSubstitute)
    (hf : FactResults (Coordinator.scan w target probes s).1.trace)
    (hx : x.stage ≠ .failed) : x.Sourced probes := by
  refine h.invariant (I := fun x => x.stage ≠ .failed → x.Sourced probes)
    (fun _ => sourced_initial ..) ?_ hx
  intro x y hreach hy ih hm hfine
  have hsourced := ih hm.stage_ne
  have hgiven := hreach.given hm.stage_ne
  have hsilent : ∀ {es : List Event}, Silent es → y.state.trace = x.state.trace ++ es →
      y.state.trace.filterMap Event.finished? = x.state.trace.filterMap Event.finished? :=
    fun hes htrace => by
      rw [htrace, List.filterMap_append, finished?_of_silent hes, List.append_nil]
  cases hm with
  | rest es hes _ _ _ _ hreport htrace =>
      exact hsourced.stay (by rw [hreport]) (by rw [hreport]) (by rw [hreport])
        (merged_silent hes htrace) (hsilent hes htrace)
  | hand p _ _ _ _ _ hreport htrace =>
      refine hsourced.stay (by rw [hreport]) (by rw [hreport]) (by rw [hreport]) ?_ ?_
      · simp [Point.merged, htrace, Event.merged?]
      · simp [htrace, Event.finished?]
  | finish d es e result rec hes hd hmerge _ _ _ _ hrun htrace =>
      obtain ⟨p, hp, rfl⟩ := hgiven.2 d (hrun.symm.subset (List.mem_cons_self ..))
      exact hsourced.finish hnodup hp hes hd (hf.of_grown hy.trace_grows) hmerge htrace
  | leave es hes _ _ _ _ _ _ hreport htrace =>
      exact hsourced.stay (by rw [hreport]) (by rw [hreport]) (by rw [hreport])
        (merged_silent hes htrace) (hsilent hes htrace)
  | drain p hmerge _ _ hu _ _ htrace =>
      have hp : p ∈ probes := hgiven.1 p (hu.symm.subset (List.mem_cons_self ..))
      have hmerged : y.merged = x.merged ++ [p.id] :=
        merged_concat silent_nil rfl (by rw [htrace, List.append_nil])
      refine hsourced.blank hnodup hp hmerge ((hsub p hp).merge hmerge).1 hmerged ?_
      exact established_congr (by simp [htrace, Event.finished?])
  | complete t e he _ _ _ _ _ _ hreport htrace =>
      have hes := silent_singleton he
      exact hsourced.stay (by rw [hreport]; rfl) (by rw [hreport]; rfl) (by rw [hreport]; rfl)
        (merged_silent hes htrace) (hsilent hes htrace)
  | giveUp _ _ _ _ _ _ _ _ _ _ _ hfailed => exact absurd hfailed hfine
  | refuse _ _ _ _ _ hfailed => exact absurd hfailed hfine

/-! ## Executed probes -/

/-- Facts that were merged are as their probe has declared. -/
theorem Passes.conforms_of_established (h : Passes w target probes s x)
    {p : ProbeId} {f : Facts}
    (hf : (p, ProbeResult.facts p f) ∈ x.state.trace.filterMap Event.finished?) :
    ∃ q ∈ probes, q.id = p ∧ f.Conforms q.declaration := by
  obtain ⟨e, he, hfinished⟩ := List.mem_filterMap.mp hf
  obtain ⟨pre, post, htrace⟩ := List.append_of_mem he
  have hsound := h.resultSound pre e post htrace
  cases e <;> cases hfinished
  obtain ⟨q, hq, hid, -, r, r', -, hmerge, -⟩ := hsound
  exact ⟨q, hq, hid, Report.conforms_of_merge hmerge⟩

/-- **The executed probes of a final report are those whose facts were merged.** -/
theorem isExecuted_iff_established (hnodup : (probes.map Probe.id).Nodup)
    (hsub : ∀ p ∈ probes, p.HasDefaultSubstitute)
    (hf : FactResults (Coordinator.scan w target probes s).1.trace)
    (hok : (Coordinator.scan w target probes s).2 = none) (p : ProbeId) :
    (Coordinator.scan w target probes s).1.report.isExecuted p = true
      ↔ ∃ f, (p, ProbeResult.facts p f)
        ∈ (Coordinator.scan w target probes s).1.trace.filterMap Event.finished? := by
  have hend := passes_final w target probes s
  have hstatus : ∀ {result status}, .finished p result status
      ∈ (Coordinator.scan w target probes s).1.trace →
        (∃ f, result = .facts p f ∧ status = .executed)
          ∨ ∃ l k m, result = .failure p l k m ∧ status = .error := by
    intro result status hfinished
    obtain ⟨pre, post, htrace⟩ := List.append_of_mem hfinished
    exact status_of_finished (hend.resultSound pre _ post htrace)
      (hf.of_grown ⟨_, htrace.symm⟩)
  constructor
  · intro hexec
    obtain ⟨q, hq, rfl⟩ := hend.exists_of_isExecuted hnodup (stage_final_ne hok)
      (hend.ownResults hsub hf) hexec
    obtain ⟨rec, hrec, ⟨-, hfin⟩ | ⟨-, -, hdrained⟩⟩ :=
      finished_or_drained hnodup hok (List.mem_map_of_mem hq)
    · rw [Report.isExecuted_eq, hrec, Option.map_some, decide_eq_true_eq,
        Option.some_inj] at hexec
      obtain ⟨result, hfinished⟩ := (hfin .executed).mpr hexec.symm
      rcases hstatus hfinished with ⟨f, rfl, -⟩ | ⟨-, -, -, -, herror⟩
      · exact ⟨f, List.mem_filterMap.mpr ⟨_, hfinished, rfl⟩⟩
      · cases herror
    · -- What was drained is not executed.
      obtain ⟨reason, hrec'⟩ := record_of_drained hnodup hsub hok hdrained
      rw [Report.isExecuted_eq, hrec'] at hexec
      cases hexec
  · rintro ⟨f, hfinished⟩
    obtain ⟨e, he, heq⟩ := List.mem_filterMap.mp hfinished
    cases e <;> cases heq
    rcases hstatus he with ⟨-, -, rfl⟩ | ⟨_, _, _, hfailure, -⟩
    · exact isExecuted_of_finished hnodup hok ⟨_, he⟩
    · exact absurd hfailure.symm ProbeResult.failure_ne_facts

/-- **Facts that an executed probe has handed back.** -/
def Contributed (trace : List Event) (r : Report) (f : Facts) : Prop :=
  ∃ p, r.isExecuted p = true ∧ .ended p (.result (.facts p f)) ∈ trace

/-- What the executed probes of a final report have handed back is what was merged. -/
theorem contributed_iff_established (hnodup : (probes.map Probe.id).Nodup)
    (hsub : ∀ p ∈ probes, p.HasDefaultSubstitute)
    (hf : FactResults (Coordinator.scan w target probes s).1.trace)
    (hok : (Coordinator.scan w target probes s).2 = none) (f : Facts) :
    Contributed (Coordinator.scan w target probes s).1.trace
        (Coordinator.scan w target probes s).1.report f
      ↔ Established (Coordinator.scan w target probes s).1.trace f := by
  have hend := passes_final w target probes s
  constructor
  · rintro ⟨p, -, hended⟩
    have hdue : (p, ProbeResult.facts p f)
        ∈ (Coordinator.scan w target probes s).1.trace.filterMap (Event.due? probes) :=
      List.mem_filterMap.mpr ⟨_, hended, rfl⟩
    have hsettled := hend.settled hnodup (stage_final_ne hok)
    exact ⟨p, hsettled ▸ hdue⟩
  · rintro ⟨p, hfinished⟩
    refine ⟨p, (isExecuted_iff_established hnodup hsub hf hok p).mpr ⟨f, hfinished⟩, ?_⟩
    obtain ⟨e, he, heq⟩ := List.mem_filterMap.mp hfinished
    obtain ⟨pre, post, htrace⟩ := List.append_of_mem he
    have hsound := hend.resultSound pre e post htrace
    cases e <;> cases heq
    obtain ⟨q, -, rfl, ⟨a, ha, hd⟩, -⟩ := hsound
    have hmem : a ∈ (Coordinator.scan w target probes s).1.trace := by
      rw [htrace]
      exact List.mem_append_left _ ha
    rcases hd.facts_or_failure hf hmem with ⟨i, g, rfl, hg⟩ | ⟨k, m, hg⟩
    · rwa [← hg] at hmem
    · exact absurd hg.symm ProbeResult.failure_ne_facts

/-! ## The final report -/

/-- **A set of a report comes from the executed probes**: it is known exactly if one of them
contributes to it, and then it has exactly the values that their facts name. -/
structure Collected {α : Type} (probes : List (Probe β)) (trace : List Event) (r : Report)
    (t : FactSet) (part : Facts → Option (List α)) (known : Option (Selection α)) : Prop where
  known_iff : known.isSome = true
    ↔ ∃ p ∈ probes, r.isExecuted p.id = true ∧ p.declaration.contributions.contains t = true
  contains_iff : ∀ values, known = some values → ∀ a, values.contains a = true
    ↔ ∃ f l, Contributed trace r f ∧ part f = some l ∧ a ∈ l

/-- What was gathered from facts that were merged was collected from the executed probes, as
facts have a part exactly if it was declared. -/
theorem Gathered.collected {α : Type} {part : Facts → Option (List α)} {t : FactSet}
    {known : Option (Selection α)} (hnodup : (probes.map Probe.id).Nodup)
    (hsub : ∀ p ∈ probes, p.HasDefaultSubstitute)
    (hf : FactResults (Coordinator.scan w target probes s).1.trace)
    (hok : (Coordinator.scan w target probes s).2 = none)
    (hpart : ∀ (d : Declaration) (f : Facts), f.Conforms d →
      (part f).isSome = d.contributions.contains t)
    (h : Gathered (Established (Coordinator.scan w target probes s).1.trace) part known) :
    Collected probes (Coordinator.scan w target probes s).1.trace
      (Coordinator.scan w target probes s).1.report t part known := by
  have hend := passes_final w target probes s
  constructor
  · rw [h.known]
    constructor
    · rintro ⟨f, l, ⟨p, hfinished⟩, hl⟩
      obtain ⟨q, hq, rfl, hconforms⟩ := hend.conforms_of_established hfinished
      refine ⟨q, hq, (isExecuted_iff_established hnodup hsub hf hok _).mpr ⟨f, hfinished⟩, ?_⟩
      rw [← hpart _ f hconforms, hl]
      rfl
    · rintro ⟨p, hp, hexec, hcontains⟩
      obtain ⟨f, hfinished⟩ := (isExecuted_iff_established hnodup hsub hf hok _).mp hexec
      obtain ⟨q, hq, hid, hconforms⟩ := hend.conforms_of_established hfinished
      rw [List.inj_on_of_nodup_map hnodup hq hp hid] at hconforms
      obtain ⟨l, hl⟩ := Option.isSome_iff_exists.mp ((hpart _ f hconforms).trans hcontains)
      exact ⟨f, l, ⟨p.id, hfinished⟩, hl⟩
  · rintro values rfl a
    simp only [contributed_iff_established hnodup hsub hf hok]
    exact h.contains a

/-- **The facts of a report have their sources.**  Take probes that were admitted, have the
default substitute and hand back facts, if anything, and a scan of them that ends with a
report.  The report has a finding for exactly the properties that are declared in the set.
A property has a conclusive one exactly if some executed probe has handed one back, and
then one that was handed back.  A set of values is known exactly if some executed probe
contributes to it, and it has exactly the values that the executed probes have named. -/
theorem facts_have_sources {config : Config} {warnings : List LogEntry}
    (hprepare : prepare config probes = .ok warnings)
    (hsub : ∀ p ∈ probes, p.HasDefaultSubstitute)
    (hf : FactResults (runWith w target warnings probes s).1.trace) {r : Report}
    (hr : (runWith w target warnings probes s).1.outcome = .ok r) :
    (∀ q, (r.finding? q).isSome = true ↔ ∃ p ∈ probes, q ∈ p.declaration.properties)
      ∧ (∀ q, (∃ v, r.finding? q = some v ∧ v.isConclusive = true)
          ↔ ∃ f v, Contributed (runWith w target warnings probes s).1.trace r f
            ∧ (q, v) ∈ f.findings ∧ v.isConclusive = true)
      ∧ (∀ q v, r.finding? q = some v → v.isConclusive = true →
          ∃ f, Contributed (runWith w target warnings probes s).1.trace r f
            ∧ (q, v) ∈ f.findings)
      ∧ Collected probes (runWith w target warnings probes s).1.trace r .versions
          Facts.versions r.versions
      ∧ Collected probes (runWith w target warnings probes s).1.trace r .extensions
          Facts.extensions r.extensions := by
  obtain ⟨hok, rfl⟩ := outcome_runWith_eq_ok_iff.mp hr
  rw [trace_runWith] at hf ⊢
  have hnodup := nodup_of_prepare hprepare
  have hend := passes_final w target probes s
  have hsourced := hend.sourced hnodup hsub hf (stage_final_ne hok)
  have hnamed : ∀ q v, (Coordinator.scan w target probes s).1.report.finding? q = some v →
      v.isConclusive = true → ∃ f, Contributed (Coordinator.scan w target probes s).1.trace
        (Coordinator.scan w target probes s).1.report f ∧ (q, v) ∈ f.findings := by
    intro q v hq hv
    obtain ⟨f, hf', hin⟩ := hsourced.named q v ((Report.finding?_eq_some_iff hv).mp hq)
    exact ⟨f, (contributed_iff_established hnodup hsub hf hok f).mpr hf', hin⟩
  refine ⟨fun q => ?_, fun q => ⟨?_, ?_⟩, hnamed, ?_, ?_⟩
  · -- In the end every probe was merged.
    have hmerged : ∀ p ∈ probes, p.id ∈ (final w target probes s).merged := fun p hp =>
      merged_final hok (List.mem_map_of_mem hp)
    refine (hsourced.findings q).trans ⟨?_, ?_⟩
    · rintro ⟨p, hp, -, hq⟩
      exact ⟨p, hp, hq⟩
    · rintro ⟨p, hp, hq⟩
      exact ⟨p, hp, hmerged p hp, hq⟩
  · rintro ⟨v, hq, hv⟩
    obtain ⟨f, hf', hin⟩ := hnamed q v hq hv
    exact ⟨f, v, hf', hin, hv⟩
  · rintro ⟨f, v, hf', hin, hv⟩
    have hsource := (contributed_iff_established hnodup hsub hf hok f).mp hf'
    obtain ⟨v', hv'⟩ := Option.isSome_iff_exists.mp (hsourced.decided q v f hsource hin hv)
    exact ⟨v', Option.filter_eq_some_iff.mp hv'⟩
  · exact hsourced.versions.collected hnodup hsub hf hok fun _ _ h => h.versions
  · exact hsourced.extensions.collected hnodup hsub hf hok fun _ _ h => h.extensions

theorem facts_have_sources_sample :
    FactResults Sample.run.1.trace ∧ ∃ r, Sample.run.1.outcome = .ok r
      ∧ r.finding? .supportsRsa = some .holds
      ∧ (∃ f v, Contributed Sample.run.1.trace r f ∧ (Property.supportsRsa, v) ∈ f.findings
          ∧ v.isConclusive = true)
      ∧ Collected Sample.probes Sample.run.1.trace r .versions Facts.versions r.versions := by
  have hfollow : Follows Sample.fateOf Sample.run.1.trace := by decide +kernel
  have hfinding : Sample.ended.1.report.finding? .supportsRsa = some .holds := by
    decide +kernel
  obtain ⟨-, hconclusive, -, hversions, -⟩ := facts_have_sources Sample.prepare_probes
    Sample.hasDefaultSubstitute hfollow.factResults Sample.outcome_run
  exact ⟨hfollow.factResults, _, Sample.outcome_run, hfinding,
    (hconclusive _).mp ⟨_, hfinding, rfl⟩, hversions⟩

end

end TlsScan.Scan
