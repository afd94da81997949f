import Mathlib.Logic.Relation
import TlsScan.Proofs.Dependency.Search
import TlsScan.Proofs.Scan.Confluence
import TlsScan.Proofs.Scan.LeftOver

/-!
# Probes that wait for each other

If probes ask for executed probes only, what becomes of them can be told without a scan.
A probe runs if all probes that it needs, directly or through others, are members of the
set and end in facts; whether it then is executed is up to itself.  Nothing can be stuck:
as the set was admitted, no probe comes to need itself.

## Main Definitions

* `Requirement.AsksForProbesOnly` — nothing but executed probes is asked for.
* `Scan.Needs` — one probe asks for another one.
* `Scan.Solid` — a probe is a member and ends in facts.
* `Scan.Supported` — all that a probe needs, directly or not, is solid.

## Main Results

* `Scan.record_final` — a probe was left over for a need that was not executed, or has run
  with all its needs executed.
* `Scan.isExecuted_final_iff` — in the end the solid probes with support are executed, and
  no others.
* `Scan.hard_dependencies_resolve` — the status that every probe of a scan ends with.
-/

namespace TlsScan

/-- **Nothing but executed probes is asked for.** -/
def Requirement.AsksForProbesOnly (q : Requirement) : Prop :=
  q = { Requirement.none with probes := q.probes }

theorem Requirement.AsksForProbesOnly.holds_iff {q : Requirement} (hq : q.AsksForProbesOnly)
    {r : Report} : q.holds r = true ↔ ∀ p ∈ q.requiredProbes, r.isExecuted p = true := by
  rw [hq]
  simp [holds, Requirement.none, clauseHolds, setClauseHolds, choiceHolds, exclusionHolds,
    requiredProbes]

namespace Scan

variable {β σ : Type} {fate : ProbeId → Fate}

/-! ## What a probe needs -/

/-- **One probe asks for another one.** -/
def Needs (probes : List (Probe β)) (p q : ProbeId) : Prop :=
  ∃ a ∈ probes, a.id = p ∧ q ∈ a.declaration.dependencies

/-- **A probe is a member and ends in facts.** -/
def Solid (fate : ProbeId → Fate) (probes : List (Probe β)) (p : ProbeId) : Prop :=
  p ∈ probes.map Probe.id ∧ (fate p).status = .executed

/-- **All that a probe needs, directly or not, is solid.** -/
def Supported (fate : ProbeId → Fate) (probes : List (Probe β)) (p : ProbeId) : Prop :=
  ∀ q, Relation.TransGen (Needs probes) p q → Solid fate probes q

/-- A probe is supported if its own needs are solid and supported. -/
theorem supported_iff {probes : List (Probe β)} {p : ProbeId} :
    Supported fate probes p
      ↔ ∀ q, Needs probes p q → Solid fate probes q ∧ Supported fate probes q := by
  constructor
  · intro h q hq
    exact ⟨h q (.single hq), fun a ha => h a (.head hq ha)⟩
  · intro h q hq
    rcases Relation.TransGen.head'_iff.mp hq with ⟨a, ha, hq⟩
    rcases Relation.reflTransGen_iff_eq_or_transGen.mp hq with rfl | hq
    · exact (h _ ha).1
    · exact (h a ha).2 q hq

/-- A member needs what its declaration asks for. -/
theorem needs_iff {probes : List (Probe β)} (hnodup : (probes.map Probe.id).Nodup)
    {p : Probe β} (hp : p ∈ probes) {q : ProbeId} :
    Needs probes p.id q ↔ q ∈ p.declaration.dependencies := by
  constructor
  · rintro ⟨a, ha, hid, hq⟩
    rwa [← List.inj_on_of_nodup_map hnodup ha hp hid]
  · exact fun hq => ⟨p, hp, rfl, hq⟩

/-- Among the needs of a member, those that are members are edges of the graph. -/
theorem awaits_of_needs {probes : List (Probe β)} {g : Dependencies}
    (hg : ProbeSet.check (probes.map Probe.declaration) = .ok g) {p q : ProbeId}
    (h : Needs probes p q) (hq : q ∈ probes.map Probe.id) : g.Awaits p q := by
  obtain ⟨a, ha, rfl, hdep⟩ := h
  obtain ⟨hgraph, -⟩ := ProbeSet.check_eq_ok_iff.mp hg
  constructor
  · show q ∈ g.of a.declaration.probe
    rw [Dependencies.of_of_ofDeclarations hgraph (List.mem_map_of_mem ha)]
    exact hdep
  · obtain ⟨b, hb, rfl⟩ := List.mem_map.mp hq
    exact (Dependencies.contains_of_ofDeclarations hgraph).mpr
      ⟨b.declaration, List.mem_map_of_mem hb, rfl⟩

/-! ## The end of a scan -/

/-- The record of a result that was merged tells of the fate. -/
theorem Yields.status {d : Declaration} {result : ProbeResult} {r r' : Report}
    {rec : Record} (h : Yields fate d result) (hmerge : r.merge d result = .ok r')
    (hrec : r'.records.get? d.probe = some rec) : rec.status = (fate d.probe).status := by
  rcases h with ⟨f, hfate, rfl⟩ | ⟨hstatus, k, m, rfl⟩
  · rw [Report.records_merge_facts hmerge, Table.get?_insert, if_pos rfl] at hrec
    cases hrec
    rw [hfate]
    rfl
  · rw [Report.records_merge_failure hmerge, Table.get?_insert, if_pos rfl] at hrec
    cases hrec
    rw [hstatus]
    rfl

section
variable {w : Workers β σ} {target : String} {probes : List (Probe β)} {s : σ}

/-- A scan of probes whose facts are as declared ends with a report. -/
theorem scan_ok_of_conforms (hnodup : (probes.map Probe.id).Nodup)
    (hsub : ∀ p ∈ probes, p.HasDefaultSubstitute)
    (hconforms : ∀ p ∈ probes, ∀ f, fate p.id = .facts f → f.Conforms p.declaration)
    (hfollow : Follows fate (Coordinator.scan w target probes s).1.trace) :
    (Coordinator.scan w target probes s).2 = none := by
  by_contra hfault
  have hfailed := stage_final_eq_failed_iff.mpr (Option.ne_none_iff_exists'.mp hfault)
  obtain ⟨p, hp, i, f, hended, hviolates⟩ :=
    (passes_final w target probes s).violated hnodup hsub hfollow.factResults hfailed
  have hadmits : (fate p.id).Admits p.id (.result (.facts i f)) := hfollow _ hended
  cases hfate : fate p.id with
  | facts f' =>
      rw [hfate] at hadmits
      -- It is the same result, so an empty report takes both or none.
      have hsame : ProbeResult.facts i f = .facts p.declaration.probe f' := hadmits
      obtain ⟨r, hr⟩ := Report.merge_facts_iff (r := .new target default)
        (d := p.declaration) |>.mpr ⟨rfl, rfl, hconforms p hp f' hfate⟩
      rw [← hsame] at hr
      exact Facts.violates_iff.mp hviolates (Report.merge_facts_iff.mp ⟨r, hr⟩).2
  | failed => rw [hfate] at hadmits; cases hadmits
  | panicked => rw [hfate] at hadmits; cases hadmits
  | killed => rw [hfate] at hadmits; cases hadmits

/-- What has finished as executed is executed in the end. -/
theorem isExecuted_of_finished (hnodup : (probes.map Probe.id).Nodup)
    (hok : (Coordinator.scan w target probes s).2 = none) {p : ProbeId}
    (h : Finished (Coordinator.scan w target probes s).1.trace p .executed) :
    (Coordinator.scan w target probes s).1.report.isExecuted p = true := by
  obtain ⟨result, hfinished⟩ := id h
  obtain ⟨pre, post, htrace⟩ := List.append_of_mem hfinished
  obtain ⟨q, hq, hid, -⟩ := (passes_final w target probes s).resultSound pre _ post htrace
  obtain ⟨rec, hrec, ⟨-, hstatus⟩ | ⟨-, hnone, -⟩⟩ :=
    finished_or_drained hnodup hok (List.mem_map.mpr ⟨q, hq, hid⟩)
  · rw [Report.isExecuted_eq, hrec, Option.map_some, ← (hstatus .executed).mp h]
    rfl
  · exact absurd h (hnone .executed)

/-- What a probe has finished with was due at its end, which was fated. -/
theorem status_eq_of_finished (hnodup : (probes.map Probe.id).Nodup)
    (hfollow : Follows fate (Coordinator.scan w target probes s).1.trace) {p : Probe β}
    (hp : p ∈ probes) {status : Status}
    (h : Finished (Coordinator.scan w target probes s).1.trace p.id status) :
    status = (fate p.id).status := by
  obtain ⟨result, hfinished⟩ := h
  obtain ⟨pre, post, htrace⟩ := List.append_of_mem hfinished
  obtain ⟨q, hq, hid, ⟨e, he, hd⟩, r, r', rec, hmerge, hrec, rfl⟩ :=
    (passes_final w target probes s).resultSound pre _ post htrace
  cases List.inj_on_of_nodup_map hnodup hq hp hid
  have hmem : e ∈ (Coordinator.scan w target probes s).1.trace := by
    rw [htrace]
    exact List.mem_append_left _ he
  exact (hd.of_follows hfollow hmem).status hmerge hrec

/-- What a probe needs was executed if the probe was handed out. -/
theorem isExecuted_of_handedOut (hnodup : (probes.map Probe.id).Nodup)
    (hsub : ∀ p ∈ probes, p.HasDefaultSubstitute)
    (hfacts : FactResults (Coordinator.scan w target probes s).1.trace)
    (hok : (Coordinator.scan w target probes s).2 = none) {p : Probe β} (hp : p ∈ probes)
    (h : HandedOut (Coordinator.scan w target probes s).1.trace p.id) {q : ProbeId}
    (hq : q ∈ p.declaration.dependencies) :
    (Coordinator.scan w target probes s).1.report.isExecuted q = true := by
  have hend := passes_final w target probes s
  obtain ⟨snapshot, hscheduled⟩ := h
  obtain ⟨pre, post, htrace⟩ := List.append_of_mem hscheduled
  obtain ⟨-, a, ha, hid, -, hdeps⟩ := (hend.replay hnodup).1 pre _ post htrace
  cases List.inj_on_of_nodup_map hnodup ha hp hid
  have hown : OwnResults pre := (hend.ownResults hsub hfacts).of_grown ⟨_, htrace.symm⟩
  obtain ⟨result, hfinished⟩ := hdeps hown q hq
  refine isExecuted_of_finished hnodup hok ⟨result, ?_⟩
  rw [htrace]
  exact List.mem_append_left _ hfinished

/-- **Who was left over was not ready, and who has run has ended as fated**, after all that
it needs was executed. -/
theorem record_final (hnodup : (probes.map Probe.id).Nodup)
    (hsub : ∀ p ∈ probes, p.HasDefaultSubstitute)
    (hfollow : Follows fate (Coordinator.scan w target probes s).1.trace)
    (hok : (Coordinator.scan w target probes s).2 = none) {p : Probe β} (hp : p ∈ probes) :
    ∃ rec, (Coordinator.scan w target probes s).1.report.records.get? p.id = some rec
      ∧ (rec.status = .notExecuted
            ∧ p.isReady (Coordinator.scan w target probes s).1.report = false
          ∨ rec.status = (fate p.id).status
            ∧ ∀ q ∈ p.declaration.dependencies,
                (Coordinator.scan w target probes s).1.report.isExecuted q = true) := by
  obtain ⟨rec, hrec, ⟨hout, hstatus⟩ | ⟨-, -, hdrained⟩⟩ :=
    finished_or_drained hnodup hok (List.mem_map_of_mem hp)
  · refine ⟨rec, hrec, Or.inr ⟨?_, fun q hq => ?_⟩⟩
    · exact status_eq_of_finished hnodup hfollow hp ((hstatus rec.status).mpr rfl)
    · exact isExecuted_of_handedOut hnodup hsub hfollow.factResults hok hp hout hq
  · have hend := passes_final w target probes s
    have hunready := hend.exhausted hnodup hsub (Or.inr (stage_final hok))
    refine ⟨rec, hrec, Or.inl ⟨?_, hunready p hp (Or.inr hdrained)⟩⟩
    obtain ⟨reason, hrec'⟩ := record_of_drained hnodup hsub hok hdrained
    cases hrec.symm.trans hrec'
    rfl

/-- **A member is left over if it lacks support, and ends as fated if it has it**, given that
what it needs is executed if it is solid and has support itself. -/
theorem status_of_supported (honly : ∀ p ∈ probes, p.declaration.requirement.AsksForProbesOnly)
    (hnodup : (probes.map Probe.id).Nodup)
    (hsub : ∀ p ∈ probes, p.HasDefaultSubstitute)
    (hfollow : Follows fate (Coordinator.scan w target probes s).1.trace)
    (hok : (Coordinator.scan w target probes s).2 = none) {p : Probe β} (hp : p ∈ probes)
    (hneeds : ∀ q, Needs probes p.id q →
      ((Coordinator.scan w target probes s).1.report.isExecuted q = true
        ↔ Solid fate probes q ∧ Supported fate probes q)) :
    ∃ rec, (Coordinator.scan w target probes s).1.report.records.get? p.id = some rec
      ∧ (rec.status = .notExecuted ∧ ¬ Supported fate probes p.id
          ∨ rec.status = (fate p.id).status ∧ Supported fate probes p.id) := by
  obtain ⟨rec, hrec, ⟨hskipped, hunready⟩ | ⟨hstatus, hexec⟩⟩ :=
    record_final hnodup hsub hfollow hok hp
  · refine ⟨rec, hrec, Or.inl ⟨hskipped, fun hsupported => ?_⟩⟩
    have hready : p.isReady (Coordinator.scan w target probes s).1.report = true :=
      (honly p hp).holds_iff.mpr fun q hq =>
        have hq' := (needs_iff hnodup hp).mpr hq
        (hneeds q hq').mpr (supported_iff.mp hsupported q hq')
    exact absurd (hunready.symm.trans hready) (by decide)
  · refine ⟨rec, hrec, Or.inr ⟨hstatus, supported_iff.mpr fun q hq => ?_⟩⟩
    exact (hneeds q hq).mp (hexec q ((needs_iff hnodup hp).mp hq))

/-- **In the end the solid probes with support are executed, and no others.** -/
theorem isExecuted_final_iff {g : Dependencies}
    (hg : ProbeSet.check (probes.map Probe.declaration) = .ok g)
    (honly : ∀ p ∈ probes, p.declaration.requirement.AsksForProbesOnly)
    (hnodup : (probes.map Probe.id).Nodup)
    (hsub : ∀ p ∈ probes, p.HasDefaultSubstitute)
    (hfollow : Follows fate (Coordinator.scan w target probes s).1.trace)
    (hok : (Coordinator.scan w target probes s).2 = none) (p : ProbeId) :
    (Coordinator.scan w target probes s).1.report.isExecuted p = true
      ↔ Solid fate probes p ∧ Supported fate probes p := by
  have hend := passes_final w target probes s
  have hstranger : ∀ {p : ProbeId}, p ∉ probes.map Probe.id →
      ((Coordinator.scan w target probes s).1.report.isExecuted p = true
        ↔ Solid fate probes p ∧ Supported fate probes p) := by
    refine fun hp => ⟨fun hexec => ?_, fun h => absurd h.1.1 hp⟩
    obtain ⟨q, hq, rfl⟩ := hend.exists_of_isExecuted hnodup (stage_final_ne hok)
      (hend.ownResults hsub hfollow.factResults) hexec
    exact absurd (List.mem_map_of_mem hq) hp
  have hgrounded := Dependencies.grounded_of_findCycle (ProbeSet.check_eq_ok_iff.mp hg).2 p
  -- The graph has no circle, so the claim may be taken for granted of all that is needed.
  induction hgrounded with
  | intro p _ ih =>
      by_cases hp : p ∈ probes.map Probe.id
      · obtain ⟨a, ha, rfl⟩ := List.mem_map.mp hp
        obtain ⟨rec, hrec, hcases⟩ :=
          status_of_supported honly hnodup hsub hfollow hok ha fun q hq => by
            by_cases hmember : q ∈ probes.map Probe.id
            · exact ih q (awaits_of_needs hg hq hmember)
            · exact hstranger hmember
        rw [Report.isExecuted_eq, hrec, Option.map_some, decide_eq_true_eq, Option.some_inj]
        rcases hcases with ⟨hskipped, hnone⟩ | ⟨hstatus, hsupported⟩
        · rw [hskipped]
          exact ⟨nofun, fun h => absurd h.2 hnone⟩
        · rw [hstatus]
          exact ⟨fun h => ⟨⟨hp, h⟩, hsupported⟩, fun h => h.1.2⟩
      · exact hstranger hp

theorem Fate.status_ne_executed_iff {a : Fate} : a.status ≠ .executed ↔ a.status = .error := by
  cases a <;> simp [Fate.status]

/-- **What becomes of probes that ask for executed probes only.**  Take such probes that were
admitted and have the default substitute, each of which ends in one way if it is run, and if in
facts then in such as are declared.  Every scan of them ends with a report.  A probe is executed
there if it ends in facts itself and all probes that it needs, directly or through others, are
members that end in facts; it has an error if only it itself does not; and else it was not
executed.  So if nothing outside the set is asked for and all end in facts, all are executed. -/
theorem hard_dependencies_resolve {config : Config} {warnings : List LogEntry}
    (hprepare : prepare config probes = .ok warnings)
    (honly : ∀ p ∈ probes, p.declaration.requirement.AsksForProbesOnly)
    (hsub : ∀ p ∈ probes, p.HasDefaultSubstitute)
    (hconforms : ∀ p ∈ probes, ∀ f, fate p.id = .facts f → f.Conforms p.declaration)
    (hfollow : Follows fate (runWith w target warnings probes s).1.trace) :
    ∃ r, (runWith w target warnings probes s).1.outcome = .ok r
      ∧ (∀ p ∈ probes, ∃ rec, r.records.get? p.id = some rec
        ∧ (rec.status = .executed
            ↔ (fate p.id).status = .executed ∧ Supported fate probes p.id)
        ∧ (rec.status = .error
            ↔ (fate p.id).status ≠ .executed ∧ Supported fate probes p.id)
        ∧ (rec.status = .notExecuted ↔ ¬ Supported fate probes p.id))
      ∧ ((∀ p ∈ probes, ∀ q ∈ p.declaration.dependencies, q ∈ probes.map Probe.id) →
          (∀ p ∈ probes, (fate p.id).status = .executed) →
            ∀ p ∈ probes, r.isExecuted p.id = true) := by
  rw [trace_runWith] at hfollow
  have hnodup := nodup_of_prepare hprepare
  obtain ⟨g, hg⟩ := check_of_prepare hprepare
  have hok := scan_ok_of_conforms hnodup hsub hconforms hfollow
  have hexec := isExecuted_final_iff hg honly hnodup hsub hfollow hok
  refine ⟨_, outcome_runWith_eq_ok_iff.mpr ⟨hok, rfl⟩, fun p hp => ?_,
    fun hclosed hall p hp => ?_⟩
  · obtain ⟨rec, hrec, hcases⟩ :=
      status_of_supported honly hnodup hsub hfollow hok hp fun q _ => hexec q
    refine ⟨rec, hrec, ?_⟩
    rw [Fate.status_ne_executed_iff]
    rcases hcases with ⟨hskipped, hnone⟩ | ⟨hstatus, hsupported⟩
    · simp [hskipped, hnone]
    · have hran : (fate p.id).status ≠ .notExecuted := by
        cases fate p.id <;> nofun
      simp [hstatus, hsupported, hran]
  · have hsolid : ∀ q ∈ probes.map Probe.id, Solid fate probes q := by
      intro q hq
      obtain ⟨a, ha, rfl⟩ := List.mem_map.mp hq
      exact ⟨hq, hall a ha⟩
    refine (hexec p.id).mpr ⟨hsolid _ (List.mem_map_of_mem hp), fun q hq => hsolid q ?_⟩
    -- The last step of the way there is one from a member, so it does not leave the set.
    obtain ⟨-, -, a, ha, -, hdep⟩ := Relation.TransGen.tail'_iff.mp hq
    exact hclosed a ha q hdep

theorem hard_dependencies_resolve_sample :
    (∀ p ∈ Sample.probes, p.declaration.requirement.AsksForProbesOnly)
      ∧ Follows Sample.fateOf Sample.run.1.trace
      ∧ ∃ r, Sample.run.1.outcome = .ok r ∧ ∀ p ∈ Sample.probes,
        ∃ rec, r.records.get? p.id = some rec
          ∧ (rec.status = .executed ↔ (Sample.fateOf p.id).status = .executed
              ∧ Supported Sample.fateOf Sample.probes p.id)
          ∧ (rec.status = .error ↔ (Sample.fateOf p.id).status ≠ .executed
              ∧ Supported Sample.fateOf Sample.probes p.id)
          ∧ (rec.status = .notExecuted
              ↔ ¬ Supported Sample.fateOf Sample.probes p.id) := by
  have honly : ∀ p ∈ Sample.probes, p.declaration.requirement.AsksForProbesOnly := by
    intro p hp
    simp only [Sample.probes, List.mem_cons, List.not_mem_nil, or_false] at hp
    rcases hp with rfl | rfl | rfl | rfl | rfl | rfl <;> rfl
  have hfollow : Follows Sample.fateOf Sample.run.1.trace := by decide +kernel
  obtain ⟨r, hr, hstatus, -⟩ := hard_dependencies_resolve Sample.prepare_probes honly
    Sample.hasDefaultSubstitute Sample.compatible.conforms hfollow
  exact ⟨honly, hfollow, r, hr, hstatus⟩

end

end Scan

end TlsScan
