import Mathlib.Data.List.Nodup
import TlsScan.Proofs.Scan.Admission
import TlsScan.Proofs.Scan.Steps

/-!
# Where the probes of a scan are

A probe of a scan waits to be handed out, runs, or has a record in the report.  No
probe is in two of these places and none is lost on the way, whichever path it
takes: the end of its task, a crash, a stop by the watchdog, or the drain.

## Main Definitions

* `Scan.Point.merged` — the probes whose results were merged, in order.
* `Scan.OwnResults` — no result that was merged files a record under another
  identity than its own.
* `Scan.Point.Accounted` — every probe is unscheduled, running or merged, and only
  once.
* `Scan.Point.Partitioned` — the same of the probes that have a record.

## Main Results

* `Scan.Passes.accounted` — the account is right at every point before a scan fails.
* `Scan.probes_partitioned` — what follows for the records, on the way and at the end.

## Design Notes

The account is one permutation of the identities that were declared, so a step that
drops a probe or repeats one cannot keep it.  It needs nothing of the results; only
the step from there to the records does.
-/

namespace TlsScan.Scan

variable {β σ : Type}

/-! ## Merged results -/

/-- The result that was merged, with its probe, if an event says so. -/
def Event.merged? : Event → Option (ProbeId × ProbeResult)
  | .finished p r _ => some (p, r)
  | .notExecuted p r _ => some (p, r)
  | _ => none

/-- **The probes whose results were merged**, in order. -/
def Point.merged (x : Point β σ) : List ProbeId :=
  (x.state.trace.filterMap Event.merged?).map (·.1)

/-- **No result that was merged files a record under another identity than its own.** -/
def OwnResults (trace : List Event) : Prop :=
  ∀ m ∈ trace.filterMap Event.merged?, m.2.OwnRecords

instance (trace : List Event) : Decidable (OwnResults trace) := by
  unfold OwnResults
  infer_instance

theorem ownResults_append {l m : List Event} :
    OwnResults (l ++ m) ↔ OwnResults l ∧ OwnResults m := by
  simp only [OwnResults, List.filterMap_append, List.mem_append, or_imp, forall_and]

theorem ownResults_singleton {e : Event} {p : ProbeId} {r : ProbeResult}
    (he : e.merged? = some (p, r)) : OwnResults [e] ↔ r.OwnRecords := by
  simp [OwnResults, he]

theorem OwnResults.of_grown {l m : List Event} (h : OwnResults m) (hl : l <+: m) :
    OwnResults l := by
  obtain ⟨t, rfl⟩ := hl
  exact (ownResults_append.mp h).1

theorem merged?_of_silent {es : List Event} (hes : Silent es) :
    es.filterMap Event.merged? = [] := by
  rw [List.filterMap_eq_nil_iff]
  intro e he
  have := hes e he
  cases e <;> first | rfl | cases this

theorem ownResults_of_silent {es : List Event} (hes : Silent es) : OwnResults es := by
  intro m hm
  rw [merged?_of_silent hes] at hm
  cases hm

/-! ## The account -/

/-- **Every probe is unscheduled, running or merged, and only once.** -/
structure Point.Accounted (probes : List (Probe β)) (x : Point β σ) : Prop where
  perm : (x.unscheduled.map Probe.id ++ x.running ++ x.merged).Perm (probes.map Probe.id)
  /-- Records are where they belong. -/
  filed : x.state.report.Filed
  /-- Those that were merged have a record, and no others if the results keep to
  themselves. -/
  recorded : ∀ p ∈ x.merged, x.state.report.hasRecord p = true
  own : OwnResults x.state.trace → ∀ p, x.state.report.hasRecord p = true → p ∈ x.merged

/-- What was merged after a step that told of one more result. -/
theorem merged_concat {x y : Point β σ} {es : List Event} {e : Event} {p : ProbeId}
    {r : ProbeResult} (hes : Silent es) (he : e.merged? = some (p, r))
    (htrace : y.state.trace = x.state.trace ++ es ++ [e]) :
    y.merged = x.merged ++ [p] := by
  simp [Point.merged, htrace, List.filterMap_append, merged?_of_silent hes, he]

theorem merged_silent {x y : Point β σ} {es : List Event} (hes : Silent es)
    (htrace : y.state.trace = x.state.trace ++ es) : y.merged = x.merged := by
  simp [Point.merged, htrace, List.filterMap_append, merged?_of_silent hes]

/-- An accepted result keeps the account of the records. -/
theorem Point.Accounted.merge {probes : List (Probe β)} {x y : Point β σ}
    (hx : x.Accounted probes) {d : Declaration} {result : ProbeResult} {es : List Event}
    {e : Event} (hmerge : x.state.report.merge d result = .ok y.state.report)
    (hes : Silent es) (he : e.merged? = some (d.probe, result))
    (htrace : y.state.trace = x.state.trace ++ es ++ [e])
    (hperm : (y.unscheduled.map Probe.id ++ y.running ++ (x.merged ++ [d.probe])).Perm
      (probes.map Probe.id)) : y.Accounted probes := by
  have hmerged := merged_concat hes he htrace
  refine ⟨by rwa [hmerged], Report.filed_merge hmerge hx.filed, fun p hp => ?_,
    fun hown p hp => ?_⟩
  · rw [hmerged, List.mem_append, List.mem_singleton] at hp
    rcases hp with hp | rfl
    · obtain ⟨rec, hrec⟩ := Report.hasRecord_iff.mp (hx.recorded p hp)
      exact Report.hasRecord_iff.mpr ⟨rec, Report.get?_merge hmerge hrec⟩
    · exact Report.hasRecord_of_merge hmerge
  · -- A record that is new is that of the probe, as the result keeps to itself.
    have hprefix : x.state.trace <+: y.state.trace :=
      ⟨es ++ [e], by rw [htrace, List.append_assoc]⟩
    have hresult : result.OwnRecords := by
      rw [htrace] at hown
      exact (ownResults_singleton he).mp (ownResults_append.mp hown).2
    rw [hmerged, List.mem_append, List.mem_singleton]
    exact ((Report.hasRecord_merge_own hmerge hresult p).mp hp).imp_left
      (hx.own (hown.of_grown hprefix) p)

/-- Steps that merge nothing keep the account if they only move probes. -/
theorem Point.Accounted.move {probes : List (Probe β)} {x y : Point β σ}
    (hx : x.Accounted probes) {es : List Event}
    (hrecords : y.state.report.records = x.state.report.records)
    (hmerged : es.filterMap Event.merged? = [])
    (htrace : y.state.trace = x.state.trace ++ es)
    (hperm : (y.unscheduled.map Probe.id ++ y.running).Perm
      (x.unscheduled.map Probe.id ++ x.running)) : y.Accounted probes := by
  have hsame : y.merged = x.merged := by
    simp [Point.merged, htrace, List.filterMap_append, hmerged]
  have hhas : ∀ p, y.state.report.hasRecord p = x.state.report.hasRecord p := fun p => by
    simp only [Report.hasRecord, hrecords]
  refine ⟨?_, ?_, fun p hp => ?_, fun hown p hp => ?_⟩
  · rw [hsame]
    exact (hperm.append_right _).trans hx.perm
  · intro p rec hp
    rw [hrecords] at hp
    exact hx.filed p rec hp
  · rw [hhas]
    exact hx.recorded p (by rwa [hsame] at hp)
  · rw [hsame]
    exact hx.own (hown.of_grown ⟨es, htrace.symm⟩) p (by rwa [hhas] at hp)

/-- **Every move but the last one of a scan that fails keeps the account.** -/
theorem Move.accounted {probes : List (Probe β)} {x y : Point β σ} (h : Move x y)
    (hx : x.Accounted probes) (hy : y.stage ≠ .failed) : y.Accounted probes := by
  cases h with
  | rest es hes _ _ hu hr hreport htrace =>
      refine hx.move (by rw [hreport]) (merged?_of_silent hes) htrace ?_
      rw [Point.running_congr hr]
      exact (hu.symm.map _).append_right _
  | hand p _ _ _ hu hr hreport htrace =>
      refine hx.move (by rw [hreport]) rfl htrace ?_
      refine ((hr.map _).append_left _).trans ?_
      exact List.perm_middle.trans ((hu.map Probe.id).append_right _).symm
  | finish d es e result rec hes hd hmerge _ _ _ hu hr htrace =>
      have hquiet := hes.append (silent_singleton hd.progress?)
      have hevent : Event.merged? (.finished d.probe result rec.status)
          = some (d.probe, result) := rfl
      refine hx.merge hmerge hquiet hevent (by simp [htrace]) ?_
      -- The probe goes from those that run to those that were merged.
      refine List.Perm.trans ?_ hx.perm
      have hr' : x.running.Perm (d.probe :: y.running) := hr.map _
      rw [hu, ← List.append_assoc]
      refine (List.perm_append_singleton ..).trans ?_
      rw [List.append_assoc, List.append_assoc]
      refine List.perm_middle.symm.trans ((List.Perm.append_left _ ?_))
      exact (hr'.append_right _).symm
  | leave es hes _ _ _ hu hr hr' hreport htrace =>
      refine hx.move (by rw [hreport]) (merged?_of_silent hes) htrace ?_
      rw [Point.running_congr (hr.trans hr'.symm), hu]
  | drain p hmerge _ _ hu hr hr' htrace =>
      refine hx.merge hmerge silent_nil rfl (by simpa using htrace) ?_
      refine List.Perm.trans ?_ hx.perm
      rw [Point.running_congr (hr.trans hr'.symm), ← List.append_assoc]
      refine (List.perm_append_singleton ..).trans ?_
      exact ((hu.map Probe.id).append_right _ |>.append_right _).symm
  | complete t e he _ _ hu hu' hr hr' hreport htrace =>
      refine hx.move (by rw [hreport]; rfl) (merged?_of_silent (silent_singleton he))
        htrace ?_
      rw [Point.running_congr (hr.trans hr'.symm), hu, hu']
  | giveUp _ _ _ _ _ _ _ _ _ _ _ hfailed => exact absurd hfailed hy
  | refuse _ _ _ _ _ hfailed => exact absurd hfailed hy

section
variable {w : Workers β σ} {target : String} {probes : List (Probe β)} {s : σ}

theorem accounted_initial (w : Workers β σ) (target : String) (probes : List (Probe β))
    (s : σ) : (initial w target probes s).Accounted probes := by
  have hmerged : (initial w target probes s).merged = [] := rfl
  have hempty : (initial w target probes s).state.report.records = Table.empty := rfl
  refine ⟨?_, fun p rec hrec => ?_, fun p hp => ?_, fun _ p hp => ?_⟩
  · show (probes.map Probe.id ++ [] ++ []).Perm (probes.map Probe.id)
    simp
  · rw [hempty] at hrec
    cases hrec
  · rw [hmerged] at hp
    cases hp
  · rw [Report.hasRecord, hempty] at hp
    cases hp

/-- **The account is right at every point of a scan before it fails.** -/
theorem Passes.accounted {x : Point β σ} (h : Passes w target probes s x)
    (hx : x.stage ≠ .failed) : x.Accounted probes := by
  refine h.invariant (I := fun x => x.stage ≠ .failed → x.Accounted probes)
    (fun _ => accounted_initial ..) ?_ hx
  exact fun x y _ _ ih hm hy => hm.accounted (ih hm.stage_ne) hy

/-- **No step makes up a probe**: all that is unscheduled or running was given. -/
theorem Passes.given {x : Point β σ} (h : Passes w target probes s x)
    (hx : x.stage ≠ .failed) : (∀ p ∈ x.unscheduled, p ∈ probes)
      ∧ ∀ d ∈ x.state.running, ∃ p ∈ probes, p.declaration = d := by
  refine h.invariant (I := fun x => x.stage ≠ .failed → (∀ p ∈ x.unscheduled, p ∈ probes)
    ∧ ∀ d ∈ x.state.running, ∃ p ∈ probes, p.declaration = d) ?_ ?_ hx
  · exact fun _ => ⟨fun p hp => hp, nofun⟩
  · intro x y _ _ ih hm hy
    obtain ⟨hu, hr⟩ := ih hm.stage_ne
    cases hm with
    | rest _ _ _ _ hperm hrun _ _ =>
        exact ⟨fun p hp => hu p (hperm.symm.subset hp), hrun ▸ hr⟩
    | hand p _ _ _ hperm hrun _ _ =>
        have hp : p ∈ probes := hu p (hperm.symm.subset (List.mem_cons_self ..))
        refine ⟨fun q hq => hu q (hperm.symm.subset (List.mem_cons_of_mem _ hq)),
          fun d hd => ?_⟩
        rcases List.mem_cons.mp (hrun.subset hd) with rfl | hd
        · exact ⟨p, hp, rfl⟩
        · exact hr d hd
    | finish _ _ _ _ _ _ _ _ _ _ _ hsame hrun _ =>
        exact ⟨hsame ▸ hu, fun d hd => hr d (hrun.symm.subset (List.mem_cons_of_mem _ hd))⟩
    | leave _ _ _ _ _ hsame _ hnone _ _ => exact ⟨hsame ▸ hu, by simp [hnone]⟩
    | drain _ _ _ _ hperm _ hnone _ =>
        exact ⟨fun q hq => hu q (hperm.symm.subset (List.mem_cons_of_mem _ hq)),
          by simp [hnone]⟩
    | complete _ _ _ _ _ _ hnone _ hidle _ _ => exact ⟨by simp [hnone], by simp [hidle]⟩
    | giveUp _ _ _ _ _ _ _ _ _ _ _ hfailed => exact absurd hfailed hy
    | refuse _ _ _ _ _ hfailed => exact absurd hfailed hy

/-! ## The partition -/

/-- **Every declared probe is unscheduled, running or recorded**, and in one of these
places only. -/
structure Point.Partitioned (probes : List (Probe β)) (x : Point β σ) : Prop where
  nodup_unscheduled : (x.unscheduled.map Probe.id).Nodup
  nodup_running : x.running.Nodup
  disjoint : (x.unscheduled.map Probe.id).Disjoint x.running
  unscheduled_unrecorded :
    ∀ p ∈ x.unscheduled.map Probe.id, x.state.report.hasRecord p = false
  running_unrecorded : ∀ p ∈ x.running, x.state.report.hasRecord p = false
  declared : ∀ p, p ∈ probes.map Probe.id ↔ p ∈ x.unscheduled.map Probe.id
    ∨ p ∈ x.running ∨ x.state.report.hasRecord p = true

theorem Point.Accounted.partitioned {x : Point β σ} (hx : x.Accounted probes)
    (hnodup : (probes.map Probe.id).Nodup) (hown : OwnResults x.state.trace) :
    x.Partitioned probes := by
  -- Declared once, every probe is in the account once, so the three places are apart.
  have hall := hx.perm.nodup_iff.mpr hnodup
  rw [List.nodup_append'] at hall
  obtain ⟨hplaces, -, hmerged⟩ := hall
  have hrecord : ∀ p, x.state.report.hasRecord p = true ↔ p ∈ x.merged :=
    fun p => ⟨hx.own hown p, hx.recorded p⟩
  have hfree : ∀ p ∈ x.unscheduled.map Probe.id ++ x.running,
      x.state.report.hasRecord p = false := by
    intro p hp
    cases hr : x.state.report.hasRecord p with
    | false => rfl
    | true => exact absurd ((hrecord p).mp hr) (hmerged hp)
  obtain ⟨hu, hr, hdisjoint⟩ := List.nodup_append'.mp hplaces
  refine ⟨hu, hr, hdisjoint, fun p hp => hfree p (List.mem_append_left _ hp),
    fun p hp => hfree p (List.mem_append_right _ hp), fun p => ?_⟩
  rw [← hx.perm.mem_iff, List.mem_append, List.mem_append, hrecord p, or_assoc]

/-- **A scan keeps every probe in one place.**  At every point before it fails, the
probes that are unscheduled, that run and that have a record are the declared ones,
each in one of these places only; if it does not fail, exactly the declared probes
have a record in the end, and each record carries its own identity. -/
theorem probes_partitioned {config : Config} {warnings : List LogEntry}
    (hprepare : prepare config probes = .ok warnings)
    (hown : OwnResults (runWith w target warnings probes s).1.trace) :
    (∀ x, Passes w target probes s x → x.stage ≠ .failed → x.Partitioned probes)
      ∧ ∀ r, (runWith w target warnings probes s).1.outcome = .ok r →
          (∀ p, r.hasRecord p = true ↔ p ∈ probes.map Probe.id)
            ∧ ∀ p rec, r.records.get? p = some rec → rec.probe = p := by
  rw [trace_runWith] at hown
  have hnodup := nodup_of_prepare hprepare
  have hway : ∀ x, Passes w target probes s x → x.stage ≠ .failed →
      x.Partitioned probes := fun x hx hstage =>
    (hx.accounted hstage).partitioned hnodup (hown.of_grown hx.trace_grows)
  refine ⟨hway, fun r hr => ?_⟩
  obtain ⟨hfault, rfl⟩ := outcome_runWith_eq_ok_iff.mp hr
  have hend := passes_final w target probes s
  have hfine := stage_final_ne hfault
  refine ⟨fun p => ?_, (hend.accounted hfine).filed⟩
  have hdeclared := (hway _ hend hfine).declared p
  rw [(places_final hfault).1, (places_final hfault).2] at hdeclared
  simpa [final] using hdeclared.symm

theorem probes_partitioned_sample :
    OwnResults Sample.run.1.trace
      ∧ (∀ x, Passes (VirtualTime.workers Sample.surroundings) "sample" Sample.probes
          (.start 2 ()) x → x.stage ≠ .failed → x.Partitioned Sample.probes)
      ∧ ∀ p, Sample.ended.1.report.hasRecord p = true
          ↔ p ∈ Sample.probes.map Probe.id := by
  have hown : OwnResults Sample.run.1.trace := by decide +kernel
  obtain ⟨hway, hend⟩ := probes_partitioned Sample.prepare_probes hown
  exact ⟨hown, hway, (hend _ Sample.outcome_run).1⟩

end

end TlsScan.Scan
