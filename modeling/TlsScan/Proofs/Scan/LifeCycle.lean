import TlsScan.Proofs.Scan.Partition
import TlsScan.Proofs.Scan.Starts

/-!
# The life of a probe

What an observer is told of one probe is short: that it was handed out and later
that it has finished, or only that it was not executed.  This file shows that
nothing else can be heard, that what is heard agrees with the record of the probe,
and that no more is started than was handed out.

## Main Definitions

* `Scan.lifeOf` — what an observer is told of one probe.
* `Scan.Point.Lives` — what it has been told so far, by the whereabouts of the probe.
* `Scan.Begun` — a life, or the beginning of one.

## Main Results

* `Scan.Passes.lives` — every probe lives as it should until a scan fails.
* `Scan.Passes.begun` — and none is told twice of the same, also if a scan fails.
* `Scan.probe_lives_once` — both, for whole runs and with the starts of tasks.
-/

namespace TlsScan.Scan

/-! ## What is told of one probe -/

/-- The probe that an observer is told of. -/
def Progress.probe : Progress → ProbeId
  | .scheduled p => p
  | .finished p _ => p
  | .notExecuted p _ => p

/-- Whether an observer is told that a probe has finished. -/
def Progress.isFinished (p : ProbeId) : Progress → Bool
  | .finished q _ => q = p
  | _ => false

/-- **What an observer is told of one probe**, in order. -/
def lifeOf (l : List Progress) (p : ProbeId) : List Progress :=
  l.filter fun g => Progress.probe g = p

variable {β σ : Type} {x y : Point β σ}

/-- What an observer has been told of one probe so far. -/
def Point.life (x : Point β σ) (p : ProbeId) : List Progress :=
  lifeOf (x.state.trace.filterMap Event.progress?) p

theorem life_silent {es : List Event} (hes : Silent es)
    (htrace : y.state.trace = x.state.trace ++ es) (p : ProbeId) : y.life p = x.life p := by
  have hnone : es.filterMap Event.progress? = [] := List.filterMap_eq_nil_iff.mpr hes
  simp only [Point.life, htrace, List.filterMap_append, hnone, List.append_nil]

section
variable {es : List Event} {e : Event} {g : Progress} {p : ProbeId}

/-- What an event tells of a probe is added to the life of that probe. -/
theorem life_concat (hes : Silent es) (htrace : y.state.trace = x.state.trace ++ es ++ [e])
    (he : e.progress? = some g) (hp : Progress.probe g = p) :
    y.life p = x.life p ++ [g] := by
  have hnone : es.filterMap Event.progress? = [] := List.filterMap_eq_nil_iff.mpr hes
  simp [Point.life, lifeOf, htrace, List.filterMap_append, hnone, he, hp]

/-- The lives of the others do not change by it. -/
theorem life_concat_of_ne (hes : Silent es)
    (htrace : y.state.trace = x.state.trace ++ es ++ [e]) (he : e.progress? = some g)
    (hp : Progress.probe g ≠ p) : y.life p = x.life p := by
  have hnone : es.filterMap Event.progress? = [] := List.filterMap_eq_nil_iff.mpr hes
  simp [Point.life, lifeOf, htrace, List.filterMap_append, hnone, he, hp]

end

/-! ## Lives up to a point -/

/-- **What an observer has been told of a probe**, by where the probe is. -/
structure Point.Lives (x : Point β σ) (p : ProbeId) : Prop where
  running : p ∈ x.running → x.life p = [.scheduled p]
  merged : p ∈ x.merged → ∃ rec, x.state.report.records.get? p = some rec
    ∧ (x.life p = [.scheduled p, .finished p rec.status]
      ∨ x.life p = [.notExecuted p (rec.details.getD "")])
  neither : p ∉ x.running → p ∉ x.merged → x.life p = []

/-- A probe that stays where it is lives on as before. -/
theorem Point.Lives.stay {p : ProbeId} (hx : x.Lives p) (hlife : y.life p = x.life p)
    (hrun : p ∈ y.running ↔ p ∈ x.running) (hmerged : p ∈ y.merged ↔ p ∈ x.merged)
    (hrec : ∀ rec, x.state.report.records.get? p = some rec →
      y.state.report.records.get? p = some rec) : y.Lives p := by
  refine ⟨fun h => ?_, fun h => ?_, fun hr hm => ?_⟩
  · rw [hlife]
    exact hx.running (hrun.mp h)
  · obtain ⟨rec, hget, hl⟩ := hx.merged (hmerged.mp h)
    exact ⟨rec, hrec rec hget, by rwa [hlife]⟩
  · rw [hlife]
    exact hx.neither (fun h => hr (hrun.mpr h)) fun h => hm (hmerged.mpr h)

/-- Steps that neither move a probe nor tell of any let all probes live on. -/
theorem Point.Lives.rest {es : List Event} {p : ProbeId} (hx : x.Lives p)
    (hes : Silent es) (htrace : y.state.trace = x.state.trace ++ es)
    (hrun : y.running = x.running)
    (hrec : y.state.report.records = x.state.report.records) : y.Lives p := by
  refine hx.stay (life_silent hes htrace p) (by rw [hrun]) ?_ fun rec h => by rwa [hrec]
  rw [merged_silent hes htrace]

section
variable {probes : List (Probe β)}

/-- Places are apart: what is unscheduled neither runs nor was merged, and what runs was
not merged. -/
theorem Point.Accounted.apart (hx : x.Accounted probes)
    (hnodup : (probes.map Probe.id).Nodup) :
    (∀ p ∈ x.unscheduled.map Probe.id, p ∉ x.running ∧ p ∉ x.merged)
      ∧ (∀ p ∈ x.running, p ∉ x.merged) ∧ x.running.Nodup := by
  have hall := hx.perm.nodup_iff.mpr hnodup
  obtain ⟨hplaces, -, hmerged⟩ := List.nodup_append'.mp hall
  obtain ⟨-, hrun, hdisjoint⟩ := List.nodup_append'.mp hplaces
  exact ⟨fun p hp => ⟨fun hr => hdisjoint hp hr,
    fun hm => hmerged (List.mem_append_left _ hp) hm⟩,
    fun p hp hm => hmerged (List.mem_append_right _ hp) hm, hrun⟩

/-- A probe that is handed out has been told of nothing before. -/
theorem lives_hand {p : Probe β} {r : Report} (hlives : ∀ p, x.Lives p)
    (hfree : p.id ∉ x.running ∧ p.id ∉ x.merged)
    (hr : y.running.Perm (p.id :: x.running)) (hreport : y.state.report = x.state.report)
    (htrace : y.state.trace = x.state.trace ++ [.scheduled p.id r]) (q : ProbeId) :
    y.Lives q := by
  have htrace' : y.state.trace = x.state.trace ++ [] ++ [.scheduled p.id r] := by
    rw [htrace, List.append_nil]
  have hsame : y.merged = x.merged := by
    simp [Point.merged, htrace, Event.merged?]
  by_cases hq : q = p.id
  · subst hq
    have hlife : y.life p.id = x.life p.id ++ [.scheduled p.id] :=
      life_concat silent_nil htrace' rfl rfl
    rw [(hlives p.id).neither hfree.1 hfree.2] at hlife
    have hrun : p.id ∈ y.running := hr.symm.subset (List.mem_cons_self ..)
    exact ⟨fun _ => hlife, fun h => absurd (hsame ▸ h) hfree.2, fun h _ => absurd hrun h⟩
  · refine (hlives q).stay (life_concat_of_ne silent_nil htrace' rfl (Ne.symm hq)) ?_
      (by rw [hsame]) fun rec h => by rwa [hreport]
    rw [hr.mem_iff, List.mem_cons, or_iff_right hq]

/-- A probe that finishes was handed out before, and its record tells how. -/
theorem lives_finish {p : ProbeId} {es : List Event} {result : ProbeResult} {rec : Record}
    (hlives : ∀ p, x.Lives p) (hes : Silent es) (hr : x.running.Perm (p :: y.running))
    (hrun : p ∉ y.running) (hrec : y.state.report.records.get? p = some rec)
    (hkeep : ∀ q rec, x.state.report.records.get? q = some rec →
      y.state.report.records.get? q = some rec)
    (htrace : y.state.trace = x.state.trace ++ es ++ [.finished p result rec.status])
    (q : ProbeId) : y.Lives q := by
  have hsame : y.merged = x.merged ++ [p] := merged_concat hes rfl htrace
  by_cases hq : q = p
  · subst hq
    have hlife : y.life q = x.life q ++ [.finished q rec.status] :=
      life_concat hes htrace rfl rfl
    rw [(hlives q).running (hr.symm.subset (List.mem_cons_self ..))] at hlife
    exact ⟨fun h => absurd h hrun, fun _ => ⟨rec, hrec, Or.inl hlife⟩,
      fun _ h => absurd (by simp [hsame]) h⟩
  · refine (hlives q).stay (life_concat_of_ne hes htrace rfl (Ne.symm hq)) ?_
      (by simp [hsame, hq]) (hkeep q)
    rw [hr.mem_iff, List.mem_cons, or_iff_right hq]

/-- A probe that is not executed has been told of nothing before, and its record gives
the reason. -/
theorem lives_drain {p : ProbeId} {result : ProbeResult} {rec : Record}
    (hlives : ∀ p, x.Lives p) (hfree : p ∉ x.running ∧ p ∉ x.merged)
    (hr : y.running = x.running) (hrec : y.state.report.records.get? p = some rec)
    (hkeep : ∀ q rec, x.state.report.records.get? q = some rec →
      y.state.report.records.get? q = some rec)
    (htrace : y.state.trace = x.state.trace ++ [.notExecuted p result (rec.details.getD "")])
    (q : ProbeId) : y.Lives q := by
  have htrace' : y.state.trace
      = x.state.trace ++ [] ++ [.notExecuted p result (rec.details.getD "")] := by
    rw [htrace, List.append_nil]
  have hsame : y.merged = x.merged ++ [p] := merged_concat silent_nil rfl htrace'
  by_cases hq : q = p
  · subst hq
    have hlife : y.life q = x.life q ++ [.notExecuted q (rec.details.getD "")] :=
      life_concat silent_nil htrace' rfl rfl
    rw [(hlives q).neither hfree.1 hfree.2] at hlife
    exact ⟨fun h => absurd (hr ▸ h) hfree.1, fun _ => ⟨rec, hrec, Or.inr hlife⟩,
      fun _ h => absurd (by simp [hsame]) h⟩
  · exact (hlives q).stay (life_concat_of_ne silent_nil htrace' rfl (Ne.symm hq))
      (by rw [hr]) (by simp [hsame, hq]) (hkeep q)

/-- **Every move but the last one of a scan that fails lets all probes live on.** -/
theorem Move.lives (h : Move x y) (hx : x.Accounted probes)
    (hnodup : (probes.map Probe.id).Nodup) (hlives : ∀ p, x.Lives p)
    (hy : y.stage ≠ .failed) (q : ProbeId) : y.Lives q := by
  obtain ⟨hunscheduled, -, hrunning⟩ := hx.apart hnodup
  cases h with
  | rest es hes _ _ _ hr hreport htrace =>
      exact (hlives q).rest hes htrace (Point.running_congr hr.symm) (by rw [hreport])
  | hand p _ _ _ hu hr hreport htrace =>
      have hp : p.id ∈ x.unscheduled.map Probe.id :=
        (hu.map Probe.id).symm.subset (List.mem_cons_self ..)
      exact lives_hand hlives (hunscheduled _ hp) (hr.map _) hreport htrace q
  | finish d es e result rec hes hd hmerge hrec _ _ _ hr htrace =>
      have hr' : x.running.Perm (d.probe :: y.running) := hr.map _
      -- No identity runs twice, so the probe has left those that run.
      have hgone : d.probe ∉ y.running :=
        (List.nodup_cons.mp (hr'.nodup_iff.mp hrunning)).1
      have htrace' : y.state.trace = x.state.trace ++ (es ++ [e])
          ++ [.finished d.probe result rec.status] := by simp [htrace]
      exact lives_finish hlives (hes.append (silent_singleton hd.progress?)) hr' hgone hrec
        (fun _ _ h => Report.get?_merge hmerge h) htrace' q
  | leave es hes _ _ _ _ hr hr' hreport htrace =>
      exact (hlives q).rest hes htrace (Point.running_congr (hr'.trans hr.symm))
        (by rw [hreport])
  | drain p hmerge _ _ hu hr hr' htrace =>
      have hp : p.id ∈ x.unscheduled.map Probe.id :=
        (hu.map Probe.id).symm.subset (List.mem_cons_self ..)
      obtain ⟨rec, hrec⟩ : ∃ rec, y.state.report.records.get? p.id = some rec :=
        Report.hasRecord_iff.mp (Report.hasRecord_of_merge hmerge)
      rw [reasonIn, hrec, Option.bind_some] at htrace
      exact lives_drain hlives (hunscheduled _ hp) (Point.running_congr (hr'.trans hr.symm))
        hrec (fun _ _ h => Report.get?_merge hmerge h) htrace q
  | complete t e he _ _ _ _ hr hr' hreport htrace =>
      exact (hlives q).rest (silent_singleton he) htrace
        (Point.running_congr (hr'.trans hr.symm)) (by rw [hreport]; rfl)
  | giveUp _ _ _ _ _ _ _ _ _ _ _ hfailed => exact absurd hfailed hy
  | refuse _ _ _ _ _ hfailed => exact absurd hfailed hy

/-! ## Lives in a whole scan -/

variable {w : Workers β σ} {target : String} {s : σ}

theorem lives_initial (w : Workers β σ) (target : String) (probes : List (Probe β)) (s : σ)
    (p : ProbeId) : (initial w target probes s).Lives p :=
  ⟨nofun, nofun, fun _ _ => rfl⟩

/-- **Every probe lives as it should until a scan fails.** -/
theorem Passes.lives (h : Passes w target probes s x) (hnodup : (probes.map Probe.id).Nodup)
    (hx : x.stage ≠ .failed) (p : ProbeId) : x.Lives p := by
  refine h.invariant (I := fun x => x.stage ≠ .failed → ∀ p, x.Lives p) ?_ ?_ hx p
  · exact fun _ p => lives_initial ..
  · intro x y hx _ ih hm hy
    exact hm.lives (hx.accounted hm.stage_ne) hnodup (ih hm.stage_ne) hy

/-- **A life, or the beginning of one.** -/
def Begun (p : ProbeId) (l : List Progress) : Prop :=
  (∃ status, l <+: [.scheduled p, .finished p status])
    ∨ ∃ reason, l <+: [.notExecuted p reason]

theorem Point.Lives.begun {p : ProbeId} (hx : x.Lives p) : Begun p (x.life p) := by
  by_cases hr : p ∈ x.running
  · rw [hx.running hr]
    exact Or.inl ⟨.executed, by simp⟩
  by_cases hm : p ∈ x.merged
  · obtain ⟨rec, -, hl | hl⟩ := hx.merged hm
    · exact Or.inl ⟨rec.status, hl ▸ List.prefix_refl _⟩
    · exact Or.inr ⟨rec.details.getD "", hl ▸ List.prefix_refl _⟩
  · rw [hx.neither hr hm]
    exact Or.inl ⟨.executed, List.nil_prefix⟩

/-- **No probe is told of twice**, also if a scan fails. -/
theorem Passes.begun (h : Passes w target probes s x)
    (hnodup : (probes.map Probe.id).Nodup) (p : ProbeId) : Begun p (x.life p) := by
  refine h.invariant (I := fun x => Begun p (x.life p)) (lives_initial ..).begun ?_
  · intro x y _ hreach ih hm
    by_cases hy : y.stage = .failed
    · -- The step that fails tells of nothing.
      have hsame : y.life p = x.life p := by
        cases hm with
        | giveUp _ es _ _ _ hes _ _ _ _ _ _ htrace => exact life_silent hes htrace p
        | refuse _ _ _ _ _ _ htrace =>
            exact life_silent silent_nil (by rw [htrace, List.append_nil]) p
        | _ => simp_all
      rw [hsame]
      exact ih
    · exact (hreach.lives hnodup hy p).begun

theorem Begun.count_scheduled {p : ProbeId} {l : List Progress}
    (h : Begun p (lifeOf l p)) : l.count (.scheduled p) ≤ 1 := by
  have hsame : (lifeOf l p).count (.scheduled p) = l.count (.scheduled p) :=
    List.count_filter (by simp [Progress.probe])
  rw [← hsame]
  rcases h with ⟨status, h⟩ | ⟨reason, h⟩ <;>
    exact Nat.le_trans (h.sublist.count_le _) (by simp)

theorem Begun.countP_finished {p : ProbeId} {l : List Progress}
    (h : Begun p (lifeOf l p)) : l.countP (Progress.isFinished p) ≤ 1 := by
  have hsame : (lifeOf l p).countP (Progress.isFinished p)
      = l.countP (Progress.isFinished p) := by
    rw [lifeOf, List.countP_filter]
    refine List.countP_congr fun g _ => ?_
    cases g <;> simp +contextual [Progress.isFinished, Progress.probe]
  rw [← hsame]
  rcases h with ⟨status, h⟩ | ⟨reason, h⟩ <;>
    exact Nat.le_trans h.sublist.countP_le (by simp [Progress.isFinished])

/-- What is handed out is what an observer is told to be. -/
theorem countP_isHandOut (l : List Event) (p : ProbeId) :
    l.countP (Event.isHandOut p)
      = (lifeOf (l.filterMap Event.progress?) p).count (.scheduled p) := by
  rw [lifeOf, List.count_filter (by simp [Progress.probe]), List.count_filterMap]
  refine List.countP_congr fun e _ => ?_
  cases e <;> simp [Event.isHandOut, Event.progress?]

/-- In the end every declared probe was merged. -/
theorem merged_final (h : (Coordinator.scan w target probes s).2 = none) {p : ProbeId}
    (hp : p ∈ probes.map Probe.id) : p ∈ (final w target probes s).merged := by
  have hperm := ((passes_final w target probes s).accounted (stage_final_ne h)).perm
  rw [(places_final h).1, (places_final h).2] at hperm
  exact hperm.symm.subset hp

/-- **Every probe lives once.**  In a scan that ends with a report, an observer is told of
each declared probe that it was handed out and then that it has finished, with the status of
its record, or only that it was not executed, with the details of its record.  The first is
started at most once, the second never; and whatever a scan ends with, nothing is told or
started twice. -/
theorem probe_lives_once {config : Config} {warnings : List LogEntry}
    (hprepare : prepare config probes = .ok warnings)
    (L : w.Ledger) (hs : ∀ p, L.unstarted s p = 0) :
    let run := (runWith w target warnings probes s).1
    (∀ r, run.outcome = .ok r → ∀ p ∈ probes.map Probe.id,
      ∃ rec, r.records.get? p = some rec
        ∧ (lifeOf run.progress p = [.scheduled p, .finished p rec.status]
              ∧ run.trace.countP (Event.isStart p) ≤ 1
            ∨ lifeOf run.progress p = [.notExecuted p (rec.details.getD "")]
              ∧ run.trace.countP (Event.isStart p) = 0))
      ∧ ∀ p, run.progress.count (.scheduled p) ≤ 1
          ∧ run.progress.countP (Progress.isFinished p) ≤ 1
          ∧ run.trace.countP (Event.isStart p) ≤ 1 := by
  intro run
  have hnodup := nodup_of_prepare hprepare
  have hend := passes_final w target probes s
  have htrace : run.trace = (final w target probes s).state.trace := trace_runWith
  have hlife : ∀ p, lifeOf run.progress p = (final w target probes s).life p := fun p => by
    rw [Run.progress, htrace]
    rfl
  -- Workers start no more than they were handed, and an observer is told of that.
  have hstarts : ∀ p, run.trace.countP (Event.isStart p)
      ≤ (lifeOf run.progress p).count (.scheduled p) := fun p => by
    rw [htrace, hlife, Point.life, ← countP_isHandOut]
    exact hend.starts_le L hs p
  have hbegun : ∀ p, Begun p (lifeOf run.progress p) := fun p => by
    rw [hlife]
    exact hend.begun hnodup p
  have hcount : ∀ p, (lifeOf run.progress p).count (.scheduled p)
      = run.progress.count (.scheduled p) := fun p =>
    List.count_filter (by simp [Progress.probe])
  refine ⟨fun r hr p hp => ?_, fun p => ⟨(hbegun p).count_scheduled,
    (hbegun p).countP_finished, ?_⟩⟩
  · obtain ⟨hfault, rfl⟩ := outcome_runWith_eq_ok_iff.mp hr
    have hlives := hend.lives hnodup (stage_final_ne hfault) p
    obtain ⟨rec, hrec, hl | hl⟩ := hlives.merged (merged_final hfault hp)
    · refine ⟨rec, hrec, Or.inl ⟨(hlife p).trans hl, ?_⟩⟩
      have := hstarts p
      rw [hcount] at this
      exact Nat.le_trans this (hbegun p).count_scheduled
    · refine ⟨rec, hrec, Or.inr ⟨(hlife p).trans hl, ?_⟩⟩
      have := hstarts p
      rw [hlife, hl] at this
      exact Nat.le_zero.mp this
  · have := hstarts p
    rw [hcount] at this
    exact Nat.le_trans this (hbegun p).count_scheduled

theorem probe_lives_once_sample :
    (∀ p, VirtualTime.unstarted (VirtualTime.start 2 ()) p = 0)
      ∧ ∀ p ∈ Sample.probes.map Probe.id, ∃ rec,
        Sample.ended.1.report.records.get? p = some rec
          ∧ (lifeOf Sample.run.1.progress p = [.scheduled p, .finished p rec.status]
                ∧ Sample.run.1.trace.countP (Event.isStart p) ≤ 1
              ∨ lifeOf Sample.run.1.progress p = [.notExecuted p (rec.details.getD "")]
                ∧ Sample.run.1.trace.countP (Event.isStart p) = 0) := by
  have hs : ∀ p, VirtualTime.unstarted (VirtualTime.start 2 ()) p = 0 :=
    VirtualTime.unstarted_start 2 ()
  refine ⟨hs, ?_⟩
  exact (probe_lives_once Sample.prepare_probes (VirtualTime.ledger Sample.surroundings) hs).1 _
    Sample.outcome_run

end

end TlsScan.Scan
