import TlsScan.Proofs.Scan.LeftOver

/-!
# Probes that are ready are run

A scan looks for what is ready after it has merged all tasks that have ended, and not after
each of them.  A probe that is ready when it looks is handed out, and so runs.  One that is
ready in between runs too, unless one of the results that are still to be merged by then
makes it unready again.  It takes an exclusion for that, or two results that contradict each
other.

## Main Definitions

* `Scan.Overtaken` — a probe is unready again before the scan has looked.

## Main Results

* `Scan.Passes.unready_of_waiting` — a scan that waits has handed out all that is ready.
* `Scan.Passes.handedOut_or_overtaken` — what is ready is handed out, or overtaken.
* `Scan.ready_runs_unless_overtaken` — the same for the end of a whole run.
* `Scan.ready_overtaken` — two probes that are ready after one result, and overtaken by the
  next one.
-/

namespace TlsScan.Scan

variable {β σ : Type}

/-- **A probe is overtaken**: at a point later on it is unready, and between the two the scan
has done nothing but merge tasks that have ended. -/
structure Overtaken (w : Workers β σ) (p : Probe β) (x y : Point β σ) : Prop where
  reaches : Reaches w x y
  rounds : y.stage = .rounds
  merges : ∃ es, y.state.trace = x.state.trace ++ es ∧ ∀ e ∈ es, e.isEnd = true
  unready : p.isReady y.state.report = false

section
variable {w : Workers β σ} {target : String} {probes : List (Probe β)} {s : σ}
  {x y z : Point β σ} {c : Coordinator β σ} {p : Probe β}

/-- It can be overtaken earlier on as well. -/
theorem Overtaken.head (h : Overtaken w p y z) (hstep : x.next w = some y)
    {es : List Event} (htrace : y.state.trace = x.state.trace ++ es)
    (hes : ∀ e ∈ es, e.isEnd = true) : Overtaken w p x z := by
  obtain ⟨es', htrace', hes'⟩ := h.merges
  refine ⟨h.reaches.head hstep, h.rounds, ⟨es ++ es', ?_, ?_⟩, h.unready⟩
  · rw [htrace', htrace, List.append_assoc]
  · exact List.forall_mem_append.mpr ⟨hes, hes'⟩

/-- A scan that ends with a report does not fail on the way. -/
theorem Passes.stage_ne_failed (h : Passes w target probes s x)
    (hok : (Coordinator.scan w target probes s).2 = none) : x.stage ≠ .failed := by
  rcases Relation.ReflTransGen.cases_head h.reaches_final with rfl | ⟨y, hstep, -⟩
  · exact stage_final_ne hok
  · exact (move_of_next h.orderly hstep).stage_ne

/-! ## Looking for what is ready -/

/-- What is about to be handed out is handed out. -/
theorem Passes.handedOut_of_handing {l : List (Probe β)}
    (h : Passes w target probes s ⟨.handing l, c⟩) (hp : p ∈ l) :
    HandedOut (Coordinator.scan w target probes s).1.trace p.id := by
  induction l generalizing c with
  | nil => cases hp
  | cons q l ih =>
      have hnext : Passes w target probes s ⟨.handing l, c.submit w q⟩ :=
        Relation.ReflTransGen.tail h rfl
      rcases List.mem_cons.mp hp with rfl | hp
      · refine ⟨c.report, hnext.trace_grows.subset ?_⟩
        exact List.mem_append_right _ (List.mem_singleton_self _)
      · exact ih hnext hp

/-- **What is ready when a scan looks is handed out.** -/
theorem Passes.handedOut_of_scheduling (h : Passes w target probes s ⟨.scheduling, c⟩)
    (hp : p ∈ c.pending) (hready : p.isReady c.report = true) :
    HandedOut (Coordinator.scan w target probes s).1.trace p.id := by
  have hnext : Passes w target probes s ⟨.handing (c.pending.filter (Probe.isReady c.report)),
      { c with pending := c.pending.filter fun p => !p.isReady c.report }⟩ :=
    Relation.ReflTransGen.tail h rfl
  exact hnext.handedOut_of_handing (List.mem_filter.mpr ⟨hp, hready⟩)

theorem Passes.handedOut_of_renewing (h : Passes w target probes s ⟨.renewing, c⟩)
    (hp : p ∈ c.pending) (hready : p.isReady c.report = true) :
    HandedOut (Coordinator.scan w target probes s).1.trace p.id := by
  have hnext : Passes w target probes s ⟨.scheduling, c.rewatch w⟩ :=
    Relation.ReflTransGen.tail h rfl
  exact hnext.handedOut_of_scheduling hp hready

/-- **A scan that waits has handed out all that is ready.** -/
theorem Passes.unready_of_waiting (h : Passes w target probes s ⟨.waiting, c⟩)
    (hp : p ∈ c.pending) : p.isReady c.report = false := by
  rcases Relation.ReflTransGen.cases_tail h with heq | ⟨⟨phase, c'⟩, hreach, hstep⟩
  · cases heq
  -- A scan begins to wait when it has handed out the last probe, and never else.
  have hafter : ∀ {phase : Phase β} {r : Coordinator β σ × Option ScanError},
      phase = .merging ∨ phase = .renewing → Point.after w phase r ≠ ⟨.waiting, c⟩ := by
    rintro phase ⟨c, _ | e⟩ (rfl | rfl) heq <;> cases heq
  cases phase with
  | scheduling => cases hstep
  | handing l =>
      cases l with
      | nil =>
          simp only [Point.next] at hstep
          split at hstep <;> cases hstep
          exact ((Passes.orderly hreach).handing [] rfl).2 p hp
      | cons q l => cases hstep
  | waiting =>
      simp only [Point.next] at hstep
      split at hstep
      · cases hstep
      · exact absurd (Option.some.inj hstep) (hafter (Or.inr rfl))
  | merging =>
      simp only [Point.next] at hstep
      split at hstep
      · cases hstep
      · exact absurd (Option.some.inj hstep) (hafter (Or.inl rfl))
  | renewing => cases hstep
  | draining l =>
      cases l with
      | nil => cases hstep
      | cons q l =>
          simp only [Point.next, Point.substitute] at hstep
          split at hstep <;> cases hstep
  | stopped fault => cases hstep

/-! ## Merging what has ended -/

/-- The merge of a task that has ended tells of its end, and of nothing else. -/
theorem trace_mergeEnding (c : Coordinator β σ) (d : Declaration) (e : Ending) :
    ∃ es, (c.mergeEnding d e).1.trace = c.trace ++ es ∧ ∀ a ∈ es, a.isEnd = true := by
  unfold Coordinator.mergeEnding
  rcases (c.record (.ended d.probe e)).merge_cases d (e.resultFor d) with
    ⟨r, rec, -, -, heq⟩ | ⟨fault, -, heq⟩
  · refine ⟨[.ended d.probe e, .finished d.probe (e.resultFor d) rec.status], ?_, ?_⟩
    · rw [heq]
      simp [Coordinator.record]
    · simp [Event.isEnd]
  · refine ⟨[.ended d.probe e], ?_, ?_⟩
    · rw [heq]
      rfl
    · simp [Event.isEnd]

/-- **What is ready while tasks are merged** is handed out after the last one, or overtaken by
one of them. -/
theorem Passes.handedOut_or_overtaken_of_merging
    (h : Passes w target probes s ⟨.merging, c⟩)
    (hok : (Coordinator.scan w target probes s).2 = none) (hp : p ∈ c.pending)
    (hready : p.isReady c.report = true) :
    HandedOut (Coordinator.scan w target probes s).1.trace p.id
      ∨ ∃ y, Overtaken w p ⟨.merging, c⟩ y := by
  fun_induction Coordinator.mergeAll w c with
  | case1 c hnone =>
      have hnext : Passes w target probes s ⟨.renewing, c⟩ :=
        Relation.ReflTransGen.tail h (by simp only [Point.next, hnone])
      exact Or.inl (hnext.handedOut_of_renewing hp hready)
  | case2 c d e rest s' hc c' fault hm =>
      have hstep : Point.next w ⟨.merging, c⟩ = some ⟨.stopped (some fault),
          (c'.rewatch w).record (.aborted fault)⟩ := by
        simp only [Point.next, hc, hm, Point.after]
      have hfailed := Passes.stage_ne_failed (Relation.ReflTransGen.tail h hstep) hok
      exact absurd rfl hfailed
  | case3 c d e rest s' hc c' hm ih =>
      have hstep : Point.next w ⟨.merging, c⟩ = some ⟨.merging, c'⟩ := by
        simp only [Point.next, hc, hm, Point.after]
      have hpending : c'.pending = c.pending := by
        rw [← Coordinator.pending_mergeEnding
          { c with running := rest, workers := s' } d e, hm]
      obtain ⟨es, htrace, hes⟩ :=
        trace_mergeEnding { c with running := rest, workers := s' } d e
      rw [hm] at htrace
      cases hready' : p.isReady c'.report with
      | true =>
          have hnext := Relation.ReflTransGen.tail h hstep
          refine (ih hnext (by rwa [hpending]) hready').imp_right ?_
          rintro ⟨y, hy⟩
          exact ⟨y, hy.head hstep htrace hes⟩
      | false =>
          exact Or.inr ⟨⟨.merging, c'⟩, Relation.ReflTransGen.single hstep, rfl,
            ⟨es, htrace, hes⟩, hready'⟩

/-- **What is ready is handed out, or overtaken** before the scan has looked. -/
theorem Passes.handedOut_or_overtaken (h : Passes w target probes s x)
    (hok : (Coordinator.scan w target probes s).2 = none) (hx : x.stage = .rounds)
    (hp : p ∈ x.unscheduled) (hready : p.isReady x.state.report = true) :
    HandedOut (Coordinator.scan w target probes s).1.trace p.id ∨ ∃ y, Overtaken w p x y := by
  obtain ⟨phase, c⟩ := x
  cases phase with
  | scheduling => exact Or.inl (h.handedOut_of_scheduling hp hready)
  | handing l =>
      rcases List.mem_append.mp hp with hl | hpending
      · exact Or.inl (h.handedOut_of_handing hl)
      · have hunready := (h.orderly.handing l rfl).2 p hpending
        exact absurd (hunready.symm.trans hready) (by decide)
  | waiting => exact absurd ((h.unready_of_waiting hp).symm.trans hready) (by decide)
  | merging => exact h.handedOut_or_overtaken_of_merging hok hp hready
  | renewing => exact Or.inl (h.handedOut_of_renewing hp hready)
  | draining l => cases hx
  | stopped fault => rcases fault with _ | fault <;> cases hx

/-! ## The end of a scan -/

/-- As long as the rounds go on, every probe is unscheduled or was handed out. -/
theorem Passes.unscheduled_or_handedOut (h : Passes w target probes s x)
    (hnodup : (probes.map Probe.id).Nodup) (hx : x.stage = .rounds) (hp : p ∈ probes) :
    p ∈ x.unscheduled ∨ HandedOut x.state.trace p.id := by
  have hfine : x.stage ≠ .failed := by simp [hx]
  have hlives := h.lives hnodup hfine p.id
  have hplaces := (h.accounted hfine).perm.symm.subset (List.mem_map_of_mem hp)
  rw [List.mem_append, List.mem_append] at hplaces
  rcases hplaces with (hu | hrun) | hmerged
  · obtain ⟨q, hq, hid⟩ := List.mem_map.mp hu
    rw [← List.inj_on_of_nodup_map hnodup ((h.given hfine).1 q hq) hp hid]
    exact Or.inl hq
  · refine Or.inr (handedOut_iff_mem_life.mpr ?_)
    rw [hlives.running hrun]
    exact List.mem_singleton_self _
  · obtain ⟨rec, -, hl | hl⟩ := hlives.merged hmerged
    · refine Or.inr (handedOut_iff_mem_life.mpr ?_)
      rw [hl]
      exact List.mem_cons_self
    · -- Nothing is drained as long as the rounds go on.
      refine absurd (drained_iff_mem_life.mpr ⟨rec.details.getD "", ?_⟩)
        (h.undrained hnodup hx p.id)
      rw [hl]
      exact List.mem_singleton_self _

/-- **What was handed out has run in the end**: its record is not that of a probe that was not
executed. -/
theorem status_of_handedOut (hnodup : (probes.map Probe.id).Nodup)
    (hok : (Coordinator.scan w target probes s).2 = none)
    (hf : FactResults (Coordinator.scan w target probes s).1.trace) (hp : p ∈ probes)
    (h : HandedOut (Coordinator.scan w target probes s).1.trace p.id) :
    ∃ rec, (Coordinator.scan w target probes s).1.report.records.get? p.id = some rec
      ∧ rec.status ≠ .notExecuted := by
  obtain ⟨rec, hrec, ⟨-, hstatus⟩ | ⟨hnever, -⟩⟩ :=
    finished_or_drained hnodup hok (List.mem_map_of_mem hp)
  · refine ⟨rec, hrec, ?_⟩
    obtain ⟨result, hfinished⟩ := (hstatus rec.status).mpr rfl
    obtain ⟨pre, post, htrace⟩ := List.append_of_mem hfinished
    have hsound := (passes_final w target probes s).resultSound pre _ post htrace
    have hpre : FactResults pre := hf.of_grown ⟨_, htrace.symm⟩
    rcases status_of_finished hsound hpre with ⟨-, -, h⟩ | ⟨-, -, -, -, h⟩
    · rw [h]
      nofun
    · rw [h]
      nofun
  · exact absurd h hnever

/-- **A probe that is ready runs, unless it is overtaken.**  Take a scan of probes that were
admitted and hand back facts, if anything, and a probe that is ready on the report as it is at
some point before the rounds are over, such as right after a merge.  If the scan ends with a
report, then the probe was handed out and does not end as not executed; or a later result that
was merged before the scan has looked again made it unready.  If its requirement excludes
nothing, the latter means that a property was decided anew. -/
theorem ready_runs_unless_overtaken {config : Config} {warnings : List LogEntry}
    (hprepare : prepare config probes = .ok warnings)
    (hf : FactResults (runWith w target warnings probes s).1.trace) {r : Report}
    (hr : (runWith w target warnings probes s).1.outcome = .ok r)
    (hx : Passes w target probes s x) (hrounds : x.stage = .rounds) (hp : p ∈ probes)
    (hready : p.declaration.requirement.holds x.state.report = true) :
    HandedOut (runWith w target warnings probes s).1.trace p.id
        ∧ (∃ rec, r.records.get? p.id = some rec ∧ rec.status ≠ .notExecuted)
      ∨ ∃ y, Overtaken w p x y
        ∧ (p.declaration.requirement.isPositive = true → ∃ q v v',
            x.state.report.verdict? q = some v ∧ y.state.report.verdict? q = some v'
              ∧ v ≠ v') := by
  obtain ⟨hok, rfl⟩ := outcome_runWith_eq_ok_iff.mp hr
  rw [trace_runWith] at hf ⊢
  have hnodup := nodup_of_prepare hprepare
  have hcases : HandedOut (Coordinator.scan w target probes s).1.trace p.id
      ∨ ∃ y, Overtaken w p x y := by
    rcases hx.unscheduled_or_handedOut hnodup hrounds hp with hu | ⟨snapshot, h⟩
    · exact hx.handedOut_or_overtaken hok hrounds hu hready
    · exact Or.inl ⟨snapshot, hx.trace_grows.subset h⟩
  rcases hcases with h | ⟨y, hy⟩
  · exact Or.inl ⟨h, status_of_handedOut hnodup hok hf hp h⟩
  · have hgrows := hy.reaches.grows hx.orderly (by simp [hy.rounds])
    exact Or.inr ⟨y, hy, fun hpos => hgrows.exists_changed hpos hready hy.unready⟩

/-! ## A probe that is overtaken -/

/-- The point that a scan has come to after so many steps, if it has not ended before. -/
def pointAt (w : Workers β σ) (target : String) (probes : List (Probe β)) (s : σ) :
    Nat → Option (Point β σ)
  | 0 => some (initial w target probes s)
  | n + 1 => (pointAt w target probes s n).bind (Point.next w)

theorem passes_of_pointAt {n : Nat} (h : pointAt w target probes s n = some x) :
    Passes w target probes s x := by
  induction n generalizing x with
  | zero =>
      cases h
      exact Relation.ReflTransGen.refl
  | succ n ih =>
      obtain ⟨y, hy, hstep⟩ := Option.bind_eq_some_iff.mp h
      exact Relation.ReflTransGen.tail (ih hy) hstep

end

namespace Sample

/-- What a probe establishes that decides one property. -/
def deciding (v : Finding) : Facts := { findings := [(.supportsRsa, v)] }

/-- The declaration of such a probe. -/
def decider (p : ProbeId) : Declaration := ⟨p, .none, [.supportsRsa], .empty⟩

/-- What the probes that end at once establish: two decide one property in different ways. -/
def rivalFate : ProbeId → Fate
  | .protocolVersion => .facts (deciding .holds)
  | .cipherSuite => .facts (deciding .fails)
  | _ => .facts {}

/-- Two probes that end together, and two that only the first of them makes ready: one
excludes that the other was executed, and one asks for the property that both decide. -/
def rivals : List (Probe (Work Unit)) :=
  [probe (decider .protocolVersion) (some 0)
      (.result (.facts .protocolVersion (deciding .holds))),
    probe (decider .cipherSuite) (some 0)
      (.result (.facts .cipherSuite (deciding .fails))),
    probe { Declaration.bare .drown with
      requirement := (Requirement.none.requireProbes [.protocolVersion]).except
        (Requirement.none.requireProbes [.cipherSuite]) } (some 0)
      (.result (.facts .drown {})),
    probe { Declaration.bare .poodle with
      requirement := Requirement.none.requireProperties [.supportsRsa] } (some 0)
      (.result (.facts .poodle {}))]

/-- The coordinator of their scan, at its end. -/
def rivalEnd : Coordinator (Work Unit) (VirtualTime Unit) × Option ScanError :=
  Coordinator.scan (VirtualTime.workers surroundings) "sample" rivals (.start 2 ())

/-- What their scan comes to. -/
def rivalRun : Run × VirtualTime Unit :=
  runWith (VirtualTime.workers surroundings) "sample" [] rivals (.start 2 ())

theorem prepare_rivals :
    prepare {} rivals = .ok (ProbeSet.warnings (rivals.map Probe.declaration)) := by
  have hcheck : (ProbeSet.check (rivals.map Probe.declaration)).isOk = true := by cbv
  exact prepare_of_check hcheck

theorem factResults_rivals : FactResults rivalRun.1.trace := by
  have hfollow : Follows rivalFate rivalRun.1.trace := by decide +kernel
  exact hfollow.factResults

theorem outcome_rivals : rivalRun.1.outcome = .ok rivalEnd.1.report :=
  outcome_runWith_eq_ok_iff.mpr ⟨by decide +kernel, rfl⟩

/-- Right after the first result was merged, all of them are ready. -/
theorem ready_rivals : ∃ x, Passes (VirtualTime.workers surroundings) "sample" rivals
      (.start 2 ()) x
    ∧ x.stage = .rounds
    ∧ (x.state.trace.getLast?.bind Event.finished?).isSome = true
    ∧ ∀ p ∈ rivals, p.isReady x.state.report = true := by
  have hpoint : (pointAt (VirtualTime.workers surroundings) "sample" rivals (.start 2 ())
      6).any (fun x => decide (x.stage = .rounds)
        && (x.state.trace.getLast?.bind Event.finished?).isSome
        && rivals.all fun p => p.isReady x.state.report) = true := by
    decide +kernel
  cases hx : pointAt (VirtualTime.workers surroundings) "sample" rivals (.start 2 ()) 6 with
  | none =>
      rw [hx] at hpoint
      cases hpoint
  | some x =>
      rw [hx, Option.any_some, Bool.and_eq_true, Bool.and_eq_true] at hpoint
      obtain ⟨⟨hrounds, hmerged⟩, hready⟩ := hpoint
      exact ⟨x, passes_of_pointAt hx, of_decide_eq_true hrounds, hmerged,
        List.all_eq_true.mp hready⟩

/-- The two that wait are not handed out. -/
theorem not_handedOut_rivals : ¬ HandedOut rivalRun.1.trace .drown
    ∧ ¬ HandedOut rivalRun.1.trace .poodle := by decide +kernel

end Sample

/-- **It is not enough to be ready after some merge.**  Two results are merged between two
looks; after the first one two further probes are ready, and after the second one they are not
any more.  Neither is handed out, and both end as not executed. -/
theorem ready_overtaken : ∃ warnings x r,
    prepare {} Sample.rivals = .ok warnings
      ∧ FactResults Sample.rivalRun.1.trace ∧ Sample.rivalRun.1.outcome = .ok r
      ∧ Passes (VirtualTime.workers Sample.surroundings) "sample" Sample.rivals
          (.start 2 ()) x
      ∧ x.stage = .rounds ∧ (x.state.trace.getLast?.bind Event.finished?).isSome = true
      ∧ ∀ p ∈ Sample.rivals, p.id = .drown ∨ p.id = .poodle →
          p.declaration.requirement.holds x.state.report = true
            ∧ ¬ HandedOut Sample.rivalRun.1.trace p.id
            ∧ ∃ rec, r.records.get? p.id = some rec ∧ rec.status = .notExecuted := by
  obtain ⟨x, hx, hrounds, hmerged, hready⟩ := Sample.ready_rivals
  have hskipped : ∀ p ∈ [ProbeId.drown, .poodle],
      (Sample.rivalEnd.1.report.records.get? p).map (·.status) = some .notExecuted := by
    decide +kernel
  refine ⟨_, x, _, Sample.prepare_rivals, Sample.factResults_rivals, Sample.outcome_rivals,
    hx, hrounds, hmerged, fun p hp hid => ⟨hready p hp, ?_, ?_⟩⟩
  · rcases hid with hid | hid
    · rw [hid]
      exact Sample.not_handedOut_rivals.1
    · rw [hid]
      exact Sample.not_handedOut_rivals.2
  · have hmem : p.id ∈ [ProbeId.drown, .poodle] := by simpa using hid
    obtain ⟨rec, hrec, hstatus⟩ := Option.map_eq_some_iff.mp (hskipped p.id hmem)
    exact ⟨rec, hrec, hstatus⟩

/-- In the same scan, the probe that asks for the property is overtaken, as the property is
decided anew. -/
theorem ready_runs_unless_overtaken_sample : ∃ p ∈ Sample.rivals, ∃ x y,
    Passes (VirtualTime.workers Sample.surroundings) "sample" Sample.rivals (.start 2 ()) x
      ∧ x.stage = .rounds ∧ p.declaration.requirement.holds x.state.report = true
      ∧ FactResults Sample.rivalRun.1.trace
      ∧ Overtaken (VirtualTime.workers Sample.surroundings) p x y
      ∧ ∃ q v v', x.state.report.verdict? q = some v
        ∧ y.state.report.verdict? q = some v' ∧ v ≠ v' := by
  obtain ⟨x, hx, hrounds, -, hready⟩ := Sample.ready_rivals
  obtain ⟨p, hp, hid, hpos⟩ : ∃ p ∈ Sample.rivals, p.id = .poodle
      ∧ p.declaration.requirement.isPositive = true :=
    ⟨_, List.getLast_mem (List.cons_ne_nil _ _), rfl, rfl⟩
  rcases ready_runs_unless_overtaken Sample.prepare_rivals Sample.factResults_rivals
    Sample.outcome_rivals hx hrounds hp (hready p hp) with ⟨hout, -⟩ | ⟨y, hy, hchanged⟩
  · rw [hid] at hout
    exact absurd hout Sample.not_handedOut_rivals.2
  · exact ⟨p, hp, x, y, hx, hrounds, hready p hp, Sample.factResults_rivals, hy,
      hchanged hpos⟩

end TlsScan.Scan
