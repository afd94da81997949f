import TlsScan.Proofs.Scan.Growth

/-!
# Probes that are left over

The rounds of a scan end when nothing runs and nothing is ready.  What is left over then
gets a substitute, one probe after the other, and each one reads a report that the ones
before it have already been merged into.  As these change no fact, all that was unready
stays unready, and the reason that a substitute gives is never an empty one.

## Main Definitions

* `Scan.HandedOut`, `Scan.Finished` — what the events say of a probe that runs.
* `Scan.Point.Exhausted` — nothing that is left over is ready.
* `Scan.DrainSound` — what is claimed of a probe that was not executed.

## Main Results

* `Scan.Passes.exhausted` — after the rounds nothing that is left over is ready, before and
  after its substitute was merged.
* `Scan.Passes.drainSound` — all that is drained is drained for a reason.
* `Scan.finished_or_drained` — in the end every probe has either finished with the status
  of its record, or was drained.
* `Scan.left_over_justified` — every probe that was never scheduled is not ready when it
  is drained and in the end, and its record gives what its requirement lacks.
-/

namespace TlsScan.Scan

variable {β σ : Type}

/-- **The default substitute changes no fact**, and its record gives the reasons that the
report shows. -/
theorem Probe.HasDefaultSubstitute.merge {p : Probe β} (h : p.HasDefaultSubstitute)
    {r r' : Report} (hmerge : r.merge p.declaration (p.substitute r) = .ok r') :
    r.SameFacts r' ∧ r'.records = r.records.insert p.id
      (.notExecuted p.id (p.declaration.requirement.reason r)) := by
  rw [h r] at hmerge
  refine ⟨Report.SameFacts.of_diagnosed hmerge, ?_⟩
  rw [Report.records_merge_diagnosed hmerge, Requirement.reason,
    Requirement.unmet_congr (Report.SameFacts.clearJournal r) (fun _ => rfl)]
  rfl

/-- **A probe was handed to the workers.** -/
def HandedOut (trace : List Event) (p : ProbeId) : Prop :=
  ∃ snapshot, Event.scheduled p snapshot ∈ trace

/-- **A probe has finished** with a status. -/
def Finished (trace : List Event) (p : ProbeId) (status : Status) : Prop :=
  ∃ result, Event.finished p result status ∈ trace

instance (trace : List Event) (p : ProbeId) : Decidable (HandedOut trace p) :=
  decidable_of_iff (trace.any (Event.isHandOut p) = true) <| by
    simp only [List.any_eq_true, Event.isHandOut_iff, HandedOut]
    constructor
    · rintro ⟨e, he, snapshot, rfl⟩
      exact ⟨snapshot, he⟩
    · rintro ⟨snapshot, he⟩
      exact ⟨_, he, snapshot, rfl⟩

section
variable {w : Workers β σ} {target : String} {probes : List (Probe β)} {s : σ}
  {x y : Point β σ}

/-! ## What is left over is not ready -/

/-- **Nothing that is left over is ready**, whether its substitute was merged or not. -/
def Point.Exhausted (probes : List (Probe β)) (x : Point β σ) : Prop :=
  ∀ p ∈ probes, p ∈ x.unscheduled ∨ Drained x.state.trace p.id →
    p.isReady x.state.report = false

/-- The substitute of one probe leaves all others unready, as it changes no fact. -/
theorem Point.Exhausted.drain {p : Probe β} {result : ProbeResult} {reason : String}
    (hx : x.Exhausted probes) (hnodup : (probes.map Probe.id).Nodup) (hp : p ∈ probes)
    (hsame : x.state.report.SameFacts y.state.report)
    (hu : x.unscheduled.Perm (p :: y.unscheduled))
    (htrace : y.state.trace = x.state.trace ++ [.notExecuted p.id result reason]) :
    y.Exhausted probes := by
  intro q hq hleft
  exact (Requirement.holds_congr hsame _).trans
    (hx q hq (left_of_drain hnodup hp hq hu htrace hleft))

/-- **After the rounds, nothing that is left over is ready.** -/
theorem Passes.exhausted (h : Passes w target probes s x)
    (hnodup : (probes.map Probe.id).Nodup)
    (hsub : ∀ p ∈ probes, p.HasDefaultSubstitute) (hx : x.stage = .drain ∨ x.stage = .done) :
    x.Exhausted probes := by
  refine h.invariant (I := fun x => x.stage = .drain ∨ x.stage = .done →
    x.Exhausted probes) nofun ?_ hx
  intro x y hreach _ ih hm hstage
  cases hm with
  | leave es hes hready hx _ hu _ _ hreport htrace =>
      intro p hp hleft
      rw [hreport]
      rcases hleft with hleft | hleft
      · exact hready p (by rwa [hu])
      · -- Nothing is drained as long as the rounds go on.
        rw [htrace] at hleft
        rcases drained_append.mp hleft with hdrained | hdrained
        · exact absurd hdrained (hreach.undrained hnodup hx p.id)
        · exact absurd hdrained (hes.undrained p.id)
  | drain p hmerge hx _ hu _ _ htrace =>
      have hp : p ∈ probes :=
        (hreach.given (by simp [hx])).1 p (hu.symm.subset (List.mem_cons_self ..))
      exact (ih (Or.inl hx)).drain hnodup hp ((hsub p hp).merge hmerge).1 hu htrace
  | complete t e he hx _ _ hnone _ _ hreport htrace =>
      intro p hp hleft
      have hdrained : Drained x.state.trace p.id := by
        rw [hnone, htrace] at hleft
        exact (drained_append.mp (hleft.resolve_left List.not_mem_nil)).resolve_right
          ((silent_singleton he).undrained p.id)
      rw [hreport, ← ih (Or.inl hx) p hp (Or.inr hdrained)]
      exact Requirement.holds_congr (Report.SameFacts.markFinished _ t) _
  | _ => simp_all

/-- **What is claimed of a probe that was not executed**, given the events before it: it is
not ready at the point that the scan has come to with these, the reason is the one that the
report there shows, and the record of the probe keeps it to the end. -/
def DrainSound (w : Workers β σ) (target : String) (probes : List (Probe β)) (s : σ)
    (pre : List Event) : Event → Prop
  | .notExecuted p _ reason => ∃ q ∈ probes, q.id = p
      ∧ ∃ x, Passes w target probes s x ∧ x.state.trace = pre ∧ x.stage = .drain
        ∧ q.isReady x.state.report = false
        ∧ reason = q.declaration.requirement.reason x.state.report
        ∧ ((Coordinator.scan w target probes s).2 = none →
          (Coordinator.scan w target probes s).1.report.records.get? p
            = some (.notExecuted p reason))
  | _ => True

theorem drainSound_of_silent {es : List Event} (hes : Silent es) {l : List Event}
    (hl : Along (DrainSound w target probes s) l) :
    Along (DrainSound w target probes s) (l ++ es) := by
  refine hl.append fun e he pre => ?_
  have hnone := hes e he
  cases e <;> trivial

/-- **All that is drained is drained for a reason**, which its record keeps. -/
theorem Passes.drainSound (h : Passes w target probes s x)
    (hnodup : (probes.map Probe.id).Nodup)
    (hsub : ∀ p ∈ probes, p.HasDefaultSubstitute) :
    Along (DrainSound w target probes s) x.state.trace := by
  refine h.invariant (I := fun x => Along (DrainSound w target probes s) x.state.trace)
    (drainSound_of_silent (silent_singleton rfl) Along.nil) ?_
  intro x y hreach hreach' halong hm
  cases hm with
  | rest es hes _ _ _ _ _ htrace => rw [htrace]; exact drainSound_of_silent hes halong
  | hand p _ _ _ _ _ _ htrace => rw [htrace]; exact halong.concat trivial
  | finish d es e result rec hes hd _ _ _ _ _ _ htrace =>
      have hsplit : y.state.trace = (x.state.trace ++ (es ++ [e]))
          ++ [.finished d.probe result rec.status] := by simp [htrace]
      rw [hsplit]
      have hquiet := hes.append (silent_singleton hd.progress?)
      exact (drainSound_of_silent hquiet halong).concat trivial
  | leave es hes _ _ _ _ _ _ _ htrace => rw [htrace]; exact drainSound_of_silent hes halong
  | drain p hmerge hx _ hu _ _ htrace =>
      have hpx : p ∈ x.unscheduled := hu.symm.subset (List.mem_cons_self ..)
      have hp := (hreach.given (by simp [hx])).1 p hpx
      have hunready := hreach.exhausted hnodup hsub (Or.inl hx) p hp (Or.inl hpx)
      have hrec : y.state.report.records.get? p.id
          = some (.notExecuted p.id (p.declaration.requirement.reason x.state.report)) := by
        rw [((hsub p hp).merge hmerge).2, Table.get?_insert, if_pos rfl]
      have hreason : reasonIn y.state.report p.id
          = p.declaration.requirement.reason x.state.report := by
        rw [reasonIn, hrec]
        rfl
      rw [htrace, hreason]
      refine halong.concat ⟨p, hp, rfl, x, hreach, rfl, hx, hunready, rfl, fun hok => ?_⟩
      exact (hreach'.reaches_final.grows hreach'.orderly
        (stage_final_ne hok)).records _ _ hrec
  | complete t e he _ _ _ _ _ _ _ htrace =>
      rw [htrace]
      exact drainSound_of_silent (silent_singleton he) halong
  | giveUp _ es _ _ _ hes _ _ _ _ _ _ htrace =>
      rw [htrace]
      exact drainSound_of_silent hes halong
  | refuse _ _ _ _ _ _ htrace => rw [htrace]; exact halong

/-! ## The end of a scan -/

/-- A probe was handed out if an observer was told so, -/
theorem handedOut_iff_mem_life {p : ProbeId} :
    HandedOut x.state.trace p ↔ .scheduled p ∈ x.life p := by
  constructor
  · rintro ⟨snapshot, h⟩
    exact mem_life_of_mem h rfl
  · intro h
    obtain ⟨e, he, hg⟩ := exists_event_of_mem_life h
    cases e <;> cases hg
    exact ⟨_, he⟩

/-- it has finished if one was told that, -/
theorem finished_iff_mem_life {p : ProbeId} {status : Status} :
    Finished x.state.trace p status ↔ .finished p status ∈ x.life p := by
  constructor
  · rintro ⟨result, h⟩
    exact mem_life_of_mem h rfl
  · intro h
    obtain ⟨e, he, hg⟩ := exists_event_of_mem_life h
    cases e <;> cases hg
    exact ⟨_, he⟩

/-- and it was drained if one was told that it was not executed. -/
theorem drained_iff_mem_life {p : ProbeId} :
    Drained x.state.trace p ↔ ∃ reason, .notExecuted p reason ∈ x.life p := by
  constructor
  · rintro ⟨result, reason, h⟩
    exact ⟨reason, mem_life_of_mem h rfl⟩
  · rintro ⟨reason, h⟩
    obtain ⟨e, he, hg⟩ := exists_event_of_mem_life h
    cases e <;> cases hg
    exact ⟨_, _, he⟩

/-- **In the end every probe has a record.**  Either it was handed out and has finished with
the status that stands there, or it was drained. -/
theorem finished_or_drained (hnodup : (probes.map Probe.id).Nodup)
    (hok : (Coordinator.scan w target probes s).2 = none) {p : ProbeId}
    (hp : p ∈ probes.map Probe.id) :
    ∃ rec, (Coordinator.scan w target probes s).1.report.records.get? p = some rec
      ∧ (HandedOut (Coordinator.scan w target probes s).1.trace p
            ∧ (∀ status, Finished (Coordinator.scan w target probes s).1.trace p status
                ↔ status = rec.status)
          ∨ ¬ HandedOut (Coordinator.scan w target probes s).1.trace p
            ∧ (∀ status, ¬ Finished (Coordinator.scan w target probes s).1.trace p status)
            ∧ Drained (Coordinator.scan w target probes s).1.trace p) := by
  let x := final w target probes s
  show ∃ rec, x.state.report.records.get? p = some rec
    ∧ (HandedOut x.state.trace p ∧ (∀ status, Finished x.state.trace p status ↔ _)
      ∨ ¬ HandedOut x.state.trace p ∧ (∀ status, ¬ Finished x.state.trace p status)
        ∧ Drained x.state.trace p)
  have hlives := (passes_final w target probes s).lives hnodup (stage_final_ne hok) p
  obtain ⟨rec, hrec, hl⟩ := hlives.merged (merged_final hok hp)
  refine ⟨rec, hrec, ?_⟩
  simp only [handedOut_iff_mem_life, finished_iff_mem_life, drained_iff_mem_life]
  rcases hl with hl | hl
  · left
    simp [x, hl]
  · right
    simp [x, hl]

/-- What was drained has the record of a probe that was not executed. -/
theorem record_of_drained (hnodup : (probes.map Probe.id).Nodup)
    (hsub : ∀ p ∈ probes, p.HasDefaultSubstitute)
    (hok : (Coordinator.scan w target probes s).2 = none) {p : ProbeId}
    (h : Drained (Coordinator.scan w target probes s).1.trace p) :
    ∃ reason, (Coordinator.scan w target probes s).1.report.records.get? p
      = some (.notExecuted p reason) := by
  obtain ⟨result, reason, hevent⟩ := h
  obtain ⟨pre, post, htrace⟩ := List.append_of_mem hevent
  obtain ⟨-, -, -, -, -, -, -, -, -, hrec⟩ :=
    (passes_final w target probes s).drainSound hnodup hsub pre _ post htrace
  exact ⟨reason, hrec hok⟩

/-- **A probe that was never executed has a reason.**  Take a scan of probes that were
admitted and have the default substitute, and a probe that was never handed out although
the scan has ended with a report.  Its requirement does not hold on that report, nor did it
when the probe was drained, and its record gives as the reason what was unmet at that point,
which is something. -/
theorem left_over_justified {config : Config} {warnings : List LogEntry}
    (hprepare : prepare config probes = .ok warnings)
    (hsub : ∀ p ∈ probes, p.HasDefaultSubstitute) {r : Report}
    (hr : (runWith w target warnings probes s).1.outcome = .ok r) {p : Probe β}
    (hp : p ∈ probes)
    (hnever : ¬ HandedOut (runWith w target warnings probes s).1.trace p.id) :
    p.declaration.requirement.holds r = false
      ∧ ∃ x reason, Passes w target probes s x
        ∧ (∃ result, x.state.trace ++ [.notExecuted p.id result reason]
            <+: (runWith w target warnings probes s).1.trace)
        ∧ p.declaration.requirement.holds x.state.report = false
        ∧ p.declaration.requirement.unmet x.state.report ≠ []
        ∧ reason = "; ".intercalate
            ((p.declaration.requirement.unmet x.state.report).map Unmet.message)
        ∧ reason ≠ "internal scheduling error"
        ∧ r.records.get? p.id = some (.notExecuted p.id reason) := by
  obtain ⟨hok, rfl⟩ := outcome_runWith_eq_ok_iff.mp hr
  rw [trace_runWith] at hnever ⊢
  have hnodup := nodup_of_prepare hprepare
  have hend := passes_final w target probes s
  have hdrained : Drained (Coordinator.scan w target probes s).1.trace p.id := by
    obtain ⟨-, -, ⟨hout, -⟩ | ⟨-, -, hdrained⟩⟩ :=
      finished_or_drained hnodup hok (List.mem_map_of_mem hp)
    · exact absurd hout hnever
    · exact hdrained
  have hunready := hend.exhausted hnodup hsub (Or.inr (stage_final hok))
  refine ⟨hunready p hp (Or.inr hdrained), ?_⟩
  obtain ⟨result, reason, hevent⟩ := hdrained
  obtain ⟨pre, post, htrace⟩ := List.append_of_mem hevent
  obtain ⟨q, hq, hid, x, hx, hpre, -, hfalse, hreason, hrec⟩ :=
    hend.drainSound hnodup hsub pre _ post htrace
  cases List.inj_on_of_nodup_map hnodup hq hp hid
  obtain ⟨hne, hjoined⟩ := Requirement.reason_of_holds_eq_false hfalse
  rw [hjoined] at hreason
  refine ⟨x, reason, hx, ⟨result, post, ?_⟩, hfalse, hne, hreason, ?_, hrec hok⟩
  · rw [hpre, htrace, List.append_assoc, List.singleton_append]
  · rw [hreason]
    exact Requirement.intercalate_message_ne hne

theorem left_over_justified_sample : ∃ r p x reason,
    Sample.run.1.outcome = .ok r ∧ p ∈ Sample.probes
      ∧ ¬ HandedOut Sample.run.1.trace p.id
      ∧ p.declaration.requirement.holds r = false
      ∧ (∃ result, x ++ [.notExecuted p.id result reason] <+: Sample.run.1.trace)
      ∧ reason ≠ "internal scheduling error"
      ∧ r.records.get? p.id = some (.notExecuted p.id reason) := by
  -- The last probe of the sample asks for one that is stopped.
  obtain ⟨p, hp, hid⟩ : ∃ p ∈ Sample.probes, p.id = .poodle :=
    ⟨_, List.getLast_mem (List.cons_ne_nil _ _), rfl⟩
  have hnever : ¬ HandedOut Sample.run.1.trace p.id := by
    rw [hid]
    decide +kernel
  obtain ⟨hfalse, x, reason, -, hprefix, -, -, -, hreason, hrec⟩ :=
    left_over_justified Sample.prepare_probes Sample.hasDefaultSubstitute Sample.outcome_run
      hp hnever
  exact ⟨_, p, x.state.trace, reason, Sample.outcome_run, hp, hnever, hfalse, hprefix,
    hreason, hrec⟩

end

end TlsScan.Scan
