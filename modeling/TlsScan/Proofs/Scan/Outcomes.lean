import TlsScan.Proofs.Requirement.Diagnosis
import TlsScan.Proofs.Scan.Fates
import TlsScan.Proofs.Scan.Turns

/-!
# What a scan merges, and why it fails

Tasks end, or are stopped, and from each such event follows a result that is due.  As
long as a scan has not failed, the results that have finished are the ones that were
due, in order.  A result is refused only if it breaks the rules, and what stands in for
a failed or an unready probe never does.  So a scan whose probes hand back facts fails
exactly because of facts that are not as declared.

## Main Definitions

* `Scan.Event.due?` — the result that is due after an event.
* `Scan.Settled` — what has finished is what was due.
* `Scan.ResultSound` — where a result that was merged has come from.
* `Scan.FactResults` — all that probes hand back are facts.
* `Scan.Probe.HasDefaultSubstitute` — an unready probe gives the reasons that the report
  shows.

## Main Results

* `Scan.Passes.settled` — nothing that ended is dropped, and nothing is made up, as long
  as a scan does not fail.
* `Scan.Passes.resultSound` — every result that was merged follows from the end of a
  task, or stands in for an unready probe.
* `Scan.fails_iff_violation` — a scan fails exactly if some probe hands back facts that
  violate its declaration.
-/

namespace TlsScan.Scan

variable {β σ : Type}

/-! ## Results that are due -/

/-- **The result that is due after an event**, with its probe. -/
def Event.due? (probes : List (Probe β)) : Event → Option (ProbeId × ProbeResult)
  | .ended p e => some (p, e.resultFor (declarationOf probes p))
  | .killed p age => some (p, .failure p (declarationOf probes p).properties .killed
      ("no result after " ++ age))
  | _ => none

/-- **What has finished is what was due**, in order. -/
def Settled (probes : List (Probe β)) (trace : List Event) : Prop :=
  trace.filterMap (Event.due? probes) = trace.filterMap Event.finished?

/-- Whether an event is about the end of a task. -/
def Event.isEnd : Event → Bool
  | .ended .. | .killed .. | .finished .. => true
  | _ => false

section
variable {probes : List (Probe β)} {l : List Event}

/-- Events that are not about the end of a task settle nothing. -/
theorem Settled.append (h : Settled probes l) (es : List Event)
    (hes : ∀ e ∈ es, e.isEnd = false) : Settled probes (l ++ es) := by
  have hdue : es.filterMap (Event.due? probes) = [] := by
    rw [List.filterMap_eq_nil_iff]
    intro e he
    have := hes e he
    cases e <;> first | rfl | cases this
  have hfinished : es.filterMap Event.finished? = [] := by
    rw [List.filterMap_eq_nil_iff]
    intro e he
    have := hes e he
    cases e <;> first | rfl | cases this
  rw [Settled, List.filterMap_append, List.filterMap_append, hdue, hfinished, h]

theorem Settled.activities (h : Settled probes l) (acts : List Activity) :
    Settled probes (l ++ acts.map .activity) := by
  refine h.append _ fun e he => ?_
  obtain ⟨a, -, rfl⟩ := List.mem_map.mp he
  rfl

/-- A result that finishes right when it is due leaves all settled. -/
theorem Settled.concat (h : Settled probes l) {e : Event} {p : ProbeId}
    {result : ProbeResult} (hdue : e.due? probes = some (p, result))
    (hfinished : e.finished? = none) (status : Status) :
    Settled probes (l ++ [e] ++ [.finished p result status]) := by
  have hlast : (Event.finished p result status).finished? = some (p, result) := rfl
  have hnone : (Event.finished p result status).due? probes = none := rfl
  rw [Settled, List.append_assoc, List.filterMap_append, List.filterMap_append, h]
  simp [hdue, hfinished, hlast, hnone]

variable {w : Workers β σ} {x y : Point β σ}

/-- What follows from the end of a task leaves all settled, unless it is refused. -/
theorem Settled.settles (h : Settled probes l) {e : Event} {d : Declaration}
    {result : ProbeResult} (hs : Settles x y d (l ++ [e]) result)
    (hdue : e.due? probes = some (d.probe, result)) (hfinished : e.finished? = none)
    (hy : y.stage ≠ .failed) : Settled probes y.state.trace := by
  cases hs with
  | merged rec _ _ _ htrace =>
      rw [htrace]
      exact h.concat hdue hfinished rec.status
  | refused _ _ hfailed _ => exact absurd hfailed hy

/-- A strike of the watchdog leaves settled what was. -/
theorem Settled.stall (h : Settled probes x.state.trace) {d : Declaration}
    {rest : List Declaration} (hs : Stall w x y d rest)
    (hd : declarationOf probes d.probe = d) (hy : y.stage ≠ .failed) :
    Settled probes y.state.trace := by
  have htold : Settled probes (stallEvents w x d.probe) := by
    have hwaited := (h.activities (w.await x.state.workers).1).append
      [.waited, .stalled d.probe (w.age (w.await x.state.workers).2 d.probe)]
      (by simp [Event.isEnd])
    have hall := hwaited.activities (w.awaitOne (w.await x.state.workers).2 d.probe).1
    simpa only [stallEvents, List.append_assoc, List.singleton_append] using hall
  cases hc : w.outcome? (joined w x d.probe) d.probe with
  | some e => exact htold.settles (hs.ended e hc) (by rw [Event.due?, hd]) rfl hy
  | none =>
      obtain ⟨age, ⟨i, writes⟩, rfl, rfl, hsettles⟩ := hs.killed hc
      exact htold.settles hsettles (by rw [Event.due?, hd]; rfl) rfl hy

/-- **Every step leaves settled what was**, unless the scan fails. -/
theorem settled_next (h : x.next w = some y) (hx : Settled probes x.state.trace)
    (hd : ∀ d ∈ x.state.running, declarationOf probes d.probe = d)
    (hy : y.stage ≠ .failed) : Settled probes y.state.trace := by
  cases turn_of_next h with
  | rest es hes _ _ htrace =>
      rw [htrace]
      refine hx.append es fun e he => ?_
      have hnone := hes e he
      cases e <;> first | rfl | cases hnone
  | hand p _ heq =>
      rw [heq]
      exact hx.append _ (by simp [Event.isEnd])
  | collect d e a b s h =>
      have hmem : d ∈ x.state.running := by
        rw [h.place]
        exact List.mem_append_right _ List.mem_cons_self
      exact hx.settles h.settles (by rw [Event.due?, hd d hmem]) rfl hy
  | stall d rest h =>
      have hmem : d ∈ x.state.running := by
        rw [h.oldest]
        exact List.mem_cons_self
      exact hx.stall h (hd d hmem) hy

end

section
variable {w : Workers β σ} {target : String} {probes : List (Probe β)} {s : σ}
  {x y : Point β σ}

/-- **What has finished is what was due**, as long as a scan has not failed. -/
theorem Passes.settled (h : Passes w target probes s x)
    (hnodup : (probes.map Probe.id).Nodup) (hx : x.stage ≠ .failed) :
    Settled probes x.state.trace := by
  induction h with
  | refl => rfl
  | @tail y z hreach hstep ih =>
      have hy : y.stage ≠ .failed :=
        (move_of_next (Passes.orderly hreach) hstep).stage_ne
      refine settled_next hstep (ih hy) (fun d hd => ?_) hx
      obtain ⟨q, hq, rfl⟩ := (Passes.given hreach hy).2 d hd
      exact declarationOf_id hnodup hq

/-! ## Where results come from -/

/-- **Where a result that was merged has come from**, given the events before it: from the
end of the task of a probe, whose declaration it was accepted under, or from the probe
itself, which was not executed. -/
def ResultSound (probes : List (Probe β)) (pre : List Event) : Event → Prop
  | .finished p result status => ∃ q ∈ probes, q.id = p
      ∧ (∃ e ∈ pre, Outcome q.declaration e result)
      ∧ ∃ (r r' : Report) (rec : Record), r.merge q.declaration result = .ok r'
        ∧ r'.records.get? p = some rec ∧ rec.status = status
  | .notExecuted p result _ => ∃ q ∈ probes, q.id = p ∧ ∃ r, result = q.substitute r
  | _ => True

theorem resultSound_of_progress?_eq_none {e : Event} (he : e.progress? = none)
    (pre : List Event) : ResultSound probes pre e := by
  cases e <;> trivial

/-- **Every result that was merged has come from somewhere.** -/
theorem Passes.resultSound (h : Passes w target probes s x) :
    Along (ResultSound probes) x.state.trace := by
  refine h.invariant (I := fun x => Along (ResultSound probes) x.state.trace) ?_ ?_
  · exact Along.nil.append fun e he pre =>
      resultSound_of_progress?_eq_none (silent_singleton rfl e he) pre
  · intro x y hreach _ halong hm
    have hgiven := hreach.given hm.stage_ne
    have hquiet : ∀ {es : List Event}, Silent es → Along _ (x.state.trace ++ es) :=
      fun hes => halong.append fun e he pre =>
        resultSound_of_progress?_eq_none (hes e he) pre
    cases hm with
    | rest es hes _ _ _ _ _ htrace => rw [htrace]; exact hquiet hes
    | hand p _ _ _ _ _ _ htrace => rw [htrace]; exact halong.concat trivial
    | finish d es e result rec hes hd hmerge hrec _ _ _ hrun htrace =>
        obtain ⟨q, hq, rfl⟩ := hgiven.2 d (hrun.symm.subset (List.mem_cons_self ..))
        have hsplit : y.state.trace = (x.state.trace ++ (es ++ [e]))
            ++ [.finished q.declaration.probe result rec.status] := by simp [htrace]
        rw [hsplit]
        refine (hquiet (hes.append (silent_singleton hd.progress?))).concat ?_
        exact ⟨q, hq, rfl, ⟨e, by simp, hd⟩, _, _, rec, hmerge, hrec, rfl⟩
    | leave es hes _ _ _ _ _ _ _ htrace => rw [htrace]; exact hquiet hes
    | drain p _ _ _ hu _ _ htrace =>
        have hp : p ∈ probes := hgiven.1 p (hu.symm.subset (List.mem_cons_self ..))
        rw [htrace]
        exact halong.concat ⟨p, hp, rfl, _, rfl⟩
    | complete t e he _ _ _ _ _ _ _ htrace =>
        rw [htrace]; exact hquiet (silent_singleton he)
    | giveUp _ es _ _ _ hes _ _ _ _ _ _ htrace => rw [htrace]; exact hquiet hes
    | refuse _ _ _ _ _ _ htrace => rw [htrace]; exact halong

/-! ## Scans whose probes hand back facts -/

/-- **All that probes hand back are facts.** -/
def FactResults (trace : List Event) : Prop :=
  ∀ p r, .ended p (.result r) ∈ trace → ∃ i f, r = .facts i f

/-- **An unready probe gives the reasons that the report shows**, which is the default. -/
def Probe.HasDefaultSubstitute (p : Probe β) : Prop :=
  ∀ r, p.substitute r = .diagnosed p.id p.declaration.properties p.declaration.requirement

theorem Sample.hasDefaultSubstitute : ∀ p ∈ Sample.probes, p.HasDefaultSubstitute := by
  intro p hp r
  simp only [Sample.probes, List.mem_cons, List.not_mem_nil, or_false] at hp
  rcases hp with rfl | rfl | rfl | rfl | rfl | rfl <;> rfl

/-- A probe that ends as fated hands back its facts, if anything. -/
theorem Follows.factResults {fate : ProbeId → Fate} {trace : List Event}
    (h : Follows fate trace) : FactResults trace := by
  intro p r hp
  have hadmits : (fate p).Admits p (.result r) := h _ hp
  cases hfate : fate p with
  | facts f =>
      rw [hfate] at hadmits
      exact ⟨p, f, hadmits⟩
  | failed => rw [hfate] at hadmits; cases hadmits
  | panicked => rw [hfate] at hadmits; cases hadmits
  | killed => rw [hfate] at hadmits; cases hadmits

theorem FactResults.of_grown {l m : List Event} (h : FactResults m) (hl : l <+: m) :
    FactResults l := fun p r hp => h p r (hl.subset hp)

/-- **What follows from the end of a task**: its facts, or a failure. -/
theorem Outcome.facts_or_failure {d : Declaration} {e : Event} {result : ProbeResult}
    {trace : List Event} (hd : Outcome d e result) (hf : FactResults trace)
    (he : e ∈ trace) :
    (∃ i f, e = .ended d.probe (.result (.facts i f)) ∧ result = .facts i f)
      ∨ ∃ k m, result = .failure d.probe d.properties k m := by
  cases hd with
  | killed age => exact Or.inr ⟨_, _, rfl⟩
  | ended e =>
      cases e with
      | result r =>
          obtain ⟨i, f, rfl⟩ := hf _ _ he
          exact Or.inl ⟨i, f, rfl, rfl⟩
      | failed fault => exact Or.inr ⟨_, _, rfl⟩
      | panicked m => exact Or.inr ⟨_, _, rfl⟩

/-- Both keep to the records of their probe, -/
theorem Outcome.ownRecords {d : Declaration} {e : Event} {result : ProbeResult}
    {trace : List Event} (hd : Outcome d e result) (hf : FactResults trace)
    (he : e ∈ trace) : result.OwnRecords := by
  rcases hd.facts_or_failure hf he with ⟨i, f, -, rfl⟩ | ⟨k, m, rfl⟩
  · exact ProbeResult.ownRecords_facts i f
  · exact ProbeResult.ownRecords_failure _ _ k m

/-- and the record tells them apart. -/
theorem status_of_finished {pre : List Event} {p : ProbeId} {result : ProbeResult}
    {status : Status} (h : ResultSound probes pre (.finished p result status))
    (hf : FactResults pre) :
    (∃ f, result = .facts p f ∧ status = .executed)
      ∨ ∃ l k m, result = .failure p l k m ∧ status = .error := by
  obtain ⟨q, hq, rfl, ⟨e, he, hd⟩, r, r', rec, hmerge, hrec, rfl⟩ := h
  rcases hd.facts_or_failure hf he with ⟨i, f, -, rfl⟩ | ⟨k, m, rfl⟩
  · have hid : i = q.id := Report.identity_of_merge hmerge
    subst hid
    rw [Report.records_merge_facts hmerge, Table.get?_insert, if_pos rfl] at hrec
    cases hrec
    exact Or.inl ⟨f, rfl, rfl⟩
  · rw [Report.records_merge_failure hmerge, Table.get?_insert,
      if_pos (show q.id = q.declaration.probe from rfl)] at hrec
    cases hrec
    exact Or.inr ⟨_, k, m, rfl, rfl⟩

/-- **Probes that hand back facts keep to their own records**, and so do the substitutes. -/
theorem Passes.ownResults (h : Passes w target probes s x)
    (hsub : ∀ p ∈ probes, p.HasDefaultSubstitute)
    (hf : FactResults (Coordinator.scan w target probes s).1.trace) :
    OwnResults x.state.trace := by
  have hfx := hf.of_grown h.trace_grows
  intro m hm
  obtain ⟨e, he, hmerged⟩ := List.mem_filterMap.mp hm
  obtain ⟨pre, post, htrace⟩ := List.append_of_mem he
  have hsound := h.resultSound pre e post htrace
  cases e <;> cases hmerged
  · obtain ⟨q, hq, -, ⟨e, he, hd⟩, -⟩ := hsound
    refine hd.ownRecords hfx ?_
    rw [htrace]
    exact List.mem_append_left _ he
  · obtain ⟨q, hq, -, r, rfl⟩ := hsound
    rw [hsub q hq r]
    exact ProbeResult.ownRecords_diagnosed _ _ _

/-! ## Failures -/

/-- Facts were handed back that are not as declared. -/
def Violated (probes : List (Probe β)) (trace : List Event) : Prop :=
  ∃ p ∈ probes, ∃ i f, .ended p.id (.result (.facts i f)) ∈ trace
    ∧ f.Violates p.declaration i

/-- **A scan fails only because of facts that are not as declared.** -/
theorem Passes.violated (h : Passes w target probes s x)
    (hnodup : (probes.map Probe.id).Nodup) (hsub : ∀ p ∈ probes, p.HasDefaultSubstitute)
    (hf : FactResults (Coordinator.scan w target probes s).1.trace)
    (hx : x.stage = .failed) : Violated probes x.state.trace := by
  refine h.invariant (I := fun x => x.stage = .failed → Violated probes x.state.trace)
    nofun ?_ hx
  intro x y hreach hy ih hm hfailed
  have hfine := hm.stage_ne
  have hgiven := hreach.given hfine
  have hpart := (hreach.accounted hfine).partitioned hnodup (hreach.ownResults hsub hf)
  cases hm with
  | giveUp d es e result fault _ he hd hrun hmerge _ _ htrace =>
      obtain ⟨q, hq, rfl⟩ := hgiven.2 d hrun
      have hfree := hpart.running_unrecorded q.id (List.mem_map_of_mem hrun)
      have hey : e ∈ y.state.trace := by
        rw [htrace]
        exact List.mem_append_right _ he
      rcases hd.facts_or_failure (hf.of_grown hy.trace_grows) hey with
        ⟨i, f, rfl, rfl⟩ | ⟨k, m, rfl⟩
      · refine ⟨q, hq, i, f, hey, Facts.violates_iff.mpr fun ⟨hid, hconforms⟩ => ?_⟩
        obtain ⟨r', hok⟩ := Report.merge_facts_iff.mpr ⟨hfree, hid, hconforms⟩
        cases hok.symm.trans hmerge
      · obtain ⟨r', hok⟩ := Report.merge_failure k m hfree
        cases hok.symm.trans hmerge
  | refuse p fault hp hmerge _ _ _ =>
      -- What stands in for an unready probe is accepted whatever was declared.
      have hfree := hpart.unscheduled_unrecorded p.id (List.mem_map_of_mem hp)
      rw [hsub p (hgiven.1 p hp)] at hmerge
      obtain ⟨r', hok⟩ := Report.merge_diagnosed p.declaration.requirement hfree
      cases hok.symm.trans hmerge
  | _ => simp_all

/-- Facts that have finished are as declared. -/
theorem Passes.not_violated (h : Passes w target probes s x)
    (hnodup : (probes.map Probe.id).Nodup) (hx : x.stage ≠ .failed) :
    ¬ Violated probes x.state.trace := by
  rintro ⟨p, hp, i, f, hended, hviolates⟩
  -- They were due, so they have finished, so they were accepted.
  have hdue : (p.id, ProbeResult.facts i f)
      ∈ x.state.trace.filterMap (Event.due? probes) :=
    List.mem_filterMap.mpr ⟨_, hended, rfl⟩
  rw [h.settled hnodup hx] at hdue
  obtain ⟨e, he, hfinished⟩ := List.mem_filterMap.mp hdue
  obtain ⟨pre, post, htrace⟩ := List.append_of_mem he
  have hsound := h.resultSound pre e post htrace
  cases e <;> cases hfinished
  obtain ⟨q, hq, hid, -, r, r', -, hmerge, -⟩ := hsound
  rw [List.inj_on_of_nodup_map hnodup hq hp hid] at hmerge
  exact Facts.violates_iff.mp hviolates
    ⟨Report.identity_of_merge hmerge, Report.conforms_of_merge hmerge⟩

theorem stage_final_eq_failed_iff : (final w target probes s).stage = .failed
    ↔ ∃ e, (Coordinator.scan w target probes s).2 = some e := by
  unfold final Point.stage
  cases (Coordinator.scan w target probes s).2 <;> simp

theorem outcome_runWith_eq_error_iff {warnings : List LogEntry} {e : ScanError} :
    (runWith w target warnings probes s).1.outcome = .error e
      ↔ (Coordinator.scan w target probes s).2 = some e := by
  unfold runWith
  split <;> simp_all

/-- **A scan fails exactly because of facts that are not as declared.**  Take probes that
were admitted, have the default substitute and hand back facts, if anything.  The scan ends
with an error if and only if some probe has handed back facts that go under another identity,
or write other properties or sets than it declared.  Probes that fail, crash, are stopped or
never become ready do not make it fail, whatever they declare. -/
theorem fails_iff_violation {config : Config} {warnings : List LogEntry}
    (hprepare : prepare config probes = .ok warnings)
    (hsub : ∀ p ∈ probes, p.HasDefaultSubstitute)
    (hf : FactResults (runWith w target warnings probes s).1.trace) :
    (∃ e, (runWith w target warnings probes s).1.outcome = .error e)
      ↔ ∃ p ∈ probes, ∃ i f,
          .ended p.id (.result (.facts i f)) ∈ (runWith w target warnings probes s).1.trace
            ∧ f.Violates p.declaration i := by
  have hnodup := nodup_of_prepare hprepare
  have hend := passes_final w target probes s
  simp only [outcome_runWith_eq_error_iff, ← stage_final_eq_failed_iff]
  rw [trace_runWith] at hf ⊢
  constructor
  · exact hend.violated hnodup hsub hf
  · intro hviolated
    by_contra hfine
    exact hend.not_violated hnodup hfine hviolated

/-- The probes of the sample, behind one that establishes what it has not announced. -/
def Sample.defective : List (Probe (Work Unit)) :=
  Sample.probe (.bare .compression) (some 5) (.result (.facts .compression Sample.facts))
    :: Sample.probes

/-- What their scan comes to. -/
def Sample.defectiveRun : Run × VirtualTime Unit :=
  runWith (VirtualTime.workers Sample.surroundings) "sample" [] Sample.defective
    (.start 2 ())

theorem fails_iff_violation_sample :
    (∃ warnings, prepare {} Sample.defective = .ok warnings)
      ∧ (∀ p ∈ Sample.defective, p.HasDefaultSubstitute)
      ∧ FactResults Sample.defectiveRun.1.trace
      ∧ (∃ e, Sample.defectiveRun.1.outcome = .error e)
      ∧ ∃ p ∈ Sample.defective, ∃ i f,
          .ended p.id (.result (.facts i f)) ∈ Sample.defectiveRun.1.trace
            ∧ f.Violates p.declaration i := by
  have hcheck : (ProbeSet.check (Sample.defective.map Probe.declaration)).isOk = true := by
    cbv
  have hprepare := prepare_of_check hcheck
  have hsub : ∀ p ∈ Sample.defective, p.HasDefaultSubstitute :=
    List.forall_mem_cons.mpr ⟨fun _ => rfl, Sample.hasDefaultSubstitute⟩
  have hfollow : Follows (fun p => if p = .compression then .facts Sample.facts
      else Sample.fateOf p) Sample.defectiveRun.1.trace := by decide +kernel
  have hfails : ∃ e, Sample.defectiveRun.1.outcome = .error e := by
    refine ⟨.undeclaredProperty .compression .supportsRsa, ?_⟩
    exact outcome_runWith_eq_error_iff.mpr (by decide +kernel)
  exact ⟨⟨_, hprepare⟩, hsub, hfollow.factResults, hfails,
    (fails_iff_violation hprepare hsub hfollow.factResults).mp hfails⟩

end

end TlsScan.Scan
