import TlsScan.Proofs.Scan.Fates

/-!
# The order of a scan does not show

Two scans of the same compatible probes end with the same facts, whatever the workers
do: however many there are, in whichever order tasks end, and however many results are
merged between two looks at what is ready.

The argument goes by what a scan leaves over.  A finished scan is closed: nothing that it
left over is ready on its report.  Another scan of the same probes can then not hand out
any of these either, since the first one that it did would have been ready on less.  So
both leave over the same probes, execute the same ones, and their reports, being
explained, are determined by those.

## Main Definitions

* `Report.Agrees` — two reports give every probe the same status and hold the same facts.
* `Scan.Closed` — a report on which nothing is ready that was left over.

## Main Results

* `Scan.Passes.left` — no scan hands out what a closed report leaves over.
* `Scan.reports_agree` — two scans of compatible probes end, and with reports that agree.
-/

namespace TlsScan

/-- **Two reports agree**: on the status of every probe, on the sets of supported values,
and on every property that has a conclusive finding. -/
structure Report.Agrees (r r' : Report) : Prop where
  status : ∀ p, (r.records.get? p).map (·.status) = (r'.records.get? p).map (·.status)
  versions : r.versions = r'.versions
  extensions : r.extensions = r'.extensions
  verdicts : ∀ q, r.verdict? q = r'.verdict? q

theorem Report.isExecuted_eq (r : Report) (p : ProbeId) :
    r.isExecuted p = decide ((r.records.get? p).map (·.status) = some .executed) := by
  unfold isExecuted
  cases r.records.get? p <;> simp

namespace Scan

variable {β σ : Type} {fate : ProbeId → Fate}

/-! ## Closed reports -/

/-- **A report on which nothing is ready that was left over**, and on which all others
whose fate it is have been executed. -/
structure Closed (fate : ProbeId → Fate) (probes : List (Probe β)) (left : ProbeId → Prop)
    (r : Report) : Prop where
  explained : Explained fate r
  unready : ∀ p ∈ probes, left p.id → p.isReady r = false
  executed : ∀ p ∈ probes, ¬ left p.id → (fate p.id).status = .executed →
    r.isExecuted p.id = true

section
variable {w : Workers β σ} {target : String} {probes : List (Probe β)} {s : σ}
  {x y : Point β σ}

/-- A probe that is handed out in some scan is none that a closed report leaves over, as
long as none before it was. -/
theorem Closed.not_left {left : ProbeId → Prop} {r : Report}
    (hclosed : Closed fate probes left r) (hcomp : Compatible fate probes)
    (hnodup : (probes.map Probe.id).Nodup) (hreach : Passes w target probes s x)
    (hfated : x.Fated fate probes) (hx : x.stage = .rounds)
    (hleft : ∀ p ∈ probes, left p.id → p ∈ x.unscheduled ∨ Drained x.state.trace p.id)
    {p : Probe β} (hp : p ∈ probes) (hready : p.isReady x.state.report = true) :
    ¬ left p.id := by
  have hfine : x.stage ≠ .failed := by simp [hx]
  have hpart := (hreach.accounted hfine).partitioned hnodup hfated.own
  have hundrained := hreach.undrained hnodup hx
  have hexec : ∀ k, x.state.report.isExecuted k = true → r.isExecuted k = true := by
    intro k hk
    obtain ⟨q, hq, rfl⟩ := hreach.exists_of_isExecuted hnodup hfine hfated.own hk
    rw [Report.isExecuted_eq, decide_eq_true_eq, Option.map_eq_some_iff] at hk
    obtain ⟨rec, hrec, hstatus⟩ := hk
    rw [hfated.status q.id rec hrec (hundrained q.id)] at hstatus
    refine hclosed.executed q hq (fun hl => ?_) hstatus
    -- What was left over neither ran here so far nor was drained, so it has no record.
    rcases hleft q hq hl with hu | hd
    · have hfree := hpart.unscheduled_unrecorded q.id (List.mem_map_of_mem hu)
      exact absurd (hfree.symm.trans (Report.hasRecord_iff.mpr ⟨rec, hrec⟩)) (by decide)
    · exact hundrained q.id hd
  intro hl
  have hunready := unready_of_extends (hcomp.positive p hp)
    (hfated.explained.grows hclosed.explained hexec) (hclosed.unready p hp hl)
  exact absurd (hready.symm.trans hunready) (by decide)

/-- **No scan hands out what a closed report leaves over.** -/
theorem Passes.left (h : Passes w target probes s x) (hcomp : Compatible fate probes)
    (hnodup : (probes.map Probe.id).Nodup)
    (hfollow : Follows fate (Coordinator.scan w target probes s).1.trace)
    {left : ProbeId → Prop} {r : Report} (hclosed : Closed fate probes left r) :
    ∀ p ∈ probes, left p.id → p ∈ x.unscheduled ∨ Drained x.state.trace p.id := by
  refine h.invariant (I := fun x => ∀ p ∈ probes, left p.id →
    p ∈ x.unscheduled ∨ Drained x.state.trace p.id) (fun p hp _ => Or.inl hp) ?_
  intro x y hx hy ih hm p hp hl
  have hfated := hx.fated hcomp hnodup hfollow
  have hkeep : Drained x.state.trace p.id → Drained y.state.trace p.id := by
    obtain ⟨es, htrace⟩ := hm.trace_grows
    rw [← htrace]
    exact fun h => drained_append.mpr (Or.inl h)
  rcases ih p hp hl with hu | hd
  · cases hm with
    | rest _ _ _ _ hperm _ _ _ => exact Or.inl (hperm.subset hu)
    | hand q hready hrounds _ hperm _ _ _ =>
        have hq : q ∈ probes :=
          (hx.given hfated.1).1 q (hperm.symm.subset (List.mem_cons_self ..))
        have hnot := hclosed.not_left hcomp hnodup hx hfated.2 hrounds ih hq hready
        rcases List.mem_cons.mp (hperm.subset hu) with rfl | hu'
        · exact absurd hl hnot
        · exact Or.inl hu'
    | finish _ _ _ _ _ _ _ _ _ _ _ hsame _ _ => exact Or.inl (hsame ▸ hu)
    | leave _ _ _ _ _ hsame _ _ _ _ => exact Or.inl (hsame ▸ hu)
    | drain q _ _ _ hperm _ _ htrace =>
        rcases List.mem_cons.mp (hperm.subset hu) with rfl | hu'
        · rw [htrace]
          exact Or.inr (drained_append.mpr (Or.inr (drained_singleton.mpr rfl)))
        · exact Or.inl hu'
    | complete _ _ _ _ _ hnone _ _ _ _ _ => simp [hnone] at hu
    | giveUp _ _ _ _ _ _ _ _ _ _ _ hfailed =>
        exact absurd hfailed (hy.fated hcomp hnodup hfollow).1
    | refuse _ _ _ _ _ hfailed => exact absurd hfailed (hy.fated hcomp hnodup hfollow).1
  · exact Or.inr (hkeep hd)

/-! ## The end of a scan -/

/-- What a scan has left over in the end. -/
def LeftOver (w : Workers β σ) (target : String) (probes : List (Probe β)) (s : σ) :
    ProbeId → Prop := Drained (Coordinator.scan w target probes s).1.trace

/-- A scan of compatible probes ends without an error. -/
theorem scan_succeeds (hcomp : Compatible fate probes) (hnodup : (probes.map Probe.id).Nodup)
    (hfollow : Follows fate (Coordinator.scan w target probes s).1.trace) :
    (Coordinator.scan w target probes s).2 = none := by
  have hfine := ((passes_final w target probes s).fated hcomp hnodup hfollow).1
  cases hfault : (Coordinator.scan w target probes s).2 with
  | none => rfl
  | some e => exact absurd (by simp [final, Point.stage, hfault]) hfine

/-- The records in the end: one for every declared probe, with the status of its fate
unless it was left over. -/
theorem records_final (hcomp : Compatible fate probes)
    (hnodup : (probes.map Probe.id).Nodup)
    (hfollow : Follows fate (Coordinator.scan w target probes s).1.trace) (p : ProbeId) :
    (p ∉ probes.map Probe.id →
        (Coordinator.scan w target probes s).1.report.records.get? p = none)
      ∧ (p ∈ probes.map Probe.id → ∃ rec,
        (Coordinator.scan w target probes s).1.report.records.get? p = some rec
          ∧ (LeftOver w target probes s p → rec.status = .notExecuted)
          ∧ (¬ LeftOver w target probes s p → rec.status = (fate p).status)) := by
  have hend := passes_final w target probes s
  obtain ⟨hfine, hfated⟩ := hend.fated hcomp hnodup hfollow
  have hdeclared := ((hend.accounted hfine).partitioned hnodup hfated.own).declared p
  obtain ⟨hnone, hidle⟩ := places_final (scan_succeeds hcomp hnodup hfollow)
  rw [hnone, hidle] at hdeclared
  have hrecord : (Coordinator.scan w target probes s).1.report.hasRecord p = true
      ↔ p ∈ probes.map Probe.id := by simpa [final] using hdeclared.symm
  constructor
  · intro hp
    rw [← hrecord, Report.hasRecord, Table.contains, Option.not_isSome_iff_eq_none] at hp
    exact hp
  · intro hp
    obtain ⟨rec, hrec⟩ := Report.hasRecord_iff.mp (hrecord.mpr hp)
    exact ⟨rec, hrec, hfated.drained p rec hrec, hfated.status p rec hrec⟩

/-- **A scan of compatible probes ends with a closed report.** -/
theorem closed_final (hcomp : Compatible fate probes) (hnodup : (probes.map Probe.id).Nodup)
    (hfollow : Follows fate (Coordinator.scan w target probes s).1.trace) :
    Closed fate probes (LeftOver w target probes s)
      (Coordinator.scan w target probes s).1.report := by
  have hend := passes_final w target probes s
  obtain ⟨-, hfated⟩ := hend.fated hcomp hnodup hfollow
  have hdone := stage_final (scan_succeeds hcomp hnodup hfollow)
  refine ⟨hfated.explained, fun p hp hl => ?_, fun p hp hl hstatus => ?_⟩
  · exact hfated.unready (by simp [hdone]) p hp (Or.inr hl)
  · obtain ⟨rec, hrec, -, hran⟩ :=
      (records_final hcomp hnodup hfollow p.id).2 (List.mem_map_of_mem hp)
    rw [Report.isExecuted_eq, hrec, Option.map_some, hran hl, hstatus]
    rfl

/-- What a closed report leaves over is left over by every scan. -/
theorem leftOver_of_closed (hcomp : Compatible fate probes)
    (hnodup : (probes.map Probe.id).Nodup)
    (hfollow : Follows fate (Coordinator.scan w target probes s).1.trace)
    {left : ProbeId → Prop} {r : Report} (hclosed : Closed fate probes left r)
    {p : ProbeId} (hp : p ∈ probes.map Probe.id) (hl : left p) :
    LeftOver w target probes s p := by
  obtain ⟨q, hq, rfl⟩ := List.mem_map.mp hp
  rcases (passes_final w target probes s).left hcomp hnodup hfollow hclosed q hq hl with
    hu | hd
  · cases hu
  · exact hd

end

/-! ## Two scans -/

theorem Compatible.perm {probes₁ probes₂ : List (Probe β)} (h : Compatible fate probes₁)
    (hperm : probes₁.Perm probes₂) : Compatible fate probes₂ := by
  have hback : ∀ p ∈ probes₂, p ∈ probes₁ := fun p hp => hperm.symm.subset hp
  exact ⟨fun p hp => h.positive p (hback p hp), fun p hp => h.conforms p (hback p hp),
    fun p hp => h.substitute p (hback p hp),
    fun p hp q hq => h.agree p (hback p hp) q (hback q hq)⟩

theorem Closed.perm {probes₁ probes₂ : List (Probe β)} {left : ProbeId → Prop} {r : Report}
    (h : Closed fate probes₁ left r) (hperm : probes₁.Perm probes₂) :
    Closed fate probes₂ left r := by
  have hback : ∀ p ∈ probes₂, p ∈ probes₁ := fun p hp => hperm.symm.subset hp
  exact ⟨h.explained, fun p hp => h.unready p (hback p hp),
    fun p hp => h.executed p (hback p hp)⟩

/-- **Explained reports are determined by the status of the records.** -/
theorem Explained.agrees {r r' : Report} (h : Explained fate r) (h' : Explained fate r')
    (hstatus : ∀ p, (r.records.get? p).map (·.status) = (r'.records.get? p).map (·.status)) :
    r.Agrees r' := by
  have hexec : ∀ p, r.isExecuted p = r'.isExecuted p := fun p => by
    rw [Report.isExecuted_eq, Report.isExecuted_eq, hstatus p]
  have hsource : ∀ f, Source fate r f ↔ Source fate r' f := fun f => by
    simp only [Source, hexec]
  refine ⟨hstatus, h.versions.unique h'.versions hsource,
    h.extensions.unique h'.extensions hsource, fun q => Option.ext fun v => ?_⟩
  rw [h.verdicts q v, h'.verdicts q v]
  simp only [hsource]

section
variable {σ₁ σ₂ : Type} {w₁ : Workers β σ₁} {w₂ : Workers β σ₂} {target₁ target₂ : String}
  {probes₁ probes₂ : List (Probe β)} {s₁ : σ₁} {s₂ : σ₂}

/-- **The order of a scan does not show.**  Take probes that were admitted, exclude nothing,
end in one way each with facts that are as declared, have the default substitute and do not
contradict each other.  Two scans of them, in whichever order they are given, with whatever
workers, both end with a report, and the reports agree. -/
theorem reports_agree {config : Config} {warnings warnings₁ warnings₂ : List LogEntry}
    (hprepare : prepare config probes₁ = .ok warnings) (hcomp : Compatible fate probes₁)
    (hperm : probes₁.Perm probes₂)
    (h₁ : Follows fate (runWith w₁ target₁ warnings₁ probes₁ s₁).1.trace)
    (h₂ : Follows fate (runWith w₂ target₂ warnings₂ probes₂ s₂).1.trace) :
    ∃ r₁ r₂, (runWith w₁ target₁ warnings₁ probes₁ s₁).1.outcome = .ok r₁
      ∧ (runWith w₂ target₂ warnings₂ probes₂ s₂).1.outcome = .ok r₂ ∧ r₁.Agrees r₂ := by
  rw [trace_runWith] at h₁ h₂
  have hnodup₁ := nodup_of_prepare hprepare
  have hids : (probes₁.map Probe.id).Perm (probes₂.map Probe.id) := hperm.map _
  have hnodup₂ := hids.nodup_iff.mp hnodup₁
  have hcomp₂ := hcomp.perm hperm
  have hok₁ := scan_succeeds hcomp hnodup₁ h₁
  have hok₂ := scan_succeeds hcomp₂ hnodup₂ h₂
  have hclosed₁ := closed_final hcomp hnodup₁ h₁
  have hclosed₂ := closed_final hcomp₂ hnodup₂ h₂
  -- Each scan ends closed, so what it leaves over the other one leaves over as well.
  have hleft : ∀ p ∈ probes₁.map Probe.id,
      LeftOver w₁ target₁ probes₁ s₁ p ↔ LeftOver w₂ target₂ probes₂ s₂ p := fun p hp =>
    ⟨leftOver_of_closed hcomp₂ hnodup₂ h₂ (hclosed₁.perm hperm) (hids.subset hp),
      leftOver_of_closed hcomp hnodup₁ h₁ (hclosed₂.perm hperm.symm) hp⟩
  refine ⟨_, _, outcome_runWith_eq_ok_iff.mpr ⟨hok₁, rfl⟩,
    outcome_runWith_eq_ok_iff.mpr ⟨hok₂, rfl⟩,
    hclosed₁.explained.agrees hclosed₂.explained fun p => ?_⟩
  obtain ⟨habsent₁, hpresent₁⟩ := records_final hcomp hnodup₁ h₁ p
  obtain ⟨habsent₂, hpresent₂⟩ := records_final hcomp₂ hnodup₂ h₂ p
  by_cases hp : p ∈ probes₁.map Probe.id
  · -- A record says that its probe was left over, or how it was fated to end.
    obtain ⟨rec₁, hrec₁, hskip₁, hran₁⟩ := hpresent₁ hp
    obtain ⟨rec₂, hrec₂, hskip₂, hran₂⟩ := hpresent₂ (hids.subset hp)
    rw [hrec₁, hrec₂, Option.map_some, Option.map_some]
    by_cases hl : LeftOver w₁ target₁ probes₁ s₁ p
    · rw [hskip₁ hl, hskip₂ ((hleft p hp).mp hl)]
    · rw [hran₁ hl, hran₂ fun h => hl ((hleft p hp).mpr h)]
  · rw [habsent₁ hp, habsent₂ fun h => hp (hids.symm.subset h)]

theorem Sample.compatible : Compatible Sample.fateOf Sample.probes := by
  have hfacts : ∀ p ∈ Sample.probes, ∀ f, Sample.fateOf p.id = .facts f →
      p.declaration = Sample.announced ∧ f = Sample.facts := by
    intro p hp f hf
    simp only [Sample.probes, List.mem_cons, List.not_mem_nil, or_false] at hp
    rcases hp with rfl | rfl | rfl | rfl | rfl | rfl <;> cases hf
    exact ⟨rfl, rfl⟩
  refine ⟨by decide, fun p hp f hf => ?_, fun p hp r => ?_, fun p hp p' hp' f f' hf hf' => ?_⟩
  · obtain ⟨hd, rfl⟩ := hfacts p hp f hf
    rw [hd]
    exact ⟨fun q => Iff.rfl, by decide, by decide⟩
  · simp only [Sample.probes, List.mem_cons, List.not_mem_nil, or_false] at hp
    rcases hp with rfl | rfl | rfl | rfl | rfl | rfl <;> rfl
  · obtain ⟨-, rfl⟩ := hfacts p hp f hf
    obtain ⟨-, rfl⟩ := hfacts p' hp' f' hf'
    intro q v v' hv hv'
    exact Option.some.inj (hv.symm.trans hv')

/-- The sample with one worker and the probes the other way round. -/
def Sample.backwards : Run × VirtualTime Unit :=
  runWith (VirtualTime.workers Sample.surroundings) "backwards" [] Sample.probes.reverse
    (.start 1 ())

theorem reports_agree_sample : Follows Sample.fateOf Sample.run.1.trace
    ∧ Follows Sample.fateOf Sample.backwards.1.trace
    ∧ ∃ r₁ r₂, Sample.run.1.outcome = .ok r₁ ∧ Sample.backwards.1.outcome = .ok r₂
      ∧ r₁.Agrees r₂ := by
  have h₁ : Follows Sample.fateOf Sample.run.1.trace := by decide +kernel
  have h₂ : Follows Sample.fateOf Sample.backwards.1.trace := by decide +kernel
  exact ⟨h₁, h₂, reports_agree Sample.prepare_probes Sample.compatible
    (List.reverse_perm _).symm h₁ h₂⟩

end

end Scan

end TlsScan
