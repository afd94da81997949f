import TlsScan.Proofs.Scan.Equality
import TlsScan.Proofs.Scan.Handing
import TlsScan.Proofs.Scan.LifeCycle

/-!
# What a probe is handed

A probe is handed the report as it is when the probe is scheduled.  The events tell
what that report is: all results that have finished by then, merged in order into
an empty report.  This is the report that the workers get with the probe.

## Main Definitions

* `Scan.declarationOf` — the declaration of a probe of a scan.
* `Scan.replay` — an empty report, and all that has finished merged into it.
* `Scan.SnapshotSound` — what is claimed of one event, given those before it.

## Main Results

* `Scan.Passes.replay` — as long as probes are handed out, the report is the replay of
  the events so far.
* `Scan.Passes.handing` — and it is the report that goes to the workers.
* `Scan.snapshot_is_replay` — every snapshot of a whole scan is the replay of what
  happened before it, has all that its probe asks for, and is what the probe is handed.

## Design Notes

A snapshot stays what it was while the report goes on to change, so its replay is no
invariant of the report.  What every step keeps is the claim about all events so far,
each with those before it (`Along`), next to the replay of the present report.
-/

namespace TlsScan.Scan

/-! ## Replays -/

variable {β σ : Type}

/-- The declaration of a probe of a scan. -/
def declarationOf (probes : List (Probe β)) (p : ProbeId) : Declaration :=
  match probes.find? fun q => q.id = p with
  | some q => q.declaration
  | none => .bare p

theorem declarationOf_id {probes : List (Probe β)} (hnodup : (probes.map Probe.id).Nodup)
    {q : Probe β} (hq : q ∈ probes) : declarationOf probes q.id = q.declaration := by
  unfold declarationOf
  cases hf : probes.find? fun a => a.id = q.id with
  | none =>
      have := List.find?_eq_none.mp hf q hq
      simp at this
  | some a =>
      have ha : a.id = q.id := by simpa using List.find?_some hf
      have heq : a = q :=
        List.inj_on_of_nodup_map hnodup (List.mem_of_find?_eq_some hf) hq ha
      rw [heq]

/-- The result that has finished, with its probe, if an event says so. -/
def Event.finished? : Event → Option (ProbeId × ProbeResult)
  | .finished p r _ => some (p, r)
  | _ => none

/-- **Merge what has finished into a report**, in the order of the events. -/
def replay (probes : List (Probe β)) (r : Report) (trace : List Event) :
    Except ScanError Report :=
  (trace.filterMap Event.finished?).foldlM
    (fun r m => r.merge (declarationOf probes m.1) m.2) r

/-- Events that finish nothing change nothing in a replay. -/
theorem replay_append_of_eq_nil {probes : List (Probe β)} {r : Report} {l m : List Event}
    (hm : m.filterMap Event.finished? = []) :
    replay probes r (l ++ m) = replay probes r l := by
  rw [replay, List.filterMap_append, hm, List.append_nil]
  rfl

/-- A result that has finished is merged last. -/
theorem replay_concat {probes : List (Probe β)} {r r₁ r₂ : Report} {l : List Event}
    {p : ProbeId} {result : ProbeResult} {status : Status}
    (hl : replay probes r l = .ok r₁)
    (hmerge : r₁.merge (declarationOf probes p) result = .ok r₂) :
    replay probes r (l ++ [.finished p result status]) = .ok r₂ := by
  have hlast : [Event.finished p result status].filterMap Event.finished?
      = [(p, result)] := rfl
  rw [replay] at hl
  rw [replay, List.filterMap_append, List.foldlM_append, hl, hlast]
  show ([(p, result)].foldlM (fun r m => r.merge (declarationOf probes m.1) m.2) r₁ :
    Except ScanError Report) = .ok r₂
  rw [List.foldlM_cons, hmerge]
  rfl

/-- **What is claimed of a snapshot**, given the events before it: it is the replay of
these, its probe was given and is ready on it, and the probes that had to be executed have
finished so. -/
def SnapshotSound (probes : List (Probe β)) (r : Report) (pre : List Event) : Event → Prop
  | .scheduled p snapshot => replay probes r pre = .ok snapshot
      ∧ ∃ q ∈ probes, q.id = p ∧ q.declaration.requirement.holds snapshot = true
        ∧ (OwnResults pre → ∀ a ∈ q.declaration.dependencies,
            ∃ result, .finished a result .executed ∈ pre)
  | _ => True

/-! ## The report is a replay -/

/-- A probe was drained, as it never became ready. -/
def Drained (trace : List Event) (p : ProbeId) : Prop :=
  ∃ r reason, Event.notExecuted p r reason ∈ trace

/-- Nothing was drained so far. -/
def Undrained (trace : List Event) : Prop := ∀ p, ¬ Drained trace p

theorem drained_append {l m : List Event} {p : ProbeId} :
    Drained (l ++ m) p ↔ Drained l p ∨ Drained m p := by
  simp only [Drained, List.mem_append, exists_or]

theorem drained_singleton {p k : ProbeId} {r : ProbeResult} {reason : String} :
    Drained [.notExecuted k r reason] p ↔ p = k := by
  constructor
  · rintro ⟨r', reason', h⟩
    cases List.mem_singleton.mp h
    rfl
  · rintro rfl
    exact ⟨r, reason, List.mem_singleton_self _⟩

theorem Undrained.append {l m : List Event} (hl : Undrained l) (hm : Undrained m) :
    Undrained (l ++ m) := by
  intro p h
  rcases drained_append.mp h with h | h
  · exact hl p h
  · exact hm p h

theorem Silent.undrained {es : List Event} (hes : Silent es) : Undrained es := by
  rintro p ⟨r, reason, h⟩
  cases hes _ h

theorem undrained_singleton {e : Event} (he : ∀ p r reason, .notExecuted p r reason ≠ e) :
    Undrained [e] := by
  rintro p ⟨r, reason, h⟩
  exact he p r reason (List.mem_singleton.mp h)

/-- What is left over after one probe was drained was left over before. -/
theorem left_of_drain {probes : List (Probe β)} {x y : Point β σ}
    (hnodup : (probes.map Probe.id).Nodup) {p q : Probe β} (hp : p ∈ probes) (hq : q ∈ probes)
    (hu : x.unscheduled.Perm (p :: y.unscheduled)) {result : ProbeResult} {reason : String}
    (htrace : y.state.trace = x.state.trace ++ [.notExecuted p.id result reason])
    (h : q ∈ y.unscheduled ∨ Drained y.state.trace q.id) :
    q ∈ x.unscheduled ∨ Drained x.state.trace q.id := by
  rw [htrace, drained_append, drained_singleton] at h
  rcases h with h | h | hid
  · exact Or.inl (hu.symm.subset (List.mem_cons_of_mem _ h))
  · exact Or.inr h
  · -- Identities differ, so it is the very probe that was drained.
    rw [List.inj_on_of_nodup_map hnodup hq hp hid]
    exact Or.inl (hu.symm.subset (List.mem_cons_self ..))

/-- A requirement that holds has its probes executed. -/
theorem isExecuted_of_holds {q : Requirement} {r : Report} (h : q.holds r = true)
    {p : ProbeId} (hp : p ∈ q.requiredProbes) : r.isExecuted p = true := by
  obtain ⟨probes, _, _, _, _, _, _⟩ := q
  simp only [Requirement.holds, Bool.and_eq_true] at h
  exact List.all_eq_true.mp h.1.1.1.1.1.1 p hp

section
variable {probes : List (Probe β)} {x y : Point β σ}

/-- What an observer was told of, has happened. -/
theorem exists_event_of_mem_life {p : ProbeId} {g : Progress} (h : g ∈ x.life p) :
    ∃ e ∈ x.state.trace, e.progress? = some g :=
  List.mem_filterMap.mp (List.mem_filter.mp h).1

/-- And what has happened, an observer was told of. -/
theorem mem_life_of_mem {e : Event} {g : Progress} (he : e ∈ x.state.trace)
    (hg : e.progress? = some g) : g ∈ x.life (Progress.probe g) :=
  List.mem_filter.mpr ⟨List.mem_filterMap.mpr ⟨e, he, hg⟩, decide_eq_true rfl⟩

/-- **A probe that is executed has finished so**, as long as nothing was drained. -/
theorem finished_of_isExecuted {p : ProbeId} (hx : x.Accounted probes)
    (hlives : x.Lives p) (hundrained : Undrained x.state.trace)
    (hown : OwnResults x.state.trace) (h : x.state.report.isExecuted p = true) :
    ∃ result, .finished p result .executed ∈ x.state.trace := by
  unfold Report.isExecuted at h
  split at h
  · rename_i rec hrec
    have hmerged : p ∈ x.merged := hx.own hown p (Report.hasRecord_iff.mpr ⟨rec, hrec⟩)
    -- What was merged has finished or was drained, and nothing was drained.
    obtain ⟨rec', hrec', hl | hl⟩ := hlives.merged hmerged
    · cases hrec.symm.trans hrec'
      rw [of_decide_eq_true h] at hl
      obtain ⟨e, he, hg⟩ := exists_event_of_mem_life (g := .finished p .executed)
        (by rw [hl]; simp)
      cases e <;> cases hg
      exact ⟨_, he⟩
    · obtain ⟨e, he, hg⟩ := exists_event_of_mem_life
        (by rw [hl]; exact List.mem_singleton_self _)
      cases e <;> cases hg
      exact absurd ⟨_, _, he⟩ (hundrained p)
  · cases h

theorem snapshotSound_of_progress?_eq_none {r : Report} {e : Event} (he : e.progress? = none)
    (pre : List Event) : SnapshotSound probes r pre e := by
  cases e <;> trivial

theorem finished?_of_silent {es : List Event} (hes : Silent es) :
    es.filterMap Event.finished? = [] := by
  rw [List.filterMap_eq_nil_iff]
  intro e he
  have := hes e he
  cases e <;> first | rfl | cases this

end

section
variable {w : Workers β σ} {target : String} {probes : List (Probe β)} {s : σ}
  {x : Point β σ}

/-- **Every snapshot so far is sound**, and as long as probes are handed out the report is
the replay of the events so far. -/
theorem Passes.replay (h : Passes w target probes s x)
    (hnodup : (probes.map Probe.id).Nodup) :
    Along (SnapshotSound probes (.new target (w.now s))) x.state.trace
      ∧ (x.stage = .rounds →
          replay probes (.new target (w.now s)) x.state.trace = .ok x.state.report
            ∧ Undrained x.state.trace) := by
  refine h.invariant (I := fun x =>
    Along (SnapshotSound probes (.new target (w.now s))) x.state.trace
      ∧ (x.stage = .rounds →
          Scan.replay probes (.new target (w.now s)) x.state.trace = .ok x.state.report
            ∧ Undrained x.state.trace)) ?_ ?_
  · refine ⟨?_, fun _ => ⟨rfl, silent_singleton rfl |>.undrained⟩⟩
    exact Along.nil.append fun e he pre =>
      snapshotSound_of_progress?_eq_none (silent_singleton rfl e he) pre
  · intro x y hreach _ ⟨halong, hreplay⟩ hm
    -- Nothing is claimed of silent events; the moves differ in what they do to the report.
    have hquiet : ∀ {es : List Event}, Silent es → Along _ (x.state.trace ++ es) :=
      fun hes => halong.append fun e he pre =>
        snapshotSound_of_progress?_eq_none (hes e he) pre
    cases hm with
    | rest es hes hx _ _ _ hreport htrace =>
        obtain ⟨hr, hd⟩ := hreplay hx
        rw [htrace, hreport]
        exact ⟨hquiet hes, fun _ =>
          ⟨(replay_append_of_eq_nil (finished?_of_silent hes)).trans hr,
            hd.append hes.undrained⟩⟩
    | hand p hready hx _ hu _ hreport htrace =>
        obtain ⟨hr, hd⟩ := hreplay hx
        have hfine : x.stage ≠ .failed := by simp [hx]
        have hacc := hreach.accounted hfine
        have hp : p ∈ probes :=
          (hreach.given hfine).1 p (hu.symm.subset (List.mem_cons_self ..))
        rw [htrace, hreport]
        -- The probe is handed the present report, which is the replay so far.
        refine ⟨halong.concat ⟨hr, p, hp, rfl, hready, fun hown a ha => ?_⟩, fun _ =>
          ⟨(replay_append_of_eq_nil rfl).trans hr, hd.append (undrained_singleton (by simp))⟩⟩
        exact finished_of_isExecuted hacc (hreach.lives hnodup hfine a) hd hown
          (isExecuted_of_holds hready ha)
    | finish d es e result rec hes hd hmerge _ hx _ _ hrun htrace =>
        obtain ⟨hr, hu⟩ := hreplay hx
        have hfine : x.stage ≠ .failed := by simp [hx]
        obtain ⟨q, hq, rfl⟩ :=
          (hreach.given hfine).2 d (hrun.symm.subset (List.mem_cons_self ..))
        have hes' := hes.append (silent_singleton hd.progress?)
        have hsplit : y.state.trace = (x.state.trace ++ (es ++ [e]))
            ++ [.finished q.declaration.probe result rec.status] := by simp [htrace]
        have hr' : Scan.replay probes (.new target (w.now s)) (x.state.trace ++ (es ++ [e]))
            = .ok x.state.report :=
          (replay_append_of_eq_nil (finished?_of_silent hes')).trans hr
        rw [hsplit]
        refine ⟨(hquiet hes').concat trivial, fun _ => ⟨replay_concat hr' ?_, ?_⟩⟩
        · have hdecl : declarationOf probes q.declaration.probe = q.declaration :=
            declarationOf_id hnodup hq
          rw [hdecl]
          exact hmerge
        · exact (hu.append hes'.undrained).append (undrained_singleton (by simp))
    | leave es hes _ _ hy _ _ _ _ htrace =>
        rw [htrace]
        exact ⟨hquiet hes, by simp [hy]⟩
    | drain p _ _ hy _ _ _ htrace =>
        rw [htrace]
        exact ⟨halong.concat trivial, by simp [hy]⟩
    | complete t e he _ hy _ _ _ _ _ htrace =>
        rw [htrace]
        exact ⟨hquiet (silent_singleton he), by simp [hy]⟩
    | giveUp _ es _ _ _ hes _ _ _ _ _ hy htrace =>
        rw [htrace]
        exact ⟨hquiet hes, by simp [hy]⟩
    | refuse _ _ _ _ _ hy htrace =>
        rw [htrace]
        exact ⟨halong, by simp [hy]⟩

/-- As long as probes are handed out, none is drained. -/
theorem Passes.undrained (h : Passes w target probes s x)
    (hnodup : (probes.map Probe.id).Nodup) (hx : x.stage = .rounds) :
    Undrained x.state.trace := ((h.replay hnodup).2 hx).2

/-- **A probe is handed the replay of the events so far**, and it is told so: whatever is about
to be handed out goes to the workers with it in the next step. -/
theorem Passes.handing (h : Passes w target probes s x) (hnodup : (probes.map Probe.id).Nodup)
    {q : Probe β} {l : List (Probe β)} (hphase : x.phase = .handing (q :: l)) :
    ∃ y snapshot, x.next w = some y
      ∧ y.state.workers = w.submit x.state.workers ⟨q, snapshot⟩
      ∧ y.state.trace = x.state.trace ++ [.scheduled q.id snapshot]
      ∧ Scan.replay probes (.new target (w.now s)) x.state.trace = .ok snapshot := by
  have hrounds : x.stage = .rounds := by
    rw [Point.stage, hphase]
  have hnext : x.next w = some ⟨.handing l, x.state.submit w q⟩ := by
    simp only [Point.next, hphase]
  exact ⟨_, x.state.report, hnext, rfl, rfl, ((h.replay hnodup).2 hrounds).1⟩

/-- **What a probe is handed is the replay of what happened before.**  The workers are handed
the probes that are told of, in this order and with these reports, and nothing else: whenever a
probe is to be handed out, it goes to them in the next step with the replay of the events so
far, and that is told.  So every report that is told of is an empty one with exactly those
results merged into it, in order, that have finished by then; the requirement of the probe holds
on it, and each probe that it asks for in any case has finished as executed before, if results
keep to their own records.  And if tasks end only as those can that the workers were handed,
then whoever ends does so as it can on the report that was told of. -/
theorem snapshot_is_replay {config : Config} {warnings : List LogEntry}
    (hprepare : prepare config probes = .ok warnings) :
    (∃ tasks, w.Fed s tasks (runWith w target warnings probes s).2
        ∧ tasks.map Task.handOut = handOuts (runWith w target warnings probes s).1.trace
        ∧ ∀ t ∈ tasks, t.probe ∈ probes)
      ∧ (∀ x q l, Passes w target probes s x → x.phase = .handing (q :: l) →
        ∃ y snapshot, x.next w = some y
          ∧ y.state.workers = w.submit x.state.workers ⟨q, snapshot⟩
          ∧ y.state.trace = x.state.trace ++ [.scheduled q.id snapshot]
          ∧ replay probes (.new target (w.now s)) x.state.trace = .ok snapshot)
      ∧ (∀ pre p snapshot post,
        (runWith w target warnings probes s).1.trace = pre ++ .scheduled p snapshot :: post →
          replay probes (.new target (w.now s)) pre = .ok snapshot
            ∧ ∃ q ∈ probes, q.id = p ∧ q.declaration.requirement.holds snapshot = true
              ∧ (OwnResults pre → ∀ a ∈ q.declaration.dependencies,
                  ∃ result, .finished a result .executed ∈ pre))
      ∧ ∀ ends, w.Obeys s ends → ∀ pre p a post,
        (runWith w target warnings probes s).1.trace = pre ++ .ended p a :: post →
          ∃ t : Task β, t.probe ∈ probes ∧ t.probe.id = p
            ∧ .scheduled p t.snapshot ∈ pre ∧ ends t a := by
  have hnodup := nodup_of_prepare hprepare
  have hfinal := passes_final w target probes s
  rw [trace_runWith, workers_runWith]
  refine ⟨?_, fun x q l hx hphase => hx.handing hnodup hphase, ?_, ?_⟩
  · obtain ⟨tasks, hfed, htold, hgiven⟩ := hfinal.handed
    exact ⟨tasks, hfed, htold, hgiven⟩
  · intro pre p snapshot post htrace
    exact (hfinal.replay hnodup).1 pre _ post htrace
  · intro ends hobeys pre p a post htrace
    exact hfinal.endings hobeys pre _ post htrace

theorem snapshot_is_replay_sample : ∃ pre snapshot post tasks,
    Sample.run.1.trace = pre ++ .scheduled .cipherSuite snapshot :: post ∧ OwnResults pre
      ∧ replay Sample.probes (.new "sample" default) pre = .ok snapshot
      ∧ (∃ q ∈ Sample.probes, q.id = .cipherSuite
        ∧ q.declaration.requirement.holds snapshot = true
        ∧ ∀ a ∈ q.declaration.dependencies,
            ∃ result, .finished a result .executed ∈ pre)
      ∧ (VirtualTime.workers Sample.surroundings).Fed (.start 2 ()) tasks Sample.run.2
      ∧ (.cipherSuite, snapshot) ∈ tasks.map Task.handOut
      ∧ ∃ pre post t,
        Sample.run.1.trace = pre ++ .ended .cipherSuite (.failed ⟨"refused", []⟩) :: post
          ∧ .scheduled .cipherSuite t.snapshot ∈ pre
          ∧ VirtualTime.Ends Sample.surroundings t (.failed ⟨"refused", []⟩) := by
  have hown : OwnResults Sample.run.1.trace := by decide +kernel
  have hany : Sample.run.1.trace.any (Event.isHandOut .cipherSuite) = true := by
    decide +kernel
  have hended : .ended .cipherSuite (.failed ⟨"refused", []⟩) ∈ Sample.run.1.trace := by
    decide +kernel
  obtain ⟨⟨tasks, hfed, htold, -⟩, -, hsnapshots, hendings⟩ :=
    @snapshot_is_replay _ _ (VirtualTime.workers Sample.surroundings) "sample" Sample.probes
      (.start 2 ()) _ _ Sample.prepare_probes
  obtain ⟨e, he, hscheduled⟩ := List.any_eq_true.mp hany
  obtain ⟨snapshot, rfl⟩ := (Event.isHandOut_iff e).mp hscheduled
  obtain ⟨pre, post, htrace⟩ := List.append_of_mem he
  have hpre : OwnResults pre := hown.of_grown ⟨_, htrace.symm⟩
  obtain ⟨hreplay, q, hq, hid, hholds, hdeps⟩ := hsnapshots pre _ snapshot post htrace
  refine ⟨pre, snapshot, post, tasks, htrace, hpre, hreplay, ⟨q, hq, hid, hholds, hdeps hpre⟩,
    hfed, ?_, ?_⟩
  · rw [htold]
    exact mem_handOuts.mpr he
  · obtain ⟨pre', post', htrace'⟩ := List.append_of_mem hended
    obtain ⟨t, -, -, ht, hworked⟩ := hendings _ (VirtualTime.obeys Sample.surroundings 2 ())
      pre' _ _ post' htrace'
    exact ⟨pre', post', t, htrace', ht, hworked⟩

end

end TlsScan.Scan
