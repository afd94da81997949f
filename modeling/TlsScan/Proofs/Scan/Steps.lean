import Mathlib.Data.List.Perm.Basic
import Mathlib.Logic.Relation
import TlsScan.Proofs.Report.Merging
import TlsScan.Scan.Coordinator

/-!
# The steps of a scan

`Coordinator.scan` is a loop within a loop with a drain behind it.  This file takes
it apart into steps, each of which hands out one probe, merges one result or does
neither, and shows that the steps in their order are the scan.  What every step
keeps is then kept by the scan, at its end and at every point on the way.

## Main Definitions

* `Scan.Point` — where a scan stands: what it is about to do, and its state.
* `Scan.Point.next` — the one step that leads on from a point.
* `Scan.Passes` — the points that a scan passes.
* `Scan.Move` — all that a step can do.

## Main Results

* `Scan.passes_final` — the steps end with what `Coordinator.scan` returns.
* `Scan.Passes.reaches_final` — and from every point on the way they go on to there.
* `Scan.Passes.invariant` — what holds at the start and is kept by every move holds
  at every point that the scan passes.

## Design Notes

Steps are taken by a function, so a scan passes its points in one order only.  The
order of completions is no choice of the coordinator: it is what the workers answer,
and a fact about all workers is one about every order.
-/

namespace TlsScan.Scan

/-! ## Points -/

/-- **What a scan is about to do.** -/
inductive Phase (β : Type) where
  /-- Look for what is ready. -/
  | scheduling
  /-- Hand out these probes, which are ready. -/
  | handing (ready : List (Probe β))
  /-- Wait for a task to end. -/
  | waiting
  /-- Look for further tasks that have ended. -/
  | merging
  /-- Start the watchdog anew. -/
  | renewing
  /-- Merge a substitute for these probes, which never became ready. -/
  | draining (left : List (Probe β))
  /-- Nothing more. -/
  | stopped (fault : Option ScanError)

/-- The parts of a scan. -/
inductive Stage where
  /-- Probes are handed out and their results merged. -/
  | rounds
  /-- Nothing runs and nothing will. -/
  | drain
  | done
  | failed
  deriving DecidableEq

/-- **Where a scan stands.** -/
structure Point (β σ : Type) where
  phase : Phase β
  state : Coordinator β σ

variable {β σ : Type}

namespace Coordinator

/-- Start the watchdog anew. -/
def rewatch (w : Workers β σ) (c : Coordinator β σ) : Coordinator β σ :=
  { c with workers := w.restartWatchdog c.workers }

/-- Turn to the probes that are left over, if there are any. -/
def leave (c : Coordinator β σ) : Coordinator β σ :=
  if c.pending.isEmpty then c
  else { c with pending := [], trace := c.trace ++ [.leftOver (c.pending.map Probe.id)] }

end Coordinator

namespace Point

/-- The part of the scan that a point belongs to. -/
def stage (x : Point β σ) : Stage :=
  match x.phase with
  | .draining _ => .drain
  | .stopped none => .done
  | .stopped (some _) => .failed
  | _ => .rounds

/-- **The probes that were neither handed out nor drained.** -/
def unscheduled (x : Point β σ) : List (Probe β) :=
  match x.phase with
  | .handing l => l ++ x.state.pending
  | .draining l => l
  | .stopped _ => []
  | _ => x.state.pending

/-- The identities of the probes that were handed out and not merged. -/
def running (x : Point β σ) : List ProbeId := x.state.running.map (·.probe)

theorem running_congr {x y : Point β σ} (h : x.state.running = y.state.running) :
    x.running = y.running := by
  rw [running, running, h]

/-- Go on after a merge, or give up if it failed. -/
def after (w : Workers β σ) (phase : Phase β) :
    Coordinator β σ × Option ScanError → Point β σ
  | (c, none) => ⟨phase, c⟩
  | (c, some e) => ⟨.stopped (some e), (c.rewatch w).record (.aborted e)⟩

/-- Merge the substitute of one of the probes that are left over. -/
def substitute (c : Coordinator β σ) (p : Probe β) (l : List (Probe β)) : Point β σ :=
  match c.report.merge p.declaration (p.substitute c.report) with
  | .error e => ⟨.stopped (some e), c⟩
  | .ok report =>
    let reason := ((report.records.get? p.id).bind (·.details)).getD ""
    ⟨.draining l, { c with
      report := report
      trace := c.trace ++ [.notExecuted p.id (p.substitute c.report) reason] }⟩

/-- **The next step of a scan.** -/
def next (w : Workers β σ) (x : Point β σ) : Option (Point β σ) :=
  let c := x.state
  match x.phase with
  | .scheduling =>
    some ⟨.handing (c.pending.filter (Probe.isReady c.report)),
      { c with pending := c.pending.filter fun p => !p.isReady c.report }⟩
  | .handing (p :: l) => some ⟨.handing l, c.submit w p⟩
  | .handing [] =>
    some (if c.running = [] then ⟨.draining c.pending, c.leave⟩ else ⟨.waiting, c⟩)
  | .waiting =>
    let c := (c.pass (w.await c.workers)).record .waited
    some (if (w.collectFirst? c.workers c.running).isSome then ⟨.merging, c⟩
      else after w .renewing (c.breakStall w))
  | .merging =>
    match w.collectFirst? c.workers c.running with
    | none => some ⟨.renewing, c⟩
    | some (d, e, rest, s) =>
      some (after w .merging ({ c with running := rest, workers := s }.mergeEnding d e))
  | .renewing => some ⟨.scheduling, c.rewatch w⟩
  | .draining (p :: l) => some (substitute c p l)
  | .draining [] => some ⟨.stopped none, c.complete w⟩
  | .stopped _ => none

end Point

/-- One point is reached from another one by steps. -/
def Reaches (w : Workers β σ) : Point β σ → Point β σ → Prop :=
  Relation.ReflTransGen fun x y => x.next w = some y

/-- Where a scan begins. -/
def initial (w : Workers β σ) (target : String) (probes : List (Probe β)) (s : σ) :
    Point β σ := ⟨.scheduling, .start w target probes s⟩

/-- Where a scan ends. -/
def final (w : Workers β σ) (target : String) (probes : List (Probe β)) (s : σ) :
    Point β σ :=
  ⟨.stopped (Coordinator.scan w target probes s).2, (Coordinator.scan w target probes s).1⟩

/-- **The points that a scan passes.** -/
def Passes (w : Workers β σ) (target : String) (probes : List (Probe β)) (s : σ) :
    Point β σ → Prop := Reaches w (initial w target probes s)

/-! ## The steps are the scan -/

namespace Reaches

variable {w : Workers β σ} {x y z : Point β σ}

theorem head (h : x.next w = some y) (hr : Reaches w y z) : Reaches w x z :=
  Relation.ReflTransGen.head h hr

theorem trans (h : Reaches w x y) (hr : Reaches w y z) : Reaches w x z :=
  Relation.ReflTransGen.trans h hr

end Reaches

open Point

theorem reaches_mergeAll (w : Workers β σ) (c : Coordinator β σ) :
    Reaches w ⟨.merging, c⟩ (after w .renewing (c.mergeAll w)) := by
  -- Nothing has ended, or the first merge fails, or it succeeds and more may follow.
  fun_induction Coordinator.mergeAll w c with
  | case1 c h =>
      refine Relation.ReflTransGen.single ?_
      simp only [next, h, after]
  | case2 c d e rest s h c' err hm =>
      refine Relation.ReflTransGen.single ?_
      simp only [next, h, hm, after]
  | case3 c d e rest s h c' hm ih =>
      refine Reaches.head ?_ ih
      simp only [next, h, hm, after]

/-- What a scan does after a round. -/
def afterRound : Coordinator β σ × Option ScanError → Point β σ
  | (c, none) => ⟨.scheduling, c⟩
  | (c, some e) => ⟨.stopped (some e), c.record (.aborted e)⟩

theorem reaches_afterRound (w : Workers β σ) (r : Coordinator β σ × Option ScanError) :
    Reaches w (after w .renewing r) (afterRound (r.1.rewatch w, r.2)) := by
  obtain ⟨c, _ | e⟩ := r
  · exact Relation.ReflTransGen.single rfl
  · exact Relation.ReflTransGen.refl

theorem reaches_round (w : Workers β σ) (c : Coordinator β σ) :
    Reaches w ⟨.waiting, c⟩ (afterRound (c.round w)) := by
  -- The watchdog is renewed at the end of a round, and at once if the round fails.
  let c₁ := (c.pass (w.await c.workers)).record .waited
  have hround : c.round w =
      let r := if (w.collectFirst? c₁.workers c₁.running).isSome then c₁.mergeAll w
        else c₁.breakStall w
      (r.1.rewatch w, r.2) := rfl
  rw [hround]
  refine Reaches.trans ?_ (reaches_afterRound w _)
  by_cases hs : (w.collectFirst? c₁.workers c₁.running).isSome = true
  · have hnext : Point.next w ⟨.waiting, c⟩ = some ⟨.merging, c₁⟩ := by
      simp only [next]
      rw [if_pos hs]
    rw [if_pos hs]
    exact Reaches.head hnext (reaches_mergeAll w c₁)
  · have hnext : Point.next w ⟨.waiting, c⟩ = some (after w .renewing (c₁.breakStall w)) := by
      simp only [next]
      rw [if_neg hs]
    rw [if_neg hs]
    exact Relation.ReflTransGen.single hnext

theorem reaches_foldl_submit (w : Workers β σ) (l : List (Probe β))
    (c : Coordinator β σ) :
    Reaches w ⟨.handing l, c⟩ ⟨.handing [], l.foldl (Coordinator.submit w) c⟩ := by
  induction l generalizing c with
  | nil => exact Relation.ReflTransGen.refl
  | cons p l ih => exact Reaches.head rfl (ih _)

/-- What a scan does after its rounds. -/
def afterRun : Coordinator β σ × Option ScanError → Point β σ
  | (c, none) => ⟨.draining c.pending, c.leave⟩
  | (c, some e) => ⟨.stopped (some e), c.record (.aborted e)⟩

theorem reaches_run (w : Workers β σ) (c : Coordinator β σ) :
    Reaches w ⟨.scheduling, c⟩ (afterRun (c.run w)) := by
  have hschedule : ∀ c : Coordinator β σ,
      Reaches w ⟨.scheduling, c⟩ ⟨.handing [], c.schedule w⟩ := fun c =>
    Reaches.head rfl (reaches_foldl_submit w _ _)
  have hwait : ∀ c : Coordinator β σ, (c.schedule w).running ≠ [] →
      Reaches w ⟨.scheduling, c⟩ (afterRound ((c.schedule w).round w)) := by
    intro c hne
    refine (hschedule c).trans (Reaches.head ?_ (reaches_round w _))
    simp only [next, if_neg hne]
  fun_induction Coordinator.run w c with
  | case1 c scheduled h =>
      refine (hschedule c).trans (Relation.ReflTransGen.single ?_)
      simp only [next, afterRun, if_pos (show (c.schedule w).running = [] from h)]
      rfl
  | case2 c scheduled h c' e hr =>
      have := hwait c h
      rwa [hr] at this
  | case3 c scheduled h c' hr ih =>
      have := hwait c h
      rw [hr] at this
      exact this.trans ih

/-- What a scan does after its drain. -/
def afterDrain (w : Workers β σ) : Coordinator β σ × Option ScanError → Point β σ
  | (c, none) => ⟨.stopped none, c.complete w⟩
  | (c, some e) => ⟨.stopped (some e), c⟩

theorem reaches_mergeSubstitutes (w : Workers β σ) (l : List (Probe β))
    (c : Coordinator β σ) :
    Reaches w ⟨.draining l, c⟩ (afterDrain w (Coordinator.mergeSubstitutes l c)) := by
  induction l generalizing c with
  | nil => exact Relation.ReflTransGen.single rfl
  | cons p l ih =>
      rw [Coordinator.mergeSubstitutes]
      cases hm : c.report.merge p.declaration (p.substitute c.report) with
      | error e =>
          refine Relation.ReflTransGen.single ?_
          simp only [next, substitute, hm, afterDrain]
      | ok report =>
          refine Reaches.head ?_ (ih _)
          simp only [next, substitute, hm]

theorem drain_eq (c : Coordinator β σ) :
    c.drain = Coordinator.mergeSubstitutes c.pending c.leave := by
  unfold Coordinator.drain Coordinator.leave
  cases hp : c.pending with
  | nil => rfl
  | cons p l => rfl

/-- **The steps end with what a scan returns.** -/
theorem passes_final (w : Workers β σ) (target : String) (probes : List (Probe β))
    (s : σ) : Passes w target probes s (final w target probes s) := by
  have hrun := reaches_run w (.start w target probes s)
  rcases hr : (Coordinator.start w target probes s).run w with ⟨c, _ | e⟩
  · rw [hr] at hrun
    have hdrain := reaches_mergeSubstitutes w c.pending c.leave
    rw [← drain_eq] at hdrain
    have hfinal : final w target probes s = afterDrain w c.drain := by
      rcases hd : c.drain with ⟨c', _ | e⟩ <;>
        simp only [final, Coordinator.scan, hr, hd, afterDrain]
    rw [hfinal]
    exact Reaches.trans hrun hdrain
  · rw [hr] at hrun
    have hfinal : final w target probes s
        = ⟨.stopped (some e), c.record (.aborted e)⟩ := by
      simp only [final, Coordinator.scan, hr]
    rw [hfinal]
    exact hrun

/-- **From every point that a scan passes, its steps go on to its end**, as there is
one next step only. -/
theorem Passes.reaches_final {w : Workers β σ} {target : String}
    {probes : List (Probe β)} {s : σ} {x : Point β σ} (h : Passes w target probes s x) :
    Reaches w x (final w target probes s) := by
  have hright : Relator.RightUnique fun x y : Point β σ => x.next w = some y := by
    intro x y z hy hz
    exact Option.some.inj (hy.symm.trans hz)
  -- So of two points that a scan passes, one leads to the other.
  rcases Relation.ReflTransGen.total_of_right_unique hright h
    (passes_final w target probes s) with hr | hr
  · exact hr
  · -- The end has no next step, so what it reaches is the end itself.
    rcases Relation.ReflTransGen.cases_head hr with heq | ⟨y, hy, -⟩
    · rw [heq]
      exact Relation.ReflTransGen.refl
    · cases hy

/-! ## What a step can do -/

/-- Events that no observer is told of. -/
def Silent (es : List Event) : Prop := ∀ e ∈ es, e.progress? = none

/-- **How a task that was handed out has ended**: the event that says so, and the
result that is merged for it. -/
inductive Outcome (d : Declaration) : Event → ProbeResult → Prop
  | ended (e : Ending) : Outcome d (.ended d.probe e) (e.resultFor d)
  | killed (age : String) : Outcome d (.killed d.probe age)
      (.failure d.probe d.properties .killed ("no result after " ++ age))

/-- The reason that a report gives for a probe that was not executed. -/
def reasonIn (r : Report) (p : ProbeId) : String :=
  ((r.records.get? p).bind (·.details)).getD ""

/-- **All that a step can do**, as far as the report, the events and the whereabouts of
the probes are concerned. -/
inductive Move (x y : Point β σ) : Prop
  /-- Nothing that matters. -/
  | rest (es : List Event) (hes : Silent es)
      (hx : x.stage = .rounds) (hy : y.stage = .rounds)
      (hu : x.unscheduled.Perm y.unscheduled) (hr : x.state.running = y.state.running)
      (hreport : y.state.report = x.state.report)
      (htrace : y.state.trace = x.state.trace ++ es)
  /-- Hand out a probe that is ready, with the report as it is. -/
  | hand (p : Probe β) (hready : p.isReady x.state.report = true)
      (hx : x.stage = .rounds) (hy : y.stage = .rounds)
      (hu : x.unscheduled.Perm (p :: y.unscheduled))
      (hr : y.state.running.Perm (p.declaration :: x.state.running))
      (hreport : y.state.report = x.state.report)
      (htrace : y.state.trace = x.state.trace ++ [.scheduled p.id x.state.report])
  /-- Merge what follows from the end of a task. -/
  | finish (d : Declaration) (es : List Event) (e : Event) (result : ProbeResult)
      (rec : Record) (hes : Silent es) (hd : Outcome d e result)
      (hmerge : x.state.report.merge d result = .ok y.state.report)
      (hrec : y.state.report.records.get? d.probe = some rec)
      (hx : x.stage = .rounds) (hy : y.stage = .rounds)
      (hu : x.unscheduled = y.unscheduled)
      (hr : x.state.running.Perm (d :: y.state.running))
      (htrace : y.state.trace = x.state.trace ++ es ++ [e, .finished d.probe result rec.status])
  /-- Turn to the probes that are left over. -/
  | leave (es : List Event) (hes : Silent es)
      (hready : ∀ p ∈ x.unscheduled, p.isReady x.state.report = false)
      (hx : x.stage = .rounds) (hy : y.stage = .drain)
      (hu : x.unscheduled = y.unscheduled)
      (hr : x.state.running = []) (hr' : y.state.running = [])
      (hreport : y.state.report = x.state.report)
      (htrace : y.state.trace = x.state.trace ++ es)
  /-- Merge the substitute of a probe that is left over. -/
  | drain (p : Probe β)
      (hmerge : x.state.report.merge p.declaration (p.substitute x.state.report)
        = .ok y.state.report)
      (hx : x.stage = .drain) (hy : y.stage = .drain)
      (hu : x.unscheduled.Perm (p :: y.unscheduled))
      (hr : x.state.running = []) (hr' : y.state.running = [])
      (htrace : y.state.trace = x.state.trace ++ [.notExecuted p.id
        (p.substitute x.state.report) (reasonIn y.state.report p.id)])
  /-- Note the end of the scan. -/
  | complete (t : Timestamp) (e : Event) (he : e.progress? = none)
      (hx : x.stage = .drain) (hy : y.stage = .done)
      (hu : x.unscheduled = []) (hu' : y.unscheduled = [])
      (hr : x.state.running = []) (hr' : y.state.running = [])
      (hreport : y.state.report = x.state.report.markFinished t)
      (htrace : y.state.trace = x.state.trace ++ [e])
  /-- Give up, as what follows from the end of a task cannot be merged. -/
  | giveUp (d : Declaration) (es : List Event) (e : Event) (result : ProbeResult)
      (fault : ScanError) (hes : Silent es) (he : e ∈ es) (hd : Outcome d e result)
      (hrun : d ∈ x.state.running)
      (hmerge : x.state.report.merge d result = .error fault)
      (hx : x.stage = .rounds) (hy : y.stage = .failed)
      (htrace : y.state.trace = x.state.trace ++ es) (hend : y.phase = .stopped (some fault))
  /-- Give up, as the substitute of a probe that is left over cannot be merged. -/
  | refuse (p : Probe β) (fault : ScanError) (hp : p ∈ x.unscheduled)
      (hmerge : x.state.report.merge p.declaration (p.substitute x.state.report)
        = .error fault)
      (hx : x.stage = .drain) (hy : y.stage = .failed)
      (htrace : y.state.trace = x.state.trace) (hend : y.phase = .stopped (some fault))

theorem silent_nil : Silent [] := fun _ h => absurd h List.not_mem_nil

theorem Silent.append {l m : List Event} (hl : Silent l) (hm : Silent m) :
    Silent (l ++ m) := by
  intro e he
  rcases List.mem_append.mp he with h | h
  · exact hl e h
  · exact hm e h

theorem silent_singleton {e : Event} (h : e.progress? = none) : Silent [e] := by
  intro e' he
  rw [List.mem_singleton.mp he, h]

theorem silent_activities (l : List Activity) : Silent (l.map .activity) := by
  intro e he
  obtain ⟨a, -, rfl⟩ := List.mem_map.mp he
  rfl

theorem Outcome.progress? {d : Declaration} {e : Event} {result : ProbeResult}
    (h : Outcome d e result) : e.progress? = none := by
  cases h <;> rfl

/-- The task that is collected is one of the list, and the others stay. -/
theorem Workers.perm_of_collectFirst? {w : Workers β σ} {s s' : σ}
    {l rest : List Declaration} {d : Declaration} {e : Ending}
    (h : w.collectFirst? s l = some (d, e, rest, s')) : l.Perm (d :: rest) := by
  induction l generalizing d e rest s' with
  | nil => cases h
  | cons a l ih =>
      rw [collectFirst?] at h
      split at h
      · cases h
        exact List.Perm.refl _
      · obtain ⟨⟨d', e', rest', s''⟩, hr, heq⟩ := Option.map_eq_some_iff.mp h
        cases heq
        exact ((ih hr).cons a).trans (List.Perm.swap ..)

/-- The coordinator merges what its report accepts, and tells of it. -/
theorem Coordinator.merge_cases (c : Coordinator β σ) (d : Declaration)
    (result : ProbeResult) :
    (∃ r rec, c.report.merge d result = .ok r ∧ r.records.get? d.probe = some rec
        ∧ c.merge d result = ({ c with
            report := r
            trace := c.trace ++ [.finished d.probe result rec.status] }, none))
      ∨ ∃ fault, c.report.merge d result = .error fault
          ∧ c.merge d result = (c, some fault) := by
  unfold Coordinator.merge
  cases hm : c.report.merge d result with
  | error fault => exact Or.inr ⟨fault, rfl, rfl⟩
  | ok r =>
      obtain ⟨rec, hrec⟩ := Report.hasRecord_iff.mp (Report.hasRecord_of_merge hm)
      refine Or.inl ⟨r, rec, rfl, hrec, ?_⟩
      simp only [hrec, Option.map_some, Option.toList_some]

/-- What a point does next that waits for tasks or looks for some: it merges the end of
one, or gives up. -/
theorem move_after {w : Workers β σ} {x : Point β σ} {phase : Phase β}
    {c : Coordinator β σ} {d : Declaration} {es : List Event} {e : Event}
    {result : ProbeResult} (hes : Silent es) (hd : Outcome d e result)
    (hx : x.stage = .rounds) (hu : x.unscheduled = x.state.pending)
    (hphase : phase = .merging ∨ phase = .renewing)
    (hr : x.state.running.Perm (d :: c.running)) (hp : c.pending = x.state.pending)
    (hreport : c.report = x.state.report)
    (htrace : c.trace = x.state.trace ++ es ++ [e]) :
    Move x (after w phase (c.merge d result)) := by
  rcases c.merge_cases d result with ⟨r, rec, hm, hrec, heq⟩ | ⟨fault, hm, heq⟩
  · rw [heq]
    rw [hreport] at hm
    refine Move.finish d es e result rec hes hd hm hrec hx ?_ ?_ hr ?_
    · rcases hphase with rfl | rfl <;> rfl
    · rw [hu, ← hp]
      rcases hphase with rfl | rfl <;> rfl
    · simp [after, htrace]
  · rw [heq]
    rw [hreport] at hm
    refine Move.giveUp d (es ++ [e, .aborted fault]) e result fault ?_ (by simp) hd
      (hr.symm.subset (List.mem_cons_self ..)) hm hx rfl ?_ rfl
    · refine hes.append fun e' he => ?_
      rcases List.mem_cons.mp he with rfl | he
      · exact hd.progress?
      · rw [List.mem_singleton.mp he]
        rfl
    · simp [after, Coordinator.record, Coordinator.rewatch, htrace]

/-- What is known of every point besides its moves: probes that are about to be handed
out are ready and the others are not, and nothing runs after the rounds. -/
structure Point.Orderly (x : Point β σ) : Prop where
  handing : ∀ l, x.phase = .handing l →
    (∀ p ∈ l, p.isReady x.state.report = true)
      ∧ ∀ p ∈ x.state.pending, p.isReady x.state.report = false
  drain : x.stage = .drain → x.state.running = []
  done : x.stage = .done → x.state.running = []

theorem orderly_initial (w : Workers β σ) (target : String) (probes : List (Probe β))
    (s : σ) : (initial w target probes s).Orderly :=
  ⟨nofun, nofun, nofun⟩

theorem Point.Orderly.next {w : Workers β σ} {x y : Point β σ} (hx : x.Orderly)
    (h : x.next w = some y) : y.Orderly := by
  obtain ⟨phase, c⟩ := x
  -- A merge leads back into the rounds or to the end, where nothing is to be shown.
  have hafter : ∀ {phase : Phase β} {r : Coordinator β σ × Option ScanError},
      phase = .merging ∨ phase = .renewing → (after w phase r).Orderly := by
    rintro phase ⟨c, _ | e⟩ hphase
    · rcases hphase with rfl | rfl <;> exact ⟨nofun, nofun, nofun⟩
    · exact ⟨nofun, nofun, nofun⟩
  cases phase with
  | scheduling =>
      cases h
      refine ⟨fun l hl => ?_, nofun, nofun⟩
      cases hl
      exact ⟨fun p hp => (List.mem_filter.mp hp).2,
        fun p hp => by simpa using (List.mem_filter.mp hp).2⟩
  | handing l =>
      obtain ⟨hready, hunready⟩ := hx.handing l rfl
      cases l with
      | nil =>
          simp only [Point.next] at h
          split at h
          · rename_i hnone
            cases h
            refine ⟨nofun, fun _ => ?_, nofun⟩
            show c.leave.running = []
            unfold Coordinator.leave
            split <;> exact hnone
          · cases h
            exact ⟨nofun, nofun, nofun⟩
      | cons p l =>
          cases h
          refine ⟨fun l' hl => ?_, nofun, nofun⟩
          cases hl
          exact ⟨fun q hq => hready q (List.mem_cons_of_mem _ hq), hunready⟩
  | waiting =>
      simp only [Point.next] at h
      split at h <;> cases h
      · exact ⟨nofun, nofun, nofun⟩
      · exact hafter (Or.inr rfl)
  | merging =>
      simp only [Point.next] at h
      split at h <;> cases h
      · exact ⟨nofun, nofun, nofun⟩
      · exact hafter (Or.inl rfl)
  | renewing => cases h; exact ⟨nofun, nofun, nofun⟩
  | draining l =>
      have hnone : c.running = [] := hx.drain rfl
      cases l with
      | nil => cases h; exact ⟨nofun, nofun, fun _ => hnone⟩
      | cons p l =>
          cases h
          unfold substitute
          split
          · exact ⟨nofun, nofun, nofun⟩
          · exact ⟨nofun, fun _ => hnone, nofun⟩
  | stopped fault => cases h

/-- **Every step of an orderly point is a move.** -/
theorem move_of_next {w : Workers β σ} {x y : Point β σ} (hx : x.Orderly)
    (h : x.next w = some y) : Move x y := by
  obtain ⟨phase, c⟩ := x
  cases phase with
  | scheduling =>
      cases h
      refine Move.rest [] silent_nil rfl rfl ?_ rfl rfl (by simp)
      exact (List.filter_append_perm (Probe.isReady c.report) c.pending).symm
  | handing l =>
      obtain ⟨hready, hunready⟩ := hx.handing l rfl
      cases l with
      | nil =>
          simp only [Point.next] at h
          split at h
          · rename_i hnone
            cases h
            cases hp : c.pending with
            | nil =>
                refine Move.leave [] silent_nil hunready rfl rfl ?_ hnone ?_ ?_ ?_ <;>
                  simp [Coordinator.leave, unscheduled, hp, hnone]
            | cons p l =>
                refine Move.leave [.leftOver (c.pending.map Probe.id)]
                  (silent_singleton rfl) hunready rfl rfl ?_ hnone ?_ ?_ ?_ <;>
                  simp [Coordinator.leave, unscheduled, hp, hnone]
          · cases h
            exact Move.rest [] silent_nil rfl rfl (List.Perm.refl _) rfl rfl (by simp)
      | cons p l =>
          cases h
          refine Move.hand p (hready p (List.mem_cons_self ..)) rfl rfl
            (List.Perm.refl _) ?_ rfl rfl
          exact List.perm_append_singleton ..
  | waiting =>
      let acts := (w.await c.workers).1
      let c₁ := (c.pass (w.await c.workers)).record .waited
      have hwait : Silent (acts.map .activity ++ [.waited]) :=
        (silent_activities _).append (silent_singleton rfl)
      simp only [Point.next] at h
      split at h
      · cases h
        refine Move.rest _ hwait rfl rfl (List.Perm.refl _) rfl rfl ?_
        simp [Coordinator.pass, Coordinator.record, acts]
      · -- No task has ended, so the oldest one is waited for alone.
        cases h
        show Move _ (after w .renewing (c₁.breakStall w))
        unfold Coordinator.breakStall
        split
        · refine Move.rest _ hwait rfl rfl (List.Perm.refl _) rfl rfl ?_
          simp [after, c₁, Coordinator.pass, Coordinator.record, acts]
        · rename_i d rest hrun
          have hrun' : c.running = d :: rest := hrun
          let step := w.awaitOne c₁.workers d.probe
          have hstall : Silent (acts.map .activity ++ [.waited]
              ++ [.stalled d.probe (w.age c₁.workers d.probe)]
              ++ step.1.map .activity) :=
            (hwait.append (silent_singleton rfl)).append (silent_activities _)
          dsimp only
          split
          · -- It has ended in the end,
            rename_i e s hs
            refine move_after hstall (.ended e) rfl rfl (Or.inr rfl) ?_ rfl rfl ?_
            · simp [hrun', Coordinator.pass, Coordinator.record]
            · simp [c₁, Coordinator.pass, Coordinator.record, acts, step]
          · -- or it is stopped.
            refine move_after hstall (.killed _) rfl rfl (Or.inr rfl) ?_ rfl rfl ?_
            · simp [hrun', Coordinator.pass, Coordinator.record]
            · simp [c₁, Coordinator.pass, Coordinator.record, acts, step]
  | merging =>
      simp only [Point.next] at h
      split at h
      · cases h
        exact Move.rest [] silent_nil rfl rfl (List.Perm.refl _) rfl rfl (by simp)
      · rename_i d e rest s hs
        cases h
        refine move_after silent_nil (.ended e) rfl rfl (Or.inl rfl)
          (Workers.perm_of_collectFirst? hs) rfl rfl ?_
        simp [Coordinator.record]
  | renewing =>
      cases h
      refine Move.rest [] silent_nil rfl rfl (List.Perm.refl _) rfl rfl ?_
      simp [Coordinator.rewatch]
  | draining l =>
      have hnone : c.running = [] := hx.drain rfl
      cases l with
      | nil =>
          cases h
          exact Move.complete (w.now c.workers) _ rfl rfl rfl rfl rfl hnone hnone rfl rfl
      | cons p l =>
          cases h
          unfold substitute
          cases hm : c.report.merge p.declaration (p.substitute c.report) with
          | error fault =>
              exact Move.refuse p fault (List.mem_cons_self ..) hm rfl rfl rfl rfl
          | ok r =>
              exact Move.drain p hm rfl rfl (List.Perm.refl _) hnone hnone rfl
  | stopped fault => cases h

/-! ## Whole runs -/

/-- A scan that has failed does nothing more. -/
theorem Move.stage_ne {x y : Point β σ} (h : Move x y) : x.stage ≠ .failed := by
  cases h <;> simp_all

/-- Steps only add to the events. -/
theorem Move.trace_grows {x y : Point β σ} (h : Move x y) :
    x.state.trace <+: y.state.trace := by
  cases h with
  | rest _ _ _ _ _ _ _ htrace => exact ⟨_, htrace.symm⟩
  | hand _ _ _ _ _ _ _ htrace => exact ⟨_, htrace.symm⟩
  | finish _ _ _ _ _ _ _ _ _ _ _ _ _ htrace =>
      rw [List.append_assoc] at htrace
      exact ⟨_, htrace.symm⟩
  | leave _ _ _ _ _ _ _ _ _ htrace => exact ⟨_, htrace.symm⟩
  | drain _ _ _ _ _ _ _ htrace => exact ⟨_, htrace.symm⟩
  | complete _ _ _ _ _ _ _ _ _ _ htrace => exact ⟨_, htrace.symm⟩
  | giveUp _ _ _ _ _ _ _ _ _ _ _ _ htrace => exact ⟨_, htrace.symm⟩
  | refuse _ _ _ _ _ _ htrace => exact ⟨[], by rw [htrace, List.append_nil]⟩

theorem Reaches.orderly {w : Workers β σ} {x y : Point β σ} (h : Reaches w x y)
    (hx : x.Orderly) : y.Orderly ∧ x.state.trace <+: y.state.trace := by
  induction h with
  | refl => exact ⟨hx, List.prefix_refl _⟩
  | tail _ hstep ih =>
      obtain ⟨hy, htrace⟩ := ih
      exact ⟨hy.next hstep, htrace.trans (move_of_next hy hstep).trace_grows⟩

section
variable {w : Workers β σ} {target : String} {probes : List (Probe β)} {s : σ}

/-- **What holds at the start and is kept by every move holds at every point that a
scan passes.** -/
theorem Passes.invariant {I : Point β σ → Prop} (hstart : I (initial w target probes s))
    (hmove : ∀ x y, Passes w target probes s x → Passes w target probes s y → I x →
      Move x y → I y)
    {x : Point β σ} (h : Passes w target probes s x) : I x := by
  induction h with
  | refl => exact hstart
  | tail hreach hstep ih =>
      have hx := (Reaches.orderly hreach (orderly_initial w target probes s)).1
      exact hmove _ _ hreach (hreach.tail hstep) ih (move_of_next hx hstep)

theorem Passes.orderly {x : Point β σ} (h : Passes w target probes s x) : x.Orderly :=
  (Reaches.orderly h (orderly_initial w target probes s)).1

theorem stage_final (h : (Coordinator.scan w target probes s).2 = none) :
    (final w target probes s).stage = .done := by
  simp [final, Point.stage, h]

/-- A scan that ends without an error has not failed on the way either. -/
theorem stage_final_ne (h : (Coordinator.scan w target probes s).2 = none) :
    (final w target probes s).stage ≠ .failed := by
  rw [stage_final h]
  exact Stage.noConfusion

/-- Nothing is unscheduled and nothing runs in the end. -/
theorem places_final (h : (Coordinator.scan w target probes s).2 = none) :
    (final w target probes s).unscheduled = [] ∧ (final w target probes s).running = [] := by
  have hidle := (passes_final w target probes s).orderly.done (stage_final h)
  refine ⟨rfl, ?_⟩
  rw [Point.running, hidle, List.map_nil]

/-- What has happened at some point is the beginning of all that happens. -/
theorem Passes.trace_grows {x : Point β σ} (h : Passes w target probes s x) :
    x.state.trace <+: (Coordinator.scan w target probes s).1.trace := by
  exact (h.reaches_final.orderly h.orderly).2

end

end TlsScan.Scan
