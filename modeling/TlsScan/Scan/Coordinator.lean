import TlsScan.Scan.Workers

/-!
# The coordinator

The coordinator of a scan owns the report.  It hands out every probe whose requirement
holds, waits for results, merges them, and starts over, until nothing runs and nothing
became ready.

## Main Definitions

* `Scan.Coordinator` — the probes by their stage, the report, the workers and the events.
* `Scan.Coordinator.schedule` — hands out what is ready.
* `Scan.Coordinator.round` — one wait with the merges that follow it.
* `Scan.Coordinator.run` — rounds until nothing runs.
* `Scan.Coordinator.drain` — merges a substitute for every probe that is left over.

## Main Results

* `Scan.Coordinator.running_round_lt` — a round that succeeds leaves fewer probes running,
  and the pending ones as they were.

## Design Notes

When a merge fails, the scan is over; the state is given back beside the error, for its
events.  Every probe goes from `pending` to `running` and from there to the report, so the
number of probes in the two lists bounds the number of rounds.
-/

namespace TlsScan.Scan

/-- **The state of a scan.** -/
structure Coordinator (β σ : Type) where
  report : Report
  /-- The probes that were not scheduled yet, in the order of the scan. -/
  pending : List (Probe β)
  /-- The probes that were scheduled but not merged yet, in the order of scheduling. -/
  running : List Declaration
  workers : σ
  /-- What has happened so far. -/
  trace : List Event

namespace Coordinator

variable {β σ : Type}

/-! ### Single steps -/

/-- Write an event down. -/
def record (c : Coordinator β σ) (e : Event) : Coordinator β σ :=
  { c with trace := c.trace ++ [e] }

/-- Go on with the workers after some time. -/
def pass (c : Coordinator β σ) (step : List Activity × σ) : Coordinator β σ :=
  { c with workers := step.2, trace := c.trace ++ step.1.map .activity }

/-- Hand one probe to the workers. -/
def submit (w : Workers β σ) (c : Coordinator β σ) (p : Probe β) : Coordinator β σ :=
  { c with
    running := c.running ++ [p.declaration]
    workers := w.submit c.workers ⟨p, c.report⟩
    trace := c.trace ++ [.scheduled p.id c.report] }

/-- **Hand out what is ready.** -/
def schedule (w : Workers β σ) (c : Coordinator β σ) : Coordinator β σ :=
  (c.pending.filter (Probe.isReady c.report)).foldl (submit w)
    { c with pending := c.pending.filter fun p => !p.isReady c.report }

/-- Merge the result of a probe that was scheduled. -/
def merge (c : Coordinator β σ) (d : Declaration) (result : ProbeResult) :
    Coordinator β σ × Option ScanError :=
  match c.report.merge d result with
  | .error e => (c, some e)
  | .ok report =>
    let finished := (report.records.get? d.probe).map fun record =>
      Event.finished d.probe result record.status
    ({ c with report := report, trace := c.trace ++ finished.toList }, none)

/-- Merge what follows from the ending of a task. -/
def mergeEnding (c : Coordinator β σ) (d : Declaration) (e : Ending) :
    Coordinator β σ × Option ScanError :=
  (c.record (.ended d.probe e)).merge d (e.resultFor d)

@[simp] theorem pending_merge (c : Coordinator β σ) (d : Declaration) (r : ProbeResult) :
    (c.merge d r).1.pending = c.pending := by
  unfold merge; split <;> rfl

@[simp] theorem running_merge (c : Coordinator β σ) (d : Declaration) (r : ProbeResult) :
    (c.merge d r).1.running = c.running := by
  unfold merge; split <;> rfl

@[simp] theorem pending_mergeEnding (c : Coordinator β σ) (d : Declaration) (e : Ending) :
    (c.mergeEnding d e).1.pending = c.pending := pending_merge ..

@[simp] theorem running_mergeEnding (c : Coordinator β σ) (d : Declaration) (e : Ending) :
    (c.mergeEnding d e).1.running = c.running := running_merge ..

/-! ### Rounds -/

/-- Merge all tasks that have ended, the first of the running ones first. -/
def mergeAll (w : Workers β σ) (c : Coordinator β σ) : Coordinator β σ × Option ScanError :=
  match _h : w.collectFirst? c.workers c.running with
  | none => (c, none)
  | some (d, e, rest, s) =>
    match _hm : { c with running := rest, workers := s }.mergeEnding d e with
    | (c', some err) => (c', some err)
    | (c', none) => mergeAll w c'
termination_by c.running.length
decreasing_by
  have hl := Workers.length_of_collectFirst? _h
  have hr := running_mergeEnding { c with running := rest, workers := s } d e
  rw [_hm] at hr
  simp only at hr
  rw [hr]
  omega

/-- Stop the oldest task, and merge that it was stopped. -/
def killOldest (w : Workers β σ) (c : Coordinator β σ) (d : Declaration) :
    Coordinator β σ × Option ScanError :=
  let age := w.age c.workers d.probe
  ({ c with workers := w.kill c.workers d.probe }.record (.killed d.probe age)).merge d
    (.failure d.probe d.properties .killed ("no result after " ++ age))

/-- Wait for the oldest task alone, and stop it if it does not end. -/
def breakStall (w : Workers β σ) (c : Coordinator β σ) : Coordinator β σ × Option ScanError :=
  match c.running with
  | [] => (c, none)
  | d :: rest =>
    let c := { c with running := rest }.record (.stalled d.probe (w.age c.workers d.probe))
    let c := c.pass (w.awaitOne c.workers d.probe)
    match w.collect? c.workers d.probe with
    | some (e, s) => { c with workers := s }.mergeEnding d e
    | none => killOldest w c d

/-- **One wait, with the merges that follow it.** -/
def round (w : Workers β σ) (c : Coordinator β σ) : Coordinator β σ × Option ScanError :=
  let c := (c.pass (w.await c.workers)).record .waited
  let (c, fault) :=
    if (w.collectFirst? c.workers c.running).isSome then mergeAll w c else breakStall w c
  ({ c with workers := w.restartWatchdog c.workers }, fault)

/-! ### What a round leaves -/

theorem pending_mergeAll (w : Workers β σ) (c : Coordinator β σ) :
    (c.mergeAll w).1.pending = c.pending := by
  fun_induction mergeAll w c with
  | case1 => rfl
  | case2 c d e rest s _ c' err hm =>
    have := pending_mergeEnding { c with running := rest, workers := s } d e
    rw [hm] at this
    exact this
  | case3 c d e rest s _ c' hm ih =>
    have := pending_mergeEnding { c with running := rest, workers := s } d e
    rw [hm] at this
    exact ih.trans this

theorem running_mergeAll_le (w : Workers β σ) (c : Coordinator β σ) :
    (c.mergeAll w).1.running.length ≤ c.running.length := by
  fun_induction mergeAll w c with
  | case1 => exact Nat.le_refl _
  | case2 c d e rest s h c' err hm =>
    have hr := running_mergeEnding { c with running := rest, workers := s } d e
    rw [hm] at hr
    have hl := Workers.length_of_collectFirst? h
    simp only at hr ⊢
    rw [hr]
    omega
  | case3 c d e rest s h c' hm ih =>
    have hr := running_mergeEnding { c with running := rest, workers := s } d e
    rw [hm] at hr
    have hl := Workers.length_of_collectFirst? h
    simp only at hr
    rw [hr] at ih
    omega

theorem running_mergeAll_lt {w : Workers β σ} {c : Coordinator β σ}
    (h : (w.collectFirst? c.workers c.running).isSome) :
    (c.mergeAll w).1.running.length < c.running.length := by
  rw [mergeAll]
  split
  · simp_all
  · rename_i d e rest s hc
    have hl := Workers.length_of_collectFirst? hc
    have hr := running_mergeEnding { c with running := rest, workers := s } d e
    split
    · rename_i hm
      rw [hm] at hr
      simp only at hr ⊢
      rw [hr]
      omega
    · rename_i c' hm
      rw [hm] at hr
      have := running_mergeAll_le w c'
      simp only at hr
      rw [hr] at this
      omega

theorem pending_breakStall (w : Workers β σ) (c : Coordinator β σ) :
    (c.breakStall w).1.pending = c.pending := by
  unfold breakStall
  split
  · rfl
  · dsimp only
    split
    · exact pending_mergeEnding ..
    · exact pending_merge ..

theorem running_breakStall (w : Workers β σ) (c : Coordinator β σ) :
    (c.breakStall w).1.running = c.running.tail := by
  unfold breakStall
  split
  · simp_all
  · rename_i h
    rw [h]
    dsimp only
    split
    · exact running_mergeEnding ..
    · exact running_merge ..

/-- A round leaves the pending probes as they were. -/
theorem pending_round (w : Workers β σ) (c : Coordinator β σ) :
    (c.round w).1.pending = c.pending := by
  unfold round
  dsimp only
  split
  · exact pending_mergeAll ..
  · exact pending_breakStall ..

/-- **A round leaves fewer probes running.** -/
theorem running_round_lt {w : Workers β σ} {c : Coordinator β σ} (h : c.running ≠ []) :
    (c.round w).1.running.length < c.running.length := by
  unfold round
  dsimp only
  split
  · rename_i hs
    exact running_mergeAll_lt hs
  · show (breakStall w _).1.running.length < _
    rw [running_breakStall]
    cases hc : c.running with
    | nil => exact absurd hc h
    | cons d l => simp [pass, record, hc]

/-! ### The whole scan -/

/-- The number of probes that have not been merged. -/
def remaining (c : Coordinator β σ) : Nat := c.pending.length + c.running.length

theorem remaining_foldl_submit (w : Workers β σ) (l : List (Probe β)) (c : Coordinator β σ) :
    (l.foldl (submit w) c).remaining = c.remaining + l.length := by
  induction l generalizing c with
  | nil => rfl
  | cons p l ih => rw [List.foldl_cons, ih]; simp [submit, remaining]; omega

/-- Scheduling only moves probes. -/
theorem remaining_schedule (w : Workers β σ) (c : Coordinator β σ) :
    (c.schedule w).remaining = c.remaining := by
  have h := c.pending.length_eq_countP_add_countP (Probe.isReady c.report)
  simp only [schedule, remaining_foldl_submit]
  simp only [remaining, ← List.countP_eq_length_filter]
  simp only [Bool.not_eq_true, Bool.decide_eq_false] at h
  omega

/-- **Rounds until nothing runs and nothing became ready.** -/
def run (w : Workers β σ) (c : Coordinator β σ) : Coordinator β σ × Option ScanError :=
  let scheduled := c.schedule w
  if _h : scheduled.running = [] then (scheduled, none)
  else
    match _hr : scheduled.round w with
    | (c', some e) => (c', some e)
    | (c', none) => run w c'
termination_by c.remaining
decreasing_by
  have h₁ := running_round_lt (w := w) (c := c.schedule w) _h
  have h₂ := pending_round w (c.schedule w)
  have h₃ := remaining_schedule w c
  change round w (c.schedule w) = _ at _hr
  rw [_hr] at h₁ h₂
  simp only [remaining] at h₃ ⊢
  simp only at h₁ h₂
  rw [h₂]
  omega

/-- Merge the substitute of every probe of a list. -/
def mergeSubstitutes : List (Probe β) → Coordinator β σ → Coordinator β σ × Option ScanError
  | [], c => (c, none)
  | p :: l, c =>
    let result := p.substitute c.report
    match c.report.merge p.declaration result with
    | .error e => (c, some e)
    | .ok report =>
      let reason := ((report.records.get? p.id).bind (·.details)).getD ""
      mergeSubstitutes l
        { c with report := report, trace := c.trace ++ [.notExecuted p.id result reason] }

/-- **Merge a substitute for every probe that is left over.** -/
def drain (c : Coordinator β σ) : Coordinator β σ × Option ScanError :=
  if c.pending.isEmpty then (c, none)
  else
    mergeSubstitutes c.pending
      { c with pending := [], trace := c.trace ++ [.leftOver (c.pending.map Probe.id)] }

/-- Note the end of the scan. -/
def complete (w : Workers β σ) (c : Coordinator β σ) : Coordinator β σ :=
  let report := c.report.markFinished (w.now c.workers)
  { c with report := report }.record <|
    .completed (report.withStatus .executed).length (report.withStatus .error).length
      (report.withStatus .notExecuted).length

/-- A scan at its start. -/
def start (w : Workers β σ) (target : String) (probes : List (Probe β)) (s : σ) :
    Coordinator β σ where
  report := .new target (w.now s)
  pending := probes
  running := []
  workers := s
  trace := [.began probes.length]

/-- **Scan a target** with the probes of a list. -/
def scan (w : Workers β σ) (target : String) (probes : List (Probe β)) (s : σ) :
    Coordinator β σ × Option ScanError :=
  match (start w target probes s).run w with
  | (c, some e) => (c.record (.aborted e), some e)
  | (c, none) =>
    match c.drain with
    | (c, some e) => (c, some e)
    | (c, none) => (c.complete w, none)

end Coordinator

end TlsScan.Scan
