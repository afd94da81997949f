import TlsScan.Proofs.Scan.Steps
import TlsScan.Scan.VirtualTime

/-!
# How often a task is started

The coordinator never starts a task; it hands tasks to workers, and they say when
they take one up.  What can be asked of workers is that they take up nothing they
were not handed, and nothing twice.  `Workers.Ledger` is this contract, kept as a
count of the tasks that are yet to be started.

## Main Definitions

* `Scan.Event.isStart`, `Scan.Event.isHandOut` — the events that are counted.
* `Scan.Workers.Ledger` — what is asked of workers.
* `Scan.VirtualTime.ledger` — workers in virtual time keep to it.

## Main Results

* `Scan.Passes.starts_le` — no identity is started more often than it was handed out.
-/

namespace TlsScan.Scan

/-! ## Counted events -/

/-- Whether a worker takes up the task of a probe. -/
def Activity.isStart (p : ProbeId) : Activity → Bool
  | .started q => q = p
  | .noted _ => false

/-- Whether an event says that a worker takes up the task of a probe. -/
def Event.isStart (p : ProbeId) : Event → Bool
  | .activity a => a.isStart p
  | _ => false

/-- Whether an event says that a probe is handed out. -/
def Event.isHandOut (p : ProbeId) : Event → Bool
  | .scheduled q _ => q = p
  | _ => false

theorem Event.isHandOut_iff {p : ProbeId} (e : Event) :
    e.isHandOut p = true ↔ ∃ snapshot, e = .scheduled p snapshot := by
  cases e <;> simp [isHandOut]

theorem countP_isStart_activities (p : ProbeId) (l : List Activity) :
    (l.map Event.activity).countP (Event.isStart p) = l.countP (Activity.isStart p) := by
  rw [List.countP_map]
  rfl

/-! ## The contract -/

variable {β σ : Type}

/-- **Workers that start what they are handed, and at most once.**  `unstarted` counts
the tasks of an identity that are yet to be started. -/
structure Workers.Ledger (w : Workers β σ) where
  unstarted : σ → ProbeId → Nat
  submit : ∀ s t p,
    unstarted (w.submit s t) p ≤ unstarted s p + if t.probe.id = p then 1 else 0
  await : ∀ s p, (w.await s).1.countP (Activity.isStart p) + unstarted (w.await s).2 p
    ≤ unstarted s p
  awaitOne : ∀ s q p, (w.awaitOne s q).1.countP (Activity.isStart p)
    + unstarted (w.awaitOne s q).2 p ≤ unstarted s p
  collect : ∀ s q e s', w.collect? s q = some (e, s') → ∀ p,
    unstarted s' p ≤ unstarted s p
  kill : ∀ s q p, unstarted (w.kill s q) p ≤ unstarted s p
  restartWatchdog : ∀ s p, unstarted (w.restartWatchdog s) p ≤ unstarted s p

variable {w : Workers β σ}

theorem Workers.Ledger.collectFirst (L : w.Ledger) {s s' : σ} {l rest : List Declaration}
    {d : Declaration} {e : Ending} (h : w.collectFirst? s l = some (d, e, rest, s'))
    (p : ProbeId) : L.unstarted s' p ≤ L.unstarted s p := by
  induction l generalizing d e rest s' with
  | nil => cases h
  | cons a l ih =>
      rw [collectFirst?] at h
      split at h
      · rename_i e' s₁ hc
        cases h
        exact L.collect _ _ _ _ hc p
      · obtain ⟨⟨d', e', rest', s₁⟩, hr, heq⟩ := Option.map_eq_some_iff.mp h
        cases heq
        exact ih hr

/-! ## The coordinator keeps count -/

namespace Coordinator

/-- **The tasks that were started or still can be are at most those handed out.** -/
def Counted (L : w.Ledger) (c : Coordinator β σ) : Prop :=
  ∀ p, c.trace.countP (Event.isStart p) + L.unstarted c.workers p
    ≤ c.trace.countP (Event.isHandOut p)

variable {L : w.Ledger} {c : Coordinator β σ}

/-- Workers who have no more to start than before can take the place of others. -/
theorem Counted.workers (h : c.Counted L) (l : List Declaration) {s : σ}
    (hs : ∀ p, L.unstarted s p ≤ L.unstarted c.workers p) :
    { c with running := l, workers := s }.Counted L := by
  intro p
  have hc := h p
  have hw := hs p
  show c.trace.countP _ + L.unstarted s p ≤ c.trace.countP _
  omega

/-- One more event that is no start does no harm. -/
theorem Counted.note (h : c.Counted L) {c' : Coordinator β σ} {e : Event}
    (hw : c'.workers = c.workers) (htrace : c'.trace = c.trace ++ [e])
    (he : ∀ p, e.isStart p = false) : c'.Counted L := by
  intro p
  have hc := h p
  have hstart : [e].countP (Event.isStart p) = 0 := by
    rw [List.countP_singleton, he p]
    rfl
  rw [hw, htrace, List.countP_append, List.countP_append]
  omega

theorem Counted.record (h : c.Counted L) {e : Event} (he : ∀ p, e.isStart p = false) :
    (c.record e).Counted L := h.note rfl rfl he

theorem Counted.pass (h : c.Counted L) {step : List Activity × σ}
    (hs : ∀ p, step.1.countP (Activity.isStart p) + L.unstarted step.2 p
      ≤ L.unstarted c.workers p) : (c.pass step).Counted L := by
  intro p
  have hc := h p
  have hw := hs p
  simp only [Coordinator.pass, List.countP_append, countP_isStart_activities]
  omega

theorem Counted.submit (h : c.Counted L) (t : Probe β) : (c.submit w t).Counted L := by
  intro p
  have hc := h p
  have hw := L.submit c.workers ⟨t, c.report⟩ p
  simp only [Coordinator.submit, List.countP_append, List.countP_singleton, Event.isStart,
    Event.isHandOut, decide_eq_true_eq]
  simp only at hw
  split at hw <;> simp_all <;> omega

theorem Counted.merge (h : c.Counted L) (d : Declaration) (r : ProbeResult) :
    (c.merge d r).1.Counted L := by
  rcases c.merge_cases d r with ⟨r', rec, -, -, heq⟩ | ⟨fault, -, heq⟩
  · rw [heq]
    exact h.note rfl rfl fun _ => rfl
  · rw [heq]
    exact h

theorem Counted.mergeEnding (h : c.Counted L) (d : Declaration) (e : Ending) :
    (c.mergeEnding d e).1.Counted L :=
  (h.record fun _ => rfl).merge d _

theorem Counted.rewatch (h : c.Counted L) : (c.rewatch w).Counted L :=
  h.workers c.running (L.restartWatchdog c.workers)

theorem Counted.breakStall (h : c.Counted L) : (c.breakStall w).1.Counted L := by
  unfold Coordinator.breakStall
  split
  · exact h
  · rename_i d rest _
    dsimp only
    have hstall := (h.workers rest fun p => Nat.le_refl _).record
      (e := .stalled d.probe (w.age c.workers d.probe)) fun _ => rfl
    have hwait := hstall.pass (L.awaitOne _ d.probe)
    split
    · rename_i e s hs
      exact (hwait.workers rest (L.collect _ _ _ _ hs)).mergeEnding d e
    · have hkill := hwait.workers rest (L.kill _ d.probe)
      exact (hkill.record (e := .killed d.probe _) fun _ => rfl).merge d _

end Coordinator

/-- **Every step keeps count.** -/
theorem counted_next {L : w.Ledger} {x y : Point β σ} (h : x.next w = some y)
    (hx : x.state.Counted L) : y.state.Counted L := by
  obtain ⟨phase, c⟩ := x
  have hafter : ∀ {phase : Phase β} {r : Coordinator β σ × Option ScanError},
      r.1.Counted L → (Point.after w phase r).state.Counted L := by
    rintro phase ⟨c, _ | e⟩ hr
    · exact hr
    · exact hr.rewatch.record fun _ => rfl
  cases phase with
  | scheduling => cases h; exact hx
  | handing l =>
      cases l with
      | nil =>
          simp only [Point.next] at h
          split at h <;> cases h
          · show c.leave.Counted L
            unfold Coordinator.leave
            split
            · exact hx
            · exact hx.note rfl rfl fun _ => rfl
          · exact hx
      | cons p l => cases h; exact hx.submit p
  | waiting =>
      have hwait : ((c.pass (w.await c.workers)).record .waited).Counted L :=
        (hx.pass (L.await c.workers)).record fun _ => rfl
      simp only [Point.next] at h
      split at h <;> cases h
      · exact hwait
      · exact hafter hwait.breakStall
  | merging =>
      simp only [Point.next] at h
      split at h <;> cases h
      · exact hx
      · rename_i d e rest s hs
        have hrest : { c with running := rest, workers := s }.Counted L :=
          hx.workers rest (L.collectFirst hs)
        exact hafter (hrest.mergeEnding d e)
  | renewing => cases h; exact hx.rewatch
  | draining l =>
      cases l with
      | nil =>
          cases h
          exact hx.note rfl rfl fun _ => rfl
      | cons p l =>
          cases h
          unfold Point.substitute
          split
          · exact hx
          · exact hx.note rfl rfl fun _ => rfl
  | stopped fault => cases h

/-- **No identity is started more often than it was handed out**, if the workers had
nothing to start before the scan. -/
theorem Passes.starts_le {target : String} {probes : List (Probe β)} {s : σ}
    {x : Point β σ} (h : Passes w target probes s x) (L : w.Ledger)
    (hs : ∀ p, L.unstarted s p = 0) (p : ProbeId) :
    x.state.trace.countP (Event.isStart p) ≤ x.state.trace.countP (Event.isHandOut p) := by
  suffices hcount : x.state.Counted L from Nat.le_of_add_right_le (hcount p)
  induction h with
  | refl => exact fun p => by simp [initial, Coordinator.start, hs p, Event.isStart]
  | tail _ hstep ih => exact counted_next hstep ih

/-! ## Workers in virtual time -/

namespace VirtualTime

variable {ε : Type}

/-- The tasks of an identity that wait in the pool, and the starts that were not told
of yet. -/
def unstarted (s : VirtualTime ε) (p : ProbeId) : Nat :=
  s.pool.queue.countP (fun j => j.id = p) + s.activities.countP (Activity.isStart p)

/-- Noting what a job does on the way tells of no start. -/
theorem unstarted_foldl_finish (e : Surroundings ε) (l : List (Job ε)) (s : VirtualTime ε)
    (p : ProbeId) : (l.foldl (finish e) s).unstarted p = s.unstarted p := by
  induction l generalizing s with
  | nil => rfl
  | cons j l ih =>
      rw [List.foldl_cons, ih]
      have hnotes : ∀ notes : List LogEntry,
          (notes.map Activity.noted).countP (Activity.isStart p) = 0 := by
        intro notes
        rw [List.countP_map]
        exact List.countP_eq_zero.mpr fun _ _ => by simp [Activity.isStart]
      simp [unstarted, finish, List.countP_append, hnotes]

theorem unstarted_endDue (e : Surroundings ε) (s : VirtualTime ε) (p : ProbeId) :
    (endDue e s).unstarted p = s.unstarted p := by
  unfold endDue
  rw [unstarted_foldl_finish]
  rfl

/-- A job that is taken up leaves the queue, and its start is told of. -/
theorem unstarted_settle (e : Surroundings ε) (s : VirtualTime ε) (p : ProbeId) :
    (settle e s).unstarted p = s.unstarted p := by
  fun_induction settle e s with
  | case1 => rfl
  | case2 s j pool h ih =>
      rw [ih, unstarted_endDue]
      obtain ⟨b, l, hq, rfl, -, hl, -⟩ := Pool.eq_of_takeUp? h
      simp only [unstarted, hq, hl, List.countP_append, List.countP_cons, List.countP_nil,
        Activity.isStart, Job.takenUp, Job.id]
      by_cases hp : b.task.probe.id = p
      · simp only [hp, decide_true, if_true]
        omega
      · simp [hp]

theorem unstarted_passUntil (e : Surroundings ε) (done : VirtualTime ε → Bool)
    (limit : Nat) (s : VirtualTime ε) (p : ProbeId) :
    (passUntil e done limit s).unstarted p = s.unstarted p := by
  fun_induction passUntil e done limit s with
  | case1 => rfl
  | case2 s _ t _ _ ih =>
      rw [ih, advance, unstarted_settle, unstarted_endDue]
      rfl
  | case3 => rfl
  | case4 => rfl

/-- Telling of starts is what makes them count as such. -/
theorem unstarted_report (s : VirtualTime ε) (p : ProbeId) :
    s.report.1.countP (Activity.isStart p) + s.report.2.unstarted p = s.unstarted p := by
  simp only [report, unstarted, List.countP_nil]
  omega

theorem unstarted_submit (e : Surroundings ε) (s : VirtualTime ε) (t : Task (Work ε))
    (p : ProbeId) : ((workers e).submit s t).unstarted p
      = s.unstarted p + if t.probe.id = p then 1 else 0 := by
  simp only [workers, unstarted, Pool.submit, List.countP_append, List.countP_singleton,
    Job.id]
  by_cases hp : t.probe.id = p
  · simp only [hp, decide_true, if_true]
    omega
  · simp [hp]

theorem unstarted_await (e : Surroundings ε) (s : VirtualTime ε) (p : ProbeId) :
    ((workers e).await s).1.countP (Activity.isStart p)
      + ((workers e).await s).2.unstarted p = s.unstarted p := by
  refine (unstarted_report _ p).trans ?_
  unfold await
  split
  · rw [unstarted_passUntil, unstarted_settle]
  · rfl

theorem unstarted_awaitOne (e : Surroundings ε) (s : VirtualTime ε) (q p : ProbeId) :
    ((workers e).awaitOne s q).1.countP (Activity.isStart p)
      + ((workers e).awaitOne s q).2.unstarted p = s.unstarted p := by
  refine (unstarted_report _ p).trans ?_
  rw [awaitOne, unstarted_passUntil, unstarted_settle]

theorem unstarted_collect (e : Surroundings ε) {s s' : VirtualTime ε} {q : ProbeId}
    {x : Ending} (h : (workers e).collect? s q = some (x, s')) (p : ProbeId) :
    s'.unstarted p = s.unstarted p := by
  obtain ⟨a, -, heq⟩ := Option.map_eq_some_iff.mp h
  cases heq
  rfl

/-- A task that is killed before its start is not started any more. -/
theorem unstarted_kill_le (e : Surroundings ε) (s : VirtualTime ε) (q p : ProbeId) :
    ((workers e).kill s q).unstarted p ≤ s.unstarted p := by
  refine Nat.add_le_add_right ?_ _
  exact List.Sublist.countP_le List.filter_sublist

/-- **Workers in virtual time start what they are handed, and at most once.** -/
def ledger (e : Surroundings ε) : (workers e).Ledger where
  unstarted := unstarted
  submit s t p := Nat.le_of_eq (unstarted_submit e s t p)
  await s p := Nat.le_of_eq (unstarted_await e s p)
  awaitOne s q p := Nat.le_of_eq (unstarted_awaitOne e s q p)
  collect _ _ _ _ h p := Nat.le_of_eq (unstarted_collect e h p)
  kill s q p := unstarted_kill_le e s q p
  restartWatchdog _ _ := Nat.le_refl _

/-- At its start nothing waits. -/
theorem unstarted_start (threads : Nat) (engine : ε) (p : ProbeId) :
    (start threads engine).unstarted p = 0 := rfl

end VirtualTime

end TlsScan.Scan
