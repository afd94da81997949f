import TlsScan.Proofs.Scan.Steps

/-!
# What a step does to tasks

A `Move` says what a step does to the report and the events, for any order of the tasks
that run.  Here the tasks come into view: who waits in which place, what the workers are
asked for, and which task is looked after when nothing has ended for too long.

## Main Definitions

* `Scan.Workers.outcome?` — how a task has ended, if the workers have that at hand.
* `Scan.Settles` — how it goes on with what follows from the end of a task.
* `Scan.Collect` — what happens when a task is collected.
* `Scan.Stall` — what happens when nothing has ended for too long.
* `Scan.Turn` — all that a step can do, as far as tasks and workers are concerned.

## Main Results

* `Scan.Workers.collectFirst?_eq_some` — what is collected is the first task of the list
  that has ended.
* `Scan.turn_of_next` — every step is a turn.
-/

namespace TlsScan.Scan

variable {β σ : Type}

/-! ## What workers have at hand -/

namespace Workers

variable {w : Workers β σ} {s s' : σ}

/-- **How a task has ended**, if the workers have that at hand. -/
def outcome? (w : Workers β σ) (s : σ) (p : ProbeId) : Option Ending :=
  (w.collect? s p).map (·.1)

theorem outcome?_of_collect? {p : ProbeId} {e : Ending}
    (h : w.collect? s p = some (e, s')) : w.outcome? s p = some e := by
  rw [outcome?, h]
  rfl

/-- Nothing is collected exactly if none of the tasks has ended. -/
theorem collectFirst?_eq_none_iff {l : List Declaration} :
    w.collectFirst? s l = none ↔ ∀ d ∈ l, w.outcome? s d.probe = none := by
  induction l with
  | nil => simp [collectFirst?]
  | cons a l ih =>
      rw [collectFirst?, List.forall_mem_cons, ← ih, outcome?]
      cases hc : w.collect? s a.probe with
      | none => simp
      | some x => simp

/-- **What is collected is the first task that has ended**; the others stay in order. -/
theorem collectFirst?_eq_some {l rest : List Declaration} {d : Declaration} {e : Ending}
    (h : w.collectFirst? s l = some (d, e, rest, s')) :
    ∃ a b, l = a ++ d :: b ∧ rest = a ++ b ∧ w.collect? s d.probe = some (e, s') := by
  induction l generalizing d e rest s' with
  | nil => cases h
  | cons c l ih =>
      rw [collectFirst?] at h
      split at h
      · rename_i e' s₁ hc
        cases h
        exact ⟨[], l, rfl, rfl, hc⟩
      · obtain ⟨⟨d', e', rest', s₁⟩, hr, heq⟩ := Option.map_eq_some_iff.mp h
        cases heq
        obtain ⟨a, b, rfl, rfl, hc⟩ := ih hr
        exact ⟨c :: a, b, rfl, rfl, hc⟩

/-- **Workers are left to themselves** for a moment, or until some task has ended or the
watchdog strikes, or their watchdog is started anew. -/
inductive Waits (w : Workers β σ) (s : σ) : σ → Prop
  | moment : Waits w s s
  | await : Waits w s (w.await s).2
  | watchdog : Waits w s (w.restartWatchdog s)

end Workers

/-! ## The end of a task -/

/-- **How it goes on with what follows from the end of a task**: its result is merged, or
refused, which is the end of the scan. -/
inductive Settles (x y : Point β σ) (d : Declaration) (told : List Event)
    (result : ProbeResult) : Prop
  | merged (rec : Record) (hmerge : x.state.report.merge d result = .ok y.state.report)
      (hrec : y.state.report.records.get? d.probe = some rec)
      (hstage : y.stage = .rounds)
      (htrace : y.state.trace = told ++ [.finished d.probe result rec.status])
  | refused (fault : ScanError) (hmerge : x.state.report.merge d result = .error fault)
      (hstage : y.stage = .failed) (htrace : y.state.trace = told ++ [.aborted fault])

/-- Whether an event says what has come of a task that has ended. -/
def Event.isClosing : Event → Bool
  | .finished .. | .aborted _ => true
  | _ => false

/-- Either way one more event is told. -/
theorem Settles.exists_event {x y : Point β σ} {d : Declaration} {told : List Event}
    {result : ProbeResult} (h : Settles x y d told result) :
    ∃ e, y.state.trace = told ++ [e] ∧ e.isClosing = true := by
  cases h with
  | merged rec _ _ _ htrace => exact ⟨_, htrace, rfl⟩
  | refused fault _ _ htrace => exact ⟨_, htrace, rfl⟩

section
variable {w : Workers β σ} {x : Point β σ} {phase : Phase β} {c : Coordinator β σ}
  {d : Declaration} {result : ProbeResult}

/-- A merge leaves the other tasks alone, -/
theorem running_after :
    (Point.after w phase (c.merge d result)).state.running = c.running := by
  rcases c.merge_cases d result with ⟨r, rec, -, -, heq⟩ | ⟨fault, -, heq⟩ <;>
    rw [heq] <;> rfl

/-- and the workers too, except that the watchdog is started anew if it fails. -/
theorem waits_after {s : σ} (hs : c.workers = s) :
    w.Waits s (Point.after w phase (c.merge d result)).state.workers := by
  subst hs
  rcases c.merge_cases d result with ⟨r, rec, -, -, heq⟩ | ⟨fault, -, heq⟩
  · rw [heq]
    exact .moment
  · rw [heq]
    exact .watchdog

theorem settles_after {told : List Event} (hphase : phase = .merging ∨ phase = .renewing)
    (hreport : c.report = x.state.report) (htrace : c.trace = told) :
    Settles x (Point.after w phase (c.merge d result)) d told result := by
  rcases c.merge_cases d result with ⟨r, rec, hm, hrec, heq⟩ | ⟨fault, hm, heq⟩
  · rw [heq]
    rw [hreport] at hm
    refine .merged rec hm hrec ?_ (by rw [← htrace]; rfl)
    rcases hphase with rfl | rfl <;> rfl
  · rw [heq]
    rw [hreport] at hm
    exact .refused fault hm rfl (by rw [← htrace]; rfl)

end

/-- **What happens when a task is collected**: it leaves its place, and what follows from its
end is merged. -/
structure Collect (w : Workers β σ) (x y : Point β σ) (d : Declaration) (e : Ending)
    (a b : List Declaration) (s : σ) : Prop where
  place : x.state.running = a ++ d :: b
  others : y.state.running = a ++ b
  collected : w.collect? x.state.workers d.probe = some (e, s)
  workers : w.Waits s y.state.workers
  settles : Settles x y d (x.state.trace ++ [.ended d.probe e]) (e.resultFor d)

/-- The merge of a task that has ended is such a collection. -/
theorem collect_after {w : Workers β σ} {x : Point β σ} {d : Declaration} {e : Ending}
    {rest : List Declaration} {s : σ}
    (h : w.collectFirst? x.state.workers x.state.running = some (d, e, rest, s)) :
    ∃ a b, Collect w x (Point.after w .merging
      ({ x.state with running := rest, workers := s }.mergeEnding d e)) d e a b s := by
  obtain ⟨a, b, hsplit, rfl, hc⟩ := Workers.collectFirst?_eq_some h
  exact ⟨a, b, hsplit, running_after, hc, waits_after rfl, settles_after (Or.inl rfl) rfl rfl⟩

/-! ## The strike of the watchdog -/

/-- The state of a coordinator right after it has waited. -/
def Coordinator.waited (w : Workers β σ) (c : Coordinator β σ) : Coordinator β σ :=
  (c.pass (w.await c.workers)).record .waited

/-- The state of the workers after the oldest task was waited for alone. -/
def joined (w : Workers β σ) (x : Point β σ) (p : ProbeId) : σ :=
  (w.awaitOne (w.await x.state.workers).2 p).2

/-- All that is told until then. -/
def stallEvents (w : Workers β σ) (x : Point β σ) (p : ProbeId) : List Event :=
  x.state.trace ++ ((w.await x.state.workers).1.map .activity ++ [.waited]
    ++ [.stalled p (w.age (w.await x.state.workers).2 p)]
    ++ (w.awaitOne (w.await x.state.workers).2 p).1.map .activity)

/-- **What happens when the watchdog has struck.**  None of the tasks has ended at that
moment, and the first one is waited for alone.  If it has ended then, what follows from its
end is merged.  If not, it is stopped, and what is merged offers a timeout for each of its
properties and says so in the record.  All others stay as they were. -/
structure Stall (w : Workers β σ) (x y : Point β σ) (d : Declaration)
    (rest : List Declaration) : Prop where
  oldest : x.state.running = d :: rest
  quiet : ∀ a ∈ x.state.running, w.outcome? (w.await x.state.workers).2 a.probe = none
  others : y.state.running = rest
  workers : ∃ s, w.Waits s y.state.workers
    ∧ ((∃ e, w.collect? (joined w x d.probe) d.probe = some (e, s))
      ∨ s = w.kill (joined w x d.probe) d.probe)
  ended : ∀ e, w.outcome? (joined w x d.probe) d.probe = some e →
    Settles x y d (stallEvents w x d.probe ++ [.ended d.probe e]) (e.resultFor d)
  killed : w.outcome? (joined w x d.probe) d.probe = none → ∃ age result,
    result.identity = d.probe
      ∧ result.writes = d.properties.map (fun q => .finding q .timeout)
        ++ [.record (.error d.probe
          ("probe killed by stall watchdog: no result after " ++ age))]
      ∧ Settles x y d (stallEvents w x d.probe ++ [.killed d.probe age]) result

section
variable {w : Workers β σ} {x y : Point β σ} {d : Declaration} {rest : List Declaration}

/-- The coordinator once it has waited for the oldest task alone. -/
def Coordinator.joined (w : Workers β σ) (c : Coordinator β σ) (d : Declaration)
    (rest : List Declaration) : Coordinator β σ :=
  ({ c with running := rest }.record (.stalled d.probe (w.age c.workers d.probe))).pass
    (w.awaitOne c.workers d.probe)

theorem breakStall_eq {c : Coordinator β σ} (hr : c.running = d :: rest) :
    c.breakStall w = match w.collect? (c.joined w d rest).workers d.probe with
      | some (e, s) => { c.joined w d rest with workers := s }.mergeEnding d e
      | none => (c.joined w d rest).killOldest w d := by
  unfold Coordinator.breakStall
  rw [hr]
  rfl

theorem trace_joined : ((x.state.waited w).joined w d rest).trace
    = stallEvents w x d.probe := by
  simp [Coordinator.joined, Coordinator.waited, Coordinator.pass, Coordinator.record,
    stallEvents]

/-- **The round in which nothing has ended is such a strike.** -/
theorem stall_after (hr : x.state.running = d :: rest)
    (hquiet : w.collectFirst? (w.await x.state.workers).2 x.state.running = none) :
    Stall w x (Point.after w .renewing ((x.state.waited w).breakStall w)) d rest := by
  let c := (x.state.waited w).joined w d rest
  have hr' : (x.state.waited w).running = d :: rest := hr
  have hquiet' := Workers.collectFirst?_eq_none_iff.mp hquiet
  cases hc : w.collect? (joined w x d.probe) d.probe with
  | some a =>
      obtain ⟨e, s⟩ := a
      have hout := Workers.outcome?_of_collect? hc
      rw [breakStall_eq hr', show w.collect? c.workers d.probe = some (e, s) from hc]
      refine ⟨hr, hquiet', running_after, ⟨s, waits_after rfl, Or.inl ⟨e, hc⟩⟩,
        fun e' he' => ?_, fun hnone => ?_⟩
      · cases hout.symm.trans he'
        exact settles_after (Or.inr rfl) rfl (by rw [← trace_joined]; rfl)
      · cases hout.symm.trans hnone
  | none =>
      have hout : w.outcome? (joined w x d.probe) d.probe = none := by
        rw [Workers.outcome?, hc]
        rfl
      rw [breakStall_eq hr', show w.collect? c.workers d.probe = none from hc]
      refine ⟨hr, hquiet', running_after, ⟨_, waits_after rfl, Or.inr rfl⟩,
        fun e he => ?_, fun _ => ?_⟩
      · cases hout.symm.trans he
      · refine ⟨w.age c.workers d.probe, .failure d.probe d.properties .killed
          ("no result after " ++ w.age c.workers d.probe), rfl, rfl, ?_⟩
        exact settles_after (Or.inr rfl) rfl (by rw [← trace_joined]; rfl)

end

/-! ## Turns -/

/-- Whether an event is about a task: that it was handed out, looked after, has ended, was
stopped, or that its result was merged. -/
def Event.concernsTask : Event → Bool
  | .scheduled .. | .stalled .. | .ended .. | .killed .. | .finished .. => true
  | _ => false

/-- **All that a step can do**, as far as tasks and workers are concerned. -/
inductive Turn (w : Workers β σ) (x y : Point β σ) : Prop
  /-- Nothing that concerns a task. -/
  | rest (es : List Event) (hes : ∀ e ∈ es, e.concernsTask = false)
      (hworkers : w.Waits x.state.workers y.state.workers)
      (hr : y.state.running = x.state.running)
      (htrace : y.state.trace = x.state.trace ++ es)
  /-- Hand out a probe. -/
  | hand (p : Probe β) (hp : p ∈ x.unscheduled) (hy : y.state = x.state.submit w p)
  /-- Collect a task that has ended. -/
  | collect (d : Declaration) (e : Ending) (a b : List Declaration) (s : σ)
      (h : Collect w x y d e a b s)
  /-- Look after the first task, as the watchdog has struck. -/
  | stall (d : Declaration) (rest : List Declaration) (h : Stall w x y d rest)

theorem concernsTask_activities (l : List Activity) :
    ∀ e ∈ l.map Event.activity, e.concernsTask = false := by
  intro e he
  obtain ⟨a, -, rfl⟩ := List.mem_map.mp he
  rfl

theorem trace_leave (c : Coordinator β σ) :
    ∃ es, c.leave.trace = c.trace ++ es ∧ ∀ e ∈ es, e.concernsTask = false := by
  unfold Coordinator.leave
  split
  · exact ⟨[], (List.append_nil _).symm, List.forall_mem_nil _⟩
  · exact ⟨_, rfl, List.forall_mem_singleton.mpr rfl⟩

/-- **Every step is a turn.** -/
theorem turn_of_next {w : Workers β σ} {x y : Point β σ} (h : x.next w = some y) :
    Turn w x y := by
  obtain ⟨phase, c⟩ := x
  have hnothing : c.trace = c.trace ++ [] := (List.append_nil _).symm
  cases phase with
  | scheduling =>
      cases h
      exact .rest [] (List.forall_mem_nil _) .moment rfl hnothing
  | handing l =>
      cases l with
      | nil =>
          simp only [Point.next] at h
          split at h <;> cases h
          · obtain ⟨es, htrace, hes⟩ := trace_leave c
            refine .rest es hes ?_ ?_ htrace
            · show w.Waits c.workers c.leave.workers
              unfold Coordinator.leave
              split <;> exact .moment
            · show c.leave.running = c.running
              unfold Coordinator.leave
              split <;> rfl
          · exact .rest [] (List.forall_mem_nil _) .moment rfl hnothing
      | cons p l =>
          cases h
          exact .hand p (List.mem_append_left _ List.mem_cons_self) rfl
  | waiting =>
      have htrace : (c.waited w).trace
          = c.trace ++ ((w.await c.workers).1.map Event.activity ++ [.waited]) :=
        List.append_assoc ..
      have hes : ∀ e ∈ (w.await c.workers).1.map Event.activity ++ [.waited],
          e.concernsTask = false :=
        List.forall_mem_append.mpr ⟨concernsTask_activities _, List.forall_mem_singleton.mpr rfl⟩
      simp only [Point.next] at h
      split at h
      · cases h
        exact .rest _ hes .await rfl htrace
      · rename_i hquiet
        cases h
        show Turn w _ (Point.after w .renewing ((c.waited w).breakStall w))
        cases hr : c.running with
        | nil =>
            have hidle : (c.waited w).breakStall w = (c.waited w, none) := by
              unfold Coordinator.breakStall
              rw [show (c.waited w).running = [] from hr]
            rw [hidle]
            exact .rest _ hes .await rfl htrace
        | cons d rest =>
            exact .stall d rest (stall_after hr (Option.not_isSome_iff_eq_none.mp hquiet))
  | merging =>
      simp only [Point.next] at h
      split at h
      · cases h
        exact .rest [] (List.forall_mem_nil _) .moment rfl hnothing
      · rename_i d e rest s hs
        cases h
        obtain ⟨a, b, hcollect⟩ := collect_after (x := ⟨.merging, c⟩) hs
        exact .collect d e a b s hcollect
  | renewing =>
      cases h
      exact .rest [] (List.forall_mem_nil _) .watchdog rfl hnothing
  | draining l =>
      cases l with
      | nil =>
          cases h
          exact .rest _ (List.forall_mem_singleton.mpr rfl) .moment rfl rfl
      | cons p l =>
          cases h
          unfold Point.substitute
          split
          · exact .rest [] (List.forall_mem_nil _) .moment rfl hnothing
          · exact .rest _ (List.forall_mem_singleton.mpr rfl) .moment rfl rfl
  | stopped fault => cases h

end TlsScan.Scan
