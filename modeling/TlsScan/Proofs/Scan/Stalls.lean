import TlsScan.Proofs.Scan.Outcomes
import TlsScan.Proofs.Scan.Turns

/-!
# Nothing is lost when a scan stalls

If nothing ends for too long, the oldest task is waited for alone and then stopped.  Other
tasks can end meanwhile, and tasks that have ended can wait for several rounds until they
are merged.  That no outcome gets lost then is as much a matter of the workers as of the
coordinator: they have to keep an outcome until it is asked for, whatever else they are
told.  `Workers.Keeps` is this contract.

## Main Definitions

* `Scan.Workers.Keeps` — what is asked of workers.
* `Scan.outstanding` — the probes that were handed out and have not finished, in the order
  in which they were handed out.
* `Scan.Struck` — what is claimed of every strike of the watchdog.
* `Scan.Completes` — the task of a probe ends in a scan without being stopped.

## Main Results

* `Scan.VirtualTime.keeps` — workers in virtual time keep what they have at hand.
* `Scan.Passes.running_eq_outstanding` — tasks wait in the order in which they were handed
  out, so the first one is the oldest.
* `Scan.Passes.struck` — every strike of the watchdog is for the oldest task.
* `Scan.Passes.waits_or_told` — an outcome that is at hand stays so until it is collected.
* `Scan.stall_loses_nothing` — a task that completes has its own outcome merged, once.

## Design Notes

A task that has ended is never the one that is stopped, as the watchdog strikes only if
none of those that run has ended.  So the only thing that can happen to an outcome is that
it is collected, and no invariant has to tell tasks that have ended from others.
-/

namespace TlsScan.Scan

variable {β σ : Type}

/-! ## Workers that keep what they have at hand -/

/-- **Workers that keep what they have at hand**: how a task has ended stays with them until
it is collected or the task is stopped, whatever else they are asked for. -/
structure Workers.Keeps (w : Workers β σ) : Prop where
  submit : ∀ s t p e, p ≠ t.probe.id → w.outcome? s p = some e →
    w.outcome? (w.submit s t) p = some e
  await : ∀ s p e, w.outcome? s p = some e → w.outcome? (w.await s).2 p = some e
  collect : ∀ s q a s' p e, w.collect? s q = some (a, s') → p ≠ q →
    w.outcome? s p = some e → w.outcome? s' p = some e
  kill : ∀ s q p e, p ≠ q → w.outcome? s p = some e →
    w.outcome? (w.kill s q) p = some e
  restartWatchdog : ∀ s p e, w.outcome? s p = some e →
    w.outcome? (w.restartWatchdog s) p = some e

section
variable {w : Workers β σ} {x y : Point β σ} {d : Declaration} {rest : List Declaration}
  {p : ProbeId} {e : Ending}

theorem Workers.Keeps.waits (hkeeps : w.Keeps) {s s' : σ} (h : w.Waits s s')
    (he : w.outcome? s p = some e) : w.outcome? s' p = some e := by
  cases h with
  | moment => exact he
  | await => exact hkeeps.await s p e he
  | watchdog => exact hkeeps.restartWatchdog s p e he

/-- **What ends while another task is waited for alone** is at hand afterwards. -/
theorem Workers.Keeps.stall (hkeeps : w.Keeps) (h : Stall w x y d rest) (hp : p ≠ d.probe)
    (he : w.outcome? (joined w x d.probe) p = some e) :
    w.outcome? y.state.workers p = some e := by
  obtain ⟨s, hwaits, ⟨a, hc⟩ | rfl⟩ := h.workers
  · exact hkeeps.waits hwaits (hkeeps.collect _ _ _ _ _ _ hc hp he)
  · exact hkeeps.waits hwaits (hkeeps.kill _ _ _ _ hp he)

end

/-! ### Workers in virtual time -/

namespace VirtualTime

variable {ε : Type}

theorem ended_foldl_finish (e : Surroundings ε) (l : List (Job ε)) (s : VirtualTime ε) :
    s.ended <+: (l.foldl (finish e) s).ended := by
  induction l generalizing s with
  | nil => exact List.prefix_refl _
  | cons j l ih =>
      rw [List.foldl_cons]
      exact (List.prefix_append ..).trans (ih (finish e s j))

theorem ended_endDue (e : Surroundings ε) (s : VirtualTime ε) :
    s.ended <+: (endDue e s).ended := by
  unfold endDue
  exact ended_foldl_finish e _ { s with pool := s.pool.release fun j => !j.isDue s.now }

theorem ended_settle (e : Surroundings ε) (s : VirtualTime ε) :
    s.ended <+: (settle e s).ended := by
  fun_induction settle e s with
  | case1 => exact List.prefix_refl _
  | case2 s j pool h ih =>
      have hdue := ended_endDue e
        { s with pool := pool, activities := s.activities ++ [.started j.id] }
      exact hdue.trans ih

theorem ended_advance (e : Surroundings ε) (s : VirtualTime ε) (t : Nat) :
    s.ended <+: (advance e s t).ended := by
  unfold advance
  exact (ended_endDue e { s with now := max s.now t }).trans (ended_settle e _)

/-- **While time passes, tasks are only added to those that have ended.** -/
theorem ended_passUntil (e : Surroundings ε) (done : VirtualTime ε → Bool) (limit : Nat)
    (s : VirtualTime ε) : s.ended <+: (passUntil e done limit s).ended := by
  fun_induction passUntil e done limit s with
  | case1 => exact List.prefix_refl _
  | case2 s _ t _ _ ih => exact (ended_advance e s t).trans ih
  | case3 => exact List.prefix_refl _
  | case4 => exact List.prefix_refl _

theorem ended_await (e : Surroundings ε) (s : VirtualTime ε) :
    s.ended <+: (await e s).ended := by
  unfold await
  split
  · exact (ended_settle e s).trans (ended_passUntil e _ _ _)
  · exact List.prefix_refl _

/-- An outcome is the first in the list of those that have ended. -/
theorem outcome?_eq (e : Surroundings ε) (s : VirtualTime ε) (p : ProbeId) :
    (workers e).outcome? s p = (s.ended.find? fun x => x.1 = p).map (·.2) := by
  show ((s.ended.find? fun x => x.1 = p).map _).map _ = _
  rw [Option.map_map]
  rfl

theorem outcome?_of_prefix {e : Surroundings ε} {s s' : VirtualTime ε} {p : ProbeId}
    {a : Ending} (h : s.ended <+: s'.ended) (ha : (workers e).outcome? s p = some a) :
    (workers e).outcome? s' p = some a := by
  rw [outcome?_eq] at ha ⊢
  obtain ⟨x, hx, rfl⟩ := Option.map_eq_some_iff.mp ha
  rw [h.find?_eq_some hx]
  rfl

/-- **Workers in virtual time keep what they have at hand.** -/
theorem keeps (e : Surroundings ε) : (workers e).Keeps where
  submit s _ _ _ _ h := outcome?_of_prefix (s := s) (List.prefix_refl s.ended) h
  await s _ _ h := outcome?_of_prefix (ended_await e s) h
  collect s q a s' p b hc hp h := by
    obtain ⟨x, -, heq⟩ := Option.map_eq_some_iff.mp hc
    cases heq
    have hother : ((s.ended.filter fun y => y.1 ≠ q).find? fun y => y.1 = p)
        = s.ended.find? fun y => y.1 = p := by
      rw [List.find?_filter]
      congr 1
      funext y
      by_cases hy : y.1 = p <;> simp [hy, hp]
    rw [outcome?_eq] at h ⊢
    rw [← h, hother]
  kill s _ _ _ _ h := outcome?_of_prefix (s := s) (List.prefix_refl s.ended) h
  restartWatchdog s _ _ h := outcome?_of_prefix (s := s) (List.prefix_refl s.ended) h

end VirtualTime

/-! ## The order of the tasks -/

/-- What one event means for the probes that were handed out and have not finished. -/
def outstandingAfter (l : List ProbeId) : Event → List ProbeId
  | .scheduled p _ => l ++ [p]
  | .finished p _ _ => l.erase p
  | _ => l

/-- **The probes that were handed out and have not finished**, in the order in which they
were handed out. -/
def outstanding (trace : List Event) : List ProbeId := trace.foldl outstandingAfter []

theorem outstanding_concat (l : List Event) (e : Event) :
    outstanding (l ++ [e]) = outstandingAfter (outstanding l) e := by
  rw [outstanding, List.foldl_append]
  rfl

/-- Events that neither hand out nor finish anything change nothing. -/
theorem outstanding_append {l m : List Event}
    (hm : ∀ e ∈ m, ∀ l, outstandingAfter l e = l) :
    outstanding (l ++ m) = outstanding l := by
  induction m using List.reverseRecOn with
  | nil => rw [List.append_nil]
  | append_singleton m e ih =>
      rw [← List.append_assoc, outstanding_concat, hm e (by simp)]
      exact ih fun a ha => hm a (List.mem_append_left _ ha)

theorem outstandingAfter_of_concernsTask {e : Event} (he : e.concernsTask = false)
    (l : List ProbeId) : outstandingAfter l e = l := by
  cases e <;> first | rfl | cases he

/-- A task that has finished leaves its place, and the others stay in order. -/
theorem outstanding_of_settles {x y : Point β σ} {d : Declaration} {told es : List Event}
    {result : ProbeResult} {a b : List ProbeId} (h : Settles x y d told result)
    (htold : told = x.state.trace ++ es) (hes : ∀ e ∈ es, ∀ l, outstandingAfter l e = l)
    (hy : y.stage ≠ .failed) (hx : outstanding x.state.trace = a ++ d.probe :: b)
    (hfresh : d.probe ∉ a) : outstanding y.state.trace = a ++ b := by
  cases h with
  | refused fault _ hstage => exact absurd hstage hy
  | merged rec _ _ _ htrace =>
      rw [htrace, outstanding_concat, htold, outstanding_append hes, hx]
      show (a ++ d.probe :: b).erase d.probe = a ++ b
      rw [List.erase_append_right _ hfresh, List.erase_cons_head]

section
variable {w : Workers β σ} {x y : Point β σ} {d : Declaration} {rest : List Declaration}

/-- Whatever comes of it, something is merged for the task, or refused. -/
theorem Stall.settles (h : Stall w x y d rest) : ∃ es result,
    (∀ e ∈ es, ∀ l, outstandingAfter l e = l)
      ∧ Settles x y d (x.state.trace ++ es) result := by
  have hes : ∀ a : Event, (∀ l, outstandingAfter l a = l) → ∃ es,
      stallEvents w x d.probe ++ [a] = x.state.trace ++ es
        ∧ ∀ e ∈ es, ∀ l, outstandingAfter l e = l := by
    intro a ha
    refine ⟨_, List.append_assoc .., ?_⟩
    have hquiet : ∀ acts : List Activity, ∀ e ∈ acts.map Event.activity, ∀ l,
        outstandingAfter l e = l := fun acts e he =>
      outstandingAfter_of_concernsTask (concernsTask_activities acts e he)
    simp only [List.forall_mem_append, List.forall_mem_singleton]
    exact ⟨⟨⟨⟨hquiet _, fun _ => rfl⟩, fun _ => rfl⟩, hquiet _⟩, ha⟩
  cases hc : w.outcome? (joined w x d.probe) d.probe with
  | some e =>
      obtain ⟨es, heq, hnone⟩ := hes (.ended d.probe e) fun _ => rfl
      have hsettles := h.ended e hc
      rw [heq] at hsettles
      exact ⟨es, _, hnone, hsettles⟩
  | none =>
      obtain ⟨age, result, -, -, hsettles⟩ := h.killed hc
      obtain ⟨es, heq, hnone⟩ := hes (.killed d.probe age) fun _ => rfl
      rw [heq] at hsettles
      exact ⟨es, result, hnone, hsettles⟩

end

section
variable {w : Workers β σ} {target : String} {probes : List (Probe β)} {s : σ}
  {x : Point β σ}

/-- **Tasks wait in the order in which they were handed out**, as long as a scan has not
failed. -/
theorem Passes.running_eq_outstanding (h : Passes w target probes s x)
    (hnodup : (probes.map Probe.id).Nodup) (hx : x.stage ≠ .failed) :
    x.running = outstanding x.state.trace := by
  induction h with
  | refl => rfl
  | @tail y z hreach hstep ih =>
      have hfine : y.stage ≠ .failed :=
        (move_of_next (Passes.orderly hreach) hstep).stage_ne
      have hy := ih hfine
      have hrunning := ((Passes.accounted hreach hfine).apart hnodup).2.2
      -- No task runs twice, so none in front has the identity of one behind it.
      have hfresh : ∀ {a b : List Declaration} {d : Declaration},
          y.state.running = a ++ d :: b → d.probe ∉ a.map (·.probe) := by
        intro a b d hsplit
        rw [Point.running, hsplit, List.map_append, List.map_cons] at hrunning
        intro hmem
        exact (List.nodup_append'.mp hrunning).2.2 hmem List.mem_cons_self
      cases turn_of_next hstep with
      | rest es hes _ hr htrace =>
          rw [Point.running_congr hr, hy, htrace]
          exact (outstanding_append fun e he =>
            outstandingAfter_of_concernsTask (hes e he)).symm
      | hand p _ heq =>
          rw [Point.running, heq]
          show (y.state.running ++ [p.declaration]).map (·.probe)
            = outstanding (y.state.trace ++ [.scheduled p.id y.state.report])
          rw [outstanding_concat, ← hy, List.map_append]
          rfl
      | collect d e a b s h =>
          rw [Point.running, h.others, List.map_append]
          refine (outstanding_of_settles h.settles rfl ?_ hx ?_ (hfresh h.place)).symm
          · exact List.forall_mem_singleton.mpr fun _ => rfl
          · rw [← hy, Point.running, h.place, List.map_append, List.map_cons]
      | stall d rest h =>
          obtain ⟨es, result, hes, hsettles⟩ := h.settles
          rw [Point.running, h.others]
          refine (outstanding_of_settles (a := []) hsettles rfl hes hx ?_
            List.not_mem_nil).symm
          rw [← hy, Point.running, h.oldest]
          rfl

end

/-! ## Strikes of the watchdog -/

/-- **What is claimed of a strike of the watchdog**, given the events before it: the scan has
waited at some point; the task that the strike is for is the oldest of those that were
handed out and have not finished; it is dealt with in one step; and the outcomes of the
others that are at hand then stay so. -/
def Struck (w : Workers β σ) (target : String) (probes : List (Probe β)) (s : σ)
    (pre : List Event) (p : ProbeId) : Prop :=
  ∃ x y d rest, Passes w target probes s x ∧ x.next w = some y
    ∧ pre = x.state.trace ++ (w.await x.state.workers).1.map .activity ++ [.waited]
    ∧ (∃ q ∈ probes, q.declaration = d) ∧ d.probe = p
    ∧ outstanding pre = p :: rest.map (·.probe)
    ∧ Stall w x y d rest
    ∧ ∀ a ∈ rest, ∀ e, w.outcome? (joined w x p) a.probe = some e →
        w.outcome? y.state.workers a.probe = some e

/-- What is claimed of one event, given those before it. -/
def StrikeSound (w : Workers β σ) (target : String) (probes : List (Probe β)) (s : σ)
    (pre : List Event) : Event → Prop
  | .stalled p _ => Struck w target probes s pre p
  | _ => True

section
variable {w : Workers β σ} {target : String} {probes : List (Probe β)} {s : σ}
  {x y : Point β σ} {p : ProbeId} {e : Ending}

theorem strikeSound_of_concernsTask {a : Event} (ha : a.concernsTask = false)
    (pre : List Event) : StrikeSound w target probes s pre a := by
  cases a <;> trivial

theorem strikeSound_of_isClosing {a : Event} (ha : a.isClosing = true) (pre : List Event) :
    StrikeSound w target probes s pre a := by
  cases a <;> trivial

/-- **A strike is as claimed.** -/
theorem Passes.struck_of_stall (hx : Passes w target probes s x) (hkeeps : w.Keeps)
    (hnodup : (probes.map Probe.id).Nodup) (hstep : x.next w = some y) {d : Declaration}
    {rest : List Declaration} (h : Stall w x y d rest) :
    Struck w target probes s
      (x.state.trace ++ (w.await x.state.workers).1.map .activity ++ [.waited]) d.probe := by
  have hfine : x.stage ≠ .failed := (move_of_next hx.orderly hstep).stage_ne
  have hmem : d ∈ x.state.running := by
    rw [h.oldest]
    exact List.mem_cons_self
  refine ⟨x, y, d, rest, hx, hstep, rfl, (hx.given hfine).2 d hmem, rfl, ?_, h, ?_⟩
  · have hactivities : ∀ a ∈ (w.await x.state.workers).1.map Event.activity ++ [.waited],
        ∀ l, outstandingAfter l a = l := by
      intro a ha
      refine outstandingAfter_of_concernsTask ?_
      rcases List.mem_append.mp ha with ha | ha
      · exact concernsTask_activities _ a ha
      · rw [List.mem_singleton.mp ha]
        rfl
    rw [List.append_assoc, outstanding_append hactivities,
      ← hx.running_eq_outstanding hnodup hfine, Point.running, h.oldest]
    rfl
  · intro a ha b hb
    have hrunning := ((hx.accounted hfine).apart hnodup).2.2
    rw [Point.running, h.oldest, List.map_cons, List.nodup_cons] at hrunning
    exact hkeeps.stall h (fun heq => hrunning.1 (heq ▸ List.mem_map_of_mem ha)) hb

/-- **Every strike of the watchdog is as claimed.** -/
theorem Passes.struck (h : Passes w target probes s x) (hkeeps : w.Keeps)
    (hnodup : (probes.map Probe.id).Nodup) :
    Along (StrikeSound w target probes s) x.state.trace := by
  have hquiet : ∀ {l es : List Event}, (∀ a ∈ es, a.concernsTask = false) →
      Along (StrikeSound w target probes s) l →
        Along (StrikeSound w target probes s) (l ++ es) := by
    intro l es hes hl
    exact hl.append fun a ha pre => strikeSound_of_concernsTask (hes a ha) pre
  induction h with
  | refl => exact hquiet (List.forall_mem_singleton.mpr rfl) Along.nil
  | @tail y z hreach hstep ih =>
      cases turn_of_next hstep with
      | rest es hes _ _ htrace =>
          rw [htrace]
          exact hquiet hes ih
      | hand q _ heq =>
          rw [heq]
          exact ih.concat trivial
      | collect d a l m s' hcollect =>
          have htold := ih.concat (e := .ended d.probe a) trivial
          exact htold.settles hcollect.settles strikeSound_of_isClosing
      | stall d rest hstall =>
          have hstruck := Passes.struck_of_stall hreach hkeeps hnodup hstep hstall
          -- The strike comes after what was told while the scan has waited.
          have hwaited : Along (StrikeSound w target probes s) (y.state.trace
              ++ (w.await y.state.workers).1.map .activity ++ [.waited]) :=
            (hquiet (concernsTask_activities _) ih).concat trivial
          have htold : Along (StrikeSound w target probes s) (stallEvents w y d.probe) := by
            have hall := hquiet (concernsTask_activities
              (w.awaitOne (w.await y.state.workers).2 d.probe).1)
              (hwaited.concat (e := .stalled d.probe
                (w.age (w.await y.state.workers).2 d.probe)) hstruck)
            simpa only [stallEvents, List.append_assoc] using hall
          cases hc : w.outcome? (joined w y d.probe) d.probe with
          | some a =>
              have hended := htold.concat (e := .ended d.probe a) trivial
              exact hended.settles (hstall.ended a hc) strikeSound_of_isClosing
          | none =>
              obtain ⟨age, result, -, -, hsettles⟩ := hstall.killed hc
              have hkilled := htold.concat (e := .killed d.probe age) trivial
              exact hkilled.settles hsettles strikeSound_of_isClosing

/-! ## Outcomes -/

/-- What was told of a task stays told. -/
theorem mem_trace_of_settles {d : Declaration} {told : List Event} {result : ProbeResult}
    (h : Settles x y d told result) {a : Event} (ha : a ∈ told) : a ∈ y.state.trace := by
  obtain ⟨e, htrace, -⟩ := h.exists_event
  rw [htrace]
  exact List.mem_append_left _ ha

/-- **An outcome that is at hand stays so until it is collected.** -/
theorem Passes.waits_or_told (hx : Passes w target probes s x) (hkeeps : w.Keeps)
    (hnodup : (probes.map Probe.id).Nodup) (hp : p ∈ x.running)
    (he : w.outcome? x.state.workers p = some e) (hr : Reaches w x y) :
    (p ∈ y.running ∧ w.outcome? y.state.workers p = some e) ∨ .ended p e ∈ y.state.trace := by
  induction hr with
  | refl => exact Or.inl ⟨hp, he⟩
  | @tail y z hreach hstep ih =>
      have hy : Passes w target probes s y := Reaches.trans hx hreach
      have hmove := move_of_next hy.orderly hstep
      rcases ih with ⟨hrun, hout⟩ | htold
      swap
      · exact Or.inr (hmove.trace_grows.subset htold)
      cases turn_of_next hstep with
      | rest es _ hworkers hsame _ =>
          refine Or.inl ⟨?_, hkeeps.waits hworkers hout⟩
          rwa [Point.running_congr hsame]
      | hand q hq heq =>
          have hapart := ((hy.accounted hmove.stage_ne).apart hnodup).1 q.id
            (List.mem_map_of_mem hq)
          have hne : p ≠ q.id := fun h => hapart.1 (h ▸ hrun)
          refine Or.inl ⟨?_, ?_⟩
          · rw [Point.running, heq]
            show p ∈ (y.state.running ++ [q.declaration]).map (·.probe)
            rw [List.map_append]
            exact List.mem_append_left _ hrun
          · rw [heq]
            exact hkeeps.submit _ _ _ _ hne hout
      | collect d a l m s' h =>
          by_cases hd : d.probe = p
          · -- It is the very task that is collected.
            subst hd
            cases hout.symm.trans (Workers.outcome?_of_collect? h.collected)
            exact Or.inr (mem_trace_of_settles h.settles
              (List.mem_append_right _ (List.mem_singleton_self _)))
          · refine Or.inl ⟨?_, hkeeps.waits h.workers
              (hkeeps.collect _ _ _ _ _ _ h.collected (Ne.symm hd) hout)⟩
            rw [Point.running, h.place] at hrun
            rw [Point.running, h.others]
            simp only [List.map_append, List.map_cons, List.mem_append, List.mem_cons]
              at hrun ⊢
            exact hrun.imp_right fun hor => hor.resolve_left (Ne.symm hd)
      | stall d rest h =>
          -- The watchdog does not strike as long as an outcome is at hand.
          obtain ⟨a, ha, rfl⟩ := List.mem_map.mp hrun
          cases (h.quiet a ha).symm.trans (hkeeps.await _ _ _ hout)

/-- **The task of a probe completes in a scan**: at some point at which the task runs its
outcome is at hand, or the scan was told of it. -/
inductive Completes (w : Workers β σ) (target : String) (probes : List (Probe β)) (s : σ)
    (p : ProbeId) (e : Ending) : Prop
  | waits (x : Point β σ) (hx : Passes w target probes s x) (hp : p ∈ x.running)
      (he : w.outcome? x.state.workers p = some e)
  | told (h : .ended p e ∈ (Coordinator.scan w target probes s).1.trace)

/-- A scan that ends with a report is told of every task that completes. -/
theorem Completes.told_of_ok (h : Completes w target probes s p e) (hkeeps : w.Keeps)
    (hnodup : (probes.map Probe.id).Nodup)
    (hok : (Coordinator.scan w target probes s).2 = none) :
    .ended p e ∈ (Coordinator.scan w target probes s).1.trace := by
  cases h with
  | told h => exact h
  | waits x hx hp he =>
      rcases hx.waits_or_told hkeeps hnodup hp he hx.reaches_final with ⟨hrun, -⟩ | htold
      · rw [(places_final hok).2] at hrun
        cases hrun
      · exact htold

/-! ## What is merged for a task -/

theorem finished_sublist_merged (l : List Event) :
    (l.filterMap Event.finished?).Sublist (l.filterMap Event.merged?) := by
  induction l with
  | nil => exact List.Sublist.refl _
  | cons a l ih =>
      cases a with
      | finished p result status => exact ih.cons_cons (p, result)
      | notExecuted p result reason => exact ih.cons (p, result)
      | _ => exact ih

/-- In the end every probe was due at most once. -/
theorem nodup_due (hnodup : (probes.map Probe.id).Nodup)
    (hok : (Coordinator.scan w target probes s).2 = none) :
    (((Coordinator.scan w target probes s).1.trace.filterMap
      (Event.due? probes)).map (·.1)).Nodup := by
  have hend := passes_final w target probes s
  have hfine := stage_final_ne hok
  have hmerged := (hend.accounted hfine).perm.nodup_iff.mpr hnodup
  have hsettled := hend.settled hnodup hfine
  rw [Settled] at hsettled
  have hsublist := (finished_sublist_merged (final w target probes s).state.trace).map (·.1)
  rw [← hsettled] at hsublist
  exact hsublist.nodup (List.nodup_append'.mp hmerged).2.1

/-- What is due once is due for one event only, and is all that is due for the probe. -/
theorem due_unique {l : List Event} (hnodup : ((l.filterMap (Event.due? probes)).map
    (·.1)).Nodup) {a : Event} (ha : a ∈ l) {result : ProbeResult}
    (hdue : a.due? probes = some (p, result)) :
    (l.filterMap (Event.due? probes)).filter (·.1 = p) = [(p, result)]
      ∧ ∀ b ∈ l, ∀ r, b.due? probes = some (p, r) → b = a := by
  obtain ⟨pre, post, rfl⟩ := List.append_of_mem ha
  have hsplit : (pre ++ a :: post).filterMap (Event.due? probes)
      = pre.filterMap (Event.due? probes)
        ++ (p, result) :: post.filterMap (Event.due? probes) := by
    rw [List.filterMap_append, List.filterMap_cons_some hdue]
  rw [hsplit, List.map_append, List.map_cons, List.nodup_append', List.nodup_cons] at hnodup
  obtain ⟨-, ⟨hpost, -⟩, hdisjoint⟩ := hnodup
  have hpre : p ∉ (pre.filterMap (Event.due? probes)).map (·.1) :=
    fun h => hdisjoint h List.mem_cons_self
  -- Neither part has anything for the probe.
  have hnone : ∀ {m : List Event}, p ∉ (m.filterMap (Event.due? probes)).map (·.1) →
      (m.filterMap (Event.due? probes)).filter (·.1 = p) = []
        ∧ ∀ b ∈ m, ∀ r, b.due? probes ≠ some (p, r) := by
    intro m hm
    constructor
    · rw [List.filter_eq_nil_iff]
      intro x hx hxp
      exact hm (List.mem_map.mpr ⟨x, hx, of_decide_eq_true hxp⟩)
    · intro b hb r hr
      exact hm (List.mem_map.mpr ⟨(p, r), List.mem_filterMap.mpr ⟨b, hb, hr⟩, rfl⟩)
  constructor
  · rw [hsplit, List.filter_append, (hnone hpre).1, List.filter_cons_of_pos (by simp),
      (hnone hpost).1]
    rfl
  · intro b hb r hr
    rcases List.mem_append.mp hb with hb | hb
    · exact absurd hr ((hnone hpre).2 b hb r)
    · rcases List.mem_cons.mp hb with rfl | hb
      · rfl
      · exact absurd hr ((hnone hpost).2 b hb r)

/-- **Nothing is lost when a scan stalls.**  Take a scan of probes that were admitted, with
workers who keep what they have at hand.  Whenever the watchdog strikes, it is for the task
that was handed out first among those that have not finished, none of which has ended at
that moment.  If it ends while it is waited for, what is merged is what follows from its
end, and a timeout only if not; the others go on, and what they come to meanwhile is kept.
If the scan ends with a report, then for every task that completes exactly one result was
merged, which is the one that follows from its end, and it was not stopped. -/
theorem stall_loses_nothing {config : Config} {warnings : List LogEntry} (hkeeps : w.Keeps)
    (hprepare : prepare config probes = .ok warnings) :
    (∀ pre p age post,
        (runWith w target warnings probes s).1.trace = pre ++ .stalled p age :: post →
          Struck w target probes s pre p)
      ∧ ∀ r, (runWith w target warnings probes s).1.outcome = .ok r → ∀ p e,
          Completes w target probes s p e →
            ((runWith w target warnings probes s).1.trace.filterMap Event.finished?).filter
                (·.1 = p) = [(p, e.resultFor (declarationOf probes p))]
              ∧ .ended p e ∈ (runWith w target warnings probes s).1.trace
              ∧ ∀ age, .killed p age ∉ (runWith w target warnings probes s).1.trace := by
  have hnodup := nodup_of_prepare hprepare
  have hend := passes_final w target probes s
  rw [trace_runWith]
  refine ⟨fun pre p age post htrace => hend.struck hkeeps hnodup pre _ post htrace, ?_⟩
  intro r hr p e hcompletes
  obtain ⟨hok, -⟩ := outcome_runWith_eq_ok_iff.mp hr
  have htold := hcompletes.told_of_ok hkeeps hnodup hok
  obtain ⟨honce, honly⟩ := due_unique (nodup_due hnodup hok) htold rfl
  have hsettled := hend.settled hnodup (stage_final_ne hok)
  rw [Settled] at hsettled
  refine ⟨?_, htold, fun age hkilled => ?_⟩
  · exact hsettled ▸ honce
  · cases honly _ hkilled _ rfl

end

namespace Sample

/-- Two probes that run at once: the first never ends, and the second ends while the first
is waited for alone. -/
def slow : List (Probe (Work Unit)) :=
  [probe (.bare .heartbleed) none (.panicked none),
    probe (.bare .alpn) (some 1800010) (.failed ⟨"refused", []⟩)]

/-- What their scan comes to. -/
def slowRun : Run × VirtualTime Unit :=
  runWith (VirtualTime.workers surroundings) "sample" [] slow (.start 2 ())

/-- The report of their scan. -/
def slowReport : Report :=
  (Coordinator.scan (VirtualTime.workers surroundings) "sample" slow (.start 2 ())).1.report

theorem prepare_slow : prepare {} slow = .ok [] := by
  have hcheck : (ProbeSet.check (slow.map Probe.declaration)).isOk = true := by cbv
  have hwarnings : ProbeSet.warnings (slow.map Probe.declaration) = [] :=
    List.isEmpty_iff.mp (by decide +kernel)
  rw [prepare_of_check hcheck, hwarnings]

theorem outcome_slow : slowRun.1.outcome = .ok slowReport :=
  outcome_runWith_eq_ok_iff.mpr ⟨by decide +kernel, rfl⟩

end Sample

/-- Whether an event says that the watchdog has struck for a probe. -/
def Event.isStrike (p : ProbeId) : Event → Bool
  | .stalled q _ => q = p
  | _ => false

/-- Whether an event says that the task of a probe has failed. -/
def Event.isFailure (p : ProbeId) : Event → Bool
  | .ended q (.failed _) => q = p
  | _ => false

theorem stall_loses_nothing_sample :
    (VirtualTime.workers Sample.surroundings).Keeps ∧ prepare {} Sample.slow = .ok []
      ∧ (∃ pre age post, Sample.slowRun.1.trace = pre ++ .stalled .heartbleed age :: post
        ∧ Struck (VirtualTime.workers Sample.surroundings) "sample" Sample.slow (.start 2 ())
          pre .heartbleed)
      ∧ ∃ f, Completes (VirtualTime.workers Sample.surroundings) "sample" Sample.slow
          (.start 2 ()) .alpn (.failed f)
        ∧ (Sample.slowRun.1.trace.filterMap Event.finished?).filter (·.1 = .alpn)
          = [(.alpn, .failure .alpn [] .failed f.message)] := by
  have hkeeps := VirtualTime.keeps Sample.surroundings
  obtain ⟨hstruck, honce⟩ := @stall_loses_nothing _ _
    (VirtualTime.workers Sample.surroundings) "sample" Sample.slow (.start 2 ()) _ _ hkeeps
    Sample.prepare_slow
  refine ⟨hkeeps, Sample.prepare_slow, ?_, ?_⟩
  · have hany : Sample.slowRun.1.trace.any (Event.isStrike .heartbleed) = true := by
      decide +kernel
    obtain ⟨a, ha, hstrike⟩ := List.any_eq_true.mp hany
    obtain ⟨pre, post, htrace⟩ := List.append_of_mem ha
    cases a <;> try cases hstrike
    rename_i q age
    cases of_decide_eq_true hstrike
    exact ⟨pre, age, post, htrace, hstruck pre _ age post htrace⟩
  · have hany : Sample.slowRun.1.trace.any (Event.isFailure .alpn) = true := by
      decide +kernel
    obtain ⟨a, ha, hfailure⟩ := List.any_eq_true.mp hany
    cases a <;> try cases hfailure
    rename_i q e
    cases e <;> try cases hfailure
    rename_i f
    cases of_decide_eq_true hfailure
    have hcompletes : Completes (VirtualTime.workers Sample.surroundings) "sample"
        Sample.slow (.start 2 ()) .alpn (.failed f) := .told (by rwa [← trace_runWith])
    exact ⟨f, hcompletes, (honce _ Sample.outcome_slow _ _ hcompletes).1⟩

end TlsScan.Scan
