import TlsScan.Proofs.Scan.Partition
import TlsScan.Proofs.Scan.Turns
import TlsScan.Scan.VirtualTime

/-!
# What the workers are handed

The events of a scan tell with which report a probe is handed out.  That it is this report
which the workers get, and that they get nothing that was not told of, is a matter of what the
coordinator asks of them.  That a probe then works on this report, and ends as it can on no
other one, is a matter of the workers.

## Main Definitions

* `Scan.Along` — a claim about every event, given those before it.
* `Scan.handOuts` — the probes that were handed out, with their reports, as it was told.
* `Scan.Workers.Fed` — how workers have come to a state, with the tasks that they were handed.
* `Scan.Workers.Obeys` — tasks end only as those can that were handed to the workers.
* `Scan.VirtualTime.Ends` — how a task can end in virtual time.

## Main Results

* `Scan.Passes.handed` — the workers are handed the tasks that were told of, and no others.
* `Scan.Passes.endings` — whoever ends does so as it can on the report that was told of.
* `Scan.VirtualTime.obeys` — probes work on the report that they were handed out with.
-/

namespace TlsScan.Scan

/-! ## Claims about every event -/

/-- **Every event is as claimed**, given the events before it. -/
def Along (P : List Event → Event → Prop) (trace : List Event) : Prop :=
  ∀ pre e post, trace = pre ++ e :: post → P pre e

theorem Along.nil {P : List Event → Event → Prop} : Along P [] := by
  rintro (_ | _) _ _ h <;> cases h

theorem Along.concat {P : List Event → Event → Prop} {l : List Event} {e : Event}
    (hl : Along P l) (he : P l e) : Along P (l ++ [e]) := by
  intro pre a post h
  -- Either the new event is the one in question, or it comes after it.
  rcases List.eq_nil_or_concat post with rfl | ⟨post, b, rfl⟩
  · obtain ⟨rfl, hb⟩ := List.append_inj' h rfl
    cases hb
    exact he
  · rw [List.concat_eq_append, ← List.cons_append, ← List.append_assoc] at h
    exact hl pre a post (List.append_inj' h rfl).1

/-- Events of which nothing is claimed can be added. -/
theorem Along.append {P : List Event → Event → Prop} {l m : List Event} (hl : Along P l)
    (hm : ∀ e ∈ m, ∀ pre, P pre e) : Along P (l ++ m) := by
  induction m using List.reverseRecOn with
  | nil => rwa [List.append_nil]
  | append_singleton m e ih =>
      rw [← List.append_assoc]
      exact (ih fun a ha => hm a (List.mem_append_left _ ha)).concat (hm e (by simp) _)

/-- Nothing is claimed of what comes of a task that has ended. -/
theorem Along.settles {β σ : Type} {x y : Point β σ} {d : Declaration} {told : List Event}
    {result : ProbeResult} {P : List Event → Event → Prop} (htold : Along P told)
    (h : Settles x y d told result) (hP : ∀ {e}, e.isClosing = true → ∀ pre, P pre e) :
    Along P y.state.trace := by
  obtain ⟨e, htrace, he⟩ := h.exists_event
  rw [htrace]
  exact htold.concat (hP he told)

/-! ## What is told -/

/-- The probe that is handed out, with its report, if an event says so. -/
def Event.handOut? : Event → Option (ProbeId × Report)
  | .scheduled p snapshot => some (p, snapshot)
  | _ => none

/-- **The probes that were handed out**, with their reports, in order. -/
def handOuts (trace : List Event) : List (ProbeId × Report) := trace.filterMap Event.handOut?

theorem handOuts_append (l m : List Event) : handOuts (l ++ m) = handOuts l ++ handOuts m :=
  List.filterMap_append

theorem mem_handOuts {trace : List Event} {p : ProbeId} {snapshot : Report} :
    (p, snapshot) ∈ handOuts trace ↔ .scheduled p snapshot ∈ trace := by
  constructor
  · intro h
    obtain ⟨e, he, heq⟩ := List.mem_filterMap.mp h
    cases e <;> cases heq
    exact he
  · exact fun h => List.mem_filterMap.mpr ⟨_, h, rfl⟩

/-- Events that hand nothing out can be left away. -/
theorem handOuts_append_of_forall {l m : List Event} (hm : ∀ e ∈ m, e.handOut? = none) :
    handOuts (l ++ m) = handOuts l := by
  rw [handOuts_append, handOuts, handOuts, List.filterMap_eq_nil_iff.mpr hm, List.append_nil]

theorem Event.handOut?_of_concernsTask {e : Event} (he : e.concernsTask = false) :
    e.handOut? = none := by
  cases e <;> first | rfl | cases he

variable {β σ : Type}

/-- A task as it is told of when it is handed out. -/
def Task.handOut (t : Task β) : ProbeId × Report := (t.probe.id, t.snapshot)

/-- What comes of a task that has ended hands nothing out. -/
theorem Settles.handOuts_eq {x y : Point β σ} {d : Declaration} {told : List Event}
    {result : ProbeResult} (h : Settles x y d told result) :
    handOuts y.state.trace = handOuts told := by
  obtain ⟨e, htrace, he⟩ := h.exists_event
  rw [htrace]
  refine handOuts_append_of_forall (List.forall_mem_singleton.mpr ?_)
  cases e <;> first | rfl | cases he

theorem handOuts_stallEvents (w : Workers β σ) (x : Point β σ) (p : ProbeId) :
    handOuts (stallEvents w x p) = handOuts x.state.trace := by
  have hnone : ∀ l : List Activity, (l.map Event.activity).filterMap Event.handOut? = [] := by
    intro l
    rw [List.filterMap_map]
    exact List.filterMap_eq_nil_iff.mpr fun _ _ => rfl
  simp [stallEvents, handOuts, hnone, Event.handOut?]

/-! ## What the workers get -/

/-- **How workers have come to a state**: they were handed these tasks, in this order, and
asked for whatever else there is. -/
inductive Workers.Fed (w : Workers β σ) (s : σ) : List (Task β) → σ → Prop
  | start : Fed w s [] s
  | submit {tasks : List (Task β)} {s' : σ} (h : Fed w s tasks s') (t : Task β) :
      Fed w s (tasks ++ [t]) (w.submit s' t)
  | await {tasks : List (Task β)} {s' : σ} (h : Fed w s tasks s') :
      Fed w s tasks (w.await s').2
  | awaitOne {tasks : List (Task β)} {s' : σ} (h : Fed w s tasks s') (p : ProbeId) :
      Fed w s tasks (w.awaitOne s' p).2
  | collect {tasks : List (Task β)} {s' s'' : σ} (h : Fed w s tasks s') {p : ProbeId}
      {a : Ending} (hc : w.collect? s' p = some (a, s'')) : Fed w s tasks s''
  | kill {tasks : List (Task β)} {s' : σ} (h : Fed w s tasks s') (p : ProbeId) :
      Fed w s tasks (w.kill s' p)
  | restartWatchdog {tasks : List (Task β)} {s' : σ} (h : Fed w s tasks s') :
      Fed w s tasks (w.restartWatchdog s')

/-- **Tasks end only as those can that were handed to the workers**, whatever these were asked
for besides. -/
def Workers.Obeys (w : Workers β σ) (s : σ) (ends : Task β → Ending → Prop) : Prop :=
  ∀ tasks s' p a s'', w.Fed s tasks s' → w.collect? s' p = some (a, s'') →
    ∃ t ∈ tasks, t.probe.id = p ∧ ends t a

theorem Workers.Fed.waits {w : Workers β σ} {s s' s'' : σ} {tasks : List (Task β)}
    (h : w.Fed s tasks s') (hw : w.Waits s' s'') : w.Fed s tasks s'' := by
  cases hw with
  | moment => exact h
  | await => exact h.await
  | watchdog => exact h.restartWatchdog

/-- **The workers were handed the tasks that were told of**, and no others. -/
structure Point.Handed (w : Workers β σ) (probes : List (Probe β)) (s : σ) (x : Point β σ)
    (tasks : List (Task β)) : Prop where
  fed : w.Fed s tasks x.state.workers
  told : tasks.map Task.handOut = handOuts x.state.trace
  given : ∀ t ∈ tasks, t.probe ∈ probes

section
variable {w : Workers β σ} {target : String} {probes : List (Probe β)} {s : σ}
  {x y : Point β σ} {tasks : List (Task β)}

/-- Nothing is handed out. -/
theorem Point.Handed.stay (h : x.Handed w probes s tasks)
    (hfed : w.Fed s tasks y.state.workers)
    (htrace : handOuts y.state.trace = handOuts x.state.trace) : y.Handed w probes s tasks :=
  ⟨hfed, h.told.trans htrace.symm, h.given⟩

/-- A probe is handed out, with the report as it is. -/
theorem Point.Handed.hand (h : x.Handed w probes s tasks) {q : Probe β} (hq : q ∈ probes)
    (hy : y.state = x.state.submit w q) :
    y.Handed w probes s (tasks ++ [⟨q, x.state.report⟩]) where
  fed := by
    rw [hy]
    exact h.fed.submit ⟨q, x.state.report⟩
  told := by
    have htrace : y.state.trace = x.state.trace ++ [.scheduled q.id x.state.report] := by
      rw [hy]
      rfl
    rw [htrace, handOuts_append, ← h.told, List.map_append]
    rfl
  given t ht := by
    rcases List.mem_append.mp ht with ht | ht
    · exact h.given t ht
    · rw [List.mem_singleton.mp ht]
      exact hq

/-- What the workers are asked for when the watchdog has struck. -/
theorem Workers.Fed.stall {rest : List Declaration} {d : Declaration}
    (h : w.Fed s tasks x.state.workers) (hstall : Stall w x y d rest) :
    w.Fed s tasks y.state.workers := by
  have hjoined : w.Fed s tasks (joined w x d.probe) := h.await.awaitOne d.probe
  obtain ⟨s', hwaits, ⟨a, hc⟩ | rfl⟩ := hstall.workers
  · exact (hjoined.collect hc).waits hwaits
  · exact (hjoined.kill d.probe).waits hwaits

theorem Stall.handOuts_eq {rest : List Declaration} {d : Declaration}
    (h : Stall w x y d rest) : handOuts y.state.trace = handOuts x.state.trace := by
  -- Either way the trace goes on by how the task has ended and what comes of that.
  have hsettles : ∃ e result, e.handOut? = none
      ∧ Settles x y d (stallEvents w x d.probe ++ [e]) result := by
    cases hout : w.outcome? (joined w x d.probe) d.probe with
    | some a => exact ⟨_, _, rfl, h.ended a hout⟩
    | none =>
        obtain ⟨age, result, -, -, hsettles⟩ := h.killed hout
        exact ⟨_, _, rfl, hsettles⟩
  obtain ⟨e, result, he, hsettles⟩ := hsettles
  rw [hsettles.handOuts_eq, handOuts_append_of_forall (List.forall_mem_singleton.mpr he),
    handOuts_stallEvents]

/-- **The workers of a scan are handed the tasks that were told of**, and no others. -/
theorem Passes.handed (h : Passes w target probes s x) :
    ∃ tasks, x.Handed w probes s tasks := by
  induction h with
  | refl => exact ⟨[], .start, rfl, List.forall_mem_nil _⟩
  | @tail x y hreach hstep ih =>
      obtain ⟨tasks, hx⟩ := ih
      cases turn_of_next hstep with
      | rest es hes hworkers _ htrace =>
          refine ⟨tasks, hx.stay (hx.fed.waits hworkers) ?_⟩
          rw [htrace]
          exact handOuts_append_of_forall fun e he => Event.handOut?_of_concernsTask (hes e he)
      | hand q hq hy =>
          have hfine := (move_of_next (Passes.orderly hreach) hstep).stage_ne
          exact ⟨_, hx.hand ((Passes.given hreach hfine).1 q hq) hy⟩
      | collect d e a b s' hcollect =>
          refine ⟨tasks, hx.stay ((hx.fed.collect hcollect.collected).waits hcollect.workers) ?_⟩
          rw [hcollect.settles.handOuts_eq]
          exact handOuts_append_of_forall (List.forall_mem_singleton.mpr rfl)
      | stall d rest hstall =>
          exact ⟨tasks, hx.stay (hx.fed.stall hstall) hstall.handOuts_eq⟩

/-! ## How tasks end -/

/-- What is claimed of an ending: the task was handed out before, and can end like this on the
report that was told of then. -/
def EndingSound (probes : List (Probe β)) (ends : Task β → Ending → Prop) (pre : List Event) :
    Event → Prop
  | .ended p a => ∃ t : Task β, t.probe ∈ probes ∧ t.probe.id = p
      ∧ .scheduled p t.snapshot ∈ pre ∧ ends t a
  | _ => True

variable {ends : Task β → Ending → Prop}

theorem endingSound_of_concernsTask {e : Event} (he : e.concernsTask = false)
    (pre : List Event) : EndingSound probes ends pre e := by
  cases e <;> trivial

theorem endingSound_of_isClosing {e : Event} (he : e.isClosing = true) (pre : List Event) :
    EndingSound probes ends pre e := by
  cases e <;> trivial

/-- What is collected is as claimed. -/
theorem Workers.Obeys.endingSound (hobeys : w.Obeys s ends) (hx : x.Handed w probes s tasks)
    {s' s'' : σ} {p : ProbeId} {a : Ending} (hfed : w.Fed s tasks s')
    (hc : w.collect? s' p = some (a, s'')) {pre : List Event}
    (hpre : handOuts pre = handOuts x.state.trace) :
    EndingSound probes ends pre (.ended p a) := by
  obtain ⟨t, ht, rfl, hends⟩ := hobeys _ _ _ _ _ hfed hc
  refine ⟨t, hx.given t ht, rfl, ?_, hends⟩
  rw [← mem_handOuts, hpre, ← hx.told]
  exact List.mem_map_of_mem ht

/-- **Whoever ends does so as it can** on the report that it was handed out with. -/
theorem Passes.endings (h : Passes w target probes s x) (hobeys : w.Obeys s ends) :
    Along (EndingSound probes ends) x.state.trace := by
  induction h with
  | refl => exact Along.nil.concat trivial
  | @tail x y hreach hstep ih =>
      obtain ⟨tasks, hx⟩ := Passes.handed hreach
      cases turn_of_next hstep with
      | rest es hes _ _ htrace =>
          rw [htrace]
          exact ih.append fun e he pre => endingSound_of_concernsTask (hes e he) pre
      | hand q hq hy =>
          rw [hy]
          exact ih.concat trivial
      | collect d e a b s' hcollect =>
          have hended := hobeys.endingSound hx hx.fed hcollect.collected rfl
          exact (ih.concat hended).settles hcollect.settles endingSound_of_isClosing
      | stall d rest hstall =>
          have hjoined : w.Fed s tasks (joined w x d.probe) := hx.fed.await.awaitOne d.probe
          have hevents : Along (EndingSound probes ends) (stallEvents w x d.probe) := by
            refine ih.append fun e he pre => ?_
            cases e with
            | ended p a => simp at he
            | _ => trivial
          cases hc : w.collect? (joined w x d.probe) d.probe with
          | some r =>
              obtain ⟨a, s'⟩ := r
              have hended := hobeys.endingSound hx hjoined hc
                (handOuts_stallEvents w x d.probe)
              exact (hevents.concat hended).settles
                (hstall.ended a (Workers.outcome?_of_collect? hc)) endingSound_of_isClosing
          | none =>
              have hout : w.outcome? (joined w x d.probe) d.probe = none := by
                rw [Workers.outcome?, hc]
                rfl
              obtain ⟨age, result, -, -, hsettles⟩ := hstall.killed hout
              have hkilled : EndingSound probes ends (stallEvents w x d.probe)
                  (.killed d.probe age) := trivial
              exact (hevents.concat hkilled).settles hsettles endingSound_of_isClosing

end

/-! ## Workers in virtual time -/

namespace VirtualTime

variable {ε : Type}

/-- **How a task can end** in virtual time: as its work does, which can read the report that it
was handed out with, and no other one. -/
def Ends (e : Surroundings ε) (t : Task (Work ε)) (a : Ending) : Prop :=
  ∃ engine, (t.probe.work.run ⟨e.target, e.config, t.snapshot, e.engine⟩ engine).1 = a

/-- **All that there is comes from tasks that were handed out**: the jobs, and what has ended. -/
structure Loaded (e : Surroundings ε) (tasks : List (Task (Work ε))) (s : VirtualTime ε) :
    Prop where
  jobs : ∀ t ∈ s.pool.all.map Job.task, t ∈ tasks
  ended : ∀ x ∈ s.ended, ∃ t ∈ tasks, t.probe.id = x.1 ∧ Ends e t x.2

section
variable {e : Surroundings ε} {tasks : List (Task (Work ε))} {s s' : VirtualTime ε}

/-- Jobs may go, and the clock may go on. -/
theorem Loaded.mono (h : Loaded e tasks s)
    (hjobs : ∀ t ∈ s'.pool.all.map Job.task, t ∈ s.pool.all.map Job.task)
    (hended : ∀ x ∈ s'.ended, x ∈ s.ended) : Loaded e tasks s' :=
  ⟨fun t ht => h.jobs t (hjobs t ht), fun x hx => h.ended x (hended x hx)⟩

theorem Loaded.foldl_finish (h : Loaded e tasks s) {l : List (Job ε)}
    (hl : ∀ j ∈ l, j.task ∈ tasks) : Loaded e tasks (l.foldl (finish e) s) := by
  induction l generalizing s with
  | nil => exact h
  | cons j l ih =>
      obtain ⟨hj, hrest⟩ := List.forall_mem_cons.mp hl
      refine ih ⟨h.jobs, fun x hx => ?_⟩ hrest
      rcases List.mem_append.mp hx with hx | hx
      · exact h.ended x hx
      · rw [List.mem_singleton.mp hx]
        exact ⟨j.task, hj, rfl, s.engine, rfl⟩

theorem Loaded.endDue (h : Loaded e tasks s) : Loaded e tasks (endDue e s) := by
  have hsub : ∀ t ∈ (s.pool.release fun j => !j.isDue s.now).all.map Job.task,
      t ∈ s.pool.all.map Job.task := by
    refine fun t ht => List.Sublist.subset (List.Sublist.map _ ?_) ht
    exact List.filter_sublist.append (List.Sublist.refl _)
  have hreleased : Loaded e tasks { s with pool := s.pool.release fun j => !j.isDue s.now } :=
    h.mono hsub fun x hx => hx
  refine hreleased.foldl_finish fun j hj => ?_
  exact h.jobs _ (List.mem_map_of_mem
    (List.mem_append_left _ (List.mem_filter.mp hj).1))

theorem Loaded.settle (h : Loaded e tasks s) : Loaded e tasks (settle e s) := by
  fun_induction VirtualTime.settle e s with
  | case1 => exact h
  | case2 s j pool htake ih =>
      have hmark : ∀ j : Job ε, (Job.takenUp s.now j).task = j.task := fun _ => rfl
      have hsame : pool.all.map Job.task = s.pool.all.map Job.task :=
        Pool.all_of_takeUp? hmark htake
      exact ih (Loaded.endDue (h.mono (fun t ht => hsame ▸ ht) fun x hx => hx))

theorem Loaded.passUntil (h : Loaded e tasks s) (done : VirtualTime ε → Bool) (limit : Nat) :
    Loaded e tasks (passUntil e done limit s) := by
  fun_induction VirtualTime.passUntil e done limit s with
  | case1 => exact h
  | case2 s _ t _ _ ih =>
      have hlater : Loaded e tasks { s with now := max s.now t } := ⟨h.jobs, h.ended⟩
      exact ih hlater.endDue.settle
  | case3 => exact ⟨h.jobs, h.ended⟩
  | case4 => exact ⟨h.jobs, h.ended⟩

theorem Loaded.submit (h : Loaded e tasks s) (t : Task (Work ε)) :
    Loaded e (tasks ++ [t]) ((workers e).submit s t) where
  jobs t' ht' := by
    have hall : ((workers e).submit s t).pool.all.map Job.task
        = s.pool.all.map Job.task ++ [t] := by
      show (s.pool.submit _).all.map Job.task = _
      rw [Pool.all_submit, List.map_append]
      rfl
    rw [hall] at ht'
    rcases List.mem_append.mp ht' with ht' | ht'
    · exact List.mem_append_left _ (h.jobs t' ht')
    · exact List.mem_append_right _ ht'
  ended x hx := by
    obtain ⟨t', ht', hends⟩ := h.ended x hx
    exact ⟨t', List.mem_append_left _ ht', hends⟩

/-- **Whatever workers are asked for, all comes from the tasks that they were handed.** -/
theorem loaded_of_fed {threads : Nat} {engine : ε}
    (h : (workers e).Fed (start threads engine) tasks s) : Loaded e tasks s := by
  induction h with
  | start => exact ⟨List.forall_mem_nil _, List.forall_mem_nil _⟩
  | submit _ t ih => exact ih.submit t
  | @await tasks s _ ih =>
      have hawait : Loaded e tasks (VirtualTime.await e s) := by
        unfold VirtualTime.await
        split
        · exact ih.settle.passUntil _ _
        · exact ih
      exact ⟨hawait.jobs, hawait.ended⟩
  | @awaitOne _ s _ p ih =>
      have hawait := ih.settle.passUntil (hasEnded p) (forceJoinAt e s)
      exact ⟨hawait.jobs, hawait.ended⟩
  | collect _ hc ih =>
      obtain ⟨x, -, heq⟩ := Option.map_eq_some_iff.mp hc
      cases heq
      exact ih.mono (fun t ht => ht) fun x hx => (List.mem_filter.mp hx).1
  | @kill _ s _ p ih =>
      refine ih.mono (fun t ht => ?_) fun x hx => hx
      have hall : ((workers e).kill s p).pool.all = s.pool.all.filter fun j => j.id ≠ p :=
        Pool.all_drop ..
      rw [hall] at ht
      exact List.Sublist.subset (List.filter_sublist.map _) ht
  | restartWatchdog _ ih => exact ⟨ih.jobs, ih.ended⟩

end

/-- **Probes work on the report that they were handed out with.** -/
theorem obeys (e : Surroundings ε) (threads : Nat) (engine : ε) :
    (workers e).Obeys (start threads engine) (Ends e) := by
  intro tasks s p a s' hfed hc
  obtain ⟨x, hfind, heq⟩ := Option.map_eq_some_iff.mp hc
  cases heq
  obtain ⟨t, ht, hid, hends⟩ := (loaded_of_fed hfed).ended x (List.mem_of_find?_eq_some hfind)
  refine ⟨t, ht, hid.trans ?_, hends⟩
  simpa using List.find?_some hfind

end VirtualTime

end TlsScan.Scan
