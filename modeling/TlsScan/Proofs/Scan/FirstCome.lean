import TlsScan.Proofs.Scan.Capacity
import TlsScan.Proofs.Scan.LifeCycle
import TlsScan.Proofs.Scan.Places
import TlsScan.Proofs.Scan.Stalls

/-!
# The coordinator and the places

The coordinator looks after the first task of its list when nothing has ended for too long.
It knows nothing of places, and the workers know nothing of its list.  That the first task of
the list has a place all the same follows from what both sides do with tasks, told as one
timeline: the list holds what was handed out and not taken over, and when nothing is left to
be taken over, those are the tasks that are present, in the order in which places are given.

## Main Definitions

* `Scan.incidents` — what the events of a scan tell of its tasks.
* `Scan.Backs` — a timeline bears out what was told.
* `Scan.Coordinator.Recorded` — a timeline by which a coordinator and its workers can have got
  to where they are.
* `Scan.ServesInOrder`, `Scan.Run.ServedInOrder` — what is claimed of a timeline, and of what a
  scan comes to.

## Main Results

* `Scan.Coordinator.Recorded.oldest_executed` — the watchdog strikes for a task that has a
  place.
* `Scan.Passes.recorded` — every point of a scan is recorded.
* `Scan.first_come_first_served` — the whole scan.
* `Scan.execute_servedInOrder`, `Scan.perform_servedInOrder`,
  `Scan.performArguments_servedInOrder` — a scan with the pool that its configuration asks for.
-/

namespace TlsScan.Scan

open Timeline

/-! ## What is told -/

/-- What an event tells of a task. -/
def Event.incident? : Event → Option Incident
  | .scheduled p _ => some (.submitted p)
  | .activity (.started p) => some (.started p)
  | .stalled p _ => some (.joined p)
  | .ended p _ => some (.collected p)
  | .killed p _ => some (.stopped p)
  | _ => none

/-- **What the events of a scan tell of its tasks.** -/
def incidents (trace : List Event) : Timeline := trace.filterMap Event.incident?

theorem incidents_append (l m : List Event) : incidents (l ++ m) = incidents l ++ incidents m :=
  List.filterMap_append

theorem starts_append_started (h : Timeline) (l : List ProbeId) :
    starts (h ++ l.map .started) = starts h ++ l := by
  rw [starts, List.filterMap_append, List.filterMap_map]
  exact congrArg (starts h ++ ·) List.filterMap_some

theorem incidents_activities (l : List Activity) :
    incidents (l.map .activity) = (l.filterMap Activity.start?).map .started := by
  induction l with
  | nil => rfl
  | cons a l ih =>
      cases a with
      | started p => exact congrArg (.started p :: ·) ih
      | noted entry => exact ih

/-- If the watchdog strikes, it is for a task that is executed. -/
def ForExecuted (h : Timeline) (i : Incident) : Prop :=
  ∀ p, i.strike? = some p → p ∈ executing h

/-- If the watchdog strikes, it is for a task that has started. -/
def ForStarted (h : Timeline) (i : Incident) : Prop :=
  ∀ p, i.strike? = some p → .started p ∈ h

/-- **A timeline bears out what was told**: it has all that the coordinator did, in order.  The
watchdog strikes only for tasks that are executed then, and that were told to have started. -/
structure Backs (limit : Nat) (h told : Timeline) : Prop where
  lawful : Lawful limit h
  same : h.filter (!·.isOwn) = told.filter (!·.isOwn)
  executed : Throughout ForExecuted h
  started : Throughout ForStarted told

section
variable {limit : Nat} {h h' told : Timeline} {i : Incident}

theorem forExecuted_of_isOwn (hown : i.isOwn = true) : ForExecuted h i := by
  intro p hs
  cases i <;> cases hown <;> cases hs

/-- The workers go on, and tell of some starts. -/
theorem Backs.proceed (hb : Backs limit h told) (hp : Proceeds limit h h') (l : List ProbeId) :
    Backs limit h' (told ++ l.map .started) where
  lawful := hp.lawful hb.lawful
  same := by
    have hstarts : (l.map Incident.started).filter (!·.isOwn) = [] := by
      simp [Incident.isOwn]
    rw [hp.filter_isOwn, hb.same, List.filter_append, hstarts, List.append_nil]
  executed := hp.throughout (fun _ _ hi _ => forExecuted_of_isOwn hi) hb.executed
  started := hb.started.append fun i hi _ p hs => by
    obtain ⟨q, -, rfl⟩ := List.mem_map.mp hi
    cases hs

/-- The coordinator does something, and tells of it. -/
theorem Backs.concat (hb : Backs limit h told) (hi : Allowed limit h i)
    (hexecuted : ForExecuted h i) (hstarted : ForStarted told i) :
    Backs limit (h ++ [i]) (told ++ [i]) where
  lawful := lawful_concat.mpr ⟨hb.lawful, hi⟩
  same := by rw [List.filter_append, List.filter_append, hb.same]
  executed := throughout_concat.mpr ⟨hb.executed, hexecuted⟩
  started := throughout_concat.mpr ⟨hb.started, hstarted⟩

/-- Nothing bears out that nothing was told. -/
theorem backs_nil (limit : Nat) : Backs limit [] [] :=
  ⟨throughout_nil, rfl, throughout_nil, throughout_nil⟩

/-- What the coordinator did is what it told of. -/
theorem Backs.mem_iff (hb : Backs limit h told) (hown : i.isOwn = false) : i ∈ h ↔ i ∈ told :=
  mem_iff_of_filter_isOwn hb.same hown

end

/-! ## The coordinator -/

namespace Coordinator

variable {β σ : Type} {w : Workers β σ} {limit : Nat}

/-- **A timeline by which a coordinator and its workers can have got to where they are.** -/
structure Recorded (S : w.Semaphore limit) (c : Coordinator β σ) (h : Timeline) : Prop where
  backs : Backs limit h (incidents c.trace)
  past : S.Past c.workers (starts (incidents c.trace)) h
  running : c.running.map (·.probe) = held h

theorem incidents_record (c : Coordinator β σ) {e : Event} (he : e.incident? = none) :
    incidents (c.record e).trace = incidents c.trace := by
  show incidents (c.trace ++ [e]) = _
  rw [incidents_append, incidents, incidents, List.filterMap_cons_none he, List.filterMap_nil,
    List.append_nil]

/-- **The workers go on by themselves**, and tell of some starts. -/
theorem backs_pass {c : Coordinator β σ} {h h' : Timeline}
    (hb : Backs limit h (incidents c.trace)) (hp : Proceeds limit h h')
    (step : List Activity × σ) :
    Backs limit h' (incidents (c.pass step).trace)
      ∧ starts (incidents (c.pass step).trace)
        = starts (incidents c.trace) ++ step.1.filterMap Activity.start? := by
  have htrace : incidents (c.pass step).trace
      = incidents c.trace ++ (step.1.filterMap Activity.start?).map .started := by
    rw [← incidents_activities]
    exact incidents_append ..
  rw [htrace]
  exact ⟨hb.proceed hp _, starts_append_started ..⟩

section
variable {S : w.Semaphore limit} {c : Coordinator β σ} {h : Timeline}

/-- Nothing happens to a task. -/
theorem Recorded.rest (hc : c.Recorded S h) {c' : Coordinator β σ}
    (hworkers : c'.workers = c.workers) (hrunning : c'.running = c.running)
    (htrace : incidents c'.trace = incidents c.trace) : c'.Recorded S h where
  backs := htrace ▸ hc.backs
  past := by
    rw [hworkers, htrace]
    exact hc.past
  running := hrunning ▸ hc.running

theorem Recorded.note (hc : c.Recorded S h) {e : Event} (he : e.incident? = none) :
    (c.record e).Recorded S h :=
  hc.rest rfl rfl (incidents_record c he)

theorem Recorded.merge (hc : c.Recorded S h) (d : Declaration) (r : ProbeResult) :
    (c.merge d r).1.Recorded S h := by
  rcases c.merge_cases d r with ⟨r', rec, -, -, heq⟩ | ⟨fault, -, heq⟩
  · rw [heq]
    exact (hc.note (e := .finished d.probe r rec.status) rfl).rest rfl rfl rfl
  · rw [heq]
    exact hc

/-- The coordinator and its workers start the watchdog anew. -/
theorem Recorded.rewatch (hc : c.Recorded S h) : ∃ h', (c.rewatch w).Recorded S h' := by
  obtain ⟨h', hp, hpast⟩ := S.restartWatchdog hc.past
  have hbacks := hc.backs.proceed hp []
  rw [List.map_nil, List.append_nil] at hbacks
  exact ⟨h', hbacks, hpast, hc.running.trans hp.held_eq.symm⟩

/-- **The coordinator does something with a task, and the workers go on by themselves.** -/
theorem Recorded.concat (hc : c.Recorded S h) {i : Incident} (hown : i.isOwn = false)
    (hi : Allowed limit h i) (hexecuted : ForExecuted h i)
    (hstarted : ForStarted (incidents c.trace) i) {h' : Timeline} {c' : Coordinator β σ}
    (hp : Proceeds limit (h ++ [i]) h')
    (htrace : incidents c'.trace = incidents c.trace ++ [i])
    (hpast : S.Past c'.workers (starts (incidents c.trace)) h')
    (hrunning : c'.running.map (·.probe) = held (h ++ [i])) : c'.Recorded S h' where
  backs := by
    have hbacks := (hc.backs.concat hi hexecuted hstarted).proceed hp []
    rwa [List.map_nil, List.append_nil, ← htrace] at hbacks
  past := by
    have hsame : starts (incidents c'.trace) = starts (incidents c.trace) := by
      rw [htrace]
      exact starts_concat (by cases i <;> first | rfl | cases hown)
    rw [hsame]
    exact hpast
  running := hrunning.trans hp.held_eq.symm

theorem Recorded.submit (hc : c.Recorded S h) (p : Probe β) (hp : .submitted p.id ∉ h) :
    ∃ h', (c.submit w p).Recorded S h' := by
  obtain ⟨h', hproceeds, hpast⟩ := S.submit ⟨p, c.report⟩ hc.past hp
  refine ⟨h', hc.concat (i := .submitted p.id) rfl hp nofun nofun hproceeds ?_ hpast ?_⟩
  · exact incidents_append ..
  · rw [hc.backs.lawful.held_submitted hp, ← hc.running]
    exact List.map_append

/-- **A task is collected**, and leaves the list. -/
theorem Recorded.collect (hc : c.Recorded S h) {a b : List Declaration} {d : Declaration}
    {e : Ending} {s : σ} (hsplit : c.running = a ++ d :: b)
    (hcollect : w.collect? c.workers d.probe = some (e, s)) :
    ∃ h', ({ c with running := a ++ b, workers := s }.record (.ended d.probe e)).Recorded S h' := by
  have hatHand : d.probe ∈ atHand h := by
    rw [← S.outcome d.probe hc.past, Workers.outcome?_of_collect? hcollect]
    rfl
  have hheld := hc.running
  rw [hsplit, List.map_append, List.map_cons] at hheld
  obtain ⟨h', hproceeds, hpast⟩ := S.collect hc.past hcollect
  refine ⟨h', hc.concat (i := .collected d.probe) rfl hatHand nofun nofun hproceeds
    (incidents_append ..) hpast ?_⟩
  rw [hc.backs.lawful.held_concat hheld.symm rfl rfl]
  exact List.map_append

/-- **A task is stopped that is executed**, and leaves the list. -/
theorem Recorded.kill (hc : c.Recorded S h) {d : Declaration} {rest : List Declaration}
    (hsplit : c.running = d :: rest) (hexecuted : d.probe ∈ executing h)
    (hstarted : .started d.probe ∈ incidents c.trace) (age : String) :
    ∃ h', ({ c with running := rest, workers := w.kill c.workers d.probe }.record
      (.killed d.probe age)).Recorded S h' := by
  have hpresent : d.probe ∈ present h := hc.backs.lawful.executing_initial.subset hexecuted
  have hheld := hc.running
  rw [hsplit, List.map_cons] at hheld
  obtain ⟨h', hproceeds, hpast⟩ := S.kill d.probe hc.past hpresent
  refine ⟨h', hc.concat (i := .stopped d.probe) rfl hpresent ?_ ?_ hproceeds
    (incidents_append ..) hpast ?_⟩
  · rintro p ⟨⟩
    exact hexecuted
  · rintro p ⟨⟩
    exact hstarted
  · rw [hc.backs.lawful.held_concat (l := []) hheld.symm rfl rfl]
    rfl

/-- **A wait.**  Afterwards all starts have been told of, and no place is free that someone
waits for, unless there is something to be collected. -/
theorem Recorded.await (hc : c.Recorded S h) : ∃ h', (c.waited w).Recorded S h'
    ∧ starts h' = starts (incidents (c.waited w).trace)
    ∧ (Saturated limit h' ∨ atHand h' ≠ []) := by
  obtain ⟨h', hp, hpast, hstarts, hsaturated⟩ := S.await hc.past
  obtain ⟨hbacks, htold⟩ := backs_pass hc.backs hp (w.await c.workers)
  rw [← htold] at hpast hstarts
  have hpass : (c.pass (w.await c.workers)).Recorded S h' :=
    ⟨hbacks, hpast, hc.running.trans hp.held_eq.symm⟩
  refine ⟨h', hpass.note (e := .waited) rfl, ?_, hsaturated⟩
  rw [Coordinator.waited, incidents_record _ rfl]
  exact hstarts

/-- **A task is waited for alone that is executed.**  It goes on, or it can be collected. -/
theorem Recorded.join (hc : c.Recorded S h) {p : ProbeId} (hexecuted : p ∈ executing h)
    (hstarted : .started p ∈ incidents c.trace) (age : String) :
    ∃ h', ((c.record (.stalled p age)).pass (w.awaitOne c.workers p)).Recorded S h'
      ∧ .started p ∈ incidents
        ((c.record (.stalled p age)).pass (w.awaitOne c.workers p)).trace
      ∧ (p ∈ executing h' ∨ p ∈ atHand h') := by
  obtain ⟨h', hp, hpast⟩ := S.awaitOne p hc.past
  have hrecord : incidents (c.record (.stalled p age)).trace
      = incidents c.trace ++ [.joined p] := incidents_append ..
  have hjoined : Backs limit (h ++ [.joined p]) (incidents (c.record (.stalled p age)).trace) := by
    rw [hrecord]
    refine hc.backs.concat trivial ?_ ?_
    · rintro q ⟨⟩
      exact hexecuted
    · rintro q ⟨⟩
      exact hstarted
  obtain ⟨hbacks, htold⟩ := backs_pass hjoined hp (w.awaitOne c.workers p)
  rw [hrecord, starts_concat rfl] at htold
  rw [← htold] at hpast
  have hgrown : incidents c.trace
      <+: incidents ((c.record (.stalled p age)).pass (w.awaitOne c.workers p)).trace :=
    ((List.prefix_append ..).trans (List.prefix_append ..)).filterMap _
  have hheld : held (h ++ [.joined p]) = held h := standing_concat rfl rfl
  exact ⟨h', ⟨hbacks, hpast, (hc.running.trans hheld.symm).trans hp.held_eq.symm⟩,
    hgrown.subset hstarted, hc.backs.lawful.executing_or_atHand hexecuted hp⟩

/-- When nothing on the list can be collected, there is nothing to be collected at all. -/
theorem Recorded.atHand_eq_nil (hc : c.Recorded S h)
    (hquiet : w.collectFirst? c.workers c.running = none) : atHand h = [] := by
  refine List.eq_nil_iff_forall_not_mem.mpr fun p hp => ?_
  have hheld := hc.backs.lawful.held_of_atHand hp
  rw [← hc.running] at hheld
  obtain ⟨d, hd, rfl⟩ := List.mem_map.mp hheld
  rw [← S.outcome _ hc.past, Workers.collectFirst?_eq_none_iff.mp hquiet d hd] at hp
  cases hp

/-- **Then the first task of the list has a place**, as those on the list are those that are
present. -/
theorem Recorded.oldest_executed (hc : c.Recorded S h) (hpos : 0 < limit)
    (hquiet : w.collectFirst? c.workers c.running = none)
    (hsaturated : Saturated limit h ∨ atHand h ≠ []) {d : Declaration}
    {rest : List Declaration} (hr : c.running = d :: rest) : d.probe ∈ executing h := by
  have hlawful := hc.backs.lawful
  have hnone := hc.atHand_eq_nil hquiet
  have hhead : (present h).head? = some d.probe := by
    rw [← hlawful.held_eq_present hnone, ← hc.running, hr]
    rfl
  rcases hsaturated with hsaturated | hsome
  · exact hlawful.head_executing hsaturated hpos hhead
  · exact absurd hnone hsome

/-- **The watchdog strikes for a task that has a place**, and was said to have one. -/
theorem Recorded.breakStall (hc : c.Recorded S h) (hpos : 0 < limit)
    (hquiet : w.collectFirst? c.workers c.running = none)
    (hstarts : starts h = starts (incidents c.trace))
    (hsaturated : Saturated limit h ∨ atHand h ≠ []) :
    ∃ h', (c.breakStall w).1.Recorded S h' := by
  cases hr : c.running with
  | nil =>
      refine ⟨h, ?_⟩
      rw [Coordinator.breakStall, hr]
      exact hc
  | cons d rest =>
      have hexecuted := hc.oldest_executed hpos hquiet hsaturated hr
      have hstarted : .started d.probe ∈ incidents c.trace := by
        have hmem : d.probe ∈ starts h := mem_starts.mpr (mem_executing.mp hexecuted).1
        rw [hstarts] at hmem
        exact mem_starts.mp hmem
      obtain ⟨h', hjoined, hstarted', hor⟩ :=
        hc.join hexecuted hstarted (w.age c.workers d.probe)
      rw [breakStall_eq hr]
      cases hcollect : w.collect? (c.joined w d rest).workers d.probe with
      | some x =>
          obtain ⟨e, s⟩ := x
          obtain ⟨h'', hcollected⟩ := hjoined.collect (a := []) (b := rest) hr hcollect
          exact ⟨h'', hcollected.merge d _⟩
      | none =>
          -- It has not ended, so it is executed still.
          have hnot : d.probe ∉ atHand h' := by
            rw [← S.outcome _ hjoined.past]
            show ¬ ((w.collect? (c.joined w d rest).workers d.probe).map _).isSome = true
            rw [hcollect]
            exact Bool.false_ne_true
          obtain ⟨h'', hkilled⟩ := hjoined.kill hr (hor.resolve_right hnot) hstarted' _
          exact ⟨h'', hkilled.merge d _⟩

end

end Coordinator

/-! ## The whole scan -/

section
variable {β σ : Type} {w : Workers β σ} {limit : Nat} {S : w.Semaphore limit} {x y : Point β σ}

/-- **Every step is recorded**, if no probe is handed out that was handed out before. -/
theorem recorded_next (hpos : 0 < limit) (h : x.next w = some y)
    (hnew : ∀ p l, x.phase = .handing (p :: l) → .submitted p.id ∉ incidents x.state.trace)
    (hx : ∃ t, x.state.Recorded S t) : ∃ t, y.state.Recorded S t := by
  obtain ⟨phase, c⟩ := x
  obtain ⟨t, hx⟩ := hx
  have hafter : ∀ {phase : Phase β} {r : Coordinator β σ × Option ScanError},
      (∃ t, r.1.Recorded S t) → ∃ t, (Point.after w phase r).state.Recorded S t := by
    rintro phase ⟨c, _ | e⟩ ⟨t, hr⟩
    · exact ⟨t, hr⟩
    · obtain ⟨t', hr'⟩ := hr.rewatch
      exact ⟨t', hr'.note rfl⟩
  cases phase with
  | scheduling => cases h; exact ⟨t, hx.rest rfl rfl rfl⟩
  | handing l =>
      cases l with
      | nil =>
          simp only [Point.next] at h
          split at h <;> cases h
          · refine ⟨t, ?_⟩
            show c.leave.Recorded S t
            unfold Coordinator.leave
            split
            · exact hx
            · exact (hx.note (e := .leftOver (c.pending.map Probe.id)) rfl).rest rfl rfl rfl
          · exact ⟨t, hx⟩
      | cons p l =>
          cases h
          exact hx.submit p (mt (hx.backs.mem_iff rfl).mp (hnew p l rfl))
  | waiting =>
      obtain ⟨t', hwaited, hstarts, hsaturated⟩ := hx.await
      simp only [Point.next] at h
      split at h <;> cases h
      · exact ⟨t', hwaited⟩
      · rename_i hquiet
        exact hafter (hwaited.breakStall hpos (Option.not_isSome_iff_eq_none.mp hquiet) hstarts
          hsaturated)
  | merging =>
      simp only [Point.next] at h
      split at h <;> cases h
      · exact ⟨t, hx⟩
      · rename_i d e rest s hs
        obtain ⟨a, b, hsplit, rfl, hcollect⟩ := Workers.collectFirst?_eq_some hs
        obtain ⟨t', hcollected⟩ := hx.collect hsplit hcollect
        exact hafter ⟨t', hcollected.merge d _⟩
  | renewing => cases h; exact hx.rewatch
  | draining l =>
      cases l with
      | nil =>
          cases h
          have hfinished : { c with report := c.report.markFinished (w.now c.workers) }.Recorded
              S t := hx.rest rfl rfl rfl
          exact ⟨t, hfinished.note (e := .completed _ _ _) rfl⟩
      | cons p l =>
          cases h
          refine ⟨t, ?_⟩
          unfold Point.substitute
          split
          · exact hx
          · rename_i report _
            exact (hx.note (e := .notExecuted p.id (p.substitute c.report)
              (reasonIn report p.id)) rfl).rest rfl rfl rfl
  | stopped fault => cases h

variable {target : String} {probes : List (Probe β)} {s : σ}

/-- A probe that is about to be handed out was not handed out before. -/
theorem Passes.not_submitted (h : Passes w target probes s x)
    (hnodup : (probes.map Probe.id).Nodup) {p : Probe β} {l : List (Probe β)}
    (hphase : x.phase = .handing (p :: l)) : .submitted p.id ∉ incidents x.state.trace := by
  have hstage : x.stage ≠ .failed := by
    rw [Point.stage, hphase]
    exact Stage.noConfusion
  have hmem : p.id ∈ x.unscheduled.map Probe.id := by
    rw [Point.unscheduled, hphase]
    exact List.mem_cons_self
  obtain ⟨hrunning, hmerged⟩ := ((h.accounted hstage).apart hnodup).1 _ hmem
  -- Nobody has been told of it.
  have hlife := (h.lives hnodup hstage p.id).neither hrunning hmerged
  intro hsubmitted
  obtain ⟨e, he, heq⟩ := List.mem_filterMap.mp hsubmitted
  obtain ⟨snapshot, rfl⟩ : ∃ snapshot, e = .scheduled p.id snapshot := by
    cases e with
    | scheduled q snapshot => cases heq; exact ⟨snapshot, rfl⟩
    | activity a => cases a <;> cases heq
    | _ => cases heq
  have htold : Progress.scheduled p.id ∈ x.life p.id :=
    List.mem_filter.mpr ⟨List.mem_filterMap.mpr ⟨_, he, rfl⟩, decide_eq_true rfl⟩
  rw [hlife] at htold
  cases htold

/-- **Every point of a scan is recorded.** -/
theorem Passes.recorded (h : Passes w target probes s x) (hnodup : (probes.map Probe.id).Nodup)
    (hpos : 0 < limit) (hs : S.Past s [] []) : ∃ t, x.state.Recorded S t := by
  induction h with
  | refl => exact ⟨[], backs_nil limit, hs, rfl⟩
  | tail hreach hstep ih =>
      exact recorded_next hpos hstep (fun p l => Passes.not_submitted hreach hnodup) ih

/-- A scan that is admitted has a worker at least. -/
theorem threads_of_prepare {config : Config} {warnings : List LogEntry}
    (h : prepare config probes = .ok warnings) : 0 < config.threads.toNat := by
  refine Nat.pos_of_ne_zero fun hzero => ?_
  have hthreads : config.threads = 0 := UInt64.toNat_inj.mp hzero
  have hvalid : config.validate = .error (.config .noThreads) := by
    rw [Config.validate, Config.fault?, if_pos hthreads]
  rw [prepare, hvalid] at h
  cases h

/-- Whoever the watchdog strikes for was said to have started before. -/
theorem Backs.started_of_strike {h : Timeline} {trace pre post : List Event} {e : Event}
    {i : Incident} {p : ProbeId} (hb : Backs limit h (incidents trace))
    (htrace : trace = pre ++ e :: post) (he : e.incident? = some i) (hi : i.strike? = some p) :
    .activity (.started p) ∈ pre := by
  have hsplit : incidents trace = incidents pre ++ [i] ++ incidents post := by
    rw [htrace, incidents_append, List.append_assoc]
    exact congrArg (incidents pre ++ ·) (List.filterMap_cons_some he)
  have hstarted : .started p ∈ incidents pre :=
    hb.started _ i (hsplit ▸ List.prefix_append ..) p hi
  obtain ⟨a, ha, heq⟩ := List.mem_filterMap.mp hstarted
  cases a with
  | activity a =>
      cases a <;> cases heq
      exact ha
  | _ => cases heq

/-- There are two kinds of strikes. -/
theorem Backs.started_before {h : Timeline} {trace pre post : List Event} {p : ProbeId}
    {age : String} (hb : Backs limit h (incidents trace))
    (hor : trace = pre ++ .stalled p age :: post ∨ trace = pre ++ .killed p age :: post) :
    .activity (.started p) ∈ pre := by
  rcases hor with htrace | htrace
  · exact hb.started_of_strike htrace rfl rfl
  · exact hb.started_of_strike htrace rfl rfl

/-- **Places are given first come, first served**, and the watchdog respects it. -/
structure ServesInOrder (limit : Nat) (h : Timeline) : Prop where
  /-- At every moment no more tasks are executed than there are places. -/
  bounded : ∀ pre, pre <+: h → (executing pre).length ≤ limit
  /-- They are the first ones of those that are present, -/
  ordered : ∀ pre, pre <+: h → executing pre <+: present pre
  /-- as many as there are places, when none is free that someone waits for. -/
  filled : ∀ pre, pre <+: h → Saturated limit pre →
    executing pre = (present pre).take (min limit (present pre).length)
  /-- No time passes when one is. -/
  lapses : ∀ pre, pre ++ [.lapse] <+: h → Saturated limit pre
  /-- Whoever is waited for alone, or stopped, is executed at that moment. -/
  struck : ∀ pre p, pre ++ [.joined p] <+: h ∨ pre ++ [.stopped p] <+: h → p ∈ executing pre

theorem Backs.servesInOrder {h told : Timeline} (hb : Backs limit h told) :
    ServesInOrder limit h where
  bounded pre hpre := (hb.lawful.upTo hpre).executing_le
  ordered pre hpre := (hb.lawful.upTo hpre).executing_initial
  filled pre hpre hs := (hb.lawful.upTo hpre).executing_eq_take hs
  lapses pre hpre := hb.lawful pre .lapse hpre
  struck pre p hor := by
    rcases hor with hpre | hpre
    · exact hb.executed pre _ hpre p rfl
    · exact hb.executed pre _ hpre p rfl

/-- **First come, first served.**  Take a scan of probes that were admitted, with workers who
give as many places as there are threads to those that wait, in the order in which they were
handed out.  For every point that the scan passes there is a timeline by which it got there: it
has all that the coordinator did with tasks and all starts that were told of, and what it leaves
on the list of the coordinator is what runs.  At every moment of it no more tasks are executed
than there are threads, and they are the first ones of those that were handed out and have
neither ended nor been stopped.  They are exactly the first ones, as many as there are threads,
whenever no place is free that someone waits for, so whenever time passes.  The watchdog strikes
only for a task that is executed at that moment, and it was said to have started before. -/
theorem first_come_first_served {config : Config} {warnings : List LogEntry}
    (hprepare : prepare config probes = .ok warnings)
    (S : w.Semaphore config.threads.toNat) (hs : S.Past s [] []) :
    (∀ x, Passes w target probes s x → ∃ h : Timeline,
      S.Past x.state.workers (starts (incidents x.state.trace)) h
        ∧ Lawful config.threads.toNat h
        ∧ h.filter (!·.isOwn) = (incidents x.state.trace).filter (!·.isOwn)
        ∧ starts (incidents x.state.trace) <+: starts h
        ∧ x.running = held h
        ∧ ServesInOrder config.threads.toNat h)
      ∧ ∀ pre p age post,
        (runWith w target warnings probes s).1.trace = pre ++ .stalled p age :: post
            ∨ (runWith w target warnings probes s).1.trace = pre ++ .killed p age :: post →
          .activity (.started p) ∈ pre := by
  have hrecorded : ∀ {x}, Passes w target probes s x → ∃ t, x.state.Recorded S t := fun hx =>
    hx.recorded (nodup_of_prepare hprepare) (threads_of_prepare hprepare) hs
  constructor
  · intro x hx
    obtain ⟨h, hbacks, hpast, hrunning⟩ := hrecorded hx
    exact ⟨h, hpast, hbacks.lawful, hbacks.same, S.told hpast, hrunning, hbacks.servesInOrder⟩
  · intro pre p age post hor
    obtain ⟨h, hbacks, -, -⟩ := hrecorded (passes_final w target probes s)
    rw [trace_runWith] at hor
    exact hbacks.started_before hor

end

namespace Sample

/-- One thread only, so that there is one place for two tasks. -/
def narrow : Config := { threads := 1 }

/-- The surroundings of a scan with one thread. -/
def narrowSurroundings : Surroundings Unit := { surroundings with config := narrow }

/-- What the scan of the slow probes comes to with one thread. -/
def narrowRun : Run × VirtualTime Unit :=
  runWith (VirtualTime.workers narrowSurroundings) "sample" [] slow
    (.start narrow.threads.toNat ())

theorem prepare_narrow : prepare narrow slow = .ok [] := by
  have hwarnings : ProbeSet.warnings (slow.map Probe.declaration) = [] :=
    List.isEmpty_iff.mp (by decide +kernel)
  rw [prepare_of_validate rfl (check_of_prepare prepare_slow), if_neg (by decide), hwarnings]

end Sample

theorem first_come_first_served_sample :
    prepare Sample.narrow Sample.slow = .ok []
      ∧ (VirtualTime.semaphore Sample.narrowSurroundings Sample.narrow.threads.toNat).Past
        (.start Sample.narrow.threads.toNat ()) [] []
      ∧ (∃ h pre : Timeline, ServesInOrder 1 h ∧ pre ++ [.stopped .heartbleed] <+: h
        ∧ executing pre = [.heartbleed])
      ∧ ∃ pre age post, Sample.narrowRun.1.trace = pre ++ .killed .heartbleed age :: post
        ∧ .activity (.started .heartbleed) ∈ pre := by
  have hstart := VirtualTime.reached_start Sample.narrow.threads.toNat ()
  obtain ⟨hpoints, htold⟩ :=
    @first_come_first_served _ _ (VirtualTime.workers Sample.narrowSurroundings) "sample"
      Sample.slow _ _ _ Sample.prepare_narrow
      (VirtualTime.semaphore Sample.narrowSurroundings Sample.narrow.threads.toNat) hstart
  have hkilled : .stopped .heartbleed ∈ incidents Sample.narrowRun.1.trace := by decide +kernel
  refine ⟨Sample.prepare_narrow, hstart, ?_, ?_⟩
  · obtain ⟨h, -, -, hsame, -, -, hserves⟩ := hpoints _ (passes_final ..)
    have hmem : .stopped .heartbleed ∈ h := by
      rw [Sample.narrowRun, trace_runWith] at hkilled
      exact (mem_iff_of_filter_isOwn hsame rfl).mpr hkilled
    obtain ⟨pre, post, rfl⟩ := List.append_of_mem hmem
    have hpre : pre ++ [.stopped .heartbleed] <+: pre ++ .stopped .heartbleed :: post :=
      ⟨post, List.append_assoc ..⟩
    have hexecuted := hserves.struck pre .heartbleed (Or.inr hpre)
    -- There is one place only.
    have hle := hserves.bounded pre (List.prefix_append ..)
    obtain ⟨p, hp⟩ := List.length_eq_one_iff.mp
      (Nat.le_antisymm hle (List.length_pos_of_mem hexecuted))
    rw [hp, List.mem_singleton] at hexecuted
    exact ⟨_, pre, hserves, hpre, by rw [hp, hexecuted]⟩
  · obtain ⟨e, he, hincident⟩ := List.mem_filterMap.mp hkilled
    obtain ⟨pre, post, htrace⟩ := List.append_of_mem he
    obtain ⟨age, rfl⟩ : ∃ age, e = .killed .heartbleed age := by
      cases e with
      | killed q age => cases hincident; exact ⟨age, rfl⟩
      | activity a => cases a <;> cases hincident
      | _ => cases hincident
    exact ⟨pre, age, post, htrace, htold pre _ age post (Or.inr htrace)⟩

/-! ## Scans with a pool of their own -/

/-- **What is claimed of a whole scan** with so many places. -/
structure Run.ServedInOrder (limit : Nat) (r : Run) : Prop where
  /-- A timeline has all that the coordinator did, and all starts that were told of. -/
  timeline : ∃ h : Timeline, Lawful limit h
    ∧ h.filter (!·.isOwn) = (incidents r.trace).filter (!·.isOwn)
    ∧ starts (incidents r.trace) <+: starts h ∧ ServesInOrder limit h
  /-- Whoever the watchdog strikes for was said to have started before. -/
  started : ∀ pre p age post,
    r.trace = pre ++ .stalled p age :: post ∨ r.trace = pre ++ .killed p age :: post →
      .activity (.started p) ∈ pre

theorem Backs.servedInOrder {limit : Nat} {h : Timeline} {r : Run}
    (hb : Backs limit h (incidents r.trace)) (htold : starts (incidents r.trace) <+: starts h) :
    r.ServedInOrder limit where
  timeline := ⟨h, hb.lawful, hb.same, htold, hb.servesInOrder⟩
  started _ _ _ _ hor := hb.started_before hor

section
variable {ε : Type} {connect : Net.Connect} {e : Surroundings ε} {probes : List (Probe (Work ε))}
  {engine engine' : ε} {run : Run}

/-- **The pool has a place for every thread of the configuration**, and gives them first come,
first served.  Without a target that can be reached, nothing is handed out at all. -/
theorem execute_servedInOrder {warnings : List LogEntry}
    (hprepare : prepare e.config probes = .ok warnings) :
    (execute connect e warnings probes engine).1.ServedInOrder e.config.threads.toNat := by
  unfold execute
  split
  · exact (backs_nil _).servedInOrder List.nil_prefix
  · obtain ⟨h, hbacks, hpast, -⟩ :=
      (passes_final (VirtualTime.workers e) e.target.label probes
        (.start e.config.threads.toNat engine)).recorded
        (S := VirtualTime.semaphore e e.config.threads.toNat) (nodup_of_prepare hprepare)
        (threads_of_prepare hprepare) (VirtualTime.reached_start e.config.threads.toNat engine)
    refine Backs.servedInOrder (h := h) ?_ ?_
    · rw [trace_runWith]
      exact hbacks
    · rw [trace_runWith]
      exact (VirtualTime.semaphore e e.config.threads.toNat).told hpast

/-- So it is in a scan that is checked first, -/
theorem perform_servedInOrder (hrun : perform connect e probes engine = .ok (run, engine')) :
    run.ServedInOrder e.config.threads.toNat := by
  unfold perform at hrun
  cases hprepare : prepare e.config probes with
  | error refusal =>
      rw [hprepare] at hrun
      cases hrun
  | ok warnings =>
      rw [hprepare] at hrun
      have heq : execute connect e warnings probes engine = (run, engine') := Except.ok.inj hrun
      have hserved : (execute connect e warnings probes engine).1.ServedInOrder _ :=
        execute_servedInOrder hprepare
      rwa [heq] at hserved

/-- and in the scan that a command line asks for. -/
theorem performArguments_servedInOrder {w : World ε} {a : Arguments} {order : Order}
    (hrun : performArguments w a probes engine = .ok (order, run, engine')) :
    run.ServedInOrder order.config.threads.toNat := by
  unfold performArguments at hrun
  split at hrun
  · cases hrun
  · rename_i asked _
    cases hperform : perform w.connect (w.surroundings asked) probes engine with
    | error refusal =>
        rw [hperform] at hrun
        cases hrun
    | ok result =>
        rw [hperform] at hrun
        cases hrun
        exact perform_servedInOrder hperform

end

end TlsScan.Scan
