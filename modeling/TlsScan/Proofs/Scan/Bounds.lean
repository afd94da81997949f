import TlsScan.Proofs.Scan.LifeCycle
import TlsScan.Proofs.Scan.Turns

/-!
# The rounds of a scan are bounded

A round takes at least one probe from those that run, and probes only come to run from those
that are pending.  So the number of probes in both places falls with every round, although
each of the two grows and shrinks, and a scan of `n` probes waits at most `n` times.

What a round tells is counted here along with that: one wait, at most one strike of the
watchdog, and then a probe that has finished, unless a merge fails.

## Main Definitions

* `Scan.Answered` — a probe has finished, or the scan has failed, before the next wait.
* `Scan.Adds` — what merging adds to the events of a scan.
* `Scan.Rounds` — what whole rounds add to them, and what they take from the probes.

## Main Results

* `Scan.rounds_round`, `Scan.rounds_run` — one round, and all of them.
* `Scan.idle_run` — what there is when no round follows.
* `Scan.loop_bounded` — the bounds for a set of probes that is accepted.
-/

namespace TlsScan.Scan

variable {β σ : Type}

/-! ## Waits and strikes -/

/-- Whether an event says that the coordinator has waited. -/
def Event.isWait : Event → Bool
  | .waited => true
  | _ => false

/-- Whether an event says that the watchdog has struck. -/
def Event.isStall : Event → Bool
  | .stalled .. => true
  | _ => false

/-- Some probe has finished. -/
def Finishes (es : List Event) : Prop := ∃ p result status, .finished p result status ∈ es

/-- **Every wait is answered**: a probe has finished before the next wait, or the scan has
failed before it. -/
def Answered (fault : Option ScanError) (es : List Event) : Prop :=
  ∀ pre post, es = pre ++ .waited :: post →
    (∃ mid p result status rest, post = mid ++ .finished p result status :: rest
        ∧ .waited ∉ mid)
      ∨ fault.isSome = true ∧ .waited ∉ post

section
variable {a b pre post : List Event} {fault : Option ScanError}

theorem answered_of_not_mem (h : .waited ∉ a) : Answered fault a := by
  rintro pre post rfl
  exact absurd (List.mem_append_right _ List.mem_cons_self) h

/-- **The one wait of a round is answered.** -/
theorem answered_round (hpre : .waited ∉ pre) (hpost : .waited ∉ post)
    (h : fault = none → Finishes post) : Answered fault (pre ++ .waited :: post) := by
  intro pre' post' heq
  -- There is no other wait at which the events could be cut.
  obtain ⟨-, -, rfl⟩ := (List.append_cons_inj_of_notMem hpre hpost).mp heq
  cases fault with
  | some e => exact Or.inr ⟨rfl, hpost⟩
  | none =>
      obtain ⟨p, result, status, hmem⟩ := h rfl
      obtain ⟨mid, rest, rfl⟩ := List.append_of_mem hmem
      exact Or.inl ⟨mid, p, result, status, rest, rfl,
        fun hmid => hpost (List.mem_append_left _ hmid)⟩

/-- What was answered without a fault stays answered, whatever follows. -/
theorem Answered.append (ha : Answered none a) (hb : Answered fault b) :
    Answered fault (a ++ b) := by
  intro pre post h
  rcases List.append_eq_append_iff.mp h with ⟨u, hpre, hu⟩ | ⟨u, hpre, hu⟩
  · exact hb u post hu
  · cases u with
    | nil => exact hb [] post hu.symm
    | cons e u =>
        obtain ⟨rfl, rfl⟩ := List.cons.inj hu
        rcases ha pre u hpre with ⟨mid, p, result, status, rest, rfl, hmid⟩ | ⟨hfault, -⟩
        · exact Or.inl ⟨mid, p, result, status, rest ++ b, by simp, hmid⟩
        · exact Bool.noConfusion hfault

end

/-! ## What merging tells -/

/-- **What merging adds to the events of a scan**: no wait, so many strikes at most, and a
probe that has finished, unless the merge has failed. -/
structure Adds (c : Coordinator β σ) (r : Coordinator β σ × Option ScanError)
    (strikes : Nat) (es : List Event) : Prop where
  trace : r.1.trace = c.trace ++ es
  waits : .waited ∉ es
  strikes : es.countP Event.isStall ≤ strikes
  finishes : r.2 = none → Finishes es

section
variable {c c' : Coordinator β σ} {r : Coordinator β σ × Option ScanError}
  {w : Workers β σ} {n m : Nat} {es es' : List Event}

/-- Only the events count of what there was before. -/
theorem Adds.of_trace (h : Adds c' r n es) (htrace : c'.trace = c.trace) : Adds c r n es :=
  ⟨by rw [h.trace, htrace], h.waits, h.strikes, h.finishes⟩

/-- Events before a merge, neither waits nor too many strikes, may be counted in. -/
theorem Adds.cons_events (h : Adds c' r n es') (htrace : c'.trace = c.trace ++ es)
    (hwaits : .waited ∉ es) (hstrikes : es.countP Event.isStall ≤ m) :
    Adds c r (m + n) (es ++ es') where
  trace := by rw [h.trace, htrace, List.append_assoc]
  waits hmem := (List.mem_append.mp hmem).elim hwaits h.waits
  strikes := by
    rw [List.countP_append]
    exact Nat.add_le_add hstrikes h.strikes
  finishes hnone := by
    obtain ⟨p, result, status, hmem⟩ := h.finishes hnone
    exact ⟨p, result, status, List.mem_append_right _ hmem⟩

theorem adds_merge (c : Coordinator β σ) (d : Declaration) (result : ProbeResult) :
    ∃ es, Adds c (c.merge d result) 0 es := by
  rcases c.merge_cases d result with ⟨r, rec, -, -, heq⟩ | ⟨fault, -, heq⟩
  · rw [heq]
    refine ⟨[.finished d.probe result rec.status], rfl, by simp, Nat.le_refl _, fun _ => ?_⟩
    exact ⟨d.probe, result, rec.status, List.mem_singleton_self _⟩
  · rw [heq]
    exact ⟨[], (List.append_nil _).symm, List.not_mem_nil, Nat.le_refl _, nofun⟩

theorem adds_mergeEnding (c : Coordinator β σ) (d : Declaration) (e : Ending) :
    ∃ es, Adds c (c.mergeEnding d e) 0 es := by
  obtain ⟨es, h⟩ := adds_merge (c.record (.ended d.probe e)) d (e.resultFor d)
  exact ⟨_, h.cons_events rfl (by simp) (Nat.le_refl _)⟩

/-- **Merging all that has ended** tells of a probe, if there was any. -/
theorem adds_mergeAll (h : (w.collectFirst? c.workers c.running).isSome = true) :
    ∃ es, Adds c (c.mergeAll w) 0 es := by
  fun_induction Coordinator.mergeAll w c with
  | case1 c hnone =>
      rw [hnone] at h
      exact Bool.noConfusion h
  | case2 c d e rest s hs c' fault hm =>
      obtain ⟨es, hes⟩ := adds_mergeEnding { c with running := rest, workers := s } d e
      rw [hm] at hes
      exact ⟨es, hes.of_trace rfl⟩
  | case3 c d e rest s hs c' hm ih =>
      obtain ⟨es, hes⟩ := adds_mergeEnding { c with running := rest, workers := s } d e
      rw [hm] at hes
      by_cases hmore : (w.collectFirst? c'.workers c'.running).isSome = true
      · obtain ⟨es', hes'⟩ := ih hmore
        exact ⟨_, hes'.cons_events hes.trace hes.waits hes.strikes⟩
      · -- Nothing else has ended, and the merge before has told of a probe.
        have hlast : c'.mergeAll w = (c', none) := by
          rw [Coordinator.mergeAll]
          split
          · rfl
          · next hs' => exact absurd (hs' ▸ rfl) hmore
        rw [hlast]
        exact ⟨es, hes.of_trace rfl⟩

/-- Stopping a task tells of the probe, too. -/
theorem adds_killOldest (c : Coordinator β σ) (w : Workers β σ) (d : Declaration) :
    ∃ es, Adds c (c.killOldest w d) 0 es := by
  obtain ⟨es, h⟩ := adds_merge
    ({ c with workers := w.kill c.workers d.probe }.record (.killed d.probe
      (w.age c.workers d.probe))) d
    (.failure d.probe d.properties .killed ("no result after " ++ w.age c.workers d.probe))
  exact ⟨_, h.cons_events rfl (by simp) (Nat.le_refl _)⟩

theorem not_mem_activities (l : List Activity) : .waited ∉ l.map Event.activity := by
  intro h
  obtain ⟨a, -, ha⟩ := List.mem_map.mp h
  exact nomatch ha

theorem countP_isStall_activities (l : List Activity) :
    (l.map Event.activity).countP Event.isStall = 0 := by
  rw [List.countP_eq_zero]
  intro e he
  obtain ⟨a, -, rfl⟩ := List.mem_map.mp he
  exact Bool.noConfusion

/-- **The watchdog strikes once**, and one probe has finished then. -/
theorem adds_breakStall (h : c.running ≠ []) : ∃ es, Adds c (c.breakStall w) 1 es := by
  obtain ⟨d, rest, hr⟩ := List.exists_cons_of_ne_nil h
  have htrace : (c.joined w d rest).trace = c.trace
      ++ (.stalled d.probe (w.age c.workers d.probe)
        :: (w.awaitOne c.workers d.probe).1.map .activity) := List.append_assoc ..
  have hwaits : .waited ∉ .stalled d.probe (w.age c.workers d.probe)
      :: (w.awaitOne c.workers d.probe).1.map Event.activity :=
    not_or.mpr ⟨nofun, not_mem_activities _⟩ ∘ List.mem_cons.mp
  have hstrikes : (.stalled d.probe (w.age c.workers d.probe)
      :: (w.awaitOne c.workers d.probe).1.map Event.activity).countP Event.isStall ≤ 1 := by
    exact Nat.le_of_eq (by rw [List.countP_cons_of_pos rfl, countP_isStall_activities])
  rw [breakStall_eq hr]
  split
  · next e s _ =>
      obtain ⟨es, hes⟩ := adds_mergeEnding { c.joined w d rest with workers := s } d e
      exact ⟨_, hes.cons_events htrace hwaits hstrikes⟩
  · obtain ⟨es, hes⟩ := adds_killOldest (c.joined w d rest) w d
    exact ⟨_, hes.cons_events htrace hwaits hstrikes⟩

/-! ## Rounds -/

/-- **What whole rounds add to the events of a scan, and what they take from its probes**:
every wait is answered and has taken a probe, and there are no more strikes than waits. -/
structure Rounds (c : Coordinator β σ) (r : Coordinator β σ × Option ScanError)
    (es : List Event) : Prop where
  trace : r.1.trace = c.trace ++ es
  answered : Answered r.2 es
  waits : es.countP Event.isWait + r.1.remaining ≤ c.remaining
  strikes : es.countP Event.isStall ≤ es.countP Event.isWait

/-- Rounds follow each other. -/
theorem Rounds.trans (h : Rounds c (c', none) es) (h' : Rounds c' r es') :
    Rounds c r (es ++ es') where
  trace := by rw [h'.trace, h.trace, List.append_assoc]
  answered := h.answered.append h'.answered
  waits := by
    have h₁ : es.countP Event.isWait + c'.remaining ≤ c.remaining := h.waits
    have h₂ := h'.waits
    rw [List.countP_append]
    omega
  strikes := by
    rw [List.countP_append, List.countP_append]
    exact Nat.add_le_add h.strikes h'.strikes

/-- Handing out probes tells of nothing else, and leaves the report as it is. -/
theorem foldl_submit (w : Workers β σ) (l : List (Probe β)) (c : Coordinator β σ) :
    (∃ es, (l.foldl (Coordinator.submit w) c).trace = c.trace ++ es
        ∧ ∀ e ∈ es, e.isWait = false ∧ e.isStall = false)
      ∧ (l.foldl (Coordinator.submit w) c).report = c.report
      ∧ (l.foldl (Coordinator.submit w) c).pending = c.pending := by
  induction l generalizing c with
  | nil => exact ⟨⟨[], (List.append_nil _).symm, List.forall_mem_nil _⟩, rfl, rfl⟩
  | cons p l ih =>
      obtain ⟨⟨es, htrace, hes⟩, hreport, hpending⟩ := ih (c.submit w p)
      refine ⟨⟨.scheduled p.id c.report :: es, ?_, ?_⟩, hreport, hpending⟩
      · exact htrace.trans (List.append_assoc ..)
      · exact List.forall_mem_cons.mpr ⟨⟨rfl, rfl⟩, hes⟩

/-- Looking for what is ready is neither a wait nor a strike. -/
theorem rounds_schedule (w : Workers β σ) (c : Coordinator β σ) :
    ∃ es, Rounds c (c.schedule w, none) es := by
  obtain ⟨es, htrace, hes⟩ := (foldl_submit w (c.pending.filter (Probe.isReady c.report))
    { c with pending := c.pending.filter fun p => !p.isReady c.report }).1
  have hwaits : es.countP Event.isWait = 0 :=
    List.countP_eq_zero.mpr fun e he => Bool.eq_false_iff.mp (hes e he).1
  have hstrikes : es.countP Event.isStall = 0 :=
    List.countP_eq_zero.mpr fun e he => Bool.eq_false_iff.mp (hes e he).2
  refine ⟨es, htrace, answered_of_not_mem fun h => ?_, ?_, ?_⟩
  · exact Bool.noConfusion (hes _ h).1
  · rw [hwaits, Nat.zero_add]
    exact Nat.le_of_eq (Coordinator.remaining_schedule w c)
  · rw [hstrikes]
    exact Nat.zero_le _

theorem countP_isWait_of_not_mem (h : .waited ∉ es) : es.countP Event.isWait = 0 := by
  refine List.countP_eq_zero.mpr fun e he hwait => ?_
  cases e with
  | waited => exact h he
  | _ => exact Bool.noConfusion hwait

/-- A round takes one of the probes at least. -/
theorem remaining_round_lt (h : c.running ≠ []) : (c.round w).1.remaining + 1 ≤ c.remaining := by
  have hpending := Coordinator.pending_round w c
  have hrunning := Coordinator.running_round_lt (w := w) h
  unfold Coordinator.remaining
  rw [hpending]
  omega

/-- **One round** waits once, and the watchdog strikes once at most. -/
theorem rounds_round (h : c.running ≠ []) : ∃ es, Rounds c (c.round w) es := by
  -- What has ended is merged, or else the oldest task is looked after.
  obtain ⟨r, es, hadds, hround⟩ : ∃ r es, Adds (c.waited w) r 1 es
      ∧ c.round w = (r.1.rewatch w, r.2) := by
    by_cases hs : (w.collectFirst? (c.waited w).workers (c.waited w).running).isSome = true
    · obtain ⟨es, hes⟩ := adds_mergeAll hs
      refine ⟨_, es, ⟨hes.trace, hes.waits, ?_, hes.finishes⟩, ?_⟩
      · exact Nat.le_trans hes.strikes (Nat.zero_le _)
      · unfold Coordinator.round
        exact congrArg (fun r : Coordinator β σ × Option ScanError => (r.1.rewatch w, r.2))
          (if_pos hs)
    · obtain ⟨es, hes⟩ := adds_breakStall (c := c.waited w) (w := w) h
      refine ⟨_, es, hes, ?_⟩
      unfold Coordinator.round
      exact congrArg (fun r : Coordinator β σ × Option ScanError => (r.1.rewatch w, r.2))
        (if_neg hs)
  have htrace : (c.waited w).trace = c.trace
      ++ ((w.await c.workers).1.map .activity ++ [.waited]) := List.append_assoc ..
  have hacts := not_mem_activities (w.await c.workers).1
  have hwaits : ((w.await c.workers).1.map Event.activity ++ .waited :: es).countP
      Event.isWait = 1 := by
    rw [List.countP_append, countP_isWait_of_not_mem hacts, List.countP_cons_of_pos rfl,
      countP_isWait_of_not_mem hadds.waits]
  refine ⟨(w.await c.workers).1.map .activity ++ .waited :: es, ?_, ?_, ?_, ?_⟩
  · rw [hround]
    show r.1.trace = _
    rw [hadds.trace, htrace]
    simp
  · rw [hround]
    exact answered_round hacts hadds.waits hadds.finishes
  · have hlt := remaining_round_lt (w := w) h
    omega
  · rw [hwaits, List.countP_append, countP_isStall_activities, List.countP_cons_of_neg
      (by exact Bool.noConfusion), Nat.zero_add]
    exact hadds.strikes

/-- **All rounds.** -/
theorem rounds_run (w : Workers β σ) (c : Coordinator β σ) : ∃ es, Rounds c (c.run w) es := by
  fun_induction Coordinator.run w c with
  | case1 c scheduled h => exact rounds_schedule w c
  | case2 c scheduled h c' fault hr =>
      obtain ⟨es, hes⟩ := rounds_schedule w c
      obtain ⟨es', hes'⟩ := rounds_round (w := w) h
      rw [hr] at hes'
      exact ⟨_, hes.trans hes'⟩
  | case3 c scheduled h c' hr ih =>
      obtain ⟨es, hes⟩ := rounds_schedule w c
      obtain ⟨es', hes'⟩ := rounds_round (w := w) h
      obtain ⟨es'', hes''⟩ := ih
      rw [hr] at hes'
      exact ⟨_, (hes.trans hes').trans hes''⟩

/-- What is pending after a look at what is ready is not ready. -/
theorem unready_schedule {p : Probe β} (hp : p ∈ (c.schedule w).pending) :
    p.isReady (c.schedule w).report = false := by
  obtain ⟨-, hreport, hpending⟩ := foldl_submit w (c.pending.filter (Probe.isReady c.report))
    { c with pending := c.pending.filter fun p => !p.isReady c.report }
  rw [Coordinator.schedule, hpending] at hp
  rw [Coordinator.schedule, hreport]
  simpa using (List.mem_filter.mp hp).2

/-- **When no round follows, nothing runs and nothing is ready.** -/
theorem idle_run (h : (c.run w).2 = none) : (c.run w).1.running = []
    ∧ ∀ p ∈ (c.run w).1.pending, p.isReady (c.run w).1.report = false := by
  fun_induction Coordinator.run w c with
  | case1 c scheduled hnone => exact ⟨hnone, fun p hp => unready_schedule hp⟩
  | case2 c scheduled _ c' fault _ => exact absurd h (Option.some_ne_none fault)
  | case3 c scheduled _ c' _ ih => exact ih h

end

/-! ## The loop of a scan -/

/-- **The loop of a scan**: all its rounds, with what has failed in the last one. -/
def loop (w : Workers β σ) (target : String) (probes : List (Probe β)) (s : σ) :
    Coordinator β σ × Option ScanError :=
  (Coordinator.start w target probes s).run w

section
variable {w : Workers β σ} {target : String} {probes : List (Probe β)} {s : σ}

/-- **No probe finishes twice** in the loop. -/
theorem countP_finished_loop (hnodup : (probes.map Probe.id).Nodup) (p : ProbeId) :
    ((loop w target probes s).1.trace.filterMap Event.progress?).countP
      (Progress.isFinished p) ≤ 1 := by
  have hpasses : Passes w target probes s (afterRun (loop w target probes s)) :=
    reaches_run w (.start w target probes s)
  refine Nat.le_trans (List.Sublist.countP_le ?_) (hpasses.begun hnodup p).countP_finished
  refine List.Sublist.filterMap _ ?_
  -- Behind the loop there is what is left over, or the end of the scan.
  rcases loop w target probes s with ⟨c, _ | e⟩
  · obtain ⟨es, htrace, -⟩ := trace_leave c
    show c.trace.Sublist c.leave.trace
    rw [htrace]
    exact List.sublist_append_left ..
  · exact List.sublist_append_left ..

/-- What finishes only once has not finished before. -/
theorem not_mem_of_countP {pre post : List Event} {p : ProbeId} {result result' : ProbeResult}
    {status status' : Status}
    (h : ((pre ++ .finished p result status :: post).filterMap Event.progress?).countP
      (Progress.isFinished p) ≤ 1) : .finished p result' status' ∉ pre := by
  intro hmem
  have hbefore : 0 < (pre.filterMap Event.progress?).countP (Progress.isFinished p) :=
    List.countP_pos_iff.mpr ⟨.finished p status', List.mem_filterMap.mpr ⟨_, hmem, rfl⟩,
      decide_eq_true rfl⟩
  have hnow : (Progress.isFinished p) (.finished p status) = true := decide_eq_true rfl
  rw [List.filterMap_append, List.countP_append,
    List.filterMap_cons_some (show (Event.finished p result status).progress? = _ from rfl),
    List.countP_cons_of_pos hnow] at h
  omega

/-- **The loop of a scan is bounded**, whatever the workers do.  For a set of probes that is
accepted, it waits at most once for each of them.  Before the next wait some probe finishes
that had not finished before, or the scan fails.  The watchdog strikes at most once for each
probe.  And when the loop ends without an error, no probe runs, and none that is left would
be ready. -/
theorem loop_bounded {config : Config} {warnings : List LogEntry}
    (hprepare : prepare config probes = .ok warnings) :
    (loop w target probes s).1.trace.countP Event.isWait ≤ probes.length
      ∧ (∀ pre post, (loop w target probes s).1.trace = pre ++ .waited :: post →
          (∃ mid p result status rest, post = mid ++ .finished p result status :: rest
              ∧ .waited ∉ mid
              ∧ ∀ result' status', .finished p result' status' ∉ pre ++ .waited :: mid)
            ∨ (loop w target probes s).2.isSome = true ∧ .waited ∉ post)
      ∧ (loop w target probes s).1.trace.countP Event.isStall ≤ probes.length
      ∧ ((loop w target probes s).2 = none → (loop w target probes s).1.running = []
          ∧ ∀ p ∈ (loop w target probes s).1.pending,
              p.declaration.requirement.holds (loop w target probes s).1.report = false) := by
  have hnodup := nodup_of_prepare hprepare
  obtain ⟨es, h⟩ := rounds_run w (.start w target probes s)
  -- Before the first round there is only the beginning of the scan.
  have htrace : (loop w target probes s).1.trace = .began probes.length :: es := h.trace
  have hremaining : (Coordinator.start w target probes s).remaining = probes.length := rfl
  have hwaits := h.waits
  refine ⟨?_, fun pre post hsplit => ?_, ?_, fun hnone => idle_run hnone⟩
  · rw [htrace, List.countP_cons_of_neg (by exact Bool.noConfusion)]
    omega
  · have hanswered : Answered (loop w target probes s).2 (loop w target probes s).1.trace := by
      rw [htrace]
      exact (answered_of_not_mem (a := [.began probes.length]) (by simp)).append h.answered
    rcases hanswered pre post hsplit with ⟨mid, p, result, status, rest, rfl, hmid⟩ | hfault
    · refine Or.inl ⟨mid, p, result, status, rest, rfl, hmid, fun result' status' => ?_⟩
      have hpast : (loop w target probes s).1.trace
          = (pre ++ .waited :: mid) ++ .finished p result status :: rest := by
        rw [hsplit, List.append_assoc, List.cons_append]
      exact not_mem_of_countP (hpast ▸ countP_finished_loop hnodup p)
    · exact Or.inr hfault
  · rw [htrace, List.countP_cons_of_neg (by exact Bool.noConfusion)]
    have hstrikes := h.strikes
    omega

theorem loop_bounded_sample :
    prepare {} Sample.probes = .ok []
      ∧ (loop (VirtualTime.workers Sample.surroundings) "sample" Sample.probes
          (.start 2 ())).1.trace.countP Event.isWait ≤ 6
      ∧ (loop (VirtualTime.workers Sample.surroundings) "sample" Sample.probes
          (.start 2 ())).1.trace.countP Event.isStall ≤ 6
      ∧ (loop (VirtualTime.workers Sample.surroundings) "sample" Sample.probes
          (.start 2 ())).1.running = [] := by
  have hnone : (loop (VirtualTime.workers Sample.surroundings) "sample" Sample.probes
      (.start 2 ())).2 = none := by decide +kernel
  refine ⟨Sample.prepare_probes, ?_, ?_, ?_⟩
  · exact (loop_bounded Sample.prepare_probes).1
  · exact (loop_bounded Sample.prepare_probes).2.2.1
  · exact ((loop_bounded Sample.prepare_probes).2.2.2 hnone).1

end

end TlsScan.Scan
