import TlsScan.Proofs.Scan.Timeline
import TlsScan.Scan.VirtualTime

/-!
# Places in virtual time

Workers in virtual time give their places first come, first served.  Their clock stands still
until nobody can be given a place any more, and only then does time pass.  So every state of
them can be told as a timeline, and whatever they do goes on with it as is allowed.

## Main Definitions

* `Scan.VirtualTime.Reached` — a state in which the workers can be after a timeline.
* `Scan.VirtualTime.Saturates` — workers go on to a state in which no place is free that someone
  waits for.
* `Scan.VirtualTime.semaphore` — workers in virtual time keep the contract.

## Main Results

* `Scan.VirtualTime.Reached.endDue`, `Scan.VirtualTime.Reached.settle`,
  `Scan.VirtualTime.Reached.passUntil` — jobs end, jobs are taken up, time passes.
-/

namespace TlsScan.Scan

open Timeline

/-- What is filtered by a property of its members can be filtered by their names. -/
theorem map_filter_eq_filter_notMem {α β : Type} [DecidableEq β] {f : α → β} {l : List α}
    (hnodup : (l.map f).Nodup) (q : α → Bool) :
    (l.filter fun a => !q a).map f = (l.map f).filter (· ∉ (l.filter q).map f) := by
  rw [List.filter_map]
  refine congrArg (List.map f) (List.filter_congr fun a ha => ?_)
  rw [Function.comp_apply, Bool.eq_iff_iff, decide_eq_true_eq, Bool.not_eq_true']
  constructor
  · rintro hq hmem
    obtain ⟨b, hb, heq⟩ := List.mem_map.mp hmem
    obtain ⟨hb, hqb⟩ := List.mem_filter.mp hb
    rw [List.inj_on_of_nodup_map hnodup hb ha heq, hq] at hqb
    cases hqb
  · intro hmem
    exact Bool.eq_false_iff.mpr fun hq =>
      hmem (List.mem_map_of_mem (List.mem_filter.mpr ⟨ha, hq⟩))

namespace VirtualTime

variable {ε : Type}

/-- **The workers can be in this state after a timeline**, when they have told of these
starts. -/
structure Reached (limit : Nat) (s : VirtualTime ε) (l : List ProbeId) (h : Timeline) :
    Prop where
  lawful : Lawful limit h
  places : s.pool.limit = limit
  active : s.pool.active.map Job.id = executing h
  queue : s.pool.queue.map Job.id = waiting h
  ended : s.ended.map (·.1) = atHand h
  told : starts h = l ++ s.activities.filterMap Activity.start?

/-- **The workers go on to this state**, and no place is free then that someone waits for. -/
def Saturates (limit : Nat) (l : List ProbeId) (h : Timeline) (s : VirtualTime ε) : Prop :=
  ∃ h', Proceeds limit h h' ∧ s.Reached limit l h' ∧ Saturated limit h'

section
variable {limit : Nat} {s : VirtualTime ε} {l : List ProbeId} {h h' : Timeline}

theorem Saturates.of_proceeds (hs : Saturates limit l h' s) (hp : Proceeds limit h h') :
    Saturates limit l h s := by
  obtain ⟨h'', hp', hr, hsaturated⟩ := hs
  exact ⟨h'', hp.trans hp', hr, hsaturated⟩

theorem reached_start (limit : Nat) (engine : ε) : (start limit engine).Reached limit [] [] :=
  ⟨throughout_nil, rfl, rfl, rfl, rfl, rfl⟩

/-! ## Jobs end -/

theorem map_ended_foldl_finish (e : Surroundings ε) (js : List (Job ε)) (s : VirtualTime ε) :
    (js.foldl (finish e) s).ended.map (·.1) = s.ended.map (·.1) ++ js.map Job.id := by
  induction js generalizing s with
  | nil => exact (List.append_nil _).symm
  | cons j js ih =>
      rw [List.foldl_cons, ih, List.map_cons]
      simp [finish]

theorem start?_foldl_finish (e : Surroundings ε) (js : List (Job ε)) (s : VirtualTime ε) :
    (js.foldl (finish e) s).activities.filterMap Activity.start?
      = s.activities.filterMap Activity.start? := by
  induction js generalizing s with
  | nil => rfl
  | cons j js ih =>
      have hnotes : ∀ notes : List LogEntry,
          (notes.map Activity.noted).filterMap Activity.start? = [] := by
        intro notes
        rw [List.filterMap_map]
        exact List.filterMap_eq_nil_iff.mpr fun _ _ => rfl
      rw [List.foldl_cons, ih]
      simp [finish, hnotes]

/-- **The jobs that are due end.** -/
theorem Reached.endDue (hr : s.Reached limit l h) (e : Surroundings ε) :
    ∃ h', Proceeds limit h h' ∧ (endDue e s).Reached limit l h' := by
  have hnodup : (s.pool.active.map Job.id).Nodup := by
    -- Whoever has a place was handed out, and nobody twice.
    rw [hr.active]
    have hpresent : (present h).Nodup := hr.lawful.nodup.sublist List.filter_sublist
    exact hpresent.sublist hr.lawful.executing_initial.sublist
  obtain ⟨h', hp, hexecuting, hwaiting, hatHand, hstarts⟩ := proceeds_ended hr.lawful
    (l := (s.pool.active.filter (Job.isDue s.now)).map Job.id)
    (hnodup.sublist (List.filter_sublist.map _)) fun p hp => by
      rw [← hr.active]
      exact (List.filter_sublist.map _).subset hp
  refine ⟨h', hp, hp.lawful hr.lawful, ?_, ?_, ?_, ?_, ?_⟩
  · rw [pool_endDue]
    exact hr.places
  · rw [pool_endDue, hexecuting, ← hr.active]
    exact map_filter_eq_filter_notMem hnodup _
  · rw [pool_endDue, hwaiting]
    exact hr.queue
  · rw [hatHand, ← hr.ended]
    exact map_ended_foldl_finish ..
  · rw [hstarts, hr.told, VirtualTime.endDue, start?_foldl_finish]

/-! ## Jobs are taken up -/

/-- Someone gets a place. -/
theorem Reached.takeUp {j : Job ε} {pool : Pool (Job ε)} (hr : s.Reached limit l h)
    (htake : s.pool.takeUp? (Job.takenUp s.now) = some (j, pool)) :
    Proceeds limit h (h ++ [.started j.id])
      ∧ ({ s with pool := pool, activities := s.activities ++ [.started j.id] }
        : VirtualTime ε).Reached limit l (h ++ [.started j.id]) := by
  obtain ⟨b, rest, hqueue, hmark, hactive, hrest, hlimit⟩ := Pool.eq_of_takeUp? htake
  have hid : b.id = j.id := by rw [hmark]; rfl
  have hwaiting := hr.queue
  rw [hqueue, List.map_cons, hid] at hwaiting
  have hhead : (waiting h).head? = some j.id := by rw [← hwaiting, List.head?_cons]
  have hfree : (executing h).length < limit := by
    have hle := pool.active_le
    rw [hlimit, hactive, hr.places, List.length_append, List.length_singleton] at hle
    rw [← hr.active, List.length_map]
    exact hle
  have hallowed : Allowed limit h (.started j.id) := ⟨hhead, hfree⟩
  refine ⟨.single rfl hallowed, lawful_concat.mpr ⟨hr.lawful, hallowed⟩,
    hlimit.trans hr.places, ?_, ?_, ?_, ?_⟩
  · rw [executing_started (List.mem_of_mem_head? hhead), ← hr.active]
    show pool.active.map Job.id = _
    rw [hactive, List.map_append, List.map_singleton]
  · show pool.queue.map Job.id = _
    rw [hrest]
    have hcons := hwaiting.trans (hr.lawful.waiting_started hhead)
    exact (List.cons.inj hcons).2
  · rw [show atHand (h ++ [.started j.id]) = atHand h from standing_concat rfl rfl]
    exact hr.ended
  · show starts (h ++ [.started j.id]) = l ++ (s.activities ++ [Activity.started j.id]).filterMap _
    rw [starts, List.filterMap_append, List.filterMap_append, ← List.append_assoc]
    exact congrArg (· ++ [j.id]) hr.told

/-- **Jobs are taken up until no place is free that someone waits for.** -/
theorem Reached.settle (hr : s.Reached limit l h) (e : Surroundings ε) :
    Saturates limit l h (settle e s) := by
  fun_induction VirtualTime.settle e s generalizing h with
  | case1 s hnone =>
      refine ⟨h, .refl, hr, ?_⟩
      rcases Pool.takeUp?_eq_none_iff.mp hnone with hqueue | hfull
      · refine Or.inl ?_
        rw [← hr.queue, hqueue, List.map_nil]
      · refine Or.inr ?_
        rw [← hr.active, List.length_map, hfull, hr.places]
  | case2 s j pool htake ih =>
      obtain ⟨hp, htaken⟩ := hr.takeUp htake
      obtain ⟨h', hp', hdue⟩ := htaken.endDue e
      exact (ih hdue).of_proceeds (hp.trans hp')

/-! ## Time passes -/

/-- Time can pass when no place is free that someone waits for. -/
theorem Reached.lapse (hr : s.Reached limit l h) (hs : Saturated limit h) (now : Nat) :
    Proceeds limit h (h ++ [.lapse])
      ∧ ({ s with now := now } : VirtualTime ε).Reached limit l (h ++ [.lapse])
      ∧ Saturated limit (h ++ [.lapse]) := by
  have hwaiting : waiting (h ++ [.lapse]) = waiting h := standing_concat rfl rfl
  have hexecuting : executing (h ++ [.lapse]) = executing h := standing_concat rfl rfl
  have hatHand : atHand (h ++ [.lapse]) = atHand h := standing_concat rfl rfl
  refine ⟨.single rfl hs, ⟨lawful_concat.mpr ⟨hr.lawful, hs⟩, hr.places,
    hr.active.trans hexecuting.symm, hr.queue.trans hwaiting.symm, hr.ended.trans hatHand.symm,
    (starts_concat rfl).trans hr.told⟩, ?_⟩
  rw [Saturated, hwaiting, hexecuting]
  exact hs

theorem Reached.advance (hr : s.Reached limit l h) (hs : Saturated limit h) (e : Surroundings ε)
    (t : Nat) : Saturates limit l h (advance e s t) := by
  obtain ⟨hp, hlapse, -⟩ := hr.lapse hs (max s.now t)
  obtain ⟨h', hp', hdue⟩ := hlapse.endDue e
  exact (hdue.settle e).of_proceeds (hp.trans hp')

/-- **Time passes only while no place is free that someone waits for.** -/
theorem Reached.passUntil (hr : s.Reached limit l h) (hs : Saturated limit h)
    (e : Surroundings ε) (done : VirtualTime ε → Bool) (t : Nat) :
    Saturates limit l h (passUntil e done t s) := by
  fun_induction VirtualTime.passUntil e done t s generalizing h with
  | case1 => exact ⟨h, .refl, hr, hs⟩
  | case2 s _ t' _ _ ih =>
      obtain ⟨h', hp, hr', hs'⟩ := hr.advance hs e t'
      exact (ih hr' hs').of_proceeds hp
  | case3 s =>
      obtain ⟨hp, hlapse, hs'⟩ := hr.lapse hs (max s.now t)
      exact ⟨_, hp, hlapse, hs'⟩
  | case4 s =>
      obtain ⟨hp, hlapse, hs'⟩ := hr.lapse hs (max s.now t)
      exact ⟨_, hp, hlapse, hs'⟩

/-! ## What the workers are asked for -/

/-- What was told is told once. -/
theorem Reached.report (hr : s.Reached limit l h) :
    s.report.2.Reached limit (l ++ s.report.1.filterMap Activity.start?) h
      ∧ starts h = l ++ s.report.1.filterMap Activity.start? :=
  ⟨⟨hr.lawful, hr.places, hr.active, hr.queue, hr.ended, by
    rw [hr.told]
    exact (List.append_nil _).symm⟩, hr.told⟩

theorem Reached.submit (hr : s.Reached limit l h) (e : Surroundings ε) (t : Task (Work ε))
    (hp : .submitted t.probe.id ∉ h) :
    ((workers e).submit s t).Reached limit l (h ++ [.submitted t.probe.id]) where
  lawful := lawful_concat.mpr ⟨hr.lawful, hp⟩
  places := hr.places
  active := hr.active.trans (standing_concat rfl rfl).symm
  queue := by
    rw [hr.lawful.waiting_submitted hp, ← hr.queue]
    exact List.map_append
  ended := hr.ended.trans (standing_concat rfl rfl).symm
  told := (starts_concat rfl).trans hr.told

/-- That the coordinator waits for one task alone is nothing to the others. -/
theorem Reached.joined (hr : s.Reached limit l h) (p : ProbeId) :
    s.Reached limit l (h ++ [.joined p]) where
  lawful := lawful_concat.mpr ⟨hr.lawful, trivial⟩
  places := hr.places
  active := hr.active.trans (standing_concat rfl rfl).symm
  queue := hr.queue.trans (standing_concat rfl rfl).symm
  ended := hr.ended.trans (standing_concat rfl rfl).symm
  told := (starts_concat rfl).trans hr.told

theorem Reached.outcome?_iff (hr : s.Reached limit l h) (e : Surroundings ε) (p : ProbeId) :
    ((workers e).outcome? s p).isSome = true ↔ p ∈ atHand h := by
  rw [← hr.ended]
  show (((s.ended.find? fun x => x.1 = p).map _).map _).isSome = true ↔ _
  simp

theorem Reached.collect (hr : s.Reached limit l h) {e : Surroundings ε} {p : ProbeId}
    {a : Ending} {s' : VirtualTime ε} (hc : (workers e).collect? s p = some (a, s')) :
    s'.Reached limit l (h ++ [.collected p]) := by
  have hallowed : p ∈ atHand h :=
    (hr.outcome?_iff e p).mp (by rw [Workers.outcome?_of_collect? hc]; rfl)
  obtain ⟨x, -, heq⟩ := Option.map_eq_some_iff.mp hc
  cases heq
  refine ⟨lawful_concat.mpr ⟨hr.lawful, hallowed⟩, hr.places,
    hr.active.trans (standing_concat rfl rfl).symm,
    hr.queue.trans (standing_concat rfl rfl).symm, ?_, (starts_concat rfl).trans hr.told⟩
  rw [atHand, standing_concat_of_goes rfl rfl, ← atHand, ← hr.ended, List.filter_map]
  rfl

theorem Reached.kill (hr : s.Reached limit l h) (e : Surroundings ε) (p : ProbeId)
    (hp : p ∈ present h) :
    ((workers e).kill s p).Reached limit l (h ++ [.stopped p]) where
  lawful := lawful_concat.mpr ⟨hr.lawful, hp⟩
  places := hr.places
  active := by
    rw [executing, standing_concat_of_goes rfl rfl, ← executing, ← hr.active, List.filter_map]
    rfl
  queue := by
    rw [waiting, standing_concat_of_goes rfl rfl, ← waiting, ← hr.queue, List.filter_map]
    rfl
  ended := hr.ended.trans (standing_concat rfl rfl).symm
  told := (starts_concat rfl).trans hr.told

theorem Reached.await (hr : s.Reached limit l h) (e : Surroundings ε) :
    ∃ h', Proceeds limit h h' ∧ (await e s).Reached limit l h'
      ∧ (Saturated limit h' ∨ atHand h' ≠ []) := by
  unfold VirtualTime.await
  split
  · obtain ⟨h₁, hp₁, hr₁, hs₁⟩ := hr.settle e
    obtain ⟨h₂, hp₂, hr₂, hs₂⟩ := hr₁.passUntil hs₁ e _ _
    exact ⟨h₂, hp₁.trans hp₂, hr₂, Or.inl hs₂⟩
  · rename_i hended
    refine ⟨h, .refl, hr, Or.inr fun hnone => hended ?_⟩
    rw [← hr.ended, List.map_eq_nil_iff] at hnone
    rw [hnone]
    rfl

theorem Reached.awaitOne (hr : s.Reached limit l h) (e : Surroundings ε) (p : ProbeId) :
    ∃ h', Proceeds limit (h ++ [.joined p]) h' ∧ (awaitOne e s p).Reached limit l h' := by
  obtain ⟨h₁, hp₁, hr₁, hs₁⟩ := (hr.joined p).settle e
  obtain ⟨h₂, hp₂, hr₂, -⟩ := hr₁.passUntil hs₁ e _ _
  exact ⟨h₂, hp₁.trans hp₂, hr₂⟩

end

/-- **Workers in virtual time give their places first come, first served.** -/
def semaphore (e : Surroundings ε) (limit : Nat) : (workers e).Semaphore limit where
  Past := Reached limit
  told hr := ⟨_, hr.told.symm⟩
  outcome p hr := hr.outcome?_iff e p
  submit t hr hp := ⟨_, .refl, hr.submit e t hp⟩
  await hr := by
    obtain ⟨h', hp, hr', hsaturated⟩ := hr.await e
    exact ⟨h', hp, hr'.report.1, hr'.report.2, hsaturated⟩
  awaitOne p hr := by
    obtain ⟨h', hp, hr'⟩ := hr.awaitOne e p
    exact ⟨h', hp, hr'.report.1⟩
  collect hr hc := ⟨_, .refl, hr.collect hc⟩
  kill p hr hp := ⟨_, .refl, hr.kill e p hp⟩
  restartWatchdog hr :=
    ⟨_, .refl, hr.lawful, hr.places, hr.active, hr.queue, hr.ended, hr.told⟩

end VirtualTime

end TlsScan.Scan
