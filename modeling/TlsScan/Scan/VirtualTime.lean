import TlsScan.Scan.Context
import TlsScan.Scan.Pool
import TlsScan.Scan.Workers

/-!
# Workers in virtual time

Workers whose clock stands still while anything can happen, and then jumps to the next
instant at which something does.  Scans with such workers are deterministic.

## Main Definitions

* `Scan.Work` — how long a probe takes, and what it then comes to.
* `Scan.VirtualTime` — the clock, the pool of jobs and the tasks that have ended.
* `Scan.VirtualTime.settle` — takes up waiting jobs until none can be.
* `Scan.VirtualTime.passUntil` — lets time pass.
* `Scan.VirtualTime.workers` — the workers.

## Design Notes

Instants are whole milliseconds since the start of the scan.  Tasks that end at the same
instant end in the order in which they were taken up, before any waiting job gets one of
the places that they free.  Time does not pass beyond the instant at which a wait is over,
and a task that ends at that very instant has ended in time.
-/

namespace TlsScan.Scan

/-- **What a worker has to do for a probe.** -/
structure Work (ε : Type) where
  /-- The milliseconds after which it ends; none if it never does. -/
  delay : Option Nat := some 0
  /-- How it ends, what is noted on the way, and the engine after that. -/
  run : Context ε → ε → Ending × List LogEntry × ε

/-- A task with its times. -/
structure Job (ε : Type) where
  task : Task (Work ε)
  submittedAt : Nat
  /-- When it will end, once it has been taken up. -/
  dueAt : Option Nat := none

namespace Job

variable {ε : Type}

/-- The identity of the probe. -/
def id (j : Job ε) : ProbeId := j.task.probe.id

/-- The job when it is taken up. -/
def takenUp (now : Nat) (j : Job ε) : Job ε :=
  { j with dueAt := j.task.probe.work.delay.map (now + ·) }

/-- Whether the job ends now, or has ended before. -/
def isDue (now : Nat) (j : Job ε) : Bool :=
  match j.dueAt with
  | some t => t ≤ now
  | none => false

end Job

/-- What stays the same during a scan in virtual time. -/
structure Surroundings (ε : Type) where
  target : Net.Target
  config : Config
  engine : Option (Engine ε)
  /-- How spans of time are written. -/
  ageText : Duration → String
  /-- The date and the time of an instant. -/
  dateOf : Nat → Timestamp

/-- **The state of workers in virtual time.** -/
structure VirtualTime (ε : Type) where
  now : Nat
  /-- Since when the watchdog has been waiting. -/
  watchedSince : Nat
  pool : Pool (Job ε)
  /-- The tasks that have ended and were not collected, in the order in which they ended. -/
  ended : List (ProbeId × Ending)
  engine : ε
  /-- What has happened since anyone asked. -/
  activities : List Activity

namespace VirtualTime

variable {ε : Type}

/-- The workers at the start of a scan. -/
def start (threads : Nat) (engine : ε) : VirtualTime ε := ⟨0, 0, .idle threads, [], engine, []⟩

/-- What a probe can read. -/
def contextOf (e : Surroundings ε) (t : Task (Work ε)) : Context ε :=
  ⟨e.target, e.config, t.snapshot, e.engine⟩

/-- Do the work of a job. -/
def finish (e : Surroundings ε) (s : VirtualTime ε) (j : Job ε) : VirtualTime ε :=
  let (ending, notes, engine) := j.task.probe.work.run (contextOf e j.task) s.engine
  { s with
    ended := s.ended ++ [(j.id, ending)]
    engine := engine
    activities := s.activities ++ notes.map .noted }

/-- End the jobs that are due. -/
def endDue (e : Surroundings ε) (s : VirtualTime ε) : VirtualTime ε :=
  (s.pool.active.filter (Job.isDue s.now)).foldl (finish e)
    { s with pool := s.pool.release fun j => !j.isDue s.now }

theorem pool_finish (e : Surroundings ε) (s : VirtualTime ε) (j : Job ε) :
    (finish e s j).pool = s.pool := rfl

theorem pool_foldl_finish (e : Surroundings ε) (l : List (Job ε)) (s : VirtualTime ε) :
    (l.foldl (finish e) s).pool = s.pool := by
  induction l generalizing s with
  | nil => rfl
  | cons j l ih => rw [List.foldl_cons, ih, pool_finish]

theorem pool_endDue (e : Surroundings ε) (s : VirtualTime ε) :
    (endDue e s).pool = s.pool.release fun j => !j.isDue s.now := pool_foldl_finish ..

/-- **Take up waiting jobs until none can be.**  A job without delay ends at once. -/
def settle (e : Surroundings ε) (s : VirtualTime ε) : VirtualTime ε :=
  match _h : s.pool.takeUp? (Job.takenUp s.now) with
  | none => s
  | some (j, pool) =>
    settle e (endDue e { s with pool := pool, activities := s.activities ++ [.started j.id] })
termination_by s.pool.queue.length
decreasing_by
  have := Pool.length_queue_of_takeUp? _h
  rw [pool_endDue, Pool.release]
  dsimp only
  omega

theorem size_settle_le (e : Surroundings ε) (s : VirtualTime ε) :
    (settle e s).pool.size ≤ s.pool.size := by
  fun_induction settle e s with
  | case1 => exact Nat.le_refl _
  | case2 s j pool h ih =>
    refine Nat.le_trans ih ?_
    rw [pool_endDue]
    exact Nat.le_trans (Pool.size_release_le ..) (Nat.le_of_eq (Pool.size_of_takeUp? h))

/-- The next instant at which a job ends. -/
def nextDue? (s : VirtualTime ε) : Option Nat := (s.pool.active.filterMap Job.dueAt).min?

/-- Go on to a later instant. -/
def advance (e : Surroundings ε) (s : VirtualTime ε) (t : Nat) : VirtualTime ε :=
  settle e (endDue e { s with now := max s.now t })

theorem size_advance_lt {e : Surroundings ε} {s : VirtualTime ε} {t : Nat}
    (h : s.nextDue? = some t) : (advance e s t).pool.size < s.pool.size := by
  have hm : t ∈ s.pool.active.filterMap Job.dueAt := List.min?_mem h
  obtain ⟨j, hj, ht⟩ := List.mem_filterMap.1 hm
  refine Nat.lt_of_le_of_lt (size_settle_le ..) ?_
  rw [pool_endDue]
  refine Pool.size_release_lt hj ?_
  simp only [Job.isDue, ht, Bool.not_eq_false', decide_eq_true_eq]
  exact Nat.le_max_right ..

/-- **Let time pass** until `done` holds, but not beyond `limit`. -/
def passUntil (e : Surroundings ε) (done : VirtualTime ε → Bool) (limit : Nat)
    (s : VirtualTime ε) : VirtualTime ε :=
  if done s then s
  else
    match _h : s.nextDue? with
    | some t =>
      if t ≤ limit then passUntil e done limit (advance e s t)
      else { s with now := max s.now limit }
    | none => { s with now := max s.now limit }
termination_by s.pool.size
decreasing_by exact size_advance_lt _h

/-- Whether the task of a probe has ended. -/
def hasEnded (p : ProbeId) (s : VirtualTime ε) : Bool := s.ended.any fun x => x.1 = p

/-- How long nothing has been merged. -/
def idleTime (s : VirtualTime ε) : Duration := .ofMillis (.ofNat (s.now - s.watchedSince))

/-- The instant at which the watchdog strikes. -/
def watchdogAt (e : Surroundings ε) (s : VirtualTime ε) : Nat :=
  s.now + (e.config.remaining s.idleTime).toMillis

/-- The instant up to which a single task is waited for. -/
def forceJoinAt (e : Surroundings ε) (s : VirtualTime ε) : Nat :=
  s.now + e.config.forceJoinTimeout.toMillis

/-- Say what has happened since anyone asked. -/
def report (s : VirtualTime ε) : List Activity × VirtualTime ε :=
  (s.activities, { s with activities := [] })

/-- Let time pass until some task has ended, or the watchdog strikes. -/
def await (e : Surroundings ε) (s : VirtualTime ε) : VirtualTime ε :=
  if s.ended.isEmpty then
    passUntil e (fun s => !s.ended.isEmpty) (watchdogAt e s) (settle e s)
  else s

/-- Let time pass until one task has ended, or it has been waited for long enough. -/
def awaitOne (e : Surroundings ε) (s : VirtualTime ε) (p : ProbeId) : VirtualTime ε :=
  passUntil e (hasEnded p) (forceJoinAt e s) (settle e s)

/-- Hand over how a task ended, if it has. -/
def collect? (s : VirtualTime ε) (p : ProbeId) : Option (Ending × VirtualTime ε) :=
  (s.ended.find? fun x => x.1 = p).map fun x =>
    (x.2, { s with ended := s.ended.filter fun x => x.1 ≠ p })

/-- How many milliseconds a task has been in the pool. -/
def age (s : VirtualTime ε) (p : ProbeId) : Nat :=
  match s.pool.all.find? fun j => j.id = p with
  | some j => s.now - j.submittedAt
  | none => 0

/-- **The workers.** -/
def workers (e : Surroundings ε) : Workers (Work ε) (VirtualTime ε) where
  submit s t := { s with pool := s.pool.submit ⟨t, s.now, none⟩ }
  await s := (await e s).report
  awaitOne s p := (awaitOne e s p).report
  collect? := collect?
  kill s p := { s with pool := s.pool.drop fun j => j.id ≠ p }
  restartWatchdog s := { s with watchedSince := s.now }
  age s p := e.ageText (.ofMillis (.ofNat (s.age p)))
  now s := e.dateOf s.now

end VirtualTime

end TlsScan.Scan
