import TlsScan.Scan.Event

/-!
# Workers

What the coordinator of a scan asks of those who do the work.

## Main Definitions

* `Scan.Workers` — the operations; the state of the workers is a type parameter.

## Design Notes

Nothing is said here about when a task ends, so a fact about a coordinator that holds for
all workers holds for every timing.
-/

namespace TlsScan.Scan

/-- **Those who do the work of a scan.**  Tasks are named by the identity of their probe. -/
structure Workers (β σ : Type) where
  /-- Take on a task. -/
  submit : σ → Task β → σ
  /-- Let time pass until some task has ended, or the watchdog strikes. -/
  await : σ → List Activity × σ
  /-- Let time pass until one task has ended, or it has been waited for long enough. -/
  awaitOne : σ → ProbeId → List Activity × σ
  /-- Hand over how a task ended, if it has. -/
  collect? : σ → ProbeId → Option (Ending × σ)
  /-- Stop a task. -/
  kill : σ → ProbeId → σ
  /-- Start the watchdog anew, as something was merged. -/
  restartWatchdog : σ → σ
  /-- For how long a task has been with the workers. -/
  age : σ → ProbeId → String
  /-- What time it is. -/
  now : σ → Timestamp

/-- The first task of a list that has ended: its declaration, how it ended, and the tasks
before and behind it. -/
def Workers.collectFirst? {β σ : Type} (w : Workers β σ) (s : σ) :
    List Declaration → Option (Declaration × Ending × List Declaration × σ)
  | [] => none
  | d :: l =>
    match w.collect? s d.probe with
    | some (e, s) => some (d, e, l, s)
    | none => (w.collectFirst? s l).map fun (d', e, rest, s) => (d', e, d :: rest, s)

/-- The tasks that are left are fewer by one. -/
theorem Workers.length_of_collectFirst? {β σ : Type} {w : Workers β σ} {s s' : σ}
    {l rest : List Declaration} {d : Declaration} {e : Ending}
    (h : w.collectFirst? s l = some (d, e, rest, s')) : rest.length + 1 = l.length := by
  induction l generalizing d e rest s' with
  | nil => cases h
  | cons a l ih =>
    rw [collectFirst?] at h
    split at h
    · cases h; rfl
    · obtain ⟨⟨d', e', rest', s''⟩, hr, heq⟩ := Option.map_eq_some_iff.1 h
      cases heq
      simp [ih hr]

end TlsScan.Scan
