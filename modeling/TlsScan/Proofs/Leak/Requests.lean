import TlsScan.Leak.Runner

/-!
# Requests of leak tests

What a run of leak tests asks of the engine can be seen in two ways.  Requests can be made
one after the other without a runner, and an engine can write down what it is asked.  This
file has both, and shows that writing down changes nothing else.

## Main Definitions

* `Leak.Request` — a named request under some settings.
* `Leak.observeAll` — what is observed of requests that are made one after the other.
* `Engine.recorded` — the engine that writes down what it is asked.
* `Leak.Runner.asked` — all that a run asks.

## Main Results

* `Leak.observeAll_recorded` — what is asked by `observeAll` is what it is told to.
* `Leak.Runner.runWithEscalation_recorded` — a run goes the same way if it is written down.
-/

namespace TlsScan

open Engine

/-! ## Requests that are made one after the other -/

namespace Leak

/-- **A named request** under some settings. -/
structure Request where
  settings : Settings
  vector : Vector
  deriving DecidableEq, Repr

namespace Request

/-- What the engine is asked. -/
def call (q : Request) : Settings × Plan := (q.settings, q.vector.plan)

/-- What is observed of an answer.  A request that fails has a fingerprint of its own. -/
def observe (q : Request) : Except Fault Outcome → Observation
  | .ok o => ⟨q.vector.name, .ofOutcome o⟩
  | .error _ => ⟨q.vector.name, .unavailable⟩

end Request

variable {ε : Type}

/-- **Make requests one after the other**, and observe the answers. -/
def observeAll (e : Engine ε) : List Request → ε → List Observation × ε
  | [], s => ([], s)
  | q :: l, s =>
    let (answer, s) := e.execute s q.settings q.vector.plan
    let (rest, s) := observeAll e l s
    (q.observe answer :: rest, s)

section
variable (e : Engine ε) (l m : List Request) (s : ε)

theorem observeAll_cons (q : Request) : observeAll e (q :: l) s
    = (q.observe (e.execute s q.settings q.vector.plan).1
        :: (observeAll e l (e.execute s q.settings q.vector.plan).2).1,
      (observeAll e l (e.execute s q.settings q.vector.plan).2).2) := rfl

theorem observeAll_append : observeAll e (l ++ m) s
    = ((observeAll e l s).1 ++ (observeAll e m (observeAll e l s).2).1,
      (observeAll e m (observeAll e l s).2).2) := by
  induction l generalizing s with
  | nil => rfl
  | cons q l ih =>
      rw [List.cons_append, observeAll_cons, observeAll_cons, ih]
      rfl

/-- There is one observation of every request. -/
theorem length_observeAll : (observeAll e l s).1.length = l.length := by
  induction l generalizing s with
  | nil => rfl
  | cons q l ih =>
      rw [observeAll_cons, List.length_cons, List.length_cons, ih]

end

end Leak

/-! ## Engines that write down what they are asked -/

/-- **The engine that writes down what it is asked**, and otherwise answers as before. -/
def Engine.recorded {ε : Type} (e : Engine ε) : Engine (ε × List (Settings × Plan)) where
  execute s settings plan :=
    let (answer, t) := e.execute s.1 settings plan
    (answer, (t, s.2 ++ [(settings, plan)]))

theorem Engine.execute_recorded {ε : Type} (e : Engine ε) (s : ε × List (Settings × Plan))
    (settings : Settings) (plan : Plan) : e.recorded.execute s settings plan
      = ((e.execute s.1 settings plan).1, (e.execute s.1 settings plan).2,
        s.2 ++ [(settings, plan)]) := rfl

namespace Leak

variable {ε ι : Type} [Configuration ι]

/-- A state without what was written down. -/
abbrev forget {α : Type} : α × ε × List (Settings × Plan) → α × ε := Prod.map id Prod.fst

theorem observeAll_recorded (e : Engine ε) (l : List Request)
    (s : ε × List (Settings × Plan)) :
    observeAll e.recorded l s
      = ((observeAll e l s.1).1, (observeAll e l s.1).2, s.2 ++ l.map Request.call) := by
  induction l generalizing s with
  | nil => simp [observeAll]
  | cons q l ih =>
      simp only [observeAll_cons, ih, Engine.execute_recorded, List.map_cons,
        List.append_assoc, List.singleton_append]
      rfl

namespace Runner

/-- One request of a round, and those after it. -/
theorem sendAll_cons (e : Engine ε) (settings : Settings) (v : Vector) (l : List Vector)
    (s : ε) : sendAll e settings (v :: l) s
      = let a := e.execute s settings v.plan
        let rest := sendAll e settings l a.2
        ((Request.observe ⟨settings, v⟩ a.1 :: rest.1.1, a.1.isOk || rest.1.2), rest.2) := by
  rw [sendAll]
  rcases e.execute s settings v.plan with ⟨_ | _, t⟩ <;> rfl

/-- The runner whose engine writes down what it is asked. -/
def recorded (r : Runner ε) : Runner (ε × List (Settings × Plan)) :=
  { r with engine := r.engine.recorded }

theorem engine_recorded (r : Runner ε) : r.recorded.engine = r.engine.recorded := rfl

theorem vectors_recorded (r : Runner ε) : r.recorded.vectors = r.vectors := rfl

/-- **All that a run asks**, in order. -/
def asked (r : Runner ε) (l : List ι) (s : ε) : List (Settings × Plan) :=
  (r.recorded.runWithEscalation l (s, [])).2.2.2

variable (r : Runner ε) (s : ε × List (Settings × Plan))

theorem sendAll_recorded (e : Engine ε) (settings : Settings) (l : List Vector) :
    forget (sendAll e.recorded settings l s) = sendAll e settings l s.1 := by
  induction l generalizing s with
  | nil => rfl
  | cons v l ih =>
      rw [sendAll_cons, sendAll_cons, Engine.execute_recorded]
      dsimp only
      rw [← ih ((e.execute s.1 settings v.plan).2, s.2 ++ [(settings, v.plan)])]
      rfl

theorem rounds_recorded (settings : Settings) (description : String) (done left : Nat) :
    forget (r.recorded.rounds settings description done left s)
      = r.rounds settings description done left s.1 := by
  induction left generalizing done s with
  | zero => rfl
  | succ left ih =>
      rw [rounds, rounds, engine_recorded, vectors_recorded, ← sendAll_recorded]
      rcases hsend : sendAll r.engine.recorded settings r.vectors s with ⟨⟨l, any⟩, s'⟩
      dsimp only [Prod.map, id]
      rw [← ih s']
      show forget (if !any && !r.vectors.isEmpty then _ else _) = _
      split <;> rfl

theorem run_recorded (c : ι) : forget (r.recorded.run c s) = r.run c s.1 := by
  rw [run, run, ← rounds_recorded]
  rfl

/-- An extension appends what is observed in its rounds. -/
theorem extend_eq (r : Runner ε) (t : Test ι) (s : ε) :
    r.extend t s = Prod.map (·.map t.extend) id (r.furtherRounds t s) := by
  rw [extend, extendInPlace]
  rcases r.furtherRounds t s with ⟨_ | batch, s'⟩ <;> rfl

theorem extend_recorded (t : Test ι) : forget (r.recorded.extend t s) = r.extend t s.1 := by
  rw [extend_eq, extend_eq, furtherRounds, furtherRounds, ← rounds_recorded]
  rfl

theorem runAll_recorded (l : List ι) : forget (r.recorded.runAll l s) = r.runAll l s.1 := by
  induction l generalizing s with
  | nil => rfl
  | cons c l ih =>
      rw [runAll, runAll, ← run_recorded]
      rcases r.recorded.run c s with ⟨_ | t, s'⟩
      · rfl
      · show _ = ((r.runAll l s'.1).1.map (t :: ·), (r.runAll l s'.1).2)
        rw [← ih s']
        rfl

theorem extendSelected_recorded (l : List (Test ι)) :
    Prod.map id forget (r.recorded.extendSelected l s) = r.extendSelected l s.1 := by
  induction l generalizing s with
  | nil => rfl
  | cons t l ih =>
      rw [extendSelected, extendSelected, ← extend_recorded]
      show Prod.map id forget (if r.thoroughness.extends? t then _ else _) = _
      split
      · rcases r.recorded.extend t s with ⟨_ | t', s'⟩
        · rfl
        · show _ = ((r.extendSelected l s'.1).1.map (t' :: ·),
            r.extensionNote t :: (r.extendSelected l s'.1).2.1, (r.extendSelected l s'.1).2.2)
          rw [← ih s']
          rfl
      · rw [← ih s]
        rfl

/-- **A run goes the same way if it is written down what it asks.** -/
theorem runWithEscalation_recorded (l : List ι) :
    Prod.map id forget (r.recorded.runWithEscalation l s) = r.runWithEscalation l s.1 := by
  rw [runWithEscalation, runWithEscalation, ← runAll_recorded]
  rcases r.recorded.runAll l s with ⟨_ | tests, s'⟩
  · rfl
  · show Prod.map id forget (if r.thoroughness.escalates _ then _ else _)
      = if r.thoroughness.escalates (tests.any Test.isDistinct) then _ else _
    split
    · exact extendSelected_recorded r s' tests
    · rfl

end Runner

end Leak

end TlsScan
