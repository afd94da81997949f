import Mathlib.Data.List.Forall2
import TlsScan.Proofs.Leak.Escalation

/-!
# Tests that do not influence each other

A run gives a test to every configuration, and between its two phases it asks once whether
any of the tests has seen reactions that differ.  So it looks as if what is found under one
configuration could change what is done under another one.  It does not: whoever is let in by
that gate only because of another test is stopped at the gate of its own.  If the engine
answers alike whenever it is asked, a run is therefore made of the courses that its
configurations take alone.

## Main Definitions

* `Engine.Memoryless` — the answers do not depend on what was asked before.
* `Leak.Runner.settle` — the second phase of one test.
* `Leak.Runner.course` — both phases of one test.

## Main Results

* `Leak.Runner.runWithEscalation_eq` — the gate of the run makes no difference.
* `Leak.Runner.runAll_ok_iff`, `Leak.Runner.extendSelected_ok_iff` — the phases, test by test.
* `Leak.Runner.runWithEscalation_ok_iff` — the run, configuration by configuration.
* `Leak.Runner.configurations_are_independent` — a run against the runs with one configuration.
-/

namespace TlsScan

open Engine

/-- **An engine without memory**: whether a call fails, and what the answer is if it does not,
depends on the settings and the plan only.  What is said of a failure may differ. -/
def Engine.Memoryless {ε : Type} (e : Engine ε) : Prop :=
  ∀ s t settings plan,
    (e.execute s settings plan).1.toOption = (e.execute t settings plan).1.toOption

namespace Leak

/-! ## Steps that are taken for every member -/

section
variable {α β γ : Type}

/-- Two steps that are taken for every member are one step. -/
theorem forall₂_comp_iff {p : α → β → Prop} {q : β → γ → Prop} {l : List α}
    {n : List γ} : List.Forall₂ (fun a c => ∃ b, p a b ∧ q b c) l n
      ↔ ∃ m, List.Forall₂ p l m ∧ List.Forall₂ q m n := by
  induction l generalizing n with
  | nil => simp [List.forall₂_nil_left_iff]
  | cons a l ih =>
      simp only [List.forall₂_cons_left_iff, ih]
      constructor
      · rintro ⟨c, n, ⟨b, hab, hbc⟩, ⟨m, hlm, hmn⟩, rfl⟩
        exact ⟨b :: m, ⟨b, m, hab, hlm, rfl⟩, .cons hbc hmn⟩
      · rintro ⟨_, ⟨b, m, hab, hlm, rfl⟩, hbm⟩
        obtain ⟨c, n, hbc, hmn, rfl⟩ := List.forall₂_cons_left_iff.mp hbm
        exact ⟨c, n, ⟨b, hab, hbc⟩, ⟨m, hlm, hmn⟩, rfl⟩

/-- A step can be taken for every member if it can for each of them. -/
theorem exists_forall₂_iff {p : α → β → Prop} {l : List α} :
    (∃ m, List.Forall₂ p l m) ↔ ∀ a ∈ l, ∃ b, p a b := by
  induction l with
  | nil => simp
  | cons a l ih =>
      rw [List.forall_mem_cons, ← ih]
      constructor
      · rintro ⟨_, hm⟩
        obtain ⟨b, m, hb, hm, -⟩ := List.forall₂_cons_left_iff.mp hm
        exact ⟨⟨b, hb⟩, m, hm⟩
      · rintro ⟨⟨b, hb⟩, m, hm⟩
        exact ⟨b :: m, .cons hb hm⟩

theorem map_cons_eq_ok_iff {x : Except Fault (List α)} {a : α} {l : List α} :
    x.map (a :: ·) = .ok l ↔ ∃ rest, x = .ok rest ∧ l = a :: rest := by
  cases x with
  | error f => exact iff_of_false nofun fun ⟨_, hf, _⟩ => nomatch hf
  | ok rest => simp [Except.map, eq_comm]

end

variable {ε ι : Type} {r : Runner ε}

/-! ## What does not depend on the state of the engine -/

/-- An observation does not say why a request failed. -/
theorem Request.observe_congr {a b : Except Fault Outcome} (h : a.toOption = b.toOption)
    (q : Request) : q.observe a = q.observe b ∧ a.isOk = b.isOk := by
  cases a with
  | error f =>
      cases b with
      | error g => exact ⟨rfl, rfl⟩
      | ok o => cases h
  | ok o =>
      cases b with
      | error g => cases h
      | ok p => cases h; exact ⟨rfl, rfl⟩

namespace Runner

theorem sendAll_memoryless {e : Engine ε} (h : e.Memoryless) (settings : Settings)
    (l : List Vector) (s t : ε) :
    (sendAll e settings l s).1 = (sendAll e settings l t).1 := by
  induction l generalizing s t with
  | nil => rfl
  | cons v l ih =>
      obtain ⟨hobserve, hok⟩ := Request.observe_congr (h s t settings v.plan) ⟨settings, v⟩
      rw [sendAll_cons, sendAll_cons]
      dsimp only
      rw [hobserve, hok, ih _ (e.execute t settings v.plan).2]

variable (h : r.engine.Memoryless)
include h

theorem rounds_memoryless (settings : Settings) (description : String) (done left : Nat)
    (s t : ε) : (r.rounds settings description done left s).1
      = (r.rounds settings description done left t).1 := by
  induction left generalizing done s t with
  | zero => rfl
  | succ left ih =>
      have hsend := sendAll_memoryless h settings r.vectors s t
      rw [rounds, rounds]
      rcases hs : sendAll r.engine settings r.vectors s with ⟨⟨l, any⟩, s'⟩
      rcases ht : sendAll r.engine settings r.vectors t with ⟨⟨l', any'⟩, t'⟩
      rw [hs, ht] at hsend
      cases hsend
      dsimp only
      split
      · rfl
      · exact congrArg (Except.map (l ++ ·)) (ih (done + 1) s' t')

variable [Configuration ι]

theorem run_memoryless (c : ι) (s t : ε) : (r.run c s).1 = (r.run c t).1 := by
  rw [run, run]
  dsimp only
  rw [rounds_memoryless h _ _ _ _ s t]

theorem extend_memoryless (t : Test ι) (s s' : ε) : (r.extend t s).1 = (r.extend t s').1 := by
  rw [extend_eq, extend_eq, Prod.map_fst, Prod.map_fst, furtherRounds, furtherRounds,
    rounds_memoryless h _ _ _ _ s s']

omit h

/-! ## One test at a time -/

/-- **The second phase of one test**: it is extended if the policy selects it. -/
def settle (r : Runner ε) (t : Test ι) (s : ε) : Except Fault (Test ι) :=
  if r.thoroughness.extends? t then (r.extend t s).1 else .ok t

/-- **The course of one configuration**: its first rounds, and its second phase. -/
def course (r : Runner ε) (c : ι) (s : ε) : Except Fault (Test ι) :=
  (r.run c s).1.bind fun t => r.settle t s

theorem course_eq_ok_iff {c : ι} {s : ε} {t : Test ι} : r.course c s = .ok t
    ↔ ∃ first, (r.run c s).1 = .ok first ∧ r.settle first s = .ok t := by
  rw [course]
  cases (r.run c s).1 <;> simp [Except.bind]

/-- The second phase leaves tests alone that are not let in at their own gates. -/
theorem extendSelected_of_not_extends {tests : List (Test ι)}
    (hkept : ∀ t ∈ tests, r.thoroughness.extends? t = false) (s : ε) :
    r.extendSelected tests s = (.ok tests, [], s) := by
  induction tests with
  | nil => rfl
  | cons t l ih =>
      obtain ⟨ht, hl⟩ := List.forall_mem_cons.mp hkept
      rw [extendSelected, ht, if_neg Bool.false_ne_true, ih hl]
      rfl

/-- **The gate of the run makes no difference**: the second phase can as well be entered
always. -/
theorem runWithEscalation_eq (l : List ι) (s : ε) : r.runWithEscalation l s
    = match r.runAll l s with
      | (.error f, s) => (.error f, [], s)
      | (.ok tests, s) => r.extendSelected tests s := by
  rw [runWithEscalation]
  rcases r.runAll l s with ⟨f | tests, s'⟩
  · rfl
  · dsimp only
    split
    · rfl
    · rename_i hgate
      refine (extendSelected_of_not_extends (fun t ht => ?_) s').symm
      exact Bool.eq_false_iff.mpr fun hextends => hgate (escalates_of_extends ht hextends)

include h

theorem settle_memoryless (t : Test ι) (s s' : ε) : r.settle t s = r.settle t s' := by
  rw [settle, settle, extend_memoryless h t s s']

/-- **The first phase succeeds** exactly if the first rounds of every test do. -/
theorem runAll_ok_iff {l : List ι} {tests : List (Test ι)} (s u : ε) :
    (r.runAll l s).1 = .ok tests
      ↔ List.Forall₂ (fun c t => (r.run c u).1 = .ok t) l tests := by
  induction l generalizing s tests with
  | nil => cases tests <;> simp [runAll]
  | cons c l ih =>
      rw [List.forall₂_cons_left_iff, ← run_memoryless h c s u, runAll]
      rcases r.run c s with ⟨f | t, s'⟩
      · simp
      · simp only [map_cons_eq_ok_iff, ih s', Except.ok.injEq, exists_and_left, exists_eq_left']

/-- **The second phase succeeds** exactly if that of every test does. -/
theorem extendSelected_ok_iff {first tests : List (Test ι)} (s u : ε) :
    (r.extendSelected first s).1 = .ok tests
      ↔ List.Forall₂ (fun t t' => r.settle t u = .ok t') first tests := by
  induction first generalizing s tests with
  | nil => cases tests <;> simp [extendSelected]
  | cons t l ih =>
      rw [List.forall₂_cons_left_iff, settle_memoryless h t u s, settle, extendSelected]
      split
      · rcases r.extend t s with ⟨f | t', s'⟩
        · simp
        · simp only [map_cons_eq_ok_iff, ih s', Except.ok.injEq, exists_and_left,
            exists_eq_left']
      · simp only [map_cons_eq_ok_iff, ih s, Except.ok.injEq, exists_and_left, exists_eq_left']

/-! ## Whole runs -/

/-- **A run succeeds with some tests** exactly if they are what the configurations come to,
each by its own course. -/
theorem runWithEscalation_ok_iff {l : List ι} {tests : List (Test ι)} (s u : ε) :
    (r.runWithEscalation l s).1 = .ok tests
      ↔ List.Forall₂ (fun c t => r.course c u = .ok t) l tests := by
  simp only [course_eq_ok_iff, forall₂_comp_iff, ← runAll_ok_iff h s u, runWithEscalation_eq]
  rcases r.runAll l s with ⟨f | first, s'⟩
  · simp
  · simp only [Except.ok.injEq, exists_eq_left']
    exact extendSelected_ok_iff h s' u

/-- A run with one configuration is its course. -/
theorem runWithEscalation_singleton {c : ι} {tests : List (Test ι)} (s u : ε) :
    (r.runWithEscalation [c] s).1 = .ok tests ↔ ∃ t, tests = [t] ∧ r.course c u = .ok t := by
  rw [runWithEscalation_ok_iff h s u, List.forall₂_cons_left_iff]
  simp [List.forall₂_nil_left_iff, and_comm]

/-- **Configurations do not influence each other.**  Take an engine without memory.  A run
succeeds exactly if the runs with one of its configurations each do, whatever state the
engine is in when they start.  Then it gives one test for every configuration, in order, and
this is the test that the run with that configuration alone gives: its observations and
batches are the same. -/
theorem configurations_are_independent (l : List ι) (s : ε) (alone : ι → ε) :
    ((∃ tests, (r.runWithEscalation l s).1 = .ok tests)
        ↔ ∀ c ∈ l, ∃ tests, (r.runWithEscalation [c] (alone c)).1 = .ok tests)
      ∧ ∀ tests, (r.runWithEscalation l s).1 = .ok tests →
        tests.length = l.length
          ∧ ∀ (i : Nat) (c : ι), l[i]? = some c → ∃ t, tests[i]? = some t
            ∧ (r.runWithEscalation [c] (alone c)).1 = .ok [t] := by
  have halone : ∀ c tests, (r.runWithEscalation [c] (alone c)).1 = .ok tests
      ↔ ∃ t, tests = [t] ∧ r.course c s = .ok t :=
    fun c _ => runWithEscalation_singleton h (alone c) s
  constructor
  · simp only [runWithEscalation_ok_iff h s s, exists_forall₂_iff, halone]
    refine forall₂_congr fun c _ => ⟨?_, ?_⟩
    · rintro ⟨t, ht⟩
      exact ⟨[t], t, rfl, ht⟩
    · rintro ⟨_, t, -, ht⟩
      exact ⟨t, ht⟩
  · intro tests hrun
    obtain ⟨hlength, hget⟩ :=
      List.forall₂_iff_get.mp ((runWithEscalation_ok_iff h s s).mp hrun)
    refine ⟨hlength.symm, fun i c hc => ?_⟩
    obtain ⟨hi, rfl⟩ := List.getElem?_eq_some_iff.mp hc
    have hi' : i < tests.length := hlength ▸ hi
    exact ⟨tests[i], List.getElem?_eq_getElem hi', (halone _ _).mpr ⟨_, rfl, hget i hi hi'⟩⟩

end Runner

namespace Sample

/-- A target that fails the longer requests under one cipher suite, and otherwise treats all
of them alike.  The engine counts its calls, and makes no use of it. -/
def counting : Engine Nat where
  execute n settings plan :=
    (if settings.cipherSuite = some 0x002f ∧ plan.length = 2 then .error ⟨"refused", []⟩
      else .ok ⟨1, [Message.alert "bad_record_mac"], .closed⟩, n + 1)

/-- Two requests, in a scan of normal thoroughness. -/
def countingRunner : Runner Nat := ⟨counting, .normal, runner.vectors⟩

/-- The tests of the run for two configurations. -/
def countingTests : List (Test SuiteChoice) :=
  match (countingRunner.runWithEscalation choices 0).1 with
  | .ok tests => tests
  | .error _ => []

end Sample

theorem configurations_are_independent_sample :
    Sample.countingRunner.engine.Memoryless
      ∧ (Sample.countingRunner.runWithEscalation Sample.choices 0).1 = .ok Sample.countingTests
      ∧ Sample.countingTests.map Test.isExtended = [true, false]
      ∧ ∃ t, Sample.countingTests[1]? = some t
        ∧ (Sample.countingRunner.runWithEscalation [Sample.choices[1]] 7).1 = .ok [t] := by
  have hmemoryless : Sample.countingRunner.engine.Memoryless := fun _ _ _ _ => rfl
  have hrun : (Sample.countingRunner.runWithEscalation Sample.choices 0).1
      = .ok Sample.countingTests := rfl
  obtain ⟨-, htests⟩ := Runner.configurations_are_independent hmemoryless Sample.choices 0
    fun _ => 7
  exact ⟨hmemoryless, hrun, by decide +kernel, (htests _ hrun).2 1 Sample.choices[1] rfl⟩

end Leak

end TlsScan
