import TlsScan.Proofs.Leak.Requests
import TlsScan.Proofs.Leak.Significance

/-!
# Escalated leak tests

A run of leak tests has two phases.  Every configuration gets its first rounds, and then
some tests get further ones.  Which tests these are is decided at two gates, one for the
whole run and one for each test.  The first of them never keeps out what the second would
let in, so that in the end a test was extended exactly if its own first observations differ
or the scan is detailed.

## Main Definitions

* `Leak.Runner.opening`, `Leak.Runner.further` — the requests of a test in both phases.
* `Leak.Runner.Fresh`, `Leak.Runner.Complete` — a test after the first phase and at the end.
* `Leak.Runner.Extension` — what the second phase comes to.
* `Leak.Runner.Leaks` — the further rounds of a test show a leak.

## Main Results

* `Leak.Runner.runAll_ok`, `Leak.Runner.extendSelected_ok` — what the phases come to.
* `Leak.Runner.escalates_of_extends`, `Leak.Runner.complete_of_gate` — the first gate keeps
  nobody out, so no test is to be extended if the run stops there.
* `Leak.Runner.escalated_run` — what a run comes to: the tests, all that was asked, what was
  observed, and the finding.
-/

namespace TlsScan.Leak

open Engine

namespace Runner

variable {ε ι : Type}

/-! ## Rounds -/

/-- The requests of one round. -/
def round (r : Runner ε) (settings : Settings) : List Request :=
  r.vectors.map (Request.mk settings)

/-- The requests of a number of rounds. -/
def schedule (r : Runner ε) (settings : Settings) (n : Nat) : List Request :=
  (List.replicate n (r.vectors.map (Request.mk settings))).flatten

theorem length_round (r : Runner ε) (settings : Settings) :
    (r.round settings).length = r.vectors.length := List.length_map _

theorem schedule_succ (r : Runner ε) (settings : Settings) (n : Nat) :
    r.schedule settings (n + 1) = r.round settings ++ r.schedule settings n := by
  rw [schedule, List.replicate_succ, List.flatten_cons]
  rfl

section
variable {r : Runner ε} {s s' : ε}

theorem length_schedule (settings : Settings) (n : Nat) :
    (r.schedule settings n).length = n * r.vectors.length := by
  simp [schedule]

theorem sendAll_eq (e : Engine ε) (settings : Settings) (l : List Vector) :
    ((sendAll e settings l s).1.1, (sendAll e settings l s).2)
      = observeAll e (l.map (Request.mk settings)) s := by
  induction l generalizing s with
  | nil => rfl
  | cons v l ih =>
      rw [sendAll_cons, List.map_cons, observeAll_cons, ← ih]

/-- **Rounds that succeed have made all their requests**, and nothing else. -/
theorem rounds_ok {settings : Settings} {description : String} {done left : Nat}
    {l : List Observation}
    (h : r.rounds settings description done left s = (.ok l, s')) :
    observeAll r.engine (r.schedule settings left) s = (l, s') := by
  induction left generalizing done s l with
  | zero => cases h; rfl
  | succ left ih =>
      have hround := sendAll_eq (s := s) r.engine settings r.vectors
      rw [rounds] at h
      rw [schedule_succ, observeAll_append, round, ← hround]
      rcases hsend : sendAll r.engine settings r.vectors s with ⟨⟨first, any⟩, t⟩
      rw [hsend] at h
      dsimp only at h ⊢
      split at h
      · cases h
      · rcases hrest : r.rounds settings description (done + 1) left t with ⟨_ | rest, t'⟩
        · rw [hrest] at h; cases h
        · rw [hrest] at h
          cases h
          rw [ih hrest]

end

/-! ## Tests in the course of a run -/

/-- **A test after the first phase.** -/
structure Fresh (r : Runner ε) (t : Test ι) : Prop where
  initial : t.initial.length = r.thoroughness.initialRounds * r.vectors.length
  batches : t.batches = []

/-- Whether a test is to be extended: its first observations differ, or all tests are. -/
def Selected (r : Runner ε) (t : Test ι) : Prop :=
  Differ t.initial ∨ r.thoroughness.atLeast .detailed = true

/-- **A test at the end of a run**: it was extended by one batch if it was to be. -/
structure Complete (r : Runner ε) (t : Test ι) : Prop where
  initial : t.initial.length = r.thoroughness.initialRounds * r.vectors.length
  batches : (¬ r.Selected t ∧ t.batches = [])
    ∨ (r.Selected t ∧ ∃ batch, t.batches = [batch]
      ∧ batch.length = r.thoroughness.additionalRounds * r.vectors.length)

section
variable {r : Runner ε} {t : Test ι} {s s' : ε}

theorem Fresh.isDistinct_iff (h : r.Fresh t) : t.isDistinct = true ↔ Differ t.initial := by
  rw [Test.isDistinct, ← t.initial_append_batches, h.batches, List.flatten_nil,
    List.append_nil, hasDistinctAnswers_iff]

theorem Fresh.extends?_iff (h : r.Fresh t) :
    r.thoroughness.extends? t = true ↔ r.Selected t := by
  rw [Thoroughness.extends?, Bool.or_eq_true, h.isDistinct_iff, Selected]

theorem Fresh.complete (h : r.Fresh t) (ht : ¬ r.Selected t) : r.Complete t :=
  ⟨h.initial, Or.inl ⟨ht, h.batches⟩⟩

theorem Fresh.extend (h : r.Fresh t) (ht : r.Selected t) {batch : List Observation}
    (hbatch : batch.length = r.thoroughness.additionalRounds * r.vectors.length) :
    r.Complete (t.extend batch) := by
  obtain ⟨hinitial, hbatches⟩ := t.parts_extend batch
  rw [h.batches, List.nil_append] at hbatches
  refine ⟨hinitial ▸ h.initial, Or.inr ⟨?_, batch, hbatches, hbatch⟩⟩
  rw [Selected, hinitial]
  exact ht

theorem Complete.isExtended_iff (h : r.Complete t) : t.isExtended = true ↔ r.Selected t := by
  rw [t.isExtended_eq]
  rcases h.batches with ⟨hno, hnil⟩ | ⟨hyes, batch, hone, -⟩
  · simp [hnil, hno]
  · simp [hone, hyes]

/-- Further rounds bring a test to a number of rounds that depends on the thoroughness. -/
theorem rounds_add (t : Thoroughness) :
    t.initialRounds + t.additionalRounds = t.escalationRounds := by
  cases t <;> rfl

theorem Complete.length_observations (h : r.Complete t) : t.observations.length
    = (if t.isExtended then r.thoroughness.escalationRounds
      else r.thoroughness.initialRounds) * r.vectors.length := by
  rw [t.isExtended_eq, ← t.initial_append_batches]
  rcases h.batches with ⟨-, hnil⟩ | ⟨-, batch, hone, hbatch⟩
  · simp [hnil, h.initial]
  · simp [hone, h.initial, hbatch, ← rounds_add, Nat.add_mul]

/-- **A test that is let in at its own gate opens the gate of the run.** -/
theorem escalates_of_extends {tests : List (Test ι)} (ht : t ∈ tests)
    (h : r.thoroughness.extends? t = true) :
    r.thoroughness.escalates (tests.any Test.isDistinct) = true := by
  rw [Thoroughness.extends?, Bool.or_eq_true] at h
  rw [Thoroughness.escalates, Bool.or_eq_true]
  refine h.imp (fun hdistinct => List.any_eq_true.mpr ⟨t, ht, hdistinct⟩) fun hdetailed => ?_
  -- What is detailed is normal as well.
  rcases hth : r.thoroughness with _ | _ | _ | _ <;> rw [hth] at hdetailed
  · cases hdetailed
  · rfl
  · rfl
  · rfl

/-- **No test is to be extended if the run stops after its first phase.** -/
theorem complete_of_gate {tests : List (Test ι)} (hfresh : ∀ t ∈ tests, r.Fresh t)
    (hgate : r.thoroughness.escalates (tests.any Test.isDistinct) = false) :
    ∀ t ∈ tests, r.Complete t := by
  intro t ht
  refine (hfresh t ht).complete fun hselected => ?_
  have hopen := escalates_of_extends ht ((hfresh t ht).extends?_iff.mpr hselected)
  exact Bool.false_ne_true (hgate.symm.trans hopen)

/-! ## The finding -/

/-- **The further rounds of a test show a leak**: they differ by themselves, and all
observations together are unlikely to differ by chance. -/
def Leaks (r : Runner ε) (t : Test ι) : Prop :=
  t.isExtended = true
    ∧ Differ (t.observations.drop (r.thoroughness.initialRounds * r.vectors.length))
    ∧ pValue t.observations < significanceLevel

theorem Complete.isSignificant_iff (h : r.Complete t) :
    t.isSignificant = true ↔ r.Leaks t := by
  have hdrop : t.observations.drop (r.thoroughness.initialRounds * r.vectors.length)
      = t.batches.flatten := by
    rw [← h.initial, ← t.initial_append_batches, List.drop_left]
  rw [Test.isSignificant_iff, Leaks, hdrop, t.isExtended_eq]
  rcases h.batches with ⟨-, hnil⟩ | ⟨-, batch, hone, -⟩
  · simp [hnil]
  · simp only [hone, List.flatten_singleton, List.forall_mem_singleton, List.isEmpty_cons,
      Bool.not_false, ne_eq, List.cons_ne_nil, not_false_eq_true, true_and]
    refine and_congr_right fun hbatch => and_iff_right (hbatch.mono ?_)
    -- The batch is part of all observations.
    rw [← t.initial_append_batches, hone, List.flatten_singleton]
    exact List.subset_append_right ..

/-- **The finding of tests that are complete.** -/
theorem verdict_iff {tests : List (Test ι)} (h : ∀ t ∈ tests, r.Complete t) :
    (verdict tests = .couldNotTest ↔ tests = [])
      ∧ (verdict tests = .holds ↔ ∃ t ∈ tests, r.Leaks t)
      ∧ (verdict tests = .fails ↔ tests ≠ [] ∧ ∀ t ∈ tests, ¬ r.Leaks t) := by
  have hany : tests.any Test.isSignificant = true ↔ ∃ t ∈ tests, r.Leaks t := by
    rw [List.any_eq_true]
    exact exists_congr fun t => and_congr_right fun ht => (h t ht).isSignificant_iff
  have hnone : (∀ t ∈ tests, ¬ r.Leaks t) ↔ ¬ tests.any Test.isSignificant = true := by
    rw [hany]
    simp
  rw [← hany, hnone]
  cases tests with
  | nil => simp [verdict]
  | cons t l =>
      unfold verdict
      rw [List.isEmpty_cons, if_neg Bool.false_ne_true]
      cases (t :: l).any Test.isSignificant <;> simp [Finding.ofBool]

end

/-! ## The two phases -/

variable [Configuration ι]

/-- **The requests of the first rounds of a test.** -/
def opening (r : Runner ε) (c : ι) : List Request :=
  r.schedule (Configuration.settings c) r.thoroughness.initialRounds

/-- **The requests of its further rounds**, which wait longer. -/
def further (r : Runner ε) (c : ι) : List Request :=
  r.schedule (r.patient (Configuration.settings c)) r.thoroughness.additionalRounds

/-- **The requests of a run**, by the tests that it comes to: all openings, then the
further rounds of the tests that were extended. -/
def requests (r : Runner ε) (l : List ι) (tests : List (Test ι)) : List Request :=
  l.flatMap r.opening
    ++ (tests.filter Test.isExtended).flatMap fun t => r.further t.configuration

section
variable {r : Runner ε} {s s' : ε}

theorem run_ok {c : ι} {t : Test ι} (h : r.run c s = (.ok t, s')) :
    t.configuration = c ∧ t.batches = [] ∧ observeAll r.engine (r.opening c) s
      = (t.initial, s') := by
  rw [run] at h
  rcases hrounds : r.rounds (Configuration.settings c) (Configuration.describe c) 0
    r.thoroughness.initialRounds s with ⟨_ | l, t'⟩
  · rw [hrounds] at h; cases h
  · rw [hrounds] at h
    cases h
    obtain ⟨hinitial, hbatches⟩ := Test.parts_start c l
    exact ⟨rfl, hbatches, hinitial.symm ▸ rounds_ok hrounds⟩

theorem extend_ok {t t' : Test ι} (h : r.extend t s = (.ok t', s')) :
    ∃ batch, t' = t.extend batch
      ∧ observeAll r.engine (r.further t.configuration) s = (batch, s') := by
  rw [extend_eq, furtherRounds] at h
  rcases hrounds : r.rounds (r.patient (Configuration.settings t.configuration))
    (Configuration.describe t.configuration) 0 r.thoroughness.additionalRounds s
    with ⟨_ | l, t'⟩
  · rw [hrounds] at h; cases h
  · rw [hrounds] at h
    cases h
    exact ⟨l, rfl, rounds_ok hrounds⟩

/-- **The first phase**: all openings, one after the other. -/
theorem runAll_ok {l : List ι} {tests : List (Test ι)}
    (h : r.runAll l s = (.ok tests, s')) :
    tests.map Test.configuration = l ∧ (∀ t ∈ tests, r.Fresh t)
      ∧ observeAll r.engine (l.flatMap r.opening) s = (tests.flatMap Test.initial, s') := by
  induction l generalizing s tests with
  | nil => cases h; exact ⟨rfl, nofun, rfl⟩
  | cons c l ih =>
      rw [runAll] at h
      rcases hrun : r.run c s with ⟨_ | t, s₁⟩
      · rw [hrun] at h; cases h
      rcases hall : r.runAll l s₁ with ⟨_ | rest, s₂⟩
      · rw [hrun] at h
        dsimp only at h
        rw [hall] at h
        cases h
      rw [hrun] at h
      dsimp only at h
      rw [hall] at h
      cases h
      obtain ⟨rfl, hbatches, hopening⟩ := run_ok hrun
      obtain ⟨rfl, hfresh, hrest⟩ := ih hall
      refine ⟨rfl, List.forall_mem_cons.mpr ⟨⟨?_, hbatches⟩, hfresh⟩, ?_⟩
      · have hlength := length_observeAll r.engine (r.opening t.configuration) s
        rwa [hopening, opening, length_schedule] at hlength
      · rw [List.flatMap_cons, observeAll_append, hopening, hrest, List.flatMap_cons]

/-- **What the second phase comes to**: the tests that it gets are complete, and what it
observed are the batches that they were extended by. -/
structure Extension (r : Runner ε) (l tests : List (Test ι)) (s s' : ε) : Prop where
  configurations : tests.map Test.configuration = l.map Test.configuration
  initials : tests.map Test.initial = l.map Test.initial
  complete : ∀ t ∈ tests, r.Complete t
  observed : observeAll r.engine
      ((tests.filter Test.isExtended).flatMap fun t => r.further t.configuration) s
    = (tests.flatMap fun t => t.batches.flatten, s')

/-- A test that was extended comes before those that are left. -/
theorem Extension.cons_extended {t : Test ι} {batch : List Observation} {l tests : List (Test ι)}
    {s₁ : ε} (ht : r.Fresh t) (hselected : r.Selected t)
    (hbatch : observeAll r.engine (r.further t.configuration) s = (batch, s₁))
    (h : r.Extension l tests s₁ s') : r.Extension (t :: l) (t.extend batch :: tests) s s' := by
  have hlength := length_observeAll r.engine (r.further t.configuration) s
  rw [hbatch, further, length_schedule] at hlength
  have hnew : r.Complete (t.extend batch) := ht.extend hselected hlength
  obtain ⟨hinitial, hbatches⟩ := t.parts_extend batch
  rw [ht.batches, List.nil_append] at hbatches
  have hextended : (t.extend batch).isExtended = true := by
    rw [Test.isExtended_eq, hbatches]
    rfl
  refine ⟨congrArg (_ :: ·) h.configurations, ?_, List.forall_mem_cons.mpr ⟨hnew, h.complete⟩,
    ?_⟩
  · rw [List.map_cons, List.map_cons, hinitial, h.initials]
  have hnow : observeAll r.engine (r.further (t.extend batch).configuration) s = (batch, s₁) :=
    hbatch
  rw [List.filter_cons_of_pos hextended, List.flatMap_cons, observeAll_append, hnow, h.observed,
    List.flatMap_cons, hbatches, List.flatten_singleton]

/-- A test that was passed over comes before those that are left. -/
theorem Extension.cons_kept {t : Test ι} {l tests : List (Test ι)} (ht : r.Fresh t)
    (hselected : ¬ r.Selected t) (h : r.Extension l tests s s') :
    r.Extension (t :: l) (t :: tests) s s' := by
  have hnew := ht.complete hselected
  refine ⟨congrArg (_ :: ·) h.configurations, congrArg (_ :: ·) h.initials,
    List.forall_mem_cons.mpr ⟨hnew, h.complete⟩, ?_⟩
  rw [List.filter_cons_of_neg (fun hyes => hselected (hnew.isExtended_iff.mp hyes)), h.observed]
  simp [ht.batches]

/-- **The second phase**: the further rounds of the tests that are to be extended. -/
theorem extendSelected_ok {l tests : List (Test ι)} {notes : List LogEntry}
    (hfresh : ∀ t ∈ l, r.Fresh t)
    (h : r.extendSelected l s = (.ok tests, notes, s')) : r.Extension l tests s s' := by
  induction l generalizing s tests notes with
  | nil => cases h; exact ⟨rfl, rfl, nofun, rfl⟩
  | cons t l ih =>
      obtain ⟨ht, hl⟩ := List.forall_mem_cons.mp hfresh
      rw [extendSelected] at h
      split at h
      · rename_i hselected
        rcases hextend : r.extend t s with ⟨_ | t', s₁⟩
        · rw [hextend] at h; cases h
        rw [hextend] at h
        dsimp only at h
        rcases hrest : r.extendSelected l s₁ with ⟨_ | rest, notes', s₂⟩
        · rw [hrest] at h; cases h
        rw [hrest] at h
        cases h
        obtain ⟨batch, rfl, hbatch⟩ := extend_ok hextend
        exact (ih hl hrest).cons_extended ht (ht.extends?_iff.mp hselected) hbatch
      · rename_i hselected
        rcases hrest : r.extendSelected l s with ⟨_ | rest, notes', s₂⟩
        · rw [hrest] at h; cases h
        rw [hrest] at h
        cases h
        exact (ih hl hrest).cons_kept ht (mt ht.extends?_iff.mpr hselected)

/-! ## Whole runs -/

/-- **What a run comes to**: its tests are complete, and it has made its requests and no
others. -/
theorem runWithEscalation_ok {l : List ι} {tests : List (Test ι)} {notes : List LogEntry}
    (h : r.runWithEscalation l s = (.ok tests, notes, s')) :
    tests.map Test.configuration = l ∧ (∀ t ∈ tests, r.Complete t)
      ∧ observeAll r.engine (r.requests l tests) s
        = (tests.flatMap Test.initial ++ tests.flatMap fun t => t.batches.flatten, s') := by
  rw [runWithEscalation] at h
  rcases hall : r.runAll l s with ⟨_ | first, s₁⟩
  · rw [hall] at h; cases h
  obtain ⟨hconfigurations, hfresh, hopening⟩ := runAll_ok hall
  rw [hall] at h
  dsimp only at h
  rw [requests, observeAll_append, hopening]
  split at h
  · have hphase := extendSelected_ok hfresh h
    refine ⟨hphase.configurations.trans hconfigurations, hphase.complete, ?_⟩
    have hfirst : tests.flatMap Test.initial = first.flatMap Test.initial := by
      rw [List.flatMap_def, hphase.initials, ← List.flatMap_def]
    rw [hphase.observed, hfirst]
  · rename_i hgate
    cases h
    have hcomplete := complete_of_gate hfresh (Bool.eq_false_iff.mpr hgate)
    refine ⟨hconfigurations, hcomplete, ?_⟩
    have hnone : ∀ t ∈ tests, t.batches = [] := fun t ht => (hfresh t ht).batches
    have hfilter : tests.filter Test.isExtended = [] :=
      List.filter_eq_nil_iff.mpr fun t ht => by simp [Test.isExtended_eq, hnone t ht]
    have hflat : (tests.flatMap fun t => t.batches.flatten) = [] :=
      List.flatMap_eq_nil_iff.mpr fun t ht => by simp [hnone t ht]
    rw [hfilter, hflat]
    rfl

/-- **What a run asks are its requests.** -/
theorem asked_eq {l : List ι} {tests : List (Test ι)} {notes : List LogEntry}
    (h : r.runWithEscalation l s = (.ok tests, notes, s')) :
    r.asked l s = (r.requests l tests).map Request.call := by
  have hrecorded := runWithEscalation_recorded r (s, []) l
  rw [h] at hrecorded
  unfold asked
  rcases hrun : r.recorded.runWithEscalation l (s, []) with ⟨x, notes', u, log⟩
  rw [hrun] at hrecorded
  cases hrecorded
  obtain ⟨-, -, hobserved⟩ := runWithEscalation_ok hrun
  rw [engine_recorded, observeAll_recorded] at hobserved
  exact (congrArg (·.2.2) hobserved).symm

/-- **A run of leak tests from end to end.**  If it succeeds, there is one test for every
configuration, in order.  The engine was asked for the first rounds of all of them, then for
the further rounds of those that were extended, and the tests hold what was observed.  A
test was extended exactly if its own first observations differ or the scan is detailed, and
the number of its observations follows from that.  The finding is the one of the tests
whose further rounds show a leak. -/
theorem escalated_run {l : List ι} {tests : List (Test ι)} {notes : List LogEntry}
    (h : r.runWithEscalation l s = (.ok tests, notes, s')) :
    tests.map Test.configuration = l
      ∧ r.asked l s = (r.requests l tests).map Request.call
      ∧ observeAll r.engine (r.requests l tests) s
        = (tests.flatMap Test.initial ++ tests.flatMap fun t => t.batches.flatten, s')
      ∧ (∀ t ∈ tests,
        (t.isExtended = true ↔ Differ t.initial ∨ r.thoroughness.atLeast .detailed = true)
          ∧ t.initial <+: t.observations
          ∧ t.initial.length = r.thoroughness.initialRounds * r.vectors.length
          ∧ t.observations.length = (if t.isExtended then r.thoroughness.escalationRounds
            else r.thoroughness.initialRounds) * r.vectors.length)
      ∧ (verdict tests = .couldNotTest ↔ l = [])
      ∧ (verdict tests = .holds ↔ ∃ t ∈ tests, r.Leaks t)
      ∧ (verdict tests = .fails ↔ l ≠ [] ∧ ∀ t ∈ tests, ¬ r.Leaks t) := by
  obtain ⟨hconfigurations, hcomplete, hobserved⟩ := runWithEscalation_ok h
  have hnil : tests = [] ↔ l = [] := by rw [← hconfigurations, List.map_eq_nil_iff]
  have hverdict := verdict_iff hcomplete
  rw [ne_eq, hnil] at hverdict
  refine ⟨hconfigurations, asked_eq h, hobserved, fun t ht => ?_, hverdict⟩
  have htest := hcomplete t ht
  exact ⟨htest.isExtended_iff, ⟨_, t.initial_append_batches⟩, htest.initial,
    htest.length_observations⟩

end

end Runner

namespace Sample

/-- A target that answers in the same way, except that the long one of two requests fails
in the first three rounds. -/
def script : Script where
  first := (List.replicate 3
    [.ok ⟨1, [Message.alert "bad_record_mac"], .closed⟩, .error ⟨"refused", []⟩]).flatten
  cycle := [.ok ⟨1, [Message.alert "bad_record_mac"], .closed⟩]

/-- Two requests, in a scan of normal thoroughness. -/
def runner : Runner Script where
  engine := scripted
  thoroughness := .normal
  vectors := [⟨"short", ⟨[.send .clientKeyExchange]⟩⟩,
    ⟨"long", ⟨[.send .clientKeyExchange, .send .changeCipherSpec]⟩⟩]

/-- Two configurations; the first rounds of one differ. -/
def choices : List SuiteChoice := [⟨.tls12, 0x002f⟩, ⟨.tls12, 0x0035⟩]

/-- The tests of the run. -/
def tests : List (Test SuiteChoice) :=
  match (runner.runWithEscalation choices script).1 with
  | .ok tests => tests
  | .error _ => []

end Sample

theorem escalated_run_sample :
    Sample.runner.runWithEscalation Sample.choices Sample.script
        = (.ok Sample.tests, (Sample.runner.runWithEscalation Sample.choices Sample.script).2)
      ∧ Sample.tests.map Test.isExtended = [true, false]
      ∧ Sample.tests.map (fun t => t.observations.length) = [20, 6]
      ∧ (Sample.runner.asked Sample.choices Sample.script).length = 26
      ∧ ∃ t ∈ Sample.tests, Differ t.initial := by
  have hrun : Sample.runner.runWithEscalation Sample.choices Sample.script
      = (.ok Sample.tests, (Sample.runner.runWithEscalation Sample.choices Sample.script).2) :=
    rfl
  have hextended : Sample.tests.map Test.isExtended = [true, false] := by decide +kernel
  obtain ⟨-, hasked, -, htests, -⟩ := Runner.escalated_run hrun
  refine ⟨hrun, hextended, by decide +kernel, ?_, ?_⟩
  · rw [hasked]
    decide +kernel
  · -- The scan is not detailed, so what was extended was extended for its observations.
    obtain ⟨t, ht, hyes⟩ := List.mem_map.mp (hextended ▸ List.mem_cons_self)
    exact ⟨t, ht, ((htests t ht).1.mp hyes).resolve_right (by decide)⟩

end TlsScan.Leak
