import Mathlib.Data.Nat.Find
import TlsScan.Proofs.Leak.Escalation

/-!
# Rounds, call by call

A leak test is gathered by two nested loops over an engine that remembers what it was asked.
Every round sends each request once, and a round in which nothing at all is answered ends
everything.  So what matters is the first round that is lost: up to its end all calls are
made, and none after it.  If no round is lost, all calls are made, and the answer to call
number `k * m + j`, of `m` a round, stands in this place of what was gathered, under the name
of request number `j`.

Rounds that fail hand over nothing.  The first rounds of a test then make no test, and further
ones leave the test that they were to extend as it was.

## Main Definitions

* `Leak.answerAll` — the answers to requests that are made one after the other.
* `Leak.Runner.Lost` — every call of a round fails.
* `Leak.Runner.Gathers` — what a number of rounds comes to, and the calls that it takes.

## Main Results

* `Leak.Runner.rounds_of_lost`, `Leak.Runner.rounds_of_not_lost` — rounds fail at the first
  one that is lost, and succeed if none is.
* `Leak.Runner.rounds_are_exact` — what the first rounds of a test and further ones come to.
-/

namespace TlsScan.Leak

open Engine

variable {ε ι : Type}

/-! ## Answers -/

/-- **The answers to requests that are made one after the other.** -/
def answerAll (e : Engine ε) : List Request → ε → List (Except Fault Outcome) × ε
  | [], s => ([], s)
  | q :: l, s =>
    let (answer, s) := e.execute s q.settings q.vector.plan
    let (rest, s) := answerAll e l s
    (answer :: rest, s)

section
variable (e : Engine ε) (l m : List Request) (s : ε)

theorem answerAll_cons (q : Request) : answerAll e (q :: l) s
    = ((e.execute s q.settings q.vector.plan).1
        :: (answerAll e l (e.execute s q.settings q.vector.plan).2).1,
      (answerAll e l (e.execute s q.settings q.vector.plan).2).2) := rfl

theorem answerAll_append : answerAll e (l ++ m) s
    = ((answerAll e l s).1 ++ (answerAll e m (answerAll e l s).2).1,
      (answerAll e m (answerAll e l s).2).2) := by
  induction l generalizing s with
  | nil => rfl
  | cons q l ih =>
      rw [List.cons_append, answerAll_cons, answerAll_cons, ih]
      rfl

/-- There is one answer to every request. -/
theorem length_answerAll : (answerAll e l s).1.length = l.length := by
  induction l generalizing s with
  | nil => rfl
  | cons q l ih =>
      rw [answerAll_cons, List.length_cons, List.length_cons, ih]

/-- **What is observed are the answers**, each under the name of its request. -/
theorem observeAll_eq_zipWith : observeAll e l s
    = (List.zipWith Request.observe l (answerAll e l s).1, (answerAll e l s).2) := by
  induction l generalizing s with
  | nil => rfl
  | cons q l ih =>
      rw [observeAll_cons, answerAll_cons, ih]
      rfl

theorem state_observeAll : (observeAll e l s).2 = (answerAll e l s).2 := by
  rw [observeAll_eq_zipWith]

/-- Writing down what is asked changes no answer. -/
theorem answerAll_recorded (s : ε × List (Settings × Plan)) :
    (answerAll e.recorded l s).1 = (answerAll e l s.1).1 := by
  induction l generalizing s with
  | nil => rfl
  | cons q l ih =>
      rw [answerAll_cons, answerAll_cons, ih]
      rfl

end

namespace Runner

variable {r : Runner ε} {settings : Settings} {s : ε}

/-! ## Positions -/

/-- A position behind the first of several rounds. -/
theorem position_succ (k j m : Nat) : (k + 1) * m + j = m + (k * m + j) := by
  rw [Nat.succ_mul]
  omega

/-- **The place of each request in the schedule.** -/
theorem getElem?_schedule (settings : Settings) {n k j : Nat} (hk : k < n)
    (hj : j < r.vectors.length) :
    (r.schedule settings n)[k * r.vectors.length + j]? = some ⟨settings, r.vectors[j]⟩ := by
  induction k generalizing n with
  | zero =>
      obtain ⟨n, rfl⟩ := Nat.exists_eq_succ_of_ne_zero (Nat.ne_of_gt hk)
      rw [schedule_succ, Nat.zero_mul, Nat.zero_add,
        List.getElem?_append_left ((length_round r settings).symm ▸ hj), round, List.getElem?_map,
        List.getElem?_eq_getElem hj]
      rfl
  | succ k ih =>
      obtain ⟨n, rfl⟩ := Nat.exists_eq_succ_of_ne_zero (Nat.ne_of_gt (Nat.zero_lt_of_lt hk))
      rw [schedule_succ, position_succ, ← length_round r settings,
        List.getElem?_append_right (Nat.le_add_right ..), Nat.add_sub_cancel_left, length_round]
      exact ih (Nat.lt_of_succ_lt_succ hk)

/-! ## Lost rounds -/

/-- **The answers to the calls of a number of rounds**, as long as nobody stops. -/
def answers (r : Runner ε) (settings : Settings) (n : Nat) (s : ε) :
    List (Except Fault Outcome) := (answerAll r.engine (r.schedule settings n) s).1

/-- **A round is lost**, rounds being counted from zero: every one of its calls fails. -/
def Lost (r : Runner ε) (settings : Settings) (s : ε) (k : Nat) : Prop :=
  ∀ j < r.vectors.length,
    ((r.answers settings (k + 1) s)[k * r.vectors.length + j]?).map Except.isOk = some false

instance (r : Runner ε) (settings : Settings) (s : ε) (k : Nat) :
    Decidable (r.Lost settings s k) := by
  unfold Lost
  infer_instance

/-- The answers to the first round. -/
def opened (r : Runner ε) (settings : Settings) (s : ε) : List (Except Fault Outcome) :=
  (answerAll r.engine (r.round settings) s).1

/-- The engine after the first round. -/
def passed (r : Runner ε) (settings : Settings) (s : ε) : ε :=
  (answerAll r.engine (r.round settings) s).2

theorem length_opened (r : Runner ε) (settings : Settings) (s : ε) :
    (r.opened settings s).length = r.vectors.length :=
  (length_answerAll ..).trans (length_round ..)

theorem answers_succ (r : Runner ε) (settings : Settings) (n : Nat) (s : ε) :
    r.answers settings (n + 1) s
      = r.opened settings s ++ r.answers settings n (r.passed settings s) := by
  rw [answers, schedule_succ, answerAll_append]
  rfl

/-- The first round is lost if none of its calls succeeds, -/
theorem lost_zero_iff : r.Lost settings s 0
    ↔ (r.opened settings s).any Except.isOk = false := by
  rw [Lost, answers_succ, List.any_eq_false]
  constructor
  · intro h a ha
    obtain ⟨j, hj, rfl⟩ := List.mem_iff_getElem.mp ha
    have hfails := h j (length_opened r settings s ▸ hj)
    rw [Nat.zero_mul, Nat.zero_add, List.getElem?_append_left hj,
      List.getElem?_eq_getElem hj] at hfails
    exact Bool.eq_false_iff.mp (Option.some_inj.mp hfails)
  · intro h j hj
    rw [← length_opened r settings s] at hj
    rw [Nat.zero_mul, Nat.zero_add, List.getElem?_append_left hj, List.getElem?_eq_getElem hj]
    exact congrArg some (Bool.eq_false_iff.mpr (h _ (List.getElem_mem hj)))

/-- and a later one if it is among those after the first. -/
theorem lost_succ_iff {k : Nat} :
    r.Lost settings s (k + 1) ↔ r.Lost settings (r.passed settings s) k := by
  refine forall₂_congr fun j hj => ?_
  rw [answers_succ r settings (k + 1) s, position_succ,
    ← length_opened r settings s,
    List.getElem?_append_right (Nat.le_add_right ..), Nat.add_sub_cancel_left]

/-- If any round is lost, there is a first one that is. -/
theorem exists_first_lost {n : Nat} (h : ∃ k < n, r.Lost settings s k) :
    ∃ k < n, r.Lost settings s k ∧ ∀ j < k, ¬ r.Lost settings s j := by
  obtain ⟨hk, hlost⟩ := Nat.find_spec h
  exact ⟨Nat.find h, hk, hlost, fun j hj hearlier =>
    Nat.find_min h hj ⟨Nat.lt_trans hj hk, hearlier⟩⟩

theorem lost_recorded_iff {log : List (Settings × Plan)} {k : Nat} :
    r.recorded.Lost settings (s, log) k ↔ r.Lost settings s k := by
  have hanswers : r.recorded.answers settings (k + 1) (s, log) = r.answers settings (k + 1) s :=
    answerAll_recorded r.engine _ (s, log)
  rw [Lost, hanswers]
  rfl

/-! ## What becomes of rounds -/

theorem anySuccess_sendAll (e : Engine ε) (settings : Settings) (l : List Vector) (s : ε) :
    (sendAll e settings l s).1.2
      = (answerAll e (l.map (Request.mk settings)) s).1.any Except.isOk := by
  induction l generalizing s with
  | nil => rfl
  | cons v l ih =>
      rw [sendAll_cons, List.map_cons, answerAll_cons, List.any_cons, ← ih]

/-- **One round and those after it.** -/
theorem rounds_succ (hvectors : r.vectors ≠ []) (description : String) (done left : Nat) :
    r.rounds settings description done (left + 1) s
      = if (r.opened settings s).any Except.isOk then
          Prod.map (·.map ((observeAll r.engine (r.round settings) s).1 ++ ·)) id
            (r.rounds settings description (done + 1) left (r.passed settings s))
        else (.error (unstable (done + 1) description), r.passed settings s) := by
  have hsent := sendAll_eq (s := s) r.engine settings r.vectors
  have hempty : r.vectors.isEmpty = false := by simpa using hvectors
  rw [rounds, opened, passed, round, ← state_observeAll, ← hsent, ← anySuccess_sendAll]
  rcases sendAll r.engine settings r.vectors s with ⟨⟨l, any⟩, s'⟩
  cases any
  · simp [hempty]
  · simp [Prod.map]

/-- **Rounds fail at the first one that is lost**, and make all calls up to its end. -/
theorem rounds_of_lost (hvectors : r.vectors ≠ []) {description : String} (done : Nat)
    {n k : Nat} (hk : k < n) (hlost : r.Lost settings s k)
    (hbefore : ∀ j < k, ¬ r.Lost settings s j) :
    r.rounds settings description done n s
      = (.error (unstable (done + k + 1) description),
        (observeAll r.engine (r.schedule settings (k + 1)) s).2) := by
  induction k generalizing n done s with
  | zero =>
      obtain ⟨n, rfl⟩ := Nat.exists_eq_succ_of_ne_zero (Nat.ne_of_gt hk)
      rw [rounds_succ hvectors, lost_zero_iff.mp hlost, schedule_succ, observeAll_append,
        state_observeAll _ (r.round settings)]
      rfl
  | succ k ih =>
      obtain ⟨n, rfl⟩ := Nat.exists_eq_succ_of_ne_zero (Nat.ne_of_gt (Nat.zero_lt_of_lt hk))
      have hfirst := hbefore 0 (Nat.succ_pos k)
      rw [lost_zero_iff, Bool.not_eq_false] at hfirst
      have hrest := ih (done + 1) (Nat.lt_of_succ_lt_succ hk) (lost_succ_iff.mp hlost)
        fun j hj => mt lost_succ_iff.mpr (hbefore (j + 1) (Nat.succ_lt_succ hj))
      rw [rounds_succ hvectors, if_pos hfirst, hrest, schedule_succ r settings (k + 1),
        observeAll_append, state_observeAll _ (r.round settings), Nat.add_right_comm done 1 k]
      rfl

/-- **Rounds of which none is lost succeed**, and make all their calls. -/
theorem rounds_of_not_lost (hvectors : r.vectors ≠ []) {description : String} (done : Nat)
    {n : Nat} (hnone : ∀ k < n, ¬ r.Lost settings s k) :
    r.rounds settings description done n s
      = Prod.map .ok id (observeAll r.engine (r.schedule settings n) s) := by
  induction n generalizing done s with
  | zero => rfl
  | succ n ih =>
      have hfirst := hnone 0 (Nat.succ_pos n)
      rw [lost_zero_iff, Bool.not_eq_false] at hfirst
      have hrest := ih (done + 1) fun k hk =>
        mt lost_succ_iff.mpr (hnone (k + 1) (Nat.succ_lt_succ hk))
      rw [rounds_succ hvectors, if_pos hfirst, hrest, schedule_succ, observeAll_append,
        state_observeAll _ (r.round settings)]
      rfl

/-! ## Gathering -/

/-- **What a number of rounds comes to, and the calls that it takes.**  They fail exactly if
one of them is lost.  The first one that is lost is named, and the calls are those up to its
end.  Otherwise all calls are made, round by round, and each answer is gathered in the place
of its call. -/
structure Gathers (r : Runner ε) (settings : Settings) (description : String) (n : Nat) (s : ε)
    (outcome : Except Fault (List Observation)) (calls : List (Settings × Plan)) : Prop where
  fails_iff : (∃ f, outcome = .error f) ↔ ∃ k < n, r.Lost settings s k
  stops : ∀ k < n, r.Lost settings s k → (∀ j < k, ¬ r.Lost settings s j) →
    outcome = .error (unstable (k + 1) description)
      ∧ calls = (r.schedule settings (k + 1)).map Request.call
      ∧ calls.length = (k + 1) * r.vectors.length
  gathers : ∀ l, outcome = .ok l →
    calls = (r.schedule settings n).map Request.call
      ∧ calls.length = n * r.vectors.length ∧ l.length = n * r.vectors.length
      ∧ ∀ k < n, ∀ j (hj : j < r.vectors.length), ∃ answer,
        (r.answers settings n s)[k * r.vectors.length + j]? = some answer
          ∧ l[k * r.vectors.length + j]?
            = some (Request.observe ⟨settings, r.vectors[j]⟩ answer)

/-- The calls of rounds are as many as their requests. -/
theorem length_calls (n : Nat) :
    ((r.schedule settings n).map Request.call).length = n * r.vectors.length := by
  rw [List.length_map, length_schedule]

/-- What is observed of rounds is one answer in each place, under the name of its request. -/
theorem exists_getElem?_observeAll {n k j : Nat} (hk : k < n) (hj : j < r.vectors.length) :
    ∃ answer, (r.answers settings n s)[k * r.vectors.length + j]? = some answer
      ∧ (observeAll r.engine (r.schedule settings n) s).1[k * r.vectors.length + j]?
        = some (Request.observe ⟨settings, r.vectors[j]⟩ answer) := by
  have hplace := getElem?_schedule settings hk hj
  have hanswered : k * r.vectors.length + j < (r.answers settings n s).length := by
    rw [answers, length_answerAll]
    exact (List.getElem?_eq_some_iff.mp hplace).1
  have hanswer := List.getElem?_eq_getElem hanswered
  refine ⟨_, hanswer, ?_⟩
  rw [observeAll_eq_zipWith]
  exact List.getElem?_zipWith_eq_some.mpr ⟨_, _, hplace, hanswer, rfl⟩

/-- The runner that writes down its calls has written those of the rounds that it has made. -/
theorem calls_observeAll (r : Runner ε) (settings : Settings) (n : Nat) (s : ε) :
    observeAll r.recorded.engine (r.recorded.schedule settings n) (s, [])
      = ((observeAll r.engine (r.schedule settings n) s).1,
        (observeAll r.engine (r.schedule settings n) s).2,
        (r.schedule settings n).map Request.call) := observeAll_recorded ..

/-- **What rounds come to.** -/
theorem gathers_rounds (hvectors : r.vectors ≠ []) (settings : Settings)
    (description : String) (n : Nat) (s : ε) :
    r.Gathers settings description n s (r.rounds settings description 0 n s).1
      (r.recorded.rounds settings description 0 n (s, [])).2.2 := by
  have hsame : (r.recorded.rounds settings description 0 n (s, [])).1
      = (r.rounds settings description 0 n s).1 :=
    congrArg Prod.fst (rounds_recorded r (s, []) settings description 0 n)
  rw [← hsame]
  have hvectors' : r.recorded.vectors ≠ [] := hvectors
  have hstops : ∀ k < n, r.Lost settings s k → (∀ j < k, ¬ r.Lost settings s j) →
      r.recorded.rounds settings description 0 n (s, [])
        = (.error (unstable (k + 1) description),
          (observeAll r.engine (r.schedule settings (k + 1)) s).2,
          (r.schedule settings (k + 1)).map Request.call) := by
    intro k hk hlost hbefore
    have hlost' : r.recorded.Lost settings (s, []) k := lost_recorded_iff.mpr hlost
    have hbefore' : ∀ j < k, ¬ r.recorded.Lost settings (s, []) j :=
      fun j hj => mt lost_recorded_iff.mp (hbefore j hj)
    rw [rounds_of_lost hvectors' 0 hk hlost' hbefore', calls_observeAll, Nat.zero_add]
  by_cases h : ∃ k < n, r.Lost settings s k
  · have hfails : ∃ f, (r.recorded.rounds settings description 0 n (s, [])).1 = .error f := by
      obtain ⟨k, hk, hlost, hbefore⟩ := exists_first_lost h
      exact ⟨_, congrArg Prod.fst (hstops k hk hlost hbefore)⟩
    refine ⟨iff_of_true hfails h, fun k hk hlost hbefore => ?_, fun l hl => ?_⟩
    · rw [hstops k hk hlost hbefore]
      exact ⟨rfl, rfl, length_calls _⟩
    · obtain ⟨f, hf⟩ := hfails
      cases hf.symm.trans hl
  · have hnone : ∀ k < n, ¬ r.Lost settings s k := fun k hk hlost => h ⟨k, hk, hlost⟩
    have hnone' : ∀ k < n, ¬ r.recorded.Lost settings (s, []) k :=
      fun k hk => mt lost_recorded_iff.mp (hnone k hk)
    rw [rounds_of_not_lost hvectors' 0 hnone', calls_observeAll]
    refine ⟨iff_of_false (fun ⟨f, hf⟩ => ?_) h, fun k hk hlost => absurd hlost (hnone k hk),
      fun l hl => ?_⟩
    · cases hf
    · cases hl
      refine ⟨rfl, length_calls n, ?_, fun k hk j hj => exists_getElem?_observeAll hk hj⟩
      rw [length_observeAll, length_schedule]

section
variable [Configuration ι]

/-- The engine after an extension, whether it fails or not. -/
theorem state_extendInPlace (r : Runner ε) (t : Test ι) (s : ε) :
    (r.extendInPlace t s).2.2 = (r.furtherRounds t s).2 := by
  rw [extendInPlace]
  rcases r.furtherRounds t s with ⟨_ | batch, s'⟩ <;> rfl

variable {t : Test ι}

/-- An extension that fails leaves the test as it was, -/
theorem extendInPlace_of_error {f : Fault} (h : (r.furtherRounds t s).1 = .error f) :
    r.extendInPlace t s = (some f, t, (r.furtherRounds t s).2) := by
  rw [extendInPlace]
  rcases hrounds : r.furtherRounds t s with ⟨f' | batch, s'⟩
  · cases hrounds ▸ h
    rfl
  · cases hrounds ▸ h

/-- and one that succeeds appends a batch. -/
theorem extendInPlace_of_ok {l : List Observation} (h : (r.furtherRounds t s).1 = .ok l) :
    r.extendInPlace t s = (none, t.extend l, (r.furtherRounds t s).2) := by
  rw [extendInPlace]
  rcases hrounds : r.furtherRounds t s with ⟨f | batch, s'⟩
  · cases hrounds ▸ h
  · cases hrounds ▸ h
    rfl

end

/-- **Gathering rounds is exact, and all or nothing.**  The first rounds of a test are made
with the settings of its configuration, and further ones with the same settings but for the
two that say how long to wait.  What the rounds come to, and which calls they take, is told
by `Gathers` in both cases.  If they fail there is no test, or the one that was to be extended
is what it was.  If they succeed, what they have gathered makes a new test, or is appended to
the old one as one batch. -/
theorem rounds_are_exact (ι : Type) [Configuration ι] (r : Runner ε)
    (hvectors : r.vectors ≠ []) (s : ε) :
    (∀ c : ι, ∃ outcome, r.Gathers (Configuration.settings c) (Configuration.describe c)
          r.thoroughness.initialRounds s outcome (r.recorded.run c (s, [])).2.2
        ∧ (r.run c s).1 = outcome.map (Test.start c))
      ∧ ∀ t : Test ι, ∃ outcome, r.Gathers
          { Configuration.settings t.configuration with
            additionalTimeout := r.thoroughness.additionalTimeout
            increasingTimeout := r.thoroughness.increasingTimeout }
          (Configuration.describe t.configuration) r.thoroughness.additionalRounds s outcome
          (r.recorded.extendInPlace t (s, [])).2.2.2
        ∧ (∀ f, outcome = .error f →
          (r.extendInPlace t s).1 = some f ∧ (r.extendInPlace t s).2.1 = t)
        ∧ ∀ l, outcome = .ok l → (r.extendInPlace t s).1 = none
          ∧ (r.extendInPlace t s).2.1.configuration = t.configuration
          ∧ (r.extendInPlace t s).2.1.observations = t.observations ++ l
          ∧ (r.extendInPlace t s).2.1.extensions = t.extensions ++ [l.length] := by
  refine ⟨fun c => ⟨_, gathers_rounds hvectors _ _ _ s, rfl⟩, fun t => ?_⟩
  have hgathers := gathers_rounds hvectors (r.patient (Configuration.settings t.configuration))
    (Configuration.describe t.configuration) r.thoroughness.additionalRounds s
  have hcalls := congrArg Prod.snd (state_extendInPlace r.recorded t (s, []))
  refine ⟨_, hcalls ▸ hgathers, fun f hf => ?_, fun l hl => ?_⟩
  · rw [extendInPlace_of_error hf]
    exact ⟨rfl, rfl⟩
  · rw [extendInPlace_of_ok hl]
    exact ⟨rfl, rfl, rfl, rfl⟩

end Runner

namespace Sample

/-- A target that answers once and then breaks down for a while. -/
def flaky : Script where
  first := [.ok ⟨1, [Message.alert "bad_record_mac"], .closed⟩, .error ⟨"refused", []⟩,
    .error ⟨"refused", []⟩, .error ⟨"refused", []⟩]
  cycle := [.ok ⟨1, [Message.alert "bad_record_mac"], .closed⟩]

/-- A test under the first of the configurations. -/
def started : Test SuiteChoice := .start ⟨.tls12, 0x002f⟩ []

end Sample

/-- The second round is lost: a new test fails after four calls, and an old one stays. -/
theorem rounds_are_exact_sample :
    Sample.runner.vectors ≠ []
      ∧ (Sample.runner.run Sample.started.configuration Sample.flaky).1
        = .error (Runner.unstable 2 (Configuration.describe Sample.started.configuration))
      ∧ (Sample.runner.recorded.run Sample.started.configuration (Sample.flaky, [])).2.2.length
        = 4
      ∧ (Sample.runner.extendInPlace Sample.started Sample.flaky).2.1 = Sample.started := by
  have hvectors : Sample.runner.vectors ≠ [] := by decide
  obtain ⟨hrun, hextend⟩ := Runner.rounds_are_exact SuiteChoice Sample.runner hvectors
    Sample.flaky
  obtain ⟨outcome, hgathers, htest⟩ := hrun Sample.started.configuration
  obtain ⟨hfails, -, hcalls⟩ := hgathers.stops 1 (by decide) (by decide +kernel)
    (by decide +kernel)
  obtain ⟨outcome', hgathers', hkept, -⟩ := hextend Sample.started
  obtain ⟨hfails', -, -⟩ := hgathers'.stops 1 (by decide) (by decide +kernel)
    (by decide +kernel)
  refine ⟨hvectors, ?_, hcalls, (hkept _ hfails').2⟩
  rw [htest, hfails]
  rfl

end TlsScan.Leak
