import TlsScan.Leak.Policy

/-!
# Running leak tests

Leak tests are run in rounds: every round sends each request once, in order.

## Main Definitions

* `Leak.Vector` — a named request.
* `Leak.Runner` — an engine, how thorough to be, and the requests.
* `Leak.Runner.run`, `Leak.Runner.extendInPlace` — the first rounds of a test, and further
  ones.
* `Leak.Runner.runWithEscalation` — runs a test for every configuration and extends those
  that the policy selects.

## Design Notes

A request that fails counts as a missing reaction.  When every request of a round fails,
nothing more is sent, and none of the rounds counts.
-/

namespace TlsScan.Leak

open Engine

/-- **A named request.** -/
structure Vector where
  name : String
  plan : Plan
  deriving DecidableEq, Repr

/-- What leak tests are run with. -/
structure Runner (ε : Type) where
  engine : Engine ε
  thoroughness : Thoroughness
  vectors : List Vector

namespace Runner

variable {ε ι : Type} [Configuration ι]

/-- Send requests one after the other.  Beside the observations it says whether any
request succeeded. -/
def sendAll (engine : Engine ε) (settings : Settings) :
    List Vector → ε → (List Observation × Bool) × ε
  | [], s => (([], false), s)
  | v :: l, s =>
    let (answer, s) := engine.execute s settings v.plan
    let ((observations, anySuccess), s) := sendAll engine settings l s
    match answer with
    | .ok outcome => ((⟨v.name, .ofOutcome outcome⟩ :: observations, true), s)
    | .error _ => ((⟨v.name, .unavailable⟩ :: observations, anySuccess), s)

/-- What is said when every request of a round fails, rounds being counted from one. -/
def unstable (round : Nat) (description : String) : Fault :=
  ⟨"oracle unstable: every vector failed in round " ++ toString round ++ " of "
    ++ description, []⟩

/-- The rounds after `done` others. -/
def rounds (r : Runner ε) (settings : Settings) (description : String) :
    (done left : Nat) → ε → Except Fault (List Observation) × ε
  | _, 0, s => (.ok [], s)
  | done, left + 1, s =>
    let ((observations, anySuccess), s) := sendAll r.engine settings r.vectors s
    if !anySuccess && !r.vectors.isEmpty then (.error (unstable (done + 1) description), s)
    else
      let (rest, s) := r.rounds settings description (done + 1) left s
      (rest.map (observations ++ ·), s)

/-- **Run the first rounds of a test.** -/
def run (r : Runner ε) (c : ι) (s : ε) : Except Fault (Test ι) × ε :=
  let (observations, s) :=
    r.rounds (Configuration.settings c) (Configuration.describe c) 0
      r.thoroughness.initialRounds s
  (observations.map (Test.start c), s)

/-- The settings of further rounds, which wait longer. -/
def patient (r : Runner ε) (settings : Settings) : Settings :=
  { settings with
    additionalTimeout := r.thoroughness.additionalTimeout
    increasingTimeout := r.thoroughness.increasingTimeout }

/-- The further rounds of a test. -/
def furtherRounds (r : Runner ε) (t : Test ι) (s : ε) : Except Fault (List Observation) × ε :=
  r.rounds (r.patient (Configuration.settings t.configuration))
    (Configuration.describe t.configuration) 0 r.thoroughness.additionalRounds s

/-- **Extend a test by further rounds, in place.**  If the rounds fail, the test stays as it
was. -/
def extendInPlace (r : Runner ε) (t : Test ι) (s : ε) : Option Fault × Test ι × ε :=
  match r.furtherRounds t s with
  | (.ok batch, s) => (none, t.extend batch, s)
  | (.error f, s) => (some f, t, s)

/-- The extended test, if its rounds succeed. -/
def extend (r : Runner ε) (t : Test ι) (s : ε) : Except Fault (Test ι) × ε :=
  match r.extendInPlace t s with
  | (none, t, s) => (.ok t, s)
  | (some f, _, s) => (.error f, s)

/-- Run a test for every configuration of a list, up to the first that fails. -/
def runAll (r : Runner ε) : List ι → ε → Except Fault (List (Test ι)) × ε
  | [], s => (.ok [], s)
  | c :: l, s =>
    match r.run c s with
    | (.error f, s) => (.error f, s)
    | (.ok t, s) =>
      let (rest, s) := r.runAll l s
      (rest.map (t :: ·), s)

/-- What is noted when a test is extended. -/
def extensionNote (r : Runner ε) (t : Test ι) : LogEntry :=
  .info <| "Extending leak test " ++ Configuration.describe t.configuration ++ " by "
    ++ toString r.thoroughness.additionalRounds ++ " rounds"

/-- Extend the tests that the policy selects, up to the first that fails.  Beside the tests
it gives the notes that were made. -/
def extendSelected (r : Runner ε) :
    List (Test ι) → ε → Except Fault (List (Test ι)) × List LogEntry × ε
  | [], s => (.ok [], [], s)
  | t :: l, s =>
    if r.thoroughness.extends? t then
      match r.extend t s with
      | (.error f, s) => (.error f, [r.extensionNote t], s)
      | (.ok t', s) =>
        let (rest, notes, s) := r.extendSelected l s
        (rest.map (t' :: ·), r.extensionNote t :: notes, s)
    else
      let (rest, notes, s) := r.extendSelected l s
      (rest.map (t :: ·), notes, s)

/-- **Run a test for every configuration, then extend those that the policy selects.** -/
def runWithEscalation (r : Runner ε) (l : List ι) (s : ε) :
    Except Fault (List (Test ι)) × List LogEntry × ε :=
  match r.runAll l s with
  | (.error f, s) => (.error f, [], s)
  | (.ok tests, s) =>
    if r.thoroughness.escalates (tests.any Test.isDistinct) then r.extendSelected tests s
    else (.ok tests, [], s)

end Runner

end TlsScan.Leak
