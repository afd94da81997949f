import TlsScan.Leak.ChiSquared
import TlsScan.Leak.Contingency
import TlsScan.Property

/-!
# Leak tests

A leak test collects how a target reacts to requests that it should treat alike.  Reactions
that differ are a leak when they keep differing in every further batch of requests, and
differ with the request and not by chance.

## Main Definitions

* `Leak.Configuration` — what a test is run under.
* `Leak.Parts` — some observations are a start, and then batches of some sizes.
* `Leak.Test` — the observations of a test, with the sizes of the batches it was extended by.
* `Leak.Test.isSignificant?`, `Leak.Test.isSignificant` — whether it shows a leak.
* `Leak.verdict` — the finding of a list of tests.

## Main Results

* `Leak.Test.isSignificant?_of_parts` — what is asked of the batches.

## Design Notes

Batches are found again by going back from the end.  That they are the end of what was
observed is part of the type, so they are always there.
-/

namespace TlsScan.Leak

open Engine

/-- **What a leak test is run under.** -/
class Configuration (ι : Type) where
  /-- The connection parameters of every request. -/
  settings : ι → Settings
  /-- The name shown in messages. -/
  describe : ι → String

/-- One protocol version with one cipher suite. -/
structure SuiteChoice where
  version : ProtocolVersion
  suite : UInt16
  deriving DecidableEq, Repr

instance : Configuration SuiteChoice where
  settings c := (Settings.ofVersion c.version).withCipherSuite c.suite
  describe c := c.version.name ++ " / 0x" ++ hex4 c.suite

/-- The p-value below which a difference is not put down to chance. -/
def significanceLevel : Float := 0.01

/-- How likely the table of some observations is if the reaction does not depend on the
request.  A table with a single row or a single column says nothing. -/
def pValue (l : List Observation) : Float :=
  if degreesOfFreedom l = 0 then 1 else chiSquaredTail (degreesOfFreedom l) (chiSquared l)

/-- **Observations in parts**: some that came first, and then batches of some sizes. -/
structure Parts (l : List Observation) (sizes : List Nat) (initial : List Observation)
    (batches : List (List Observation)) : Prop where
  row : l = initial ++ batches.flatten
  lengths : sizes = batches.map List.length

/-- Another batch can be appended. -/
theorem Parts.append {l : List Observation} {sizes : List Nat} {initial : List Observation}
    {batches : List (List Observation)} (h : Parts l sizes initial batches)
    (batch : List Observation) :
    Parts (l ++ batch) (sizes ++ [batch.length]) initial (batches ++ [batch]) := by
  refine ⟨?_, ?_⟩
  · rw [h.row, List.flatten_append, List.flatten_singleton, List.append_assoc]
  · rw [h.lengths, List.map_append, List.map_singleton]

/-- **The observations of one test.**  Where one batch ends and the next one begins is not
written down, only how long the batches are. -/
structure Test (ι : Type) where
  configuration : ι
  /-- All observations, in the order in which they were made. -/
  observations : List Observation
  /-- The sizes of the batches that it was extended by, in order. -/
  extensions : List Nat
  /-- The observations end with batches of these sizes. -/
  parted : ∃ initial batches, Parts observations extensions initial batches
  deriving DecidableEq, Repr

namespace Test

variable {ι : Type}

/-- A test that has not been extended. -/
def start (configuration : ι) (initial : List Observation) : Test ι :=
  ⟨configuration, initial, [], initial, [], (List.append_nil initial).symm, rfl⟩

/-- Append a batch. -/
def extend (t : Test ι) (batch : List Observation) : Test ι where
  configuration := t.configuration
  observations := t.observations ++ batch
  extensions := t.extensions ++ [batch.length]
  parted := by
    obtain ⟨initial, batches, h⟩ := t.parted
    exact ⟨initial, batches ++ [batch], h.append batch⟩

/-- Whether the test has been extended, be it by nothing. -/
def isExtended (t : Test ι) : Bool := !t.extensions.isEmpty

/-- Whether the reactions differ. -/
def isDistinct (t : Test ι) : Bool := hasDistinctAnswers t.observations

/-- Whether the reactions differ in every batch of some observations, given where the last
batch stops and the sizes from the last to the first.  `none` if a batch is not there. -/
def batchesDiffer? (l : List Observation) : (stop : Nat) → (sizes : List Nat) → Option Bool
  | _, [] => some true
  | stop, size :: sizes =>
    if size ≤ stop ∧ stop ≤ l.length then
      if hasDistinctAnswers ((l.drop (stop - size)).take size) then
        batchesDiffer? l (stop - size) sizes
      else some false
    else none

/-- **Whether the test shows a leak**: the reactions differ altogether and in every batch,
and they are unlikely to differ by chance.  `none` if a batch is not there. -/
def isSignificant? (t : Test ι) : Option Bool :=
  if t.isExtended && t.isDistinct then
    match batchesDiffer? t.observations t.observations.length t.extensions.reverse with
    | some true => some (pValue t.observations < significanceLevel)
    | answer => answer
  else some false

/-- **Going back by the sizes of batches looks at the batches**, which are given from the
last to the first.  Behind the place where this starts there may be more. -/
theorem batchesDiffer?_eq (initial rest : List Observation)
    (batches : List (List Observation)) :
    batchesDiffer? (initial ++ batches.reverse.flatten ++ rest)
        (initial ++ batches.reverse.flatten).length (batches.map List.length)
      = some (batches.all hasDistinctAnswers) := by
  induction batches generalizing rest with
  | nil => rfl
  | cons b l ih =>
      -- The last batch is seen, and then belongs to what is behind the others.
      have hrow : initial ++ (b :: l).reverse.flatten ++ rest
          = initial ++ l.reverse.flatten ++ (b ++ rest) := by
        simp
      have hstop : (initial ++ (b :: l).reverse.flatten).length
          = (initial ++ l.reverse.flatten).length + b.length := by
        rw [List.reverse_cons, List.flatten_append, List.flatten_singleton, ← List.append_assoc,
          List.length_append]
      have hthere : b.length ≤ (initial ++ l.reverse.flatten).length + b.length
          ∧ (initial ++ l.reverse.flatten).length + b.length
            ≤ (initial ++ l.reverse.flatten ++ (b ++ rest)).length := by
        simp only [List.length_append]
        omega
      rw [hrow, hstop, List.map_cons, batchesDiffer?, if_pos hthere, Nat.add_sub_cancel,
        List.drop_left, List.take_left, ih, List.all_cons]
      cases hasDistinctAnswers b <;> rfl

/-- **Whether a test shows a leak**, in terms of its batches. -/
theorem isSignificant?_of_parts {t : Test ι} {initial : List Observation}
    {batches : List (List Observation)}
    (h : Parts t.observations t.extensions initial batches) :
    t.isSignificant? = some (t.isExtended && t.isDistinct && batches.all hasDistinctAnswers
      && pValue t.observations < significanceLevel) := by
  have hback := batchesDiffer?_eq initial [] batches.reverse
  rw [List.append_nil, List.reverse_reverse, List.map_reverse, ← h.row, ← h.lengths,
    List.all_reverse] at hback
  rw [isSignificant?, hback]
  cases t.isExtended && t.isDistinct with
  | false => rfl
  | true => cases batches.all hasDistinctAnswers <;> rfl

theorem isSome_isSignificant? (t : Test ι) : t.isSignificant?.isSome = true := by
  obtain ⟨initial, batches, h⟩ := t.parted
  rw [isSignificant?_of_parts h]
  rfl

/-- Whether the test shows a leak, which can always be said. -/
def isSignificant (t : Test ι) : Bool := t.isSignificant?.get t.isSome_isSignificant?

/-- **Whether a test shows a leak can always be said**: every batch is there. -/
theorem isSignificant?_eq_some (t : Test ι) : t.isSignificant? = some t.isSignificant :=
  (Option.some_get _).symm

end Test

/-- **The finding of a list of tests**, which is none without tests. -/
def verdict {ι : Type} (tests : List (Test ι)) : Finding :=
  if tests.isEmpty then .couldNotTest else .ofBool (tests.any Test.isSignificant)

end TlsScan.Leak
