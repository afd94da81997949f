import TlsScan.Proofs.Report.Acceptance
import TlsScan.Proofs.Requirement.Monotone

/-!
# Reports with the same facts

A requirement asks a report who was executed, what is settled about a property, and
which values are supported.  Reports that give the same answers meet the same
requirements; exclusions make no difference here, as nothing has to grow.

Some writes settle nothing: their records execute nobody, and the findings they offer are
marks of failure, which replace nothing that is settled.  The results that stand in for a
probe without facts of its own are made of such writes, so none of the answers changes when
they are merged, or when their merge stops half-way.

## Main Definitions

* `Report.SameFacts` — two reports answer all that a requirement can ask alike.
* `Write.settlesNothing` — a write that changes none of the answers.
* `ProbeResult.StandsFor` — the results that stand in for a probe.

## Main Results

* `Requirement.holds_congr` — reports with the same facts meet the same requirements.
* `Report.SameFacts.of_write`, `Report.SameFacts.of_writeAll` — what settles nothing leaves
  the facts as they were.
* `Report.SameFacts.of_failure`, `Report.SameFacts.of_diagnosed` — a report before and
  after the result of a probe that failed, or that was not executed.
* `Requirement.stand_ins_are_invisible` — no requirement tells a report from the one before
  such a result.
-/

namespace TlsScan

/-- **Two reports answer all that a requirement can ask alike.**  Of a finding only the
verdict counts: which mark of failure a property has is nothing that can be asked for. -/
structure Report.SameFacts (r r' : Report) : Prop where
  executed : ∀ p, r'.isExecuted p = r.isExecuted p
  verdicts : ∀ q, r'.verdict? q = r.verdict? q
  versions : r'.versions = r.versions
  extensions : r'.extensions = r.extensions

/-! ## Writes that settle nothing -/

/-- **Whether a write settles nothing that a requirement can ask for.** -/
def Write.settlesNothing : Write → Bool
  | record rec => decide (rec.status ≠ .executed)
  | finding _ v => !v.isConclusive
  | notExecuted .. | refuse _ => true
  | versions _ | extensions _ => false

namespace Write

variable {w : Write} (hw : w.settlesNothing = true)

include hw

/-- The record of a write that settles nothing is none of an execution, -/
theorem status_ne_of_settlesNothing {r : Report} {rec : Record} (hrec : w.record? r = some rec) :
    rec.status ≠ .executed := by
  cases w with
  | record new =>
      cases hrec
      exact of_decide_eq_true hw
  | notExecuted p l req =>
      cases hrec
      show Status.notExecuted ≠ .executed
      decide
  | finding q v => cases hrec
  | versions l => cases hrec
  | extensions l => cases hrec
  | refuse e => cases hrec

/-- the findings that it offers are marks of failure, -/
theorem isConclusive_of_settlesNothing {q : Property} {v : Finding} (hv : v ∈ w.offersFor q) :
    v.isConclusive = false := by
  obtain ⟨o, ho, rfl⟩ := List.mem_map.mp hv
  have hoffer := (List.mem_filter.mp ho).1
  cases w with
  | finding k v =>
      rw [List.mem_singleton.mp hoffer]
      simpa [settlesNothing] using hw
  | notExecuted p l req =>
      obtain ⟨k, -, rfl⟩ := List.mem_map.mp hoffer
      rfl
  | record rec => cases hoffer
  | versions l => cases hoffer
  | extensions l => cases hoffer
  | refuse e => cases hoffer

/-- and it adds to none of the sets. -/
theorem sets_of_settlesNothing : w.versions? = none ∧ w.extensions? = none := by
  cases w with
  | versions l => cases hw
  | extensions l => cases hw
  | record rec => exact ⟨rfl, rfl⟩
  | finding q v => exact ⟨rfl, rfl⟩
  | notExecuted p l req => exact ⟨rfl, rfl⟩
  | refuse e => exact ⟨rfl, rfl⟩

end Write

namespace Report

variable {r r' r'' : Report} {d : Declaration}

/-- A conclusive finding is the verdict. -/
theorem finding?_eq_some_iff {q : Property} {v : Finding} (hv : v.isConclusive = true) :
    r.finding? q = some v ↔ r.verdict? q = some v := by
  rw [verdict?, Option.filter_eq_some_iff]
  exact ⟨fun h => ⟨h, hv⟩, And.left⟩

namespace SameFacts

theorem refl (r : Report) : r.SameFacts r :=
  ⟨fun _ => rfl, fun _ => rfl, rfl, rfl⟩

theorem symm (h : r.SameFacts r') : r'.SameFacts r :=
  ⟨fun p => (h.executed p).symm, fun q => (h.verdicts q).symm, h.versions.symm,
    h.extensions.symm⟩

theorem trans (h : r.SameFacts r') (h' : r'.SameFacts r'') : r.SameFacts r'' :=
  ⟨fun p => (h'.executed p).trans (h.executed p), fun q => (h'.verdicts q).trans (h.verdicts q),
    h'.versions.trans h.versions, h'.extensions.trans h.extensions⟩

theorem clearJournal (r : Report) : r.SameFacts r.clearJournal :=
  ⟨fun _ => rfl, fun _ => rfl, rfl, rfl⟩

theorem markFinished (r : Report) (t : Timestamp) : r.SameFacts (r.markFinished t) :=
  ⟨fun _ => rfl, fun _ => rfl, rfl, rfl⟩

/-- **Of two reports with the same facts, each knows all that the other one knows.** -/
theorem extends_right (h : r.SameFacts r') : r.Extends r' := by
  have hfinding : ∀ q v, v.isConclusive = true → r.finding? q = some v →
      r'.finding? q = some v := by
    intro q v hv hq
    rw [finding?_eq_some_iff hv, h.verdicts, ← finding?_eq_some_iff hv]
    exact hq
  refine ⟨?_, fun q => hfinding q _ rfl, fun q => hfinding q _ rfl, ?_, ?_⟩
  · intro p hp
    rw [h.executed]
    exact hp
  · intro s hs
    exact ⟨s, h.versions.trans hs, fun _ hv => hv⟩
  · intro s hs
    exact ⟨s, h.extensions.trans hs, fun _ he => he⟩

/-- **A write that settles nothing leaves the facts as they were**, whether it fails or
not. -/
theorem of_write {w : Write} (r : Report) (hw : w.settlesNothing = true) :
    r.SameFacts (r.write w).1 := by
  obtain ⟨hversions, hextensions⟩ := sets_write r w
  obtain ⟨hnoVersions, hnoExtensions⟩ := w.sets_of_settlesNothing hw
  refine ⟨?_, ?_, ?_, ?_⟩
  · intro p
    rw [isExecuted, get?_write, isExecuted]
    cases r.records.get? p with
    | some old => rfl
    | none =>
        rw [Option.none_or]
        cases hnew : (w.record? r).filter (·.probe = p) with
        | none => rfl
        | some new =>
            have hrec := (Option.filter_eq_some_iff.mp hnew).1
            exact decide_eq_false (w.status_ne_of_settlesNothing hw hrec)
  · intro q
    have hmarks : (w.offersFor q).filter Finding.isConclusive = [] := by
      rw [List.filter_eq_nil_iff]
      intro v hv
      rw [w.isConclusive_of_settlesNothing hw hv]
      exact Bool.false_ne_true
    rw [verdict?, finding?_write, Finding.filter_settleAll, hmarks]
    rfl
  · rw [hversions, hnoVersions]
    rfl
  · rw [hextensions, hnoExtensions]
    rfl

/-- **A list of writes that settle nothing leaves the facts as they were**, wherever it
stops. -/
theorem of_writeAll {l : List Write} (r : Report) (hl : ∀ w ∈ l, w.settlesNothing = true) :
    r.SameFacts (r.writeAll l).1 := by
  induction l generalizing r with
  | nil => exact .refl r
  | cons w l ih =>
      obtain ⟨hw, hl⟩ := List.forall_mem_cons.mp hl
      have hfirst := of_write r hw
      rw [writeAll]
      split
      · rename_i s hs
        rw [hs] at hfirst
        exact hfirst.trans (ih s hl)
      · rename_i s e hs
        rw [hs] at hfirst
        exact hfirst

/-- **A result that settles nothing changes no fact** when it is merged. -/
theorem of_merge {x : ProbeResult} (h : r.merge d x = .ok r')
    (hx : ∀ w ∈ x.writes, w.settlesNothing = true) : r.SameFacts r' := by
  obtain ⟨-, s, hs, -, rfl⟩ := written_of_merge h
  have hwritten := of_writeAll r.clearJournal hx
  rw [hs] at hwritten
  exact ((clearJournal r).trans hwritten).trans (clearJournal s)

end SameFacts

end Report

/-! ## Stand-ins -/

namespace ProbeResult

/-- **A result that stands in for a probe**, which failed or was not executed.  Why it was
not executed can be said beforehand, or read off the report. -/
inductive StandsFor (p : ProbeId) : ProbeResult → Prop
  | failure (l : List Property) (k : FailureKind) (m : String) : StandsFor p (.failure p l k m)
  | notExecuted (l : List Property) (reason : String) : StandsFor p (.notExecuted p l reason)
  | diagnosed (l : List Property) (req : Requirement) : StandsFor p (.diagnosed p l req)

namespace StandsFor

variable {p : ProbeId} {x : ProbeResult}

/-- Marks of failure and a record of no execution settle nothing. -/
theorem settlesNothing_marks {l : List Property} {v : Finding} {rec : Record}
    (hv : v.isConclusive = false) (hrec : rec.status ≠ .executed) :
    ∀ w ∈ l.map (fun q => Write.finding q v) ++ [.record rec], w.settlesNothing = true := by
  intro w hw
  rcases List.mem_append.mp hw with hw | hw
  · obtain ⟨q, -, rfl⟩ := List.mem_map.mp hw
    show (!v.isConclusive) = true
    rw [hv]
    rfl
  · rw [List.mem_singleton.mp hw]
    exact decide_eq_true hrec

/-- **What stands in for a probe settles nothing.** -/
theorem settlesNothing (h : x.StandsFor p) : ∀ w ∈ x.writes, w.settlesNothing = true := by
  cases h with
  | failure l k m =>
      refine settlesNothing_marks ?_ (show Status.error ≠ .executed by decide)
      cases k <;> rfl
  | notExecuted l reason =>
      exact settlesNothing_marks rfl (show Status.notExecuted ≠ .executed by decide)
  | diagnosed l req =>
      intro w hw
      rw [List.mem_singleton.mp hw]
      rfl

/-- It files one record, which is the one of its probe, -/
theorem identities (h : x.StandsFor p) : x.writes.filterMap Write.identity? = [p] := by
  cases h with
  | failure l k m => exact identities_failure p l k m
  | notExecuted l reason =>
      simp [ProbeResult.notExecuted, Write.identity?, Record.notExecuted, Function.comp_def]
  | diagnosed l req => rfl

/-- and gives up nowhere. -/
theorem refusals (h : x.StandsFor p) : x.writes.filterMap Write.refusal? = [] := by
  cases h with
  | failure l k m => simp [ProbeResult.failure, Write.refusal?]
  | notExecuted l reason => simp [ProbeResult.notExecuted, Write.refusal?]
  | diagnosed l req => rfl

end StandsFor

end ProbeResult

namespace Report.SameFacts

variable {r r' : Report} {d : Declaration}

/-- **A probe that fails changes no fact.** -/
theorem of_failure {p : ProbeId} {l : List Property} {k : FailureKind} {m : String}
    (h : r.merge d (.failure p l k m) = .ok r') : r.SameFacts r' :=
  of_merge h (ProbeResult.StandsFor.failure l k m).settlesNothing

/-- **A probe that is not executed changes no fact.** -/
theorem of_diagnosed {p : ProbeId} {l : List Property} {req : Requirement}
    (h : r.merge d (.diagnosed p l req) = .ok r') : r.SameFacts r' :=
  of_merge h (ProbeResult.StandsFor.diagnosed l req).settlesNothing

end Report.SameFacts

/-! ## Requirements -/

namespace Requirement

variable {r r' : Report}

/-- **Reports with the same facts meet the same requirements.** -/
theorem holds_congr (h : r.SameFacts r') (q : Requirement) : holds r' q = holds r q := by
  -- Every clause goes over in both directions, so its place does not matter.
  have hcarries : ∀ {s s' : Report}, s.SameFacts s' →
      ∀ c n, Asks c q n → c.Carries s s' n := by
    intro s s' hs c n hc
    exact ⟨fun _ hmet => hmet.of_extends hs.extends_right,
      fun _ hmet => hmet.of_extends hs.symm.extends_right⟩
  rw [Bool.eq_iff_iff]
  exact ⟨holds_of_carries (hcarries h.symm), holds_of_carries (hcarries h)⟩

/-- They leave the same choices open, -/
theorem choiceHolds_congr (h : r.SameFacts r') (c : Option (List Requirement)) :
    choiceHolds r' c = choiceHolds r c := by
  rw [Bool.eq_iff_iff, choiceHolds_iff, choiceHolds_iff]
  simp only [holds_congr h]

/-- and exclude the same. -/
theorem exclusionHolds_congr (h : r.SameFacts r') (x : Option Requirement) :
    exclusionHolds r' x = exclusionHolds r x := by
  rw [Bool.eq_iff_iff, exclusionHolds_iff, exclusionHolds_iff]
  simp only [holds_congr h]

/-- **What stands in for a probe is invisible to every requirement.**  Merge such a result
into any report.  Each requirement, however its alternatives and exclusions are nested,
holds afterwards exactly if it held before, also if the merge stops because the place of the
record is taken.  The merge goes through if the probe has no record yet, and leaves one that
executes nobody; and nothing is different if it is made under a declaration. -/
theorem stand_ins_are_invisible {p : ProbeId} {x : ProbeResult} (hx : x.StandsFor p)
    (r : Report) :
    (∀ q, holds (r.writeAll x.writes).1 q = holds r q)
      ∧ (r.hasRecord p = false → ∃ r' : Report, r.writeAll x.writes = (r', .none)
        ∧ r'.hasRecord p = true ∧ r'.isExecuted p = false)
      ∧ ∀ d r', r.merge d x = .ok r' → ∀ q, holds r' q = holds r q := by
  have hsame := Report.SameFacts.of_writeAll r hx.settlesNothing
  refine ⟨fun q => holds_congr hsame q, ?_, ?_⟩
  · intro hfree
    obtain ⟨r', hr'⟩ : ∃ r', r.writeAll x.writes = (r', .none) := by
      apply Report.writeAll_succeeds hx.refusals
      · rw [hx.identities]
        exact List.nodup_cons.mpr ⟨List.not_mem_nil, List.nodup_nil⟩
      · rw [hx.identities]
        exact List.forall_mem_singleton.mpr hfree
    refine ⟨r', hr', ?_, ?_⟩
    · refine ((Report.takes_writeAll hr').recorded p).mpr (Or.inr ?_)
      rw [hx.identities]
      exact List.mem_singleton_self p
    · rw [hr'] at hsame
      rw [hsame.executed, ← Bool.not_eq_true]
      intro hexec
      exact absurd ((Report.hasRecord_of_isExecuted hexec).symm.trans hfree) (by decide)
  · intro d r' hmerge
    exact holds_congr (.of_merge hmerge hx.settlesNothing)

namespace Sample

/-- A report in which one property is decided, and another one was tried in vain. -/
def halfDecided : Report :=
  ((Report.new "" default).putFinding .supportsRsa .holds).putFinding .supportsHeartbeat
    .uncertain

/-- A probe of both was stopped. -/
def stopped : ProbeResult :=
  .failure .heartbleed [.supportsRsa, .supportsHeartbeat] .killed "late"

/-- A requirement that asks for the one, and excludes what is known of the other. -/
def wary : Requirement :=
  (none.requireProperties [.supportsRsa]).except
    (none.anyOf [none.requireProperties [.supportsHeartbeat],
      none.requirePropertiesNot [.supportsHeartbeat], none.requireProbes [.heartbleed]])

end Sample

theorem stand_ins_are_invisible_sample :
    Sample.stopped.StandsFor .heartbleed
      ∧ Sample.halfDecided.hasRecord .heartbleed = false
      ∧ holds (Sample.halfDecided.writeAll Sample.stopped.writes).1 Sample.wary = true
      ∧ ∃ r' : Report, Sample.halfDecided.writeAll Sample.stopped.writes = (r', .none) := by
  have hx : Sample.stopped.StandsFor .heartbleed := .failure ..
  obtain ⟨hsame, hthrough, -⟩ := stand_ins_are_invisible hx Sample.halfDecided
  obtain ⟨r', hr', -⟩ := hthrough rfl
  refine ⟨hx, rfl, ?_, r', hr'⟩
  rw [hsame]
  decide

end Requirement

end TlsScan
