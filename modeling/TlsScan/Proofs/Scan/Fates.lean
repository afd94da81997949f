import TlsScan.Proofs.Requirement.Monotone
import TlsScan.Proofs.Requirement.SameFacts
import TlsScan.Proofs.Scan.Equality
import TlsScan.Proofs.Scan.Snapshots

/-!
# Scans of probes with a fate

A probe has a fate if it ends in one way whatever it is handed: with the same facts,
with a failure, with a crash, or not at all.  In a scan of such probes the report is
determined by who was executed.  The order in which results came, and who merely
failed, leaves no trace in it.

## Main Definitions

* `Scan.Fate` — how a probe ends.
* `Scan.Follows` — all that ends in a scan ends as fated.
* `Scan.Yields` — what is merged at the end of a probe with a fate.
* `Scan.Compatible` — probes whose results and requirements cannot get in each
  other's way.
* `Scan.Explained` — a report holds what the executed probes establish, no more and
  no less.

## Main Results

* `Scan.Explained.facts`, `Scan.Explained.extend` — accepted facts keep a report
  explained, and results without verdicts and values change nothing.
* `Scan.Explained.grows` — of two explained reports the one in which more is executed
  knows more.
* `Scan.Passes.fated` — a scan of compatible probes does not fail, and its report is
  explained at every point.
-/

namespace TlsScan.Scan

/-! ## Fates -/

/-- **How a probe ends**, whatever it is handed. -/
inductive Fate where
  | facts (f : Facts)
  | failed
  | panicked
  /-- It never ends by itself. -/
  | killed
  deriving DecidableEq

namespace Fate

/-- The status of the record that a fate leads to. -/
def status : Fate → Status
  | facts _ => .executed
  | _ => .error

/-- Whether a task may end in a way. -/
def Admits (p : ProbeId) : Fate → Ending → Prop
  | facts f, .result r => r = .facts p f
  | failed, .failed _ => True
  | panicked, .panicked _ => True
  | _, _ => False

instance (p : ProbeId) (a : Fate) (e : Ending) : Decidable (a.Admits p e) := by
  cases a <;> cases e <;> unfold Admits <;> infer_instance

end Fate

/-- What an event says of an end is fated: tasks end as they may, and only those that never
end are stopped. -/
def Event.IsFated (fate : ProbeId → Fate) : Event → Prop
  | .ended p e => (fate p).Admits p e
  | .killed p _ => fate p = .killed
  | _ => True

instance (fate : ProbeId → Fate) (e : Event) : Decidable (e.IsFated fate) := by
  cases e <;> unfold Event.IsFated <;> infer_instance

/-- **All that ends in a scan ends as fated.** -/
def Follows (fate : ProbeId → Fate) (trace : List Event) : Prop :=
  ∀ e ∈ trace, e.IsFated fate

instance (fate : ProbeId → Fate) (trace : List Event) : Decidable (Follows fate trace) := by
  unfold Follows
  infer_instance

/-- The fates of the sample. -/
def Sample.fateOf : ProbeId → Fate
  | .protocolVersion => .facts Sample.facts
  | .cipherSuite => .failed
  | .heartbleed => .killed
  | _ => .panicked

variable {β σ : Type}

/-- **Probes that cannot get in each other's way.** -/
structure Compatible (fate : ProbeId → Fate) (probes : List (Probe β)) : Prop where
  /-- Nothing is excluded. -/
  positive : ∀ p ∈ probes, p.declaration.requirement.isPositive = true
  /-- Facts are as declared. -/
  conforms : ∀ p ∈ probes, ∀ f, fate p.id = .facts f → f.Conforms p.declaration
  /-- What stands in for an unready probe is the default. -/
  substitute : ∀ p ∈ probes, ∀ r, p.substitute r
    = .diagnosed p.id p.declaration.properties p.declaration.requirement
  /-- Facts do not contradict each other. -/
  agree : ∀ p ∈ probes, ∀ p' ∈ probes, ∀ f f', fate p.id = .facts f →
    fate p'.id = .facts f' → ∀ q v v', f.verdict? q = some v → f'.verdict? q = some v' →
      v = v'

variable {fate : ProbeId → Fate}

/-- **What a probe with a fate comes to**: its facts, or a failure. -/
def Yields (fate : ProbeId → Fate) (d : Declaration) (result : ProbeResult) : Prop :=
  (∃ f, fate d.probe = .facts f ∧ result = .facts d.probe f)
    ∨ (fate d.probe).status = .error ∧ ∃ k m, result = .failure d.probe d.properties k m

/-- At the end of a task with a fate, what it comes to is merged. -/
theorem Outcome.of_follows {d : Declaration} {e : Event} {result : ProbeResult}
    {trace : List Event} (hd : Outcome d e result) (hf : Follows fate trace)
    (he : e ∈ trace) : Yields fate d result := by
  -- A task was stopped or has ended, and its fate says in which way.
  cases hd with
  | killed age =>
      have hkilled : fate d.probe = .killed := hf _ he
      exact Or.inr ⟨by rw [hkilled]; rfl, _, _, rfl⟩
  | ended e =>
      have hadmits : (fate d.probe).Admits d.probe e := hf _ he
      cases hfate : fate d.probe with
      | facts f =>
          rw [hfate] at hadmits
          cases e with
          | result r => exact Or.inl ⟨f, hfate, hadmits⟩
          | failed _ => cases hadmits
          | panicked _ => cases hadmits
      | failed =>
          rw [hfate] at hadmits
          cases e with
          | failed fault => exact Or.inr ⟨by rw [hfate]; rfl, _, _, rfl⟩
          | result _ => cases hadmits
          | panicked _ => cases hadmits
      | panicked =>
          rw [hfate] at hadmits
          cases e with
          | panicked m => exact Or.inr ⟨by rw [hfate]; rfl, _, _, rfl⟩
          | result _ => cases hadmits
          | failed _ => cases hadmits
      | killed =>
          rw [hfate] at hadmits
          cases e <;> cases hadmits

/-! ## Explained reports -/

/-- Facts that an executed probe has established. -/
def Source (fate : ProbeId → Fate) (r : Report) (f : Facts) : Prop :=
  ∃ p, r.isExecuted p = true ∧ fate p = .facts f

/-- A set is known if some source names values for it, and has the values that are named. -/
structure Gathered {α : Type} (source : Facts → Prop) (part : Facts → Option (List α))
    (s : Option (Selection α)) : Prop where
  known : s.isSome = true ↔ ∃ f l, source f ∧ part f = some l
  contains : ∀ a, (s.getD .empty).contains a = true
    ↔ ∃ f l, source f ∧ part f = some l ∧ a ∈ l

/-- **A report holds what the executed probes establish**, no more and no less. -/
structure Explained (fate : ProbeId → Fate) (r : Report) : Prop where
  verdicts : ∀ q v, r.verdict? q = some v ↔ ∃ f, Source fate r f ∧ f.verdict? q = some v
  versions : Gathered (Source fate r) Facts.versions r.versions
  extensions : Gathered (Source fate r) Facts.extensions r.extensions

theorem Gathered.congr {α : Type} {s t : Facts → Prop} {part : Facts → Option (List α)}
    {known : Option (Selection α)} (h : Gathered s part known) (hst : ∀ f, s f ↔ t f) :
    Gathered t part known := by
  refine ⟨?_, fun a => ?_⟩
  · simpa only [hst] using h.known
  · simpa only [hst] using h.contains a

theorem Gathered.empty {α : Type} {source : Facts → Prop} {part : Facts → Option (List α)}
    (h : ∀ f, ¬ source f) : Gathered source part none := by
  refine ⟨?_, fun a => ?_⟩
  · simp [h]
  · simp [h]

/-- A report in which nothing was executed yet is explained if it is empty. -/
theorem explained_new (fate : ProbeId → Fate) (target : String) (t : Timestamp) :
    Explained fate (.new target t) := by
  have hnone : ∀ f, ¬ Source fate (.new target t) f := by
    rintro f ⟨p, hp, -⟩
    cases hp
  refine ⟨fun q v => ?_, Gathered.empty hnone, Gathered.empty hnone⟩
  constructor
  · intro h
    cases h
  · rintro ⟨f, hf, -⟩
    exact absurd hf (hnone f)

/-- What further facts name is gathered by adding it. -/
theorem Gathered.enlarge {α : Type} [DecidableEq α] {s t : Facts → Prop}
    {part : Facts → Option (List α)} {known : Option (Selection α)} {f : Facts}
    (h : Gathered s part known) (hst : ∀ g, t g ↔ s g ∨ g = f) :
    Gathered t part (Selection.enlarge known (part f).toList) := by
  refine ⟨?_, fun a => ?_⟩
  · rw [Selection.isSome_enlarge, Bool.or_eq_true, h.known]
    constructor
    · rintro (⟨g, l, hg, hl⟩ | hf)
      · exact ⟨g, l, (hst g).mpr (Or.inl hg), hl⟩
      · cases hpart : part f with
        | none => simp [hpart] at hf
        | some l => exact ⟨f, l, (hst f).mpr (Or.inr rfl), hpart⟩
    · rintro ⟨g, l, hg, hl⟩
      rcases (hst g).mp hg with hg | rfl
      · exact Or.inl ⟨g, l, hg, hl⟩
      · exact Or.inr (by simp [hl])
  · rw [Selection.contains_enlarge, Bool.or_eq_true, h.contains a]
    constructor
    · rintro (⟨g, l, hg, hl, ha⟩ | hf)
      · exact ⟨g, l, (hst g).mpr (Or.inl hg), hl, ha⟩
      · cases hpart : part f with
        | none => simp [hpart] at hf
        | some l => exact ⟨f, l, (hst f).mpr (Or.inr rfl), hpart, by simpa [hpart] using hf⟩
    · rintro ⟨g, l, hg, hl, ha⟩
      rcases (hst g).mp hg with hg | rfl
      · exact Or.inl ⟨g, l, hg, hl, ha⟩
      · exact Or.inr (by simpa [hl] using ha)

/-- Sets gathered from the same sources are the same. -/
theorem Gathered.unique {α : Type} {s t : Facts → Prop} {part : Facts → Option (List α)}
    {a b : Option (Selection α)} (ha : Gathered s part a) (hb : Gathered t part b)
    (hst : ∀ f, s f ↔ t f) : a = b := by
  have hb' := hb.congr fun f => (hst f).symm
  have hknown : a.isSome = b.isSome := by
    rw [Bool.eq_iff_iff, ha.known, hb'.known]
  have hcontains : a.getD .empty = b.getD .empty := by
    refine Selection.ext fun v => ?_
    rw [Bool.eq_iff_iff, ha.contains, hb'.contains]
  cases a <;> cases b <;> simp_all

/-- More sources make larger sets. -/
theorem Gathered.grows {α : Type} {s t : Facts → Prop} {part : Facts → Option (List α)}
    {a b : Option (Selection α)} (ha : Gathered s part a) (hb : Gathered t part b)
    (hst : ∀ f, s f → t f) (x : Selection α) (hx : a = some x) :
    ∃ y, b = some y ∧ ∀ v, x.contains v = true → y.contains v = true := by
  subst hx
  obtain ⟨f, l, hf, hl⟩ := ha.known.mp rfl
  obtain ⟨y, rfl⟩ := Option.isSome_iff_exists.mp (hb.known.mpr ⟨f, l, hst f hf, hl⟩)
  refine ⟨y, rfl, fun v hv => ?_⟩
  obtain ⟨f, l, hf, hl, hmem⟩ := (ha.contains v).mp hv
  exact (hb.contains v).mpr ⟨f, l, hst f hf, hl, hmem⟩

namespace Explained

variable {r r' : Report} {d : Declaration}

/-- A change that executes nobody, decides nothing and names nothing keeps a report
explained. -/
theorem extend (h : Explained fate r) (hsame : r.SameFacts r') : Explained fate r' := by
  have hsource : ∀ f, Source fate r f ↔ Source fate r' f := fun f => by
    simp only [Source, hsame.executed]
  refine ⟨fun q v => ?_, ?_, ?_⟩
  · rw [hsame.verdicts, h.verdicts q v]
    simp only [hsource]
  · rw [hsame.versions]
    exact h.versions.congr hsource
  · rw [hsame.extensions]
    exact h.extensions.congr hsource

/-- **Accepted facts keep a report explained**, if they contradict no executed probe. -/
theorem facts (h : Explained fate r) {f : Facts} (hfate : fate d.probe = .facts f)
    (hmerge : r.merge d (.facts d.probe f) = .ok r')
    (hagree : ∀ g, Source fate r g → ∀ q v v', f.verdict? q = some v →
      g.verdict? q = some v' → v = v') : Explained fate r' := by
  have hrecords := Report.records_merge_facts hmerge
  have hexec : ∀ k, r'.isExecuted k = if k = d.probe then true else r.isExecuted k :=
    fun k => by
      rw [Report.isExecuted_insert _ k _ hrecords]
      rfl
  have hsource : ∀ g, Source fate r' g ↔ Source fate r g ∨ g = f := by
    intro g
    constructor
    · rintro ⟨k, hk, hg⟩
      rw [hexec] at hk
      split at hk
      · rename_i heq
        rw [heq, hfate] at hg
        cases hg
        exact Or.inr rfl
      · exact Or.inl ⟨k, hk, hg⟩
    · rintro (⟨k, hk, hg⟩ | rfl)
      · exact ⟨k, by rw [hexec, hk]; split <;> rfl, hg⟩
      · exact ⟨d.probe, by rw [hexec, if_pos rfl], hfate⟩
  obtain ⟨hv, he⟩ := Report.sets_merge hmerge
  rw [(ProbeResult.sets_facts ..).1] at hv
  rw [(ProbeResult.sets_facts ..).2] at he
  refine ⟨fun q v => ?_, ?_, ?_⟩
  · rw [Report.verdict?_merge hmerge, ProbeResult.verdict?_facts]
    constructor
    · intro hq
      cases hf : f.verdict? q with
      | some v' =>
          rw [hf] at hq
          cases hq
          exact ⟨f, (hsource f).mpr (Or.inr rfl), hf⟩
      | none =>
          rw [hf, Option.none_or] at hq
          obtain ⟨g, hg, hgv⟩ := (h.verdicts q v).mp hq
          exact ⟨g, (hsource g).mpr (Or.inl hg), hgv⟩
    · rintro ⟨g, hg, hgv⟩
      rcases (hsource g).mp hg with hg | rfl
      · cases hf : f.verdict? q with
        | some v' =>
            -- Both have a verdict, and it is the same.
            rw [hagree g hg q v' v hf hgv]
            rfl
        | none =>
            rw [Option.none_or]
            exact (h.verdicts q v).mpr ⟨g, hg, hgv⟩
      · rw [hgv]
        rfl
  · rw [hv]
    exact h.versions.enlarge hsource
  · rw [he]
    exact h.extensions.enlarge hsource

/-- **Of two explained reports, the one in which more is executed knows more.** -/
theorem grows (h : Explained fate r) (h' : Explained fate r')
    (hexec : ∀ p, r.isExecuted p = true → r'.isExecuted p = true) : r.Extends r' := by
  have hsource : ∀ f, Source fate r f → Source fate r' f := by
    rintro f ⟨p, hp, hf⟩
    exact ⟨p, hexec p hp, hf⟩
  have hverdict : ∀ q v, r.verdict? q = some v → r'.verdict? q = some v := by
    intro q v hq
    obtain ⟨f, hf, hv⟩ := (h.verdicts q v).mp hq
    exact (h'.verdicts q v).mpr ⟨f, hsource f hf, hv⟩
  have hfinding : ∀ q v, v.isConclusive = true → r.finding? q = some v →
      r'.finding? q = some v := by
    intro q v hv hq
    have := hverdict q v (by simp [Report.verdict?, hq, hv])
    exact (Option.filter_eq_some_iff.mp this).1
  exact ⟨hexec, fun q => hfinding q _ rfl, fun q => hfinding q _ rfl,
    h.versions.grows h'.versions hsource, h.extensions.grows h'.extensions hsource⟩

end Explained

/-! ## Scans of compatible probes -/

/-- **The state of a scan of compatible probes**: its report is explained, every record
tells of a fate or of the drain, and after the rounds nothing that did not run is ready. -/
structure Point.Fated (fate : ProbeId → Fate) (probes : List (Probe β)) (x : Point β σ) :
    Prop where
  explained : Explained fate x.state.report
  own : OwnResults x.state.trace
  drained : ∀ p rec, x.state.report.records.get? p = some rec → Drained x.state.trace p →
    rec.status = .notExecuted
  status : ∀ p rec, x.state.report.records.get? p = some rec → ¬ Drained x.state.trace p →
    rec.status = (fate p).status
  unready : x.stage ≠ .rounds → ∀ p ∈ probes,
    p ∈ x.unscheduled ∨ Drained x.state.trace p.id → p.isReady x.state.report = false

section
variable {w : Workers β σ} {target : String} {probes : List (Probe β)} {s : σ}
  {x y : Point β σ}

/-- Steps that merge nothing change nothing, but that after the rounds all that is left has
to be unready. -/
theorem Point.Fated.rest {es : List Event} (hx : x.Fated fate probes) (hes : Undrained es)
    (hown : OwnResults es) (htrace : y.state.trace = x.state.trace ++ es)
    (hrecords : y.state.report.records = x.state.report.records)
    (hexplained : Explained fate y.state.report)
    (hready : y.stage ≠ .rounds → ∀ p ∈ probes,
      p ∈ y.unscheduled ∨ Drained x.state.trace p.id → p.isReady y.state.report = false) :
    y.Fated fate probes := by
  have hsame : ∀ p, Drained y.state.trace p ↔ Drained x.state.trace p := fun p => by
    rw [htrace, drained_append, or_iff_left (hes p)]
  refine ⟨hexplained, ?_, fun p rec hrec hd => ?_, fun p rec hrec hd => ?_, ?_⟩
  · rw [htrace]
    exact ownResults_append.mpr ⟨hx.own, hown⟩
  · rw [hrecords] at hrec
    exact hx.drained p rec hrec ((hsame p).mp hd)
  · rw [hrecords] at hrec
    exact hx.status p rec hrec fun h => hd ((hsame p).mpr h)
  · simpa only [hsame] using hready

/-- Steps that merge a result add one record, which has to tell of the fate of its probe or
of the drain. -/
theorem Point.Fated.merge {p : ProbeId} {rec : Record} {result : ProbeResult}
    {es : List Event} {e : Event} (hx : x.Fated fate probes) (hes : Silent es)
    (he : e.merged? = some (p, result)) (hown : result.OwnRecords)
    (htrace : y.state.trace = x.state.trace ++ es ++ [e])
    (hrecords : y.state.report.records = x.state.report.records.insert p rec)
    (hexplained : Explained fate y.state.report)
    (hothers : ∀ q, q ≠ p → ¬ Drained [e] q)
    (hdrained : Drained y.state.trace p → rec.status = .notExecuted)
    (hstatus : ¬ Drained y.state.trace p → rec.status = (fate p).status)
    (hready : y.stage ≠ .rounds → ∀ p ∈ probes,
      p ∈ y.unscheduled ∨ Drained y.state.trace p.id → p.isReady y.state.report = false) :
    y.Fated fate probes := by
  have hsame : ∀ q, q ≠ p → (Drained y.state.trace q ↔ Drained x.state.trace q) :=
    fun q hq => by
      rw [htrace, drained_append, drained_append, or_iff_left (hes.undrained q),
        or_iff_left (hothers q hq)]
  refine ⟨hexplained, ?_, fun q r hr hd => ?_, fun q r hr hd => ?_, hready⟩
  · rw [htrace]
    exact ownResults_append.mpr ⟨ownResults_append.mpr
      ⟨hx.own, ownResults_of_silent hes⟩, (ownResults_singleton he).mpr hown⟩
  · rw [hrecords, Table.get?_insert] at hr
    split at hr
    · rename_i hq
      cases hr
      exact hdrained (hq ▸ hd)
    · rename_i hq
      exact hx.drained q r hr ((hsame q hq).mp hd)
  · rw [hrecords, Table.get?_insert] at hr
    split at hr
    · rename_i hq
      cases hr
      rw [hq] at hd ⊢
      exact hstatus hd
    · rename_i hq
      exact hx.status q r hr fun h => hd ((hsame q hq).mpr h)

/-- A requirement without exclusions that does not hold did not hold when less was known. -/
theorem unready_of_extends {r r' : Report} {p : Probe β}
    (hpos : p.declaration.requirement.isPositive = true) (h : r'.Extends r)
    (hp : p.isReady r = false) : p.isReady r' = false := by
  cases hr : p.isReady r' with
  | false => rfl
  | true =>
      have hholds := Requirement.holds_of_extends h _ hpos hr
      exact absurd (hp.symm.trans hholds) (by decide)

/-- What a probe comes to leaves a report explained, and a record of its fate. -/
theorem fated_result {d : Declaration} {result : ProbeResult} {r r' : Report}
    (hcomp : Compatible fate probes) (hd : ∃ p ∈ probes, p.declaration = d)
    (hresult : Yields fate d result) (hr : Explained fate r)
    (hsource : ∀ p, r.isExecuted p = true → ∃ q ∈ probes, q.id = p)
    (hmerge : r.merge d result = .ok r') :
    Explained fate r' ∧ result.OwnRecords
      ∧ ∃ rec : Record, rec.status = (fate d.probe).status
        ∧ r'.records = r.records.insert d.probe rec := by
  obtain ⟨p, hp, rfl⟩ := hd
  rcases hresult with ⟨f, hfate, rfl⟩ | ⟨hstatus, k, m, rfl⟩
  · refine ⟨hr.facts hfate hmerge ?_, ProbeResult.ownRecords_facts _ f, _, ?_,
      Report.records_merge_facts hmerge⟩
    · rintro g ⟨k, hk, hg⟩ q v v' hv hv'
      obtain ⟨a, ha, rfl⟩ := hsource k hk
      exact hcomp.agree p hp a ha f g hfate hg q v v' hv hv'
    · rw [hfate]
      rfl
  · refine ⟨hr.extend (.of_failure hmerge), ProbeResult.ownRecords_failure _ _ k m, _, ?_,
      Report.records_merge_failure hmerge⟩
    rw [hstatus]
    rfl

/-- Such a result is accepted. -/
theorem merge_of_fate {d : Declaration} {result : ProbeResult} {r : Report}
    (hcomp : Compatible fate probes) (hd : ∃ p ∈ probes, p.declaration = d)
    (hresult : Yields fate d result)
    (hfree : r.hasRecord d.probe = false) : ∃ r', r.merge d result = .ok r' := by
  obtain ⟨p, hp, rfl⟩ := hd
  rcases hresult with ⟨f, hfate, rfl⟩ | ⟨-, k, m, rfl⟩
  · exact Report.merge_facts (hcomp.conforms p hp f hfate) hfree
  · exact Report.merge_failure k m hfree

/-- What is executed is one of the probes of the scan. -/
theorem Passes.exists_of_isExecuted (h : Passes w target probes s x)
    (hnodup : (probes.map Probe.id).Nodup) (hx : x.stage ≠ .failed)
    (hown : OwnResults x.state.trace) {p : ProbeId}
    (hp : x.state.report.isExecuted p = true) : ∃ q ∈ probes, q.id = p := by
  have hrecord := Report.hasRecord_of_isExecuted hp
  have hpart := (h.accounted hx).partitioned hnodup hown
  exact List.mem_map.mp ((hpart.declared p).mpr (Or.inr (Or.inr hrecord)))

/-- The end of a task with a fate keeps a scan as fated. -/
theorem fated_finish {d : Declaration} {es : List Event} {result : ProbeResult}
    {status : Status} (hx : x.Fated fate probes) (hcomp : Compatible fate probes)
    (hd : ∃ p ∈ probes, p.declaration = d)
    (hresult : Yields fate d result)
    (hsource : ∀ p, x.state.report.isExecuted p = true → ∃ q ∈ probes, q.id = p)
    (hmerge : x.state.report.merge d result = .ok y.state.report) (hes : Silent es)
    (htrace : y.state.trace = x.state.trace ++ es ++ [.finished d.probe result status])
    (hundrained : Undrained x.state.trace) (hy : y.stage = .rounds) :
    y.Fated fate probes := by
  obtain ⟨hexplained, hown, rec, hstatus, hrecords⟩ :=
    fated_result hcomp hd hresult hx.explained hsource hmerge
  have hlast : Undrained [.finished d.probe result status] :=
    undrained_singleton (by simp)
  have hnone : Undrained y.state.trace := by
    rw [htrace]
    exact (hundrained.append hes.undrained).append hlast
  exact hx.merge hes rfl hown htrace hrecords hexplained (fun q _ => hlast q)
    (fun h => absurd h (hnone _)) (fun _ => hstatus) fun hne => absurd hy hne

/-- The substitute of a probe that is left over changes no fact, so all others that are left
over stay unready. -/
theorem fated_drain {p : Probe β} {reason : String} (hx : x.Fated fate probes)
    (hnodup : (probes.map Probe.id).Nodup) (hp : p ∈ probes)
    (hu : x.unscheduled.Perm (p :: y.unscheduled)) (hstage : x.stage ≠ .rounds)
    (hmerge : x.state.report.merge p.declaration (.diagnosed p.id p.declaration.properties
      p.declaration.requirement) = .ok y.state.report)
    (htrace : y.state.trace = x.state.trace ++ [.notExecuted p.id (.diagnosed p.id
      p.declaration.properties p.declaration.requirement) reason]) :
    y.Fated fate probes := by
  have hrecords := Report.records_merge_diagnosed hmerge
  have hsame := Report.SameFacts.of_diagnosed hmerge
  have hown := ProbeResult.ownRecords_diagnosed p.id p.declaration.properties
    p.declaration.requirement
  refine hx.merge silent_nil rfl hown (by rw [htrace, List.append_nil]) hrecords
    (hx.explained.extend hsame) (fun q hq h => hq (drained_singleton.mp h)) (fun _ => rfl)
    (fun h => ?_) (fun _ q hq hleft => ?_)
  · refine absurd ?_ h
    rw [htrace]
    exact drained_append.mpr (Or.inr (drained_singleton.mpr rfl))
  · exact (Requirement.holds_congr hsame _).trans
      (hx.unready hstage q hq (left_of_drain hnodup hp hq hu htrace hleft))

/-- **Every move of a scan of compatible probes is as fated**, and none fails. -/
theorem Move.fated (h : Move x y) (hcomp : Compatible fate probes)
    (hnodup : (probes.map Probe.id).Nodup) (hreach : Passes w target probes s x)
    (hfollow : Follows fate y.state.trace) (hx : x.Fated fate probes) :
    y.stage ≠ .failed ∧ y.Fated fate probes := by
  have hfine := h.stage_ne
  have hpart := (hreach.accounted hfine).partitioned hnodup hx.own
  obtain ⟨hgiven, hdeclared⟩ := hreach.given hfine
  have hrunning : ∀ d ∈ x.state.running, x.state.report.hasRecord d.probe = false :=
    fun d hd => hpart.running_unrecorded d.probe (List.mem_map_of_mem hd)
  have hwaiting : ∀ p ∈ x.unscheduled, x.state.report.hasRecord p.id = false :=
    fun p hp => hpart.unscheduled_unrecorded p.id (List.mem_map_of_mem hp)
  cases h with
  | rest es hes _ hy _ _ hreport htrace =>
      exact ⟨by simp [hy], hx.rest hes.undrained (ownResults_of_silent hes) htrace
        (by rw [hreport]) (by rw [hreport]; exact hx.explained) fun hne => absurd hy hne⟩
  | hand p _ _ hy _ _ hreport htrace =>
      exact ⟨by simp [hy], hx.rest (undrained_singleton (by simp))
        (fun _ hm => absurd hm List.not_mem_nil) htrace (by rw [hreport])
        (by rw [hreport]; exact hx.explained) fun hne => absurd hy hne⟩
  | finish d es e result rec hes hd hmerge _ hr hy _ hrun htrace =>
      have hdrun := hrun.symm.subset (List.mem_cons_self ..)
      have htrace' : y.state.trace = x.state.trace ++ (es ++ [e])
          ++ [.finished d.probe result rec.status] := by simp [htrace]
      exact ⟨by simp [hy], fated_finish hx hcomp (hdeclared d hdrun)
        (hd.of_follows hfollow (by rw [htrace]; simp))
        (fun p hp => hreach.exists_of_isExecuted hnodup hfine hx.own hp) hmerge
        (hes.append (silent_singleton hd.progress?)) htrace' (hreach.undrained hnodup hr) hy⟩
  | leave es hes hready hr hy hu _ _ hreport htrace =>
      refine ⟨by simp [hy], hx.rest hes.undrained (ownResults_of_silent hes) htrace
        (by rw [hreport]) (by rw [hreport]; exact hx.explained) fun _ p hp hleft => ?_⟩
      rw [hreport]
      rcases hleft with hleft | hleft
      · exact hready p (by rwa [hu])
      · exact absurd hleft (hreach.undrained hnodup hr p.id)
  | drain p hmerge hr hy hu _ _ htrace =>
      have hpx : p ∈ x.unscheduled := hu.symm.subset (List.mem_cons_self ..)
      rw [hcomp.substitute p (hgiven p hpx)] at hmerge htrace
      exact ⟨by simp [hy], fated_drain hx hnodup (hgiven p hpx) hu (by simp [hr])
        hmerge htrace⟩
  | complete t e he hr hy _ hnone _ _ hreport htrace =>
      have hsame : x.state.report.SameFacts y.state.report := by
        rw [hreport]
        exact .markFinished _ t
      refine ⟨by simp [hy], hx.rest (silent_singleton he).undrained
        (ownResults_of_silent (silent_singleton he)) htrace (by rw [hreport]; rfl)
        (hx.explained.extend hsame) fun _ p hp hleft => ?_⟩
      refine (Requirement.holds_congr hsame _).trans (hx.unready (by simp [hr]) p hp ?_)
      exact Or.inr (hleft.resolve_left (by simp [hnone]))
  | giveUp d es e result fault hes he hd hrun hmerge hr hy htrace =>
      -- What follows from a fate is accepted, so there is nothing to give up for.
      obtain ⟨r', hok⟩ := merge_of_fate hcomp (hdeclared d hrun)
        (hd.of_follows hfollow (by rw [htrace]; simp [he])) (hrunning d hrun)
      cases hok.symm.trans hmerge
  | refuse p fault hp hmerge hr hy htrace =>
      rw [hcomp.substitute p (hgiven p hp)] at hmerge
      obtain ⟨r', hok⟩ :=
        Report.merge_diagnosed p.declaration.requirement (hwaiting p hp)
      cases hok.symm.trans hmerge

theorem fated_initial (fate : ProbeId → Fate) (w : Workers β σ) (target : String)
    (probes : List (Probe β)) (s : σ) : (initial w target probes s).Fated fate probes := by
  have hempty : ∀ p, (initial w target probes s).state.report.records.get? p = none :=
    fun _ => rfl
  refine ⟨explained_new fate target (w.now s), ownResults_of_silent (silent_singleton rfl),
    fun p rec hrec _ => ?_, fun p rec hrec _ => ?_, fun hne => absurd rfl hne⟩
  · rw [hempty] at hrec
    cases hrec
  · rw [hempty] at hrec
    cases hrec

theorem Follows.of_grown {l m : List Event} (h : Follows fate m) (hl : l <+: m) :
    Follows fate l := fun e he => h e (hl.subset he)

/-- **A scan of compatible probes does not fail, and is as fated at every point.** -/
theorem Passes.fated (h : Passes w target probes s x) (hcomp : Compatible fate probes)
    (hnodup : (probes.map Probe.id).Nodup)
    (hfollow : Follows fate (Coordinator.scan w target probes s).1.trace) :
    x.stage ≠ .failed ∧ x.Fated fate probes := by
  refine h.invariant (I := fun x => x.stage ≠ .failed ∧ x.Fated fate probes)
    ⟨Stage.noConfusion, fated_initial ..⟩ ?_
  intro x y hx hy ih hm
  exact hm.fated hcomp hnodup hx (hfollow.of_grown hy.trace_grows) ih.2

end

end TlsScan.Scan
