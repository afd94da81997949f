import TlsScan.Proofs.Report.Merging
import TlsScan.Proofs.Requirement.Monotone

/-!
# Reports that grow

A record that is in a report stays there as it is, and so do the values of the sets.  A
property that is decided stays decided, but not as it was: a later write may decide it the
other way.  So a requirement without exclusions can come to fail again for one reason only,
which is that two writes contradict each other.

## Main Definitions

* `Report.Grows` — one report keeps all of another one, up to what its properties are
  decided as.

## Main Results

* `Report.Grows.of_takes`, `Report.Grows.of_merge` — writes make a report grow.
* `Report.Grows.exists_changed` — when a requirement without exclusions comes to fail, some
  property was decided anew.
-/

namespace TlsScan

/-- A set that is enlarged keeps its values. -/
theorem Selection.exists_enlarge {α : Type} [DecidableEq α] {s : Selection α}
    (l : List (List α)) : ∃ t, enlarge (some s) l = some t
      ∧ ∀ a, s.contains a = true → t.contains a = true := by
  obtain ⟨t, ht⟩ := Option.isSome_iff_exists.mp (isSome_enlarge (some s) l)
  refine ⟨t, ht, fun a ha => ?_⟩
  have hcontains := contains_enlarge (some s) l a
  rw [ht, Option.getD_some, Option.getD_some, ha, Bool.true_or] at hcontains
  exact hcontains

namespace Report

variable {r r' r'' : Report}

/-- **One report keeps all of another one**, up to what its properties are decided as. -/
structure Grows (r r' : Report) : Prop where
  records : ∀ p rec, r.records.get? p = some rec → r'.records.get? p = some rec
  decided : ∀ q, (r.verdict? q).isSome → (r'.verdict? q).isSome
  versions : ∀ s, r.versions = some s → ∃ s', r'.versions = some s'
    ∧ ∀ v, s.contains v = true → s'.contains v = true
  extensions : ∀ s, r.extensions = some s → ∃ s', r'.extensions = some s'
    ∧ ∀ e, s.contains e = true → s'.contains e = true

namespace Grows

theorem refl (r : Report) : r.Grows r :=
  ⟨fun _ _ h => h, fun _ h => h, fun s hs => ⟨s, hs, fun _ h => h⟩,
    fun s hs => ⟨s, hs, fun _ h => h⟩⟩

theorem trans (h : r.Grows r') (h' : r'.Grows r'') : r.Grows r'' := by
  refine ⟨fun p rec hrec => h'.records p rec (h.records p rec hrec),
    fun q hq => h'.decided q (h.decided q hq), fun s hs => ?_, fun s hs => ?_⟩
  · obtain ⟨s', hs', hle⟩ := h.versions s hs
    obtain ⟨s'', hs'', hle'⟩ := h'.versions s' hs'
    exact ⟨s'', hs'', fun v hv => hle' v (hle v hv)⟩
  · obtain ⟨s', hs', hle⟩ := h.extensions s hs
    obtain ⟨s'', hs'', hle'⟩ := h'.extensions s' hs'
    exact ⟨s'', hs'', fun e he => hle' e (hle e he)⟩

/-- **A report that takes in writes grows.** -/
theorem of_takes {l : List Write} (h : r.Takes l r') : r.Grows r' := by
  refine ⟨h.kept, fun q hq => ?_, fun s hs => ?_, fun s hs => ?_⟩
  · unfold verdict? at hq ⊢
    rw [h.findings, Finding.filter_settleAll, Option.isSome_or, hq, Bool.or_true]
  · rw [h.versions, hs]
    exact Selection.exists_enlarge _
  · rw [h.extensions, hs]
    exact Selection.exists_enlarge _

/-- **A merge that is accepted makes a report grow**, whatever the result writes. -/
theorem of_merge {d : Declaration} {x : ProbeResult} (h : r.merge d x = .ok r') :
    r.Grows r' := of_takes (takes_merge h)

/-- A report that has grown knows all that it knew, if no property was decided anew. -/
theorem extends_of_agree (h : r.Grows r')
    (hsame : ∀ q v v', r.verdict? q = some v → r'.verdict? q = some v' → v = v') :
    r.Extends r' := by
  have hfinding : ∀ q v, v.isConclusive = true → r.finding? q = some v →
      r'.finding? q = some v := by
    intro q v hv hq
    have hverdict : r.verdict? q = some v := by simp [verdict?, hq, hv]
    obtain ⟨v', hv'⟩ := Option.isSome_iff_exists.mp
      (h.decided q (Option.isSome_iff_exists.mpr ⟨v, hverdict⟩))
    rw [hsame q v v' hverdict hv']
    exact (Option.filter_eq_some_iff.mp hv').1
  refine ⟨fun p hp => ?_, fun q => hfinding q _ rfl, fun q => hfinding q _ rfl,
    h.versions, h.extensions⟩
  unfold isExecuted at hp ⊢
  split at hp
  · rename_i rec hrec
    rw [h.records p rec hrec]
    exact hp
  · cases hp

/-- **When a requirement without exclusions comes to fail, some property was decided anew.** -/
theorem exists_changed (h : r.Grows r') {q : Requirement} (hpos : q.isPositive = true)
    (hr : q.holds r = true) (hr' : q.holds r' = false) :
    ∃ a v v', r.verdict? a = some v ∧ r'.verdict? a = some v' ∧ v ≠ v' := by
  by_contra hnone
  have hextends : r.Extends r' := h.extends_of_agree fun a v v' hv hv' => by
    by_contra hne
    exact hnone ⟨a, v, v', hv, hv', hne⟩
  exact absurd (hr'.symm.trans (Requirement.holds_of_extends hextends q hpos hr)) (by decide)

end Grows

end Report

end TlsScan
