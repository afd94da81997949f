import Mathlib.Data.List.Count
import TlsScan.Proofs.Requirement.SameFacts
import TlsScan.Requirement.Unmet

/-!
# Why a requirement is not met

The list of unmet clauses is the other side of the evaluation: it is empty exactly if
the requirement holds.  So the reason that is given for a probe that was left over names
at least one clause, and is never the one that is kept for a list without any.

The list is exact as well.  What it says is counted against the report, and each way to fail is
listed as often as the requirement fails in that way.

## Main Definitions

* `Requirement.failures` — how often a report fails a requirement in a given way.

## Main Results

* `Requirement.unmet_eq_nil_iff` — nothing is unmet exactly if the requirement holds.
* `Requirement.count_unmet` — every failure is listed as often as there is one.
* `Requirement.diagnosis_is_exact` — both together.
* `Requirement.reason_of_holds_eq_false` — otherwise the reason is what is unmet, in
  words.
* `Requirement.intercalate_message_ne` — and these words are never those for having none.
-/

namespace TlsScan

namespace Requirement

variable {r r' : Report} {q : Requirement}

/-! ## Unmet clauses -/

theorem unmetItems_eq_nil_iff {α : Type} {clause : Option (List α)} {test : α → Bool}
    {fault : α → Unmet} :
    unmetItems clause test fault = [] ↔ clauseHolds clause test = true := by
  simp [unmetItems, clauseHolds, List.filter_eq_nil_iff]

theorem unmetMembers_eq_nil_iff {α : Type} {clause : Option (List α)}
    {known : Option (Selection α)} {unknown : Unmet} {fault : α → Unmet} :
    unmetMembers clause known unknown fault = [] ↔ setClauseHolds clause known = true := by
  cases clause with
  | none => simp [unmetMembers, setClauseHolds]
  | some l =>
      cases known with
      | none => simp [unmetMembers, setClauseHolds]
      | some s => simp [unmetMembers, setClauseHolds, List.filter_eq_nil_iff]

/-- A clause that is listed only if a test fails is not listed exactly if it holds. -/
theorem listedUnless_eq_nil_iff {b : Bool} {u : Unmet} :
    (if b then [] else [u]) = [] ↔ b = true := by
  cases b <;> simp

/-- **Nothing is unmet exactly if the requirement holds.** -/
theorem unmet_eq_nil_iff {q : Requirement} : unmet r q = [] ↔ holds r q = true := by
  obtain ⟨probes, properties, propertiesNot, versions, extensions, alternatives, excluded⟩ := q
  simp only [unmet, holds, List.append_eq_nil_iff, Bool.and_eq_true]
  rw [unmetItems_eq_nil_iff, unmetItems_eq_nil_iff, unmetItems_eq_nil_iff,
    unmetMembers_eq_nil_iff, unmetMembers_eq_nil_iff, listedUnless_eq_nil_iff,
    listedUnless_eq_nil_iff]

/-! ## How often a clause fails -/

/-- **How often a report fails a requirement in a given way.**

An item fails as often as it is listed and is not as asked, and what is reported of a property
is the finding that is there.  A set that is asked about and unknown fails once, and its items
do not fail then.  A choice fails if no alternative holds, and an exclusion if what it excludes
does. -/
def failures (r : Report) (q : Requirement) : Unmet → Nat
  | .probeNotExecuted p =>
    if r.isExecuted p = false then (q.probes.getD []).count p else 0
  | .propertyNotTrue p actual =>
    if r.finding? p = actual ∧ actual ≠ some .holds then (q.properties.getD []).count p else 0
  | .propertyNotFalse p actual =>
    if r.finding? p = actual ∧ actual ≠ some .fails then (q.propertiesNot.getD []).count p
    else 0
  | .versionsUnknown => if q.versions.isSome ∧ r.versions = .none then 1 else 0
  | .versionNotSupported v =>
    if ∃ s ∈ r.versions, s.contains v = false then (q.versions.getD []).count v else 0
  | .extensionsUnknown => if q.extensions.isSome ∧ r.extensions = .none then 1 else 0
  | .extensionNotSupported e =>
    if ∃ s ∈ r.extensions, s.contains e = false then (q.extensions.getD []).count e else 0
  | .noAlternativeSatisfied =>
    if ∃ l ∈ q.alternatives, ∀ a ∈ l, holds r a = false then 1 else 0
  | .excludedConditionHolds => if ∃ e ∈ q.excluded, holds r e = true then 1 else 0

section
variable {α : Type} {clause : Option (List α)} {known : Option (Selection α)}
  {test : α → Bool} {fault : α → Unmet} {unknown u : Unmet}

/-- Items are listed as often as they fail. -/
theorem count_map_filter [DecidableEq α] (hfault : Function.Injective fault) (l : List α)
    (a : α) :
    ((l.filter fun b => !test b).map fault).count (fault a)
      = if test a = false then l.count a else 0 := by
  rw [List.count_map_of_injective _ _ hfault]
  split
  · rename_i ha
    exact List.count_filter (by rw [ha]; rfl)
  · rename_i ha
    rw [List.count_eq_zero]
    intro hmem
    exact ha ((Bool.not_eq_true' _).mp (List.mem_filter.mp hmem).2)

/-- Nothing is listed that no item reads. -/
theorem count_map_of_forall_ne (l : List α) (hu : ∀ a, fault a ≠ u) :
    (l.map fault).count u = 0 := by
  rw [List.count_eq_zero]
  intro hmem
  obtain ⟨a, -, ha⟩ := List.mem_map.mp hmem
  exact hu a ha

/-- The items that a clause about single facts lists. -/
theorem count_unmetItems [DecidableEq α] (hfault : Function.Injective fault) (a : α) :
    (unmetItems clause test fault).count (fault a)
      = if test a = false then (clause.getD []).count a else 0 :=
  count_map_filter hfault _ a

/-- A clause about single facts lists nothing else. -/
@[simp] theorem count_unmetItems_of_forall_ne (hu : ∀ a, fault a ≠ u) :
    (unmetItems clause test fault).count u = 0 :=
  count_map_of_forall_ne _ hu

/-- The items of a clause that are listed with the value found in place of the one asked for. -/
theorem count_unmetItems_found [DecidableEq α] {β : Type} [DecidableEq β] [BEq β]
    [LawfulBEq β] {found : α → β} {asked : β} {report : α → β → Unmet}
    (hreport : ∀ {a b x y}, report a x = report b y → a = b ∧ x = y) (a : α) (x : β) :
    (unmetItems clause (fun a => found a == asked)
        fun a => report a (found a)).count (report a x)
      = if found a = x ∧ x ≠ asked then (clause.getD []).count a else 0 := by
  by_cases hx : found a = x
  · subst hx
    have hinjective : Function.Injective fun a => report a (found a) := by
      intro a b hab
      exact (hreport hab).1
    rw [show report a (found a) = (fun a => report a (found a)) a from rfl,
      count_unmetItems hinjective]
    simp
  · have hne : ∀ b, report b (found b) ≠ report a x := by
      intro b hb
      obtain ⟨rfl, hfound⟩ := hreport hb
      exact hx hfound
    rw [count_unmetItems_of_forall_ne hne, if_neg fun h => hx h.1]

/-- The items that a clause about a set lists. -/
theorem count_unmetMembers [DecidableEq α] (hfault : Function.Injective fault)
    (hunknown : ∀ a, fault a ≠ unknown) (a : α) :
    (unmetMembers clause known unknown fault).count (fault a)
      = if ∃ s ∈ known, s.contains a = false then (clause.getD []).count a else 0 := by
  cases clause with
  | none => simp [unmetMembers]
  | some l =>
      cases known with
      | none => simpa [unmetMembers, List.count_eq_zero] using hunknown a
      | some s => simp [unmetMembers, count_map_filter hfault]

/-- It is listed once that the set is unknown, in place of all items. -/
theorem count_unmetMembers_unknown (hunknown : ∀ a, fault a ≠ unknown) :
    (unmetMembers clause known unknown fault).count unknown
      = if clause.isSome ∧ known = .none then 1 else 0 := by
  cases clause with
  | none => rfl
  | some l =>
      cases known with
      | none => exact List.count_singleton_self
      | some s => exact count_map_of_forall_ne _ hunknown

/-- A clause about a set lists nothing else. -/
@[simp] theorem count_unmetMembers_of_forall_ne (hu : ∀ a, fault a ≠ u)
    (hunknown : unknown ≠ u) : (unmetMembers clause known unknown fault).count u = 0 := by
  cases clause with
  | none => rfl
  | some l =>
      cases known with
      | none => exact List.count_eq_zero.mpr (by simpa [unmetMembers] using hunknown.symm)
      | some s => exact count_map_of_forall_ne _ hu

/-- What is listed only if a test fails. -/
theorem count_listedUnless {b : Bool} {v : Unmet} :
    (if b then [] else [v]).count u = if b = false ∧ v = u then 1 else 0 := by
  cases b <;> simp [List.count_singleton]

end

/-- **What is unmet is listed as often as it fails.** -/
theorem count_unmet (u : Unmet) : (unmet r q).count u = failures r q u := by
  -- Each wording belongs to one clause, so of the seven counts one is left.
  simp only [unmet, List.count_append, count_listedUnless]
  cases u with
  | probeNotExecuted p =>
      rw [count_unmetItems fun _ _ h => Unmet.probeNotExecuted.inj h]
      simp [failures]
  | propertyNotTrue p actual =>
      rw [count_unmetItems_found Unmet.propertyNotTrue.inj]
      simp [failures]
  | propertyNotFalse p actual =>
      rw [count_unmetItems_found Unmet.propertyNotFalse.inj]
      simp [failures]
  | versionsUnknown =>
      rw [count_unmetMembers_unknown nofun]
      simp [failures]
  | versionNotSupported v =>
      have hunknown : ∀ v, Unmet.versionNotSupported v ≠ .versionsUnknown := nofun
      rw [count_unmetMembers (fun _ _ h => Unmet.versionNotSupported.inj h) hunknown]
      simp [failures]
  | extensionsUnknown =>
      rw [count_unmetMembers_unknown nofun]
      simp [failures]
  | extensionNotSupported e =>
      have hunknown : ∀ e, Unmet.extensionNotSupported e ≠ .extensionsUnknown := nofun
      rw [count_unmetMembers (fun _ _ h => Unmet.extensionNotSupported.inj h) hunknown]
      simp [failures]
  | noAlternativeSatisfied =>
      have hchoice : choiceHolds r q.alternatives = false
          ↔ ∃ l ∈ q.alternatives, ∀ a ∈ l, holds r a = false := by
        rw [← Bool.not_eq_true, choiceHolds_iff]
        simp
      simp [failures, hchoice]
  | excludedConditionHolds =>
      have hexclusion : exclusionHolds r q.excluded = false
          ↔ ∃ e ∈ q.excluded, holds r e = true := by
        rw [← Bool.not_eq_true, exclusionHolds_iff]
        simp
      simp [failures, hexclusion]

/-- **The diagnosis agrees with the evaluation**: it is empty exactly if the requirement holds,
and lists every failure as often as there is one, and nothing else. -/
theorem diagnosis_is_exact (r : Report) (q : Requirement) :
    (unmet r q = [] ↔ holds r q = true) ∧ ∀ u, (unmet r q).count u = failures r q u :=
  ⟨unmet_eq_nil_iff, count_unmet⟩

/-- What is unmet depends on the answers of the report alone, and on the findings
themselves. -/
theorem unmet_congr (h : r.SameFacts r') (hfinding : ∀ p, r'.finding? p = r.finding? p)
    (q : Requirement) : unmet r' q = unmet r q := by
  have hexec : r'.isExecuted = r.isExecuted := funext h.executed
  simp only [unmet, hexec, hfinding, h.versions, h.extensions, choiceHolds_congr h,
    exclusionHolds_congr h]

end Requirement

/-! ## The wording -/

/-- A text begins as its first part does. -/
theorem head?_append {s t : String} {c : Char} (h : s.toList.head? = some c) :
    (s ++ t).toList.head? = some c := by
  rw [String.toList_append, List.head?_append, h]
  rfl

theorem Property.head?_name (p : Property) : ∃ c ≠ 'i', p.name.toList.head? = some c := by
  cases p <;> simp [Property.name]

/-- **No wording of an unmet clause begins with an i.** -/
theorem Unmet.head?_message (u : Unmet) : ∃ c ≠ 'i', u.message.toList.head? = some c := by
  cases u with
  | probeNotExecuted p => exact ⟨'r', by decide, head?_append (head?_append rfl)⟩
  | propertyNotTrue p v =>
      obtain ⟨c, hc, hp⟩ := p.head?_name
      exact ⟨c, hc, head?_append (head?_append (head?_append hp))⟩
  | propertyNotFalse p v =>
      obtain ⟨c, hc, hp⟩ := p.head?_name
      exact ⟨c, hc, head?_append (head?_append (head?_append hp))⟩
  | versionsUnknown => exact ⟨'s', by decide, rfl⟩
  | versionNotSupported v => exact ⟨'t', by decide, head?_append rfl⟩
  | extensionsUnknown => exact ⟨'s', by decide, rfl⟩
  | extensionNotSupported e => exact ⟨'t', by decide, head?_append rfl⟩
  | noAlternativeSatisfied => exact ⟨'n', by decide, rfl⟩
  | excludedConditionHolds => exact ⟨'a', by decide, rfl⟩

namespace Requirement

variable {r r' : Report} {q : Requirement}

/-- **A requirement that does not hold has what is unmet as its reason.** -/
theorem reason_of_holds_eq_false (h : holds r q = false) :
    unmet r q ≠ [] ∧ reason r q = "; ".intercalate ((unmet r q).map Unmet.message) := by
  have hne : unmet r q ≠ [] := by
    rw [Ne, unmet_eq_nil_iff, h]
    exact Bool.false_ne_true
  refine ⟨hne, ?_⟩
  rw [reason]
  split
  · rename_i hnil
    exact absurd hnil hne
  · rfl

/-- **A list of unmet clauses never reads like the reason for having none.** -/
theorem intercalate_message_ne {l : List Unmet} (hl : l ≠ []) :
    "; ".intercalate (l.map Unmet.message) ≠ "internal scheduling error" := by
  obtain ⟨u, l, rfl⟩ := List.exists_cons_of_ne_nil hl
  obtain ⟨c, hc, hu⟩ := u.head?_message
  have hjoined : ("; ".intercalate ((u :: l).map Unmet.message)).toList.head? = some c := by
    cases l with
    | nil => rwa [List.map_cons, List.map_nil, String.intercalate_singleton]
    | cons v l =>
        rw [List.map_cons, List.map_cons, String.intercalate_cons_cons]
        exact head?_append (head?_append hu)
  intro h
  rw [h] at hjoined
  exact hc (Option.some.inj hjoined).symm

end Requirement

end TlsScan
