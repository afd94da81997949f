import Mathlib.Data.List.Basic
import Mathlib.Data.List.Induction
import TlsScan.Proofs.Requirement.Clauses

/-!
# Building a requirement

A requirement is built by calls.  Six kinds of calls lengthen a clause, and are added up over
the whole list of calls.  A call of the seventh kind replaces what was excluded before, so only
the last one counts.  A clause is there from the first call for it on, even if nothing was in
any of these calls, and that is what tells a set that has to be known from one that nobody
asked about.

What the built requirement asks of a report can therefore be read off the calls.  That reading
looks at one kind of calls at a time, so how calls of different kinds are mixed does not matter.

## Main Definitions

* `Requirement.Call.Kind`, `Requirement.Call.kind` — the clause that a call is about.
* `Requirement.Lengthens` — the calls of a kind lengthen a clause, and no others touch it.
* `Requirement.Collects` — what a clause has collected from calls.
* `Requirement.LastExcluded` — what the last exclusion among calls was.
* `Requirement.Meets` — what the calls ask of a report.

## Main Results

* `Requirement.Lengthens.collects` — a clause collects what is in all its calls.
* `Requirement.holds_ofCalls` — the built requirement holds if the report meets the calls.
* `Requirement.ofCalls_congr` — calls of different kinds may be mixed in any way.
* `Requirement.ofCalls_callsOf` — every requirement is built by calls.
* `Requirement.built_as_called` — what the calls ask for is what the requirement means.
-/

namespace TlsScan

namespace Requirement

/-! ## Calls -/

/-- The kinds of building calls. -/
inductive Call.Kind where
  | probes
  | properties
  | propertiesNot
  | versions
  | extensions
  | anyOf
  | except
  deriving DecidableEq

/-- The kind of a building call. -/
def Call.kind : Call → Kind
  | probes _ => .probes
  | properties _ => .properties
  | propertiesNot _ => .propertiesNot
  | versions _ => .versions
  | extensions _ => .extensions
  | anyOf _ => .anyOf
  | except _ => .except

theorem ofCalls_append (l m : List Call) : ofCalls (l ++ m) = m.foldl call (ofCalls l) :=
  List.foldl_append

/-- The last call is made on what the others have built. -/
theorem ofCalls_concat (l : List Call) (c : Call) : ofCalls (l ++ [c]) = (ofCalls l).call c :=
  ofCalls_append l [c]

/-! ## The order of calls -/

/-- **Calls of different kinds commute.** -/
theorem call_comm {q : Requirement} {a b : Call} (h : a.kind ≠ b.kind) :
    (q.call a).call b = (q.call b).call a := by
  cases a <;> cases b <;> first | rfl | exact absurd rfl h

/-- A call can be made before calls of other kinds. -/
theorem foldl_call_comm {a : Call} {l : List Call} (h : ∀ b ∈ l, a.kind ≠ b.kind)
    (q : Requirement) : (l.foldl call q).call a = l.foldl call (q.call a) := by
  induction l generalizing q with
  | nil => rfl
  | cons b l ih =>
      rw [List.foldl_cons, List.foldl_cons, call_comm (h b List.mem_cons_self),
        ih fun b hb => h b (List.mem_cons_of_mem _ hb)]

/-- **Only the order within each kind of calls matters**, whatever they are made on. -/
theorem foldl_call_congr {l m : List Call}
    (h : ∀ k, l.filter (·.kind = k) = m.filter (·.kind = k)) (q : Requirement) :
    l.foldl call q = m.foldl call q := by
  -- The first call of one list is the first of its kind in the other, and is made first there.
  induction l generalizing m q with
  | nil =>
      have hnil : m = [] := by
        rw [List.eq_nil_iff_forall_not_mem]
        intro c hc
        have hmem : c ∈ m.filter (·.kind = c.kind) := List.mem_filter.mpr ⟨hc, by simp⟩
        rw [← h] at hmem
        cases hmem
      rw [hnil]
  | cons a l ih =>
      have ha := h a.kind
      rw [List.filter_cons_of_pos (by simp), eq_comm, List.filter_eq_cons_iff] at ha
      obtain ⟨before, after, rfl, hbefore, -, hafter⟩ := ha
      have hother : ∀ b ∈ before, a.kind ≠ b.kind := by
        intro b hb hkind
        exact hbefore b hb (by simp [hkind])
      have hrest : ∀ k, l.filter (·.kind = k) = (before ++ after).filter (·.kind = k) := by
        intro k
        by_cases hk : a.kind = k
        · subst hk
          rw [List.filter_append, hafter, List.filter_eq_nil_iff.mpr hbefore, List.nil_append]
        · have hk' := h k
          simpa [List.filter_append, hk] using hk'
      rw [List.foldl_append, List.foldl_cons, List.foldl_cons, foldl_call_comm hother,
        ih hrest, List.foldl_append]

/-- Calls of different kinds may be mixed in any way without a change to what they build. -/
theorem ofCalls_congr {l m : List Call}
    (h : ∀ k, l.filter (·.kind = k) = m.filter (·.kind = k)) : ofCalls l = ofCalls m :=
  foldl_call_congr h none

/-! ## What a clause collects -/

section
variable {α : Type} {make : List α → Call} {clause : Requirement → Option (List α)}
  {calls : List Call} {x : Option (List α)}

/-- **The calls of a kind lengthen a clause**, and no other call touches it. -/
structure Lengthens (make : List α → Call) (clause : Requirement → Option (List α)) : Prop where
  injective : Function.Injective make
  start : clause none = .none
  lengthened : ∀ q l, clause (q.call (make l)) = lengthen (clause q) l
  kept : ∀ q c, (∀ l, c ≠ make l) → clause (q.call c) = clause q

/-- **What a clause has collected from calls**: it is there if one of the calls is for it, and
has the items of all calls that are. -/
structure Collects (make : List α → Call) (calls : List Call) (x : Option (List α)) : Prop where
  asked : x.isSome = true ↔ ∃ l, make l ∈ calls
  items : ∀ a, a ∈ x.getD [] ↔ ∃ l, make l ∈ calls ∧ a ∈ l

/-- A call for the clause adds what is in it. -/
theorem Collects.concat (hmake : Function.Injective make) (h : Collects make calls x)
    (l : List α) : Collects make (calls ++ [make l]) (lengthen x l) := by
  have hmem : ∀ l', make l' ∈ calls ++ [make l] ↔ make l' ∈ calls ∨ l' = l := by
    intro l'
    rw [List.mem_append, List.mem_singleton, hmake.eq_iff]
  constructor
  · exact iff_of_true rfl ⟨l, (hmem l).mpr (.inr rfl)⟩
  · intro a
    show a ∈ x.getD [] ++ l ↔ _
    simp only [List.mem_append, h.items, hmem, or_and_right, exists_or, exists_eq_left]

/-- A call for something else adds nothing. -/
theorem Collects.concat_other {c : Call} (hc : ∀ l, c ≠ make l) (h : Collects make calls x) :
    Collects make (calls ++ [c]) x := by
  have hmem : ∀ l, make l ∈ calls ++ [c] ↔ make l ∈ calls := by
    intro l
    rw [List.mem_append, List.mem_singleton, or_iff_left (hc l).symm]
  constructor
  · simp only [h.asked, hmem]
  · simp only [h.items, hmem, implies_true]

/-- **A clause collects what is in all its calls.** -/
theorem Lengthens.collects (h : Lengthens make clause) (calls : List Call) :
    Collects make calls (clause (ofCalls calls)) := by
  induction calls using List.reverseRecOn with
  | nil =>
      rw [show ofCalls [] = none from rfl, h.start]
      constructor <;> simp
  | append_singleton calls c ih =>
      rw [ofCalls_concat]
      by_cases hc : ∃ l, c = make l
      · obtain ⟨l, rfl⟩ := hc
        rw [h.lengthened]
        exact ih.concat h.injective l
      · rw [not_exists] at hc
        rw [h.kept _ _ hc]
        exact ih.concat_other hc

/-- What is said of a clause that is there is said of what it has collected, if there is a call
for it. -/
theorem Collects.forall_eq_some_iff (h : Collects make calls x) {P : List α → Prop} :
    (∀ m, x = some m → P m) ↔ ((∃ l, make l ∈ calls) → P (x.getD [])) := by
  rw [← h.asked]
  cases x <;> simp

/-- All that is collected is all that is in any call. -/
theorem Collects.forall_items (h : Collects make calls x) {P : α → Prop} :
    (∀ a ∈ x.getD [], P a) ↔ ∀ l, make l ∈ calls → ∀ a ∈ l, P a := by
  constructor
  · intro hitems l hl a ha
    exact hitems a ((h.items a).mpr ⟨l, hl, ha⟩)
  · intro hcalls a ha
    obtain ⟨l, hl, ha⟩ := (h.items a).mp ha
    exact hcalls l hl a ha

/-- Something that is collected is something in some call. -/
theorem Collects.exists_items (h : Collects make calls x) {P : α → Prop} :
    (∃ a ∈ x.getD [], P a) ↔ ∃ l, make l ∈ calls ∧ ∃ a ∈ l, P a := by
  constructor
  · rintro ⟨a, ha, hP⟩
    obtain ⟨l, hl, ha⟩ := (h.items a).mp ha
    exact ⟨l, hl, a, ha, hP⟩
  · rintro ⟨l, hl, a, ha, hP⟩
    exact ⟨a, (h.items a).mpr ⟨l, hl, ha⟩, hP⟩

/-- What is asked of every item of a clause is asked of every item of every call. -/
theorem Collects.forall_iff (h : Collects make calls x) {P : α → Prop} :
    (∀ m, x = some m → ∀ a ∈ m, P a) ↔ ∀ l, make l ∈ calls → ∀ a ∈ l, P a := by
  rw [h.forall_eq_some_iff, h.forall_items]
  constructor
  · intro hcalls l hl
    exact hcalls ⟨l, hl⟩ l hl
  · intro hcalls _
    exact hcalls

/-- A set is asked about as soon as there is a call for it, and has to have the items of every
call then. -/
theorem Collects.known_iff (h : Collects make calls x) {known : Option (Selection α)} :
    (∀ m, x = some m → ∃ s, known = some s ∧ ∀ a ∈ m, s.contains a = true)
      ↔ ((∃ l, make l ∈ calls) →
          ∃ s, known = some s ∧ ∀ l, make l ∈ calls → ∀ a ∈ l, s.contains a = true) := by
  rw [h.forall_eq_some_iff]
  simp only [h.forall_items]

/-- There is a choice as soon as there is a call for it, and it is between the items of every
call. -/
theorem Collects.exists_iff (h : Collects make calls x) {P : α → Prop} :
    (∀ m, x = some m → ∃ a ∈ m, P a)
      ↔ ((∃ l, make l ∈ calls) → ∃ l, make l ∈ calls ∧ ∃ a ∈ l, P a) := by
  rw [h.forall_eq_some_iff, h.exists_items]

end

/-! The six clauses that are lengthened. -/

theorem lengthens_probes : Lengthens .probes Requirement.probes where
  injective _ _ h := Call.probes.inj h
  start := rfl
  lengthened _ _ := rfl
  kept _ c hc := by cases c <;> first | rfl | exact absurd rfl (hc _)

theorem lengthens_properties : Lengthens .properties Requirement.properties where
  injective _ _ h := Call.properties.inj h
  start := rfl
  lengthened _ _ := rfl
  kept _ c hc := by cases c <;> first | rfl | exact absurd rfl (hc _)

theorem lengthens_propertiesNot : Lengthens .propertiesNot Requirement.propertiesNot where
  injective _ _ h := Call.propertiesNot.inj h
  start := rfl
  lengthened _ _ := rfl
  kept _ c hc := by cases c <;> first | rfl | exact absurd rfl (hc _)

theorem lengthens_versions : Lengthens .versions Requirement.versions where
  injective _ _ h := Call.versions.inj h
  start := rfl
  lengthened _ _ := rfl
  kept _ c hc := by cases c <;> first | rfl | exact absurd rfl (hc _)

theorem lengthens_extensions : Lengthens .extensions Requirement.extensions where
  injective _ _ h := Call.extensions.inj h
  start := rfl
  lengthened _ _ := rfl
  kept _ c hc := by cases c <;> first | rfl | exact absurd rfl (hc _)

theorem lengthens_anyOf : Lengthens .anyOf Requirement.alternatives where
  injective _ _ h := Call.anyOf.inj h
  start := rfl
  lengthened _ _ := rfl
  kept _ c hc := by cases c <;> first | rfl | exact absurd rfl (hc _)

/-! ## What is excluded -/

/-- **The last exclusion among calls.** -/
def LastExcluded (calls : List Call) (e : Requirement) : Prop :=
  ∃ before after, calls = before ++ .except e :: after ∧ ∀ f, .except f ∉ after

variable {calls : List Call} {e : Requirement}

/-- A list that is split at one of its calls ends with that call, or the split is one of the list
without its last call. -/
theorem split_of_concat {before after : List Call} {c d : Call}
    (h : calls ++ [c] = before ++ d :: after) :
    after = [] ∧ c = d ∨ ∃ rest, after = rest ++ [c] ∧ calls = before ++ d :: rest := by
  obtain rfl | ⟨rest, last, rfl⟩ := after.eq_nil_or_concat'
  · obtain ⟨-, hlast⟩ := List.append_inj' h rfl
    exact .inl ⟨rfl, (List.cons.inj hlast).1⟩
  · rw [← List.cons_append, ← List.append_assoc] at h
    obtain ⟨hcalls, hlast⟩ := List.append_inj' h rfl
    exact .inr ⟨rest, by rw [hlast], hcalls⟩

/-- An exclusion that is called last is the last one. -/
theorem lastExcluded_concat_except {f : Requirement} :
    LastExcluded (calls ++ [.except f]) e ↔ f = e := by
  constructor
  · rintro ⟨before, after, hsplit, hafter⟩
    obtain ⟨-, hlast⟩ | ⟨rest, rfl, -⟩ := split_of_concat hsplit
    · exact Call.except.inj hlast
    · exact absurd (List.mem_append_right rest List.mem_cons_self) (hafter f)
  · rintro rfl
    refine ⟨calls, [], rfl, ?_⟩
    intro f' hf'
    cases hf'

/-- A call for something else does not change what was excluded last. -/
theorem lastExcluded_concat_other {c : Call} (hc : ∀ f, c ≠ .except f) :
    LastExcluded (calls ++ [c]) e ↔ LastExcluded calls e := by
  constructor
  · rintro ⟨before, after, hsplit, hafter⟩
    obtain ⟨-, hlast⟩ | ⟨rest, rfl, hcalls⟩ := split_of_concat hsplit
    · exact absurd hlast (hc e)
    · exact ⟨before, rest, hcalls, fun f hf => hafter f (List.mem_append_left _ hf)⟩
  · rintro ⟨before, after, rfl, hafter⟩
    refine ⟨before, after ++ [c], by simp, ?_⟩
    intro f hf
    rcases List.mem_append.mp hf with hf | hf
    · exact hafter f hf
    · exact hc f (List.mem_singleton.mp hf).symm

/-- **What is excluded is the last exclusion.** -/
theorem excluded_ofCalls : (ofCalls calls).excluded = some e ↔ LastExcluded calls e := by
  induction calls using List.reverseRecOn with
  | nil => simp [ofCalls, none, LastExcluded]
  | append_singleton calls c ih =>
      rw [ofCalls_concat]
      by_cases hc : ∃ f, c = .except f
      · obtain ⟨f, rfl⟩ := hc
        rw [lastExcluded_concat_except]
        exact Option.some_inj
      · rw [not_exists] at hc
        rw [lastExcluded_concat_other hc, ← ih]
        cases c <;> first | rfl | exact absurd rfl (hc _)

/-! ## What calls ask for -/

/-- **What the calls ask of a report.**  Single facts have to be as any call asks.  A set has to
be known if there is a call for it, and has to have what is in all of these calls.  One of the
alternatives of all calls has to hold, if there is a call for them.  What was excluded last must
not hold. -/
structure Meets (r : Report) (calls : List Call) : Prop where
  probes : ∀ l, .probes l ∈ calls → ∀ p ∈ l, r.isExecuted p = true
  properties : ∀ l, .properties l ∈ calls → ∀ p ∈ l, r.finding? p = some .holds
  propertiesNot : ∀ l, .propertiesNot l ∈ calls → ∀ p ∈ l, r.finding? p = some .fails
  versions : (∃ l, .versions l ∈ calls) →
    ∃ s, r.versions = some s ∧ ∀ l, .versions l ∈ calls → ∀ v ∈ l, s.contains v = true
  extensions : (∃ l, .extensions l ∈ calls) →
    ∃ s, r.extensions = some s ∧ ∀ l, .extensions l ∈ calls → ∀ e ∈ l, s.contains e = true
  alternatives : (∃ l, .anyOf l ∈ calls) → ∃ l, .anyOf l ∈ calls ∧ ∃ a ∈ l, holds r a = true
  excluded : ∀ e, LastExcluded calls e → holds r e = false

/-- **What is built from calls holds if the report meets the calls.** -/
theorem holds_ofCalls {r : Report} : holds r (ofCalls calls) = true ↔ Meets r calls := by
  rw [holds_iff, forall_clauses]
  simp only [Clause.Met, (lengthens_probes.collects calls).forall_iff,
    (lengthens_properties.collects calls).forall_iff,
    (lengthens_propertiesNot.collects calls).forall_iff,
    (lengthens_versions.collects calls).known_iff,
    (lengthens_extensions.collects calls).known_iff,
    (lengthens_anyOf.collects calls).exists_iff, excluded_ofCalls]
  constructor
  · rintro ⟨⟨hp, ht, hf, hv, he⟩, ha, hx⟩
    exact ⟨hp, ht, hf, hv, he, ha, hx⟩
  · rintro ⟨hp, ht, hf, hv, he, ha, hx⟩
    exact ⟨⟨hp, ht, hf, hv, he⟩, ha, hx⟩

/-! ## Which requirements are built -/

/-- Calls that build a requirement. -/
def callsOf (q : Requirement) : List Call :=
  (q.probes.map .probes).toList ++ (q.properties.map .properties).toList
    ++ (q.propertiesNot.map .propertiesNot).toList ++ (q.versions.map .versions).toList
    ++ (q.extensions.map .extensions).toList ++ (q.alternatives.map .anyOf).toList
    ++ (q.excluded.map .except).toList

/-- **Every requirement is built by calls**, so are its alternatives and what it excludes. -/
theorem ofCalls_callsOf (q : Requirement) : ofCalls q.callsOf = q := by
  obtain ⟨_ | _, _ | _, _ | _, _ | _, _ | _, _ | _, _ | _⟩ := q <;> rfl

/-- A requirement asks for nothing only if it is the one that nothing was called on. -/
theorem isEmpty_iff {q : Requirement} : q.isEmpty = true ↔ q = none := by
  obtain ⟨probes, properties, propertiesNot, versions, extensions, alternatives, excluded⟩ := q
  simp only [isEmpty, none, Bool.and_eq_true, Option.isNone_iff_eq_none, mk.injEq, and_assoc]

/-- After a call something is asked for. -/
theorem call_ne_none (q : Requirement) (c : Call) : q.call c ≠ none := by
  cases c <;> simp [call, none, requireProbes, requireProperties, requirePropertiesNot,
    requireVersions, requireExtensions, anyOf, except, lengthen]

/-- **Nothing is asked for exactly if nothing was called.** -/
theorem isEmpty_ofCalls : (ofCalls calls).isEmpty = true ↔ calls = [] := by
  rw [isEmpty_iff]
  obtain rfl | ⟨calls, c, rfl⟩ := calls.eq_nil_or_concat'
  · exact iff_of_true rfl rfl
  · rw [ofCalls_concat]
    exact iff_of_false (call_ne_none _ c) (by simp)

/-- **A requirement means what the calls that build it ask for**: it holds if the report meets
the calls, calls of different kinds may change places, and nothing is asked for only if nothing
was called. -/
theorem built_as_called (calls : List Call) :
    (∀ r, holds r (ofCalls calls) = true ↔ Meets r calls)
      ∧ (∀ before a b after, calls = before ++ a :: b :: after → a.kind ≠ b.kind →
          ofCalls (before ++ b :: a :: after) = ofCalls calls)
      ∧ ((ofCalls calls).isEmpty = true ↔ calls = []) := by
  refine ⟨fun r => holds_ofCalls, ?_, isEmpty_ofCalls⟩
  rintro before a b after rfl hkind
  rw [ofCalls_append, ofCalls_append, List.foldl_cons, List.foldl_cons, List.foldl_cons,
    List.foldl_cons, call_comm hkind]

namespace Sample

/-- A report of one probe that was executed, and of one version. -/
def narrow : Report :=
  { (Report.new "" default).addVersions [.tls12] with
    records := Table.empty.insert .protocolVersion (.executed .protocolVersion .null) }

/-- Calls that come back to clauses, two of them with nothing in them.  What they exclude holds
in the report, and none of their alternatives does. -/
def early : List Call :=
  [.probes [.protocolVersion], .except (ofCalls [.versions []]),
    .anyOf [ofCalls [.probes [.drown]]], .versions [], .probes [], .versions [.tls12]]

/-- Another exclusion: of a choice that cannot be made, besides what is known. -/
def exclusion : Call :=
  .except (ofCalls [.anyOf [ofCalls [.properties [.supportsDh]], ofCalls [.extensions []]],
    .versions [.tls12]])

/-- Another choice, with an exclusion in it. -/
def choice : Call := .anyOf [ofCalls [.except (ofCalls [.probes [.drown]])]]

end Sample

/-- The later exclusion takes the place of the first one, and the later choice is added to the
first one, whichever of the two is called first. -/
theorem built_as_called_sample :
    ¬ Meets Sample.narrow Sample.early
      ∧ Meets Sample.narrow (Sample.early ++ [Sample.exclusion, Sample.choice])
      ∧ ofCalls (Sample.early ++ [Sample.choice, Sample.exclusion])
        = ofCalls (Sample.early ++ [Sample.exclusion, Sample.choice])
      ∧ (ofCalls (Sample.early ++ [Sample.exclusion, Sample.choice])).isEmpty = false := by
  obtain ⟨hmeaning, hcomm, hempty⟩ :=
    built_as_called (Sample.early ++ [Sample.exclusion, Sample.choice])
  refine ⟨fun hmeets => ?_, (hmeaning _).mp (by decide +kernel), ?_, ?_⟩
  · have hholds := ((built_as_called Sample.early).1 Sample.narrow).mpr hmeets
    have hfails : holds Sample.narrow (ofCalls Sample.early) = false := by decide +kernel
    cases hfails.symm.trans hholds
  · exact hcomm Sample.early _ _ [] rfl Call.Kind.noConfusion
  · refine Bool.eq_false_iff.mpr fun h => ?_
    exact List.append_ne_nil_of_right_ne_nil _ (List.cons_ne_nil _ _) (hempty.mp h)

end Requirement

end TlsScan
