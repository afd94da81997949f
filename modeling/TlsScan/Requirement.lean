import TlsScan.Report

/-!
# Requirements

What has to be known about a target before a probe may run.

## Main Definitions

* `Requirement` — a conjunction of clauses, one for every kind of fact, with alternatives
  and an exclusion.
* `Requirement.holds` — whether a report meets a requirement.
* `Requirement.requireProbes`, …, `Requirement.except` — the calls that build one.
* `Requirement.Call`, `Requirement.ofCalls` — the same calls as data.

## Design Notes

A clause that was never asked for is `none` and asks for nothing.  One that was asked for
with an empty list is different: it still needs the set it is about to be known, and a
choice without alternatives can never be made.
-/

namespace TlsScan

/-- **What has to be known before a probe may run.** -/
structure Requirement where
  /-- Probes that have to be executed. -/
  probes : Option (List ProbeId)
  /-- Properties that have to hold. -/
  properties : Option (List Property)
  /-- Properties that have to fail. -/
  propertiesNot : Option (List Property)
  /-- Protocol versions that have to be supported. -/
  versions : Option (List ProtocolVersion)
  /-- Extensions that have to be supported. -/
  extensions : Option (List Extension)
  /-- Requirements of which one has to hold. -/
  alternatives : Option (List Requirement)
  /-- A requirement that must not hold. -/
  excluded : Option Requirement

namespace Requirement

/-- The requirement that asks for nothing. -/
def none : Requirement := ⟨.none, .none, .none, .none, .none, .none, .none⟩

instance : Inhabited Requirement := ⟨none⟩

/-! ### Building -/

/-- Lengthen a clause, which is there from then on. -/
def lengthen {α : Type} (clause : Option (List α)) (l : List α) : Option (List α) :=
  some (clause.getD [] ++ l)

/-- Ask for executed probes. -/
def requireProbes (q : Requirement) (l : List ProbeId) : Requirement :=
  { q with probes := lengthen q.probes l }

/-- Ask for properties that hold. -/
def requireProperties (q : Requirement) (l : List Property) : Requirement :=
  { q with properties := lengthen q.properties l }

/-- Ask for properties that fail. -/
def requirePropertiesNot (q : Requirement) (l : List Property) : Requirement :=
  { q with propertiesNot := lengthen q.propertiesNot l }

/-- Ask for supported protocol versions. -/
def requireVersions (q : Requirement) (l : List ProtocolVersion) : Requirement :=
  { q with versions := lengthen q.versions l }

/-- Ask for supported extensions. -/
def requireExtensions (q : Requirement) (l : List Extension) : Requirement :=
  { q with extensions := lengthen q.extensions l }

/-- Ask for one of some requirements, or of those already given. -/
def anyOf (q : Requirement) (l : List Requirement) : Requirement :=
  { q with alternatives := lengthen q.alternatives l }

/-- Exclude a requirement, in place of the one excluded so far. -/
def except (q e : Requirement) : Requirement := { q with excluded := some e }

/-- One building call. -/
inductive Call where
  | probes (l : List ProbeId)
  | properties (l : List Property)
  | propertiesNot (l : List Property)
  | versions (l : List ProtocolVersion)
  | extensions (l : List Extension)
  | anyOf (l : List Requirement)
  | except (e : Requirement)

/-- Make one building call. -/
def call (q : Requirement) : Call → Requirement
  | .probes l => q.requireProbes l
  | .properties l => q.requireProperties l
  | .propertiesNot l => q.requirePropertiesNot l
  | .versions l => q.requireVersions l
  | .extensions l => q.requireExtensions l
  | .anyOf l => q.anyOf l
  | .except e => q.except e

/-- The requirement built by a list of calls. -/
def ofCalls (calls : List Call) : Requirement := calls.foldl call none

/-! ### Evaluation -/

/-- Whether nothing is asked for. -/
def isEmpty (q : Requirement) : Bool :=
  q.probes.isNone && q.properties.isNone && q.propertiesNot.isNone && q.versions.isNone
    && q.extensions.isNone && q.alternatives.isNone && q.excluded.isNone

/-- Whether all items of a clause are as asked. -/
def clauseHolds {α : Type} (clause : Option (List α)) (test : α → Bool) : Bool :=
  (clause.getD []).all test

/-- Whether a set is known, and has all items of a clause, if the clause is there. -/
def setClauseHolds {α : Type} (clause : Option (List α)) (known : Option (Selection α)) :
    Bool :=
  match clause, known with
  | .none, _ => true
  | some _, .none => false
  | some l, some s => l.all s.contains

mutual

/-- **Whether a report meets a requirement.** -/
def holds (r : Report) : Requirement → Bool
  | ⟨probes, properties, propertiesNot, versions, extensions, alternatives, excluded⟩ =>
    clauseHolds probes r.isExecuted
      && clauseHolds properties (fun p => r.finding? p == some .holds)
      && clauseHolds propertiesNot (fun p => r.finding? p == some .fails)
      && setClauseHolds versions r.versions
      && setClauseHolds extensions r.extensions
      && choiceHolds r alternatives
      && exclusionHolds r excluded

/-- Whether one of the alternatives holds, if there is a choice. -/
def choiceHolds (r : Report) : Option (List Requirement) → Bool
  | .none => true
  | some l => anyHolds r l

/-- Whether one of a list of requirements holds. -/
def anyHolds (r : Report) : List Requirement → Bool
  | [] => false
  | q :: l => holds r q || anyHolds r l

/-- Whether the excluded requirement does not hold, if there is one. -/
def exclusionHolds (r : Report) : Option Requirement → Bool
  | .none => true
  | some q => !holds r q

end

/-! ### What a requirement is about -/

/-- The probes that have to be executed in any case. -/
def requiredProbes (q : Requirement) : List ProbeId := q.probes.getD []

mutual

/-- The probes named anywhere but in exclusions. -/
def referencedProbes : Requirement → List ProbeId
  | ⟨probes, _, _, _, _, alternatives, _⟩ =>
    probes.getD [] ++ alternativeProbes alternatives

/-- The probes named in a choice. -/
def alternativeProbes : Option (List Requirement) → List ProbeId
  | .none => []
  | some l => listedProbes l

/-- The probes named in a list of requirements. -/
def listedProbes : List Requirement → List ProbeId
  | [] => []
  | q :: l => referencedProbes q ++ listedProbes l

end

mutual

/-- The properties named anywhere but in exclusions. -/
def referencedProperties : Requirement → List Property
  | ⟨_, properties, propertiesNot, _, _, alternatives, _⟩ =>
    properties.getD [] ++ propertiesNot.getD [] ++ alternativeProperties alternatives

/-- The properties named in a choice. -/
def alternativeProperties : Option (List Requirement) → List Property
  | .none => []
  | some l => listedProperties l

/-- The properties named in a list of requirements. -/
def listedProperties : List Requirement → List Property
  | [] => []
  | q :: l => referencedProperties q ++ listedProperties l

end

mutual

/-- Whether a set is asked about anywhere but in exclusions. -/
def references (set : FactSet) : Requirement → Bool
  | ⟨_, _, _, versions, extensions, alternatives, _⟩ =>
    (match set with
      | .versions => versions.isSome
      | .extensions => extensions.isSome)
      || choiceReferences set alternatives

/-- Whether a set is asked about in a choice. -/
def choiceReferences (set : FactSet) : Option (List Requirement) → Bool
  | .none => false
  | some l => anyReferences set l

/-- Whether a set is asked about in a list of requirements. -/
def anyReferences (set : FactSet) : List Requirement → Bool
  | [] => false
  | q :: l => references set q || anyReferences set l

end

/-- The sets of supported values asked about anywhere but in exclusions. -/
def referencedFactSets (q : Requirement) : Selection FactSet := ⟨fun s => references s q⟩

end Requirement

end TlsScan
