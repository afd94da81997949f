import TlsScan.Requirement

/-!
# Unmet clauses

The clauses of a requirement that a report does not meet, which give the reason why a
probe was not executed.

## Main Definitions

* `Unmet` — one clause that fails, with the value found in its place.
* `Requirement.unmet` — all of them, in the order of the clauses.
* `Requirement.reason` — their wording in one line.
-/

namespace TlsScan

/-- **One clause that a report does not meet.** -/
inductive Unmet where
  | probeNotExecuted (p : ProbeId)
  | propertyNotTrue (p : Property) (actual : Option Finding)
  | propertyNotFalse (p : Property) (actual : Option Finding)
  | versionsUnknown
  | versionNotSupported (v : ProtocolVersion)
  | extensionsUnknown
  | extensionNotSupported (e : Extension)
  | noAlternativeSatisfied
  | excludedConditionHolds
  deriving DecidableEq, Repr

namespace Unmet

/-- The word for a finding or its absence. -/
def actualText : Option Finding → String
  | some v => Vocabulary.word v
  | none => "not tested"

/-- The wording of an unmet clause. -/
def message : Unmet → String
  | probeNotExecuted p => "required probe " ++ p.name ++ " has no result"
  | propertyNotTrue p actual => p.name ++ " is " ++ actualText actual ++ " (required TRUE)"
  | propertyNotFalse p actual => p.name ++ " is " ++ actualText actual ++ " (required FALSE)"
  | versionsUnknown => "supported protocol versions are unknown"
  | versionNotSupported v => "target lacks required protocol version " ++ v.name
  | extensionsUnknown => "supported extensions are unknown"
  | extensionNotSupported e => "target lacks required extension " ++ e.display
  | noAlternativeSatisfied => "none of the alternative requirements is satisfied"
  | excludedConditionHolds => "an excluded condition holds"

end Unmet

namespace Requirement

/-- The failing items of a clause about single facts. -/
def unmetItems {α : Type} (clause : Option (List α)) (test : α → Bool) (fault : α → Unmet) :
    List Unmet :=
  ((clause.getD []).filter fun a => !test a).map fault

/-- The failing items of a clause about a set, or that the set is unknown. -/
def unmetMembers {α : Type} (clause : Option (List α)) (known : Option (Selection α))
    (unknown : Unmet) (fault : α → Unmet) : List Unmet :=
  match clause, known with
  | .none, _ => []
  | some _, .none => [unknown]
  | some l, some s => (l.filter fun a => !s.contains a).map fault

/-- **The clauses that a report does not meet.** -/
def unmet (r : Report) (q : Requirement) : List Unmet :=
  unmetItems q.probes r.isExecuted .probeNotExecuted
    ++ unmetItems q.properties (fun p => r.finding? p == some .holds)
      (fun p => .propertyNotTrue p (r.finding? p))
    ++ unmetItems q.propertiesNot (fun p => r.finding? p == some .fails)
      (fun p => .propertyNotFalse p (r.finding? p))
    ++ unmetMembers q.versions r.versions .versionsUnknown .versionNotSupported
    ++ unmetMembers q.extensions r.extensions .extensionsUnknown .extensionNotSupported
    ++ (if choiceHolds r q.alternatives then [] else [.noAlternativeSatisfied])
    ++ (if exclusionHolds r q.excluded then [] else [.excludedConditionHolds])

/-- Why a probe with this requirement was not executed. -/
def reason (r : Report) (q : Requirement) : String :=
  match q.unmet r with
  | [] => "internal scheduling error"
  | l => "; ".intercalate (l.map Unmet.message)

end Requirement

end TlsScan
