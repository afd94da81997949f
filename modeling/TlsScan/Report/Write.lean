import TlsScan.Requirement.Unmet

/-!
# Writes to a report

What the merge of a result does to a report, as a list of single writes, and the results
that are made of such lists.

## Main Definitions

* `Write` — one write.
* `Report.write`, `Report.writeAll` — what one write, and a list of them, does.
* `ProbeResult` — an identity and the writes made under it.
* `ProbeResult.failure`, `ProbeResult.notExecuted`, `ProbeResult.facts` — the results that
  every probe can use.

## Design Notes

A list of writes stops at the first that fails, and what was written before stays, so the
report is given back beside the error.
-/

namespace TlsScan

/-- **One write to a report.** -/
inductive Write where
  | record (r : Record)
  | finding (p : Property) (v : Finding)
  | versions (l : List ProtocolVersion)
  | extensions (l : List Extension)
  /-- The record and the findings of a probe that was not executed, for the reasons that
  the report shows at this point. -/
  | notExecuted (probe : ProbeId) (properties : List Property) (requirement : Requirement)
  /-- No write; the result gives up. -/
  | refuse (e : ScanError)

namespace Report

/-- File a record, or say that its place is taken. -/
def putRecord (r : Report) (record : Record) : Report × Option ScanError :=
  match r.putRecord? record with
  | some r => (r, none)
  | none => (r, some (.duplicateResult record.probe))

/-- Offer one finding for every property of a list. -/
def putFindings (r : Report) (l : List Property) (v : Finding) : Report :=
  l.foldl (fun r p => r.putFinding p v) r

/-- **What one write does.** -/
def write (r : Report) : Write → Report × Option ScanError
  | .record record => r.putRecord record
  | .finding p v => (r.putFinding p v, none)
  | .versions l => (r.addVersions l, none)
  | .extensions l => (r.addExtensions l, none)
  | .notExecuted probe properties requirement =>
    (r.putFindings properties .couldNotTest).putRecord
      (.notExecuted probe (requirement.reason r))
  | .refuse e => (r, some e)

/-- **What a list of writes does**, up to the first that fails. -/
def writeAll (r : Report) : List Write → Report × Option ScanError
  | [] => (r, none)
  | w :: l =>
    match r.write w with
    | (r, none) => r.writeAll l
    | (r, some e) => (r, some e)

end Report

/-! ### Results -/

/-- **What a probe hands back**: the writes to be merged, and the identity it claims. -/
structure ProbeResult where
  identity : ProbeId
  writes : List Write

/-- Why a probe has no result of its own. -/
inductive FailureKind where
  | failed | panicked | killed
  deriving DecidableEq, Repr

namespace FailureKind

/-- The finding that is offered for the properties of a failed probe. -/
def finding : FailureKind → Finding
  | killed => .timeout
  | failed | panicked => .errorDuringTest

/-- The details of a failed probe. -/
def details (message : String) : FailureKind → String
  | failed => "probe failed: " ++ message
  | panicked => "probe panicked: " ++ message
  | killed => "probe killed by stall watchdog: " ++ message

end FailureKind

/-- The facts that a probe establishes: findings, supported values and further data. -/
structure Facts where
  findings : List (Property × Finding) := []
  versions : Option (List ProtocolVersion) := none
  extensions : Option (List Extension) := none
  data : Json := .null

namespace Facts

/-- Add one finding. -/
def withFinding (f : Facts) (p : Property) (v : Finding) : Facts :=
  { f with findings := f.findings ++ [(p, v)] }

/-- Add supported protocol versions. -/
def withVersions (f : Facts) (l : List ProtocolVersion) : Facts :=
  { f with versions := some (f.versions.getD [] ++ l) }

/-- Add supported extensions. -/
def withExtensions (f : Facts) (l : List Extension) : Facts :=
  { f with extensions := some (f.extensions.getD [] ++ l) }

end Facts

namespace ProbeResult

/-- The result of a probe that failed while it ran. -/
def failure (p : ProbeId) (properties : List Property) (kind : FailureKind)
    (message : String) : ProbeResult where
  identity := p
  writes := properties.map (fun q => .finding q kind.finding)
    ++ [.record (.error p (kind.details message))]

/-- The result of a probe that was not executed, for a given reason. -/
def notExecuted (p : ProbeId) (properties : List Property) (reason : String) :
    ProbeResult where
  identity := p
  writes := properties.map (fun q => .finding q .couldNotTest)
    ++ [.record (.notExecuted p reason)]

/-- The result of a probe that was not executed, for the reasons that a report shows. -/
def diagnosed (p : ProbeId) (properties : List Property) (requirement : Requirement) :
    ProbeResult where
  identity := p
  writes := [.notExecuted p properties requirement]

/-- The result of a probe that established facts. -/
def facts (p : ProbeId) (f : Facts) : ProbeResult where
  identity := p
  writes := f.findings.map (fun (q, v) => .finding q v)
    ++ (f.versions.map .versions).toList
    ++ (f.extensions.map .extensions).toList
    ++ [.record (.executed p f.data)]

end ProbeResult

end TlsScan
