import TlsScan.Error
import TlsScan.Json
import TlsScan.Protocol
import TlsScan.Timestamp
import TlsScan.Vocabulary.Selection
import TlsScan.Vocabulary.Table

/-!
# Scan reports

The facts that a scan has established about one target, and one record for every probe
that is through with its work.

## Main Definitions

* `Record` — how one probe ended, and what it found.
* `Report` — records, findings and the sets of supported values.
* `Report.putRecord?`, `Report.putFinding`, `Report.addVersions`, `Report.addExtensions` —
  the only ways in which facts get into a report.

## Design Notes

Besides the facts a report keeps a journal of what was offered since the journal was last
cleared, also of offers that changed nothing.  Merging compares the journal with what a
probe has declared.
-/

namespace TlsScan

/-- How a probe ended. -/
inductive Status where
  /-- It ran, and its own result was merged. -/
  | executed
  /-- It failed, crashed or was stopped. -/
  | error
  /-- It never became ready. -/
  | notExecuted
  deriving DecidableEq, Repr, Inhabited

instance : Vocabulary Status where
  values := [.executed, .error, .notExecuted]
  word
    | .executed => "executed"
    | .error => "error"
    | .notExecuted => "not_executed"
  complete a := by cases a <;> decide
  distinct := by decide

/-- The name shown in messages. -/
def Status.name : Status → String
  | executed => "Executed"
  | error => "Error"
  | notExecuted => "NotExecuted"

/-- **How one probe ended.** -/
structure Record where
  /-- The identity of the probe. -/
  probe : ProbeId
  status : Status
  /-- The reason of an error, or for not having been executed. -/
  details : Option String := none
  /-- What the probe found besides properties. -/
  data : Json := .null
  deriving DecidableEq, Repr, Inhabited

namespace Record

/-- The record of a probe that ran. -/
def executed (probe : ProbeId) (data : Json) : Record := ⟨probe, .executed, none, data⟩

/-- The record of a probe that failed. -/
def error (probe : ProbeId) (details : String) : Record := ⟨probe, .error, some details, .null⟩

/-- The record of a probe that never became ready. -/
def notExecuted (probe : ProbeId) (reason : String) : Record :=
  ⟨probe, .notExecuted, some reason, .null⟩

end Record

/-- What has been offered to a report since the last look. -/
structure Journal where
  properties : Selection Property
  factSets : Selection FactSet
  deriving DecidableEq

/-- The journal without entries. -/
def Journal.empty : Journal := ⟨Selection.empty, Selection.empty⟩

/-- **What is known about one target.** -/
structure Report where
  /-- The label of the target. -/
  target : String
  startedAt : Timestamp
  finishedAt : Option Timestamp
  records : Table ProbeId Record
  findings : Table Property Finding
  /-- The supported protocol versions, once anything is known about them. -/
  versions : Option (Selection ProtocolVersion)
  /-- The supported extensions, once anything is known about them. -/
  extensions : Option (Selection Extension)
  journal : Journal
  deriving DecidableEq

namespace Report

/-- A report that only knows its target. -/
def new (target : String) (startedAt : Timestamp) : Report where
  target := target
  startedAt := startedAt
  finishedAt := none
  records := Table.empty
  findings := Table.empty
  versions := none
  extensions := none
  journal := Journal.empty

/-! ### Queries -/

/-- Whether the probe has a record. -/
def hasRecord (r : Report) (p : ProbeId) : Bool := r.records.contains p

/-- Whether the probe's own result has been merged. -/
def isExecuted (r : Report) (p : ProbeId) : Bool :=
  match r.records.get? p with
  | some record => decide (record.status = .executed)
  | none => false

/-- What a property was found to be. -/
def finding? (r : Report) (p : Property) : Option Finding := r.findings.get? p

/-- The probes whose records have a status, in the order of the records. -/
def withStatus (r : Report) (s : Status) : List ProbeId :=
  (r.records.entries.filter fun e => e.2.status = s).map fun e => e.2.probe

/-! ### Updates -/

/-- File a record under the identity it names; a probe has one place only. -/
def putRecord? (r : Report) (record : Record) : Option Report :=
  if r.hasRecord record.probe then none
  else some { r with records := r.records.insert record.probe record }

/-- Offer a finding for a property. -/
def putFinding (r : Report) (p : Property) (v : Finding) : Report :=
  { r with
    findings := r.findings.insert p (v.settledAfter (r.finding? p))
    journal := { r.journal with properties := r.journal.properties.insert p } }

/-- Add supported protocol versions, which from then on are known. -/
def addVersions (r : Report) (l : List ProtocolVersion) : Report :=
  { r with
    versions := some ((r.versions.getD Selection.empty).insertAll l)
    journal := { r.journal with factSets := r.journal.factSets.insert .versions } }

/-- Add supported extensions, which from then on are known. -/
def addExtensions (r : Report) (l : List Extension) : Report :=
  { r with
    extensions := some ((r.extensions.getD Selection.empty).insertAll l)
    journal := { r.journal with factSets := r.journal.factSets.insert .extensions } }

/-- Start a new journal. -/
def clearJournal (r : Report) : Report := { r with journal := Journal.empty }

/-- Note the end of the scan. -/
def markFinished (r : Report) (t : Timestamp) : Report := { r with finishedAt := some t }

end Report

end TlsScan
