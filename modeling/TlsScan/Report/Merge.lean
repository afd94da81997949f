import TlsScan.Declaration
import TlsScan.Report.Write

/-!
# Merging of results

How a result gets into the report of a scan, and the rules that it has to keep.

## Main Definitions

* `Report.merge` — merges a result under the declaration of its probe.

## Design Notes

The journal is cleared first, so afterwards it holds what this result has offered: exactly
the declared properties, no set that was not declared, and every declared set if the probe
was executed.
-/

namespace TlsScan.Report

/-- The defect of a probe's journal, given what was declared. -/
def journalFault? (d : Declaration) (r : Report) : Option ScanError :=
  match (r.journal.properties.difference d.propertySet).toList with
  | p :: _ => some (.undeclaredProperty d.probe p)
  | [] =>
    match (d.propertySet.difference r.journal.properties).toList with
    | p :: l => some (.mergeDefect d.probe (.missingProperties (p :: l)))
    | [] =>
      match (r.journal.factSets.difference d.contributions).toList with
      | s :: _ => some (.undeclaredFactSet d.probe s)
      | [] =>
        match r.isExecuted d.probe,
            (d.contributions.difference r.journal.factSets).toList with
        | true, s :: _ => some (.mergeDefect d.probe (.missingFactSet s))
        | _, _ => none

/-- The fault that is found in a report after a result has been written to it. -/
def mergeFault? (d : Declaration) (r : Report) : Option ScanError :=
  if r.hasRecord d.probe then journalFault? d r
  else some (.mergeDefect d.probe .noRecord)

/-- **Merge a result under a declaration.** -/
def merge (r : Report) (d : Declaration) (result : ProbeResult) : Except ScanError Report :=
  if result.identity ≠ d.probe then
    .error (.mergeDefect d.probe (.foreignIdentity result.identity))
  else
    match r.clearJournal.writeAll result.writes with
    | (_, some e) => .error e
    | (r, none) =>
      match mergeFault? d r with
      | some e => .error e
      | none => .ok r.clearJournal

end TlsScan.Report
