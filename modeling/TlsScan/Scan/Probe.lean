import TlsScan.Fault
import TlsScan.Report.Merge

/-!
# Probes

The units of work that a scan is made of.

## Main Definitions

* `Scan.Probe` — a declaration, and the work that a worker has to do.
* `Scan.Task` — a probe with the report that it was scheduled on.
* `Scan.Ending` — how the work of a task ended.

## Design Notes

What the work consists of is left open: it is a type parameter, about which only the
workers have to know anything.
-/

namespace TlsScan.Scan

/-- **A unit of work.** -/
structure Probe (β : Type) where
  declaration : Declaration
  /-- What a worker has to do. -/
  work : β
  /-- The result that is merged if the probe never becomes ready, given the report of that
  moment. -/
  substitute : Report → ProbeResult :=
    fun _ => .diagnosed declaration.probe declaration.properties declaration.requirement

/-- The identity of a probe. -/
def Probe.id {β : Type} (p : Probe β) : ProbeId := p.declaration.probe

/-- Whether a report has all that a probe needs. -/
def Probe.isReady {β : Type} (r : Report) (p : Probe β) : Bool :=
  p.declaration.requirement.holds r

/-- **A probe that was handed to the workers**, with the report as it was then. -/
structure Task (β : Type) where
  probe : Probe β
  snapshot : Report

/-- **How the work of a task ended.** -/
inductive Ending where
  | result (r : ProbeResult)
  | failed (f : Fault)
  /-- It crashed; the message is missing if it is no text. -/
  | panicked (message : Option String)

namespace Ending

/-- The text of a crash. -/
def panicText (message : Option String) : String := message.getD "unknown panic payload"

/-- The result that is merged for an ending. -/
def resultFor (d : Declaration) : Ending → ProbeResult
  | result r => r
  | failed f => .failure d.probe d.properties .failed f.message
  | panicked m => .failure d.probe d.properties .panicked (panicText m)

end Ending

end TlsScan.Scan
