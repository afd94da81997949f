import TlsScan.Config
import TlsScan.Log
import TlsScan.Progress
import TlsScan.Scan.Probe

/-!
# Events of a scan

All that happens in a scan is written down in one list of events, in order.  What an
observer is told and what is logged are views of this list.

## Main Definitions

* `Scan.Activity` — what workers do on their own.
* `Scan.Event` — what happens in a scan.
* `Scan.Event.progress?` — what an observer is told about an event.
* `Scan.Event.logEntry?` — what is logged about an event.
-/

namespace TlsScan.Scan

/-- What workers do on their own while time passes. -/
inductive Activity where
  /-- A worker has taken up a task. -/
  | started (p : ProbeId)
  /-- A probe has noted something. -/
  | noted (entry : LogEntry)

/-- **What happens in a scan.** -/
inductive Event where
  /-- The scan has begun, with so many probes. -/
  | began (probes : Nat)
  /-- A probe was handed to the workers, with the report as it was then. -/
  | scheduled (p : ProbeId) (snapshot : Report)
  | activity (a : Activity)
  /-- The coordinator has waited for some task to end. -/
  | waited
  /-- The task of a probe has ended. -/
  | ended (p : ProbeId) (e : Ending)
  /-- Nothing has ended for too long, so this task is waited for; it has run for `age`. -/
  | stalled (p : ProbeId) (age : String)
  /-- The task has not ended in time and was stopped. -/
  | killed (p : ProbeId) (age : String)
  /-- A result was merged for a probe that was scheduled. -/
  | finished (p : ProbeId) (r : ProbeResult) (s : Status)
  /-- These probes never became ready. -/
  | leftOver (ps : List ProbeId)
  /-- A result was merged for a probe that was never scheduled. -/
  | notExecuted (p : ProbeId) (r : ProbeResult) (reason : String)
  /-- The scan is through; the numbers count probes by status. -/
  | completed (executed errors notExecuted : Nat)
  /-- The scan cannot go on. -/
  | aborted (e : ScanError)

namespace Event

/-- What an observer is told about an event. -/
def progress? : Event → Option Progress
  | scheduled p _ => some (.scheduled p)
  | finished p _ s => some (.finished p s)
  | notExecuted p _ reason => some (.notExecuted p reason)
  | _ => none

/-- What is logged about an ending: only what went wrong. -/
def endingEntry? (p : ProbeId) : Ending → Option LogEntry
  | .result _ => none
  | .failed f => some (.error ("Probe " ++ p.name ++ " failed: " ++ f.message))
  | .panicked m => some (.error ("Probe " ++ p.name ++ " panicked: " ++ Ending.panicText m))

/-- **What is logged about an event** in the scan of a target under a configuration. -/
def logEntry? (target : String) (config : Config) : Event → Option LogEntry
  | began probes =>
    some (.info ("Starting scan of " ++ target ++ " with " ++ toString probes
      ++ " probes on " ++ toString config.threads.toNat ++ " workers"))
  | activity (.noted entry) => some entry
  | ended p e => endingEntry? p e
  | stalled p age =>
    some (.warning ("No probe finished within " ++ config.watchdogInterval.text
      ++ ", force-joining " ++ p.name ++ " (running for " ++ age ++ ")"))
  | killed p age =>
    some (.warning ("Killed probe " ++ p.name ++ " after " ++ age ++ " without a result"))
  | leftOver ps =>
    some (.warning (toString ps.length ++ " probes could not be executed: "
      ++ ", ".intercalate (ps.map ProbeId.name)))
  | completed ran failed skipped =>
    some (.info ("Scan of " ++ target ++ " finished: " ++ toString ran ++ " executed, "
      ++ toString failed ++ " errors, " ++ toString skipped ++ " not executed"))
  | aborted e => some (.error ("Scan of " ++ target ++ " aborted: " ++ e.message))
  | _ => none

end Event

end TlsScan.Scan
