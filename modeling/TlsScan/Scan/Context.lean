import TlsScan.Config
import TlsScan.Engine
import TlsScan.Net.Target
import TlsScan.Report

/-!
# What a probe can read

## Main Definitions

* `Scan.Context` — the target, the configuration, the report at the time of scheduling and
  the protocol engine, if there is one.
-/

namespace TlsScan.Scan

/-- **All that a probe can read while it runs.** -/
structure Context (ε : Type) where
  target : Net.Target
  config : Config
  /-- The report as it was when the probe was scheduled. -/
  report : Report
  engine : Option (Engine ε)

namespace Context

variable {ε : Type}

/-- How thorough the scan is. -/
def thoroughness (c : Context ε) : Thoroughness := c.config.thoroughness

/-- The protocol engine, or the fault of a scan that has none. -/
def engine? (c : Context ε) : Except Fault (Engine ε) :=
  match c.engine with
  | some e => .ok e
  | none => .error ⟨"No protocol engine configured for this scan", []⟩

end Context

end TlsScan.Scan
