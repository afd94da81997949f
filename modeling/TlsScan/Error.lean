import TlsScan.ProbeId
import TlsScan.Property

/-!
# Errors of a scan

Everything that can end a scan, or keep one from starting, by its cause.

## Main Definitions

* `ConfigFault` — what is wrong with a configuration.
* `Defect` — what is wrong with a result.
* `ScanError` — the causes, with their wording in `ScanError.message`.
* `ScanError.isSetupFailure` — the causes that keep a scan from starting.
-/

namespace TlsScan

/-- What is wrong with a configuration. -/
inductive ConfigFault where
  | noThreads
  | noWatchdogInterval
  | noConnectTimeout
  | noTarget
  | other (text : String)
  deriving DecidableEq, Repr

/-- The wording of a configuration fault. -/
def ConfigFault.message : ConfigFault → String
  | noThreads => "threads must be at least 1"
  | noWatchdogInterval => "watchdog_interval_ms must be greater than zero"
  | noConnectTimeout => "connect_timeout_ms must be greater than zero"
  | noTarget => "No target specified"
  | other text => text

/-- What is wrong with a result. -/
inductive Defect where
  /-- It goes under another identity than its probe. -/
  | foreignIdentity (found : ProbeId)
  /-- It wrote no record for its probe. -/
  | noRecord
  /-- It left declared properties out. -/
  | missingProperties (properties : List Property)
  /-- It executed without adding to a declared set. -/
  | missingFactSet (set : FactSet)
  /-- A fault that the result itself reports. -/
  | other (text : String)
  deriving DecidableEq, Repr

/-- A list of names between square brackets. -/
def bracketed (names : List String) : String :=
  "[" ++ ", ".intercalate names ++ "]"

/-- The wording of a defect in the result of a probe. -/
def Defect.message (probe : ProbeId) : Defect → String
  | foreignIdentity found =>
    "result carries identity " ++ found.name ++ " instead of " ++ probe.name
  | noRecord => "merge left no record under the probe's identity"
  | missingProperties properties =>
    "declared properties not written: " ++ bracketed (properties.map Property.name)
  | missingFactSet set => "declared " ++ set.name ++ " not written"
  | other text => text

/-- **The causes for which a scan ends without a report.** -/
inductive ScanError where
  /-- The target could not be resolved or reached. -/
  | setupFailed (target details : String)
  /-- Two probes share one identity. -/
  | duplicateProbe (probe : ProbeId)
  /-- Probes wait for each other in a circle. -/
  | dependencyCycle (cycle : List ProbeId)
  /-- A record was written where one is already. -/
  | duplicateResult (probe : ProbeId)
  /-- A result broke the rules of merging. -/
  | mergeDefect (probe : ProbeId) (defect : Defect)
  /-- A result wrote a property that its probe did not declare. -/
  | undeclaredProperty (probe : ProbeId) (property : Property)
  /-- A result added to a set that its probe did not declare. -/
  | undeclaredFactSet (probe : ProbeId) (set : FactSet)
  /-- The configuration is not valid. -/
  | config (fault : ConfigFault)
  /-- A file could not be read. -/
  | io (text : String)
  /-- The configuration file is not well formed. -/
  | malformedConfig (reason : String)
  /-- Any other cause. -/
  | other (text : String)
  deriving DecidableEq, Repr

namespace ScanError

/-- The wording of an error. -/
def message : ScanError → String
  | setupFailed target details => "Scan setup failed for " ++ target ++ ": " ++ details
  | duplicateProbe probe => "Probe " ++ probe.name ++ " registered more than once"
  | dependencyCycle cycle =>
    "Dependency cycle between probes: " ++ " -> ".intercalate (cycle.map ProbeId.name)
  | duplicateResult probe => "Result for " ++ probe.name ++ " merged twice"
  | mergeDefect probe defect =>
    "Merge defect in " ++ probe.name ++ ": " ++ defect.message probe
  | undeclaredProperty probe property =>
    "Result for " ++ probe.name ++ " wrote undeclared property " ++ property.name
  | undeclaredFactSet probe set =>
    "Result for " ++ probe.name ++ " added " ++ set.name ++ " without declaring them"
  | config fault => "Invalid configuration: " ++ fault.message
  | io text => "I/O error: " ++ text
  | malformedConfig reason => "Config parse error: " ++ reason
  | other text => text

/-- Whether the error means that the scan could not start at all. -/
def isSetupFailure : ScanError → Bool
  | setupFailed .. | duplicateProbe _ | dependencyCycle _ | config _ => true
  | _ => false

end ScanError

end TlsScan
