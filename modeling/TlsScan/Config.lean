import TlsScan.Duration
import TlsScan.Error
import TlsScan.Protocol

/-!
# Scan configuration

## Main Definitions

* `Config` — the parameters of a scan, with their defaults.
* `Config.validate` — refuses values with which a scan cannot run.
-/

namespace TlsScan

/-- **The parameters of a scan.** -/
structure Config where
  /-- The number of probes that run at the same time. -/
  threads : UInt64 := 8
  thoroughness : Thoroughness := .normal
  /-- The milliseconds without any result after which the oldest probe is looked after. -/
  watchdogMillis : UInt64 := 1800000
  /-- The milliseconds for which the oldest probe is then waited for. -/
  forceJoinMillis : UInt64 := 60000
  /-- The milliseconds that connecting to the target may take. -/
  connectMillis : UInt64 := 10000
  /-- Whether the target has to accept a connection before the scan. -/
  checkReachability : Bool := true
  deriving DecidableEq, Repr, Inhabited

namespace Config

/-- The parameters that are used when nothing else is said. -/
def default : Config := {}

/-- The time without any result after which the oldest probe is looked after. -/
def watchdogInterval (c : Config) : Duration := .ofMillis c.watchdogMillis

/-- What is left of that time when some of it has passed. -/
def remaining (c : Config) (elapsed : Duration) : Duration :=
  c.watchdogInterval.saturatingSub elapsed

/-- The time for which the oldest probe is then waited for. -/
def forceJoinTimeout (c : Config) : Duration := .ofMillis c.forceJoinMillis

/-- The time that connecting to the target may take. -/
def connectTimeout (c : Config) : Duration := .ofMillis c.connectMillis

/-- Set both times of the watchdog, to whole milliseconds. -/
def withWatchdog (c : Config) (interval forceJoin : Duration) : Config :=
  { c with
    watchdogMillis := .ofNat interval.toMillis
    forceJoinMillis := .ofNat forceJoin.toMillis }

/-- What keeps a scan from running with these parameters. -/
def fault? (c : Config) : Option ConfigFault :=
  if c.threads = 0 then some .noThreads
  else if c.watchdogMillis = 0 then some .noWatchdogInterval
  else if c.connectMillis = 0 ∧ c.checkReachability then some .noConnectTimeout
  else none

/-- **Refuse parameters with which a scan cannot run.** -/
def validate (c : Config) : Except ScanError Config :=
  match c.fault? with
  | some f => .error (.config f)
  | none => .ok c

end Config

end TlsScan
