import TlsScan.CommandLine
import TlsScan.Net.Reachability
import TlsScan.ProbeSet
import TlsScan.Scan.Coordinator
import TlsScan.Scan.VirtualTime

/-!
# Execution of scans

## Main Definitions

* `Scan.prepare` — what is checked before there is a scan.
* `Scan.execute` — a scan of a target that is reached first, with workers in virtual time.
* `Scan.perform` — both together.
* `Scan.performArguments` — the scan that a command line asks for.

## Design Notes

A scan that is refused leaves nothing behind.  Connections are tried before anything is
written down, so a target that cannot be reached leaves only the warnings about the probes.
-/

namespace TlsScan.Scan

/-- **Why there is no scan.** -/
inductive Refusal where
  | error (e : ScanError)
  /-- A pool cannot have so many workers. -/
  | tooManyWorkers
  deriving DecidableEq, Repr

/-- **Check what a scan is to be made of**, and say what is suspicious about it. -/
def prepare {β : Type} (config : Config) (probes : List (Probe β)) :
    Except Refusal (List LogEntry) :=
  let declarations := probes.map Probe.declaration
  match config.validate with
  | .error e => .error (.error e)
  | .ok _ =>
    match ProbeSet.check declarations with
    | .error e => .error (.error e)
    | .ok _ =>
      if Pool.capacity < config.threads.toNat then .error .tooManyWorkers
      else .ok (ProbeSet.warnings declarations)

/-! ### Runs -/

/-- **What a scan comes to.** -/
structure Run where
  /-- What is suspicious about the probes. -/
  warnings : List LogEntry
  /-- All that happened. -/
  trace : List Event
  /-- The report, or why there is none. -/
  outcome : Except ScanError Report

namespace Run

/-- What observers are told. -/
def progress (r : Run) : List Progress := r.trace.filterMap Event.progress?

/-- What is logged, in the scan of a target under a configuration. -/
def log (r : Run) (target : String) (config : Config) : List LogEntry :=
  r.warnings ++ r.trace.filterMap (Event.logEntry? target config)

/-- The lines that a terminal shows, unless it is to be quiet. -/
def terminal (r : Run) (quiet colored : Bool) : List String :=
  if quiet then [] else r.progress.map (Progress.line colored)

end Run

/-- The scan of a target that need not be reached first, and the workers after it. -/
def runWith {β σ : Type} (w : Workers β σ) (target : String) (warnings : List LogEntry)
    (probes : List (Probe β)) (s : σ) : Run × σ :=
  match Coordinator.scan w target probes s with
  | (c, some e) => (⟨warnings, c.trace, .error e⟩, c.workers)
  | (c, none) => (⟨warnings, c.trace, .ok c.report⟩, c.workers)

/-! ### Execution -/

variable {ε : Type}

/-- The check that the target can be reached, if it is wanted. -/
def reach (connect : Net.Connect) (target : Net.Target) (config : Config) :
    Except ScanError Unit :=
  if config.checkReachability then
    match target.checkReachable connect config.connectTimeout with
    | .ok _ => .ok ()
    | .error f => .error (.setupFailed target.label f.message)
  else .ok ()

/-- **A scan of a target that is reached first**, and the protocol engine after it. -/
def execute (connect : Net.Connect) (e : Surroundings ε) (warnings : List LogEntry)
    (probes : List (Probe (Work ε))) (engine : ε) : Run × ε :=
  match reach connect e.target e.config with
  | .error fault => (⟨warnings, [], .error fault⟩, engine)
  | .ok () =>
    let (run, s) := runWith (VirtualTime.workers e) e.target.label warnings probes
      (.start e.config.threads.toNat engine)
    (run, s.engine)

/-- **A scan, once it has been checked what it is made of.** -/
def perform (connect : Net.Connect) (e : Surroundings ε) (probes : List (Probe (Work ε)))
    (engine : ε) : Except Refusal (Run × ε) :=
  (prepare e.config probes).map fun warnings => execute connect e warnings probes engine

/-! ### Command lines -/

/-- **What a scan is asked for.** -/
structure Order where
  target : Net.Target
  config : Config

/-- What a command line asks for. -/
def Order.ofArguments (files : Files) (lookup : Net.Lookup) (a : Arguments) :
    Except ScanError Order := do
  let config ← Config.ofArguments files a
  match a.target with
  | none => .error (.config .noTarget)
  | some text => return ⟨← Net.Target.resolve lookup text, config⟩

/-- The world around a scan, as far as it is not asked for. -/
structure World (ε : Type) where
  files : Files
  lookup : Net.Lookup
  connect : Net.Connect
  engine : Option (Engine ε)
  ageText : Duration → String := Duration.text
  dateOf : Nat → Timestamp

/-- What stays the same during the scan of an order. -/
def World.surroundings (w : World ε) (o : Order) : Surroundings ε :=
  ⟨o.target, o.config, w.engine, w.ageText, w.dateOf⟩

/-- **The scan that a command line asks for**, beside what it asks for. -/
def performArguments (w : World ε) (a : Arguments) (probes : List (Probe (Work ε)))
    (engine : ε) : Except Refusal (Order × Run × ε) :=
  match Order.ofArguments w.files w.lookup a with
  | .error e => .error (.error e)
  | .ok order =>
    (perform w.connect (w.surroundings order) probes engine).map fun run => (order, run)

end TlsScan.Scan
