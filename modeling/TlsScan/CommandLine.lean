import TlsScan.Config.File

/-!
# The command line

The options of the scanner, how they are read, and how they are laid over a configuration
file.

## Main Definitions

* `Arguments` — what a command line says.
* `ArgumentsFault` — why a command line is refused, or what it asks for instead.
* `Arguments.parse` — reads a command line.
* `Config.ofArguments` — the parameters that a command line and its file make together.

## Design Notes

A value may follow its option as the next argument.  Such an option stays pending until the
next argument that is no value has been looked up, so an unknown argument is reported
before a fault of the pending option, and any other fault in the order of the arguments.
-/

namespace TlsScan

/-- **What a command line says.** -/
structure Arguments where
  /-- The target of the scan. -/
  target : Option String := none
  /-- The configuration file. -/
  config : Option String := none
  threads : Option UInt64 := none
  thoroughness : Option Thoroughness := none
  /-- Seconds without any result after which the oldest probe is looked after. -/
  watchdog : Option UInt64 := none
  /-- Seconds for which the oldest probe is then waited for. -/
  forceJoin : Option UInt64 := none
  /-- Seconds that connecting to the target may take. -/
  connect : Option UInt64 := none
  /-- Whether the target need not accept a connection before the scan. -/
  noReachabilityCheck : Bool := false
  logLevel : Option String := none
  /-- Whether no progress is shown. -/
  quiet : Bool := false
  deriving DecidableEq, Repr, Inhabited

/-- **Why a command line is not carried out.** -/
inductive ArgumentsFault where
  /-- A value is missing, empty, or none of the possible ones. -/
  | invalidValue
  /-- A value is no number of the wanted range. -/
  | valueValidation
  /-- There is no such option, or one argument too many. -/
  | unknownArgument
  /-- An option is given twice. -/
  | argumentConflict
  /-- A value is given to an option that takes none. -/
  | tooManyValues
  /-- Help is asked for. -/
  | displayHelp
  /-- The version is asked for. -/
  | displayVersion
  deriving DecidableEq, Repr

namespace Arguments

/-- The log level in force. -/
def effectiveLogLevel (a : Arguments) : String := a.logLevel.getD "info"

/-! ### Options -/

/-- An option that takes a value. -/
inductive Setting where
  | config | threads | scanDetail | watchdog | forceJoin | connect | logLevel
  deriving DecidableEq, Repr

/-- An option that takes none. -/
inductive Switch where
  | noReachabilityCheck | quiet | help | version
  deriving DecidableEq, Repr

/-- The option of a long name. -/
def longOption? : String → Option (Setting ⊕ Switch)
  | "config" => some (.inl .config)
  | "threads" => some (.inl .threads)
  | "scan-detail" => some (.inl .scanDetail)
  | "watchdog" => some (.inl .watchdog)
  | "force-join-timeout" => some (.inl .forceJoin)
  | "connect-timeout" => some (.inl .connect)
  | "log-level" => some (.inl .logLevel)
  | "no-reachability-check" => some (.inr .noReachabilityCheck)
  | "quiet" => some (.inr .quiet)
  | "help" => some (.inr .help)
  | "version" => some (.inr .version)
  | _ => none

/-- The option of a letter. -/
def shortOption? : Char → Option (Setting ⊕ Switch)
  | 'c' => some (.inl .config)
  | 't' => some (.inl .threads)
  | 'q' => some (.inr .quiet)
  | 'h' => some (.inr .help)
  | 'V' => some (.inr .version)
  | _ => none

/-- A 64-bit number. -/
def number (value : String) : Except ArgumentsFault UInt64 :=
  match Text.readBounded (UInt64.size - 1) value.toList with
  | .ok n => .ok (.ofNat n)
  | .error _ => .error .valueValidation

/-- Fill a place that must still be empty, with a value that is read only then. -/
def fill {α : Type} (place : Option α) (read : Except ArgumentsFault α) :
    Except ArgumentsFault (Option α) :=
  match place with
  | some _ => .error .argumentConflict
  | none => read.map some

/-- A value that is not empty. -/
def nonEmpty (value : String) : Except ArgumentsFault String :=
  if value.isEmpty then .error .invalidValue else .ok value

/-- A degree of thoroughness. -/
def thoroughnessOf (value : String) : Except ArgumentsFault Thoroughness :=
  match Vocabulary.ofWord? value with
  | some t => .ok t
  | none => .error .invalidValue

/-- Give an option its value. -/
def assign (a : Arguments) (s : Setting) (value : String) : Except ArgumentsFault Arguments :=
  match s with
  | .config => do return { a with config := ← fill a.config (nonEmpty value) }
  | .threads => do return { a with threads := ← fill a.threads (number value) }
  | .scanDetail => do
    return { a with thoroughness := ← fill a.thoroughness (thoroughnessOf value) }
  | .watchdog => do return { a with watchdog := ← fill a.watchdog (number value) }
  | .forceJoin => do return { a with forceJoin := ← fill a.forceJoin (number value) }
  | .connect => do return { a with connect := ← fill a.connect (number value) }
  | .logLevel => do return { a with logLevel := ← fill a.logLevel (.ok value) }

/-- Turn a switch on. -/
def turnOn (a : Arguments) : Switch → Except ArgumentsFault Arguments
  | .noReachabilityCheck =>
    if a.noReachabilityCheck then .error .argumentConflict
    else .ok { a with noReachabilityCheck := true }
  | .quiet => if a.quiet then .error .argumentConflict else .ok { a with quiet := true }
  | .help => .error .displayHelp
  | .version => .error .displayVersion

/-! ### Reading -/

/-- An option that was named but not settled yet. -/
inductive Pending where
  | none
  /-- Its value has to follow. -/
  | awaiting (s : Setting)
  /-- Its value has followed. -/
  | valued (s : Setting) (value : String)
  deriving DecidableEq, Repr

/-- The state of reading. -/
structure State where
  arguments : Arguments := {}
  pending : Pending := .none
  /-- Whether all further arguments are positional. -/
  positionalOnly : Bool := false
  deriving DecidableEq, Repr

/-- Settle the pending option. -/
def State.settle (s : State) : Except ArgumentsFault Arguments :=
  match s.pending with
  | .none => .ok s.arguments
  | .awaiting _ => .error .invalidValue
  | .valued setting value => s.arguments.assign setting value

/-- An option that takes a value, with the value that is attached to it. -/
def State.setting (s : State) (setting : Setting) (attached : Option String) :
    Except ArgumentsFault State := do
  let a ← s.settle
  match attached with
  | some value => return { s with arguments := ← a.assign setting value, pending := .none }
  | none => return { s with arguments := a, pending := .awaiting setting }

/-- An option that takes no value. -/
def State.switch (s : State) (switch : Switch) : Except ArgumentsFault State := do
  let a ← s.settle
  return { s with arguments := ← a.turnOn switch, pending := .none }

/-- A long option, after its two dashes. -/
def State.long (s : State) (text : List Char) : Except ArgumentsFault State :=
  let name := text.takeWhile (· ≠ '=')
  let attached := match text.dropWhile (· ≠ '=') with
    | _ :: value => some (String.ofList value)
    | [] => none
  match longOption? (String.ofList name) with
  | some (.inl setting) => s.setting setting attached
  | some (.inr switch) =>
    if attached.isSome then .error .tooManyValues else s.switch switch
  | none => .error .unknownArgument

/-- A run of letters after a single dash.  The first that takes a value takes the rest of
the run, without an equals sign in front. -/
def State.short (s : State) : List Char → Except ArgumentsFault State
  | [] => .ok s
  | c :: cs =>
    match shortOption? c with
    | some (.inr switch) => do (← s.switch switch).short cs
    | some (.inl setting) =>
      s.setting setting <| match cs with
        | [] => none
        | '=' :: value => some (String.ofList value)
        | value => some (String.ofList value)
    | none => .error .unknownArgument

/-- A positional argument, of which there is one. -/
def State.positional (s : State) (text : String) : Except ArgumentsFault State :=
  if s.arguments.target.isSome then .error .unknownArgument
  else do
    let a ← s.settle
    return { s with arguments := { a with target := some text }, pending := .none }

/-- A text that does not look like an option: the value that is awaited, or positional. -/
def State.plain (s : State) (text : String) : Except ArgumentsFault State :=
  match s.pending with
  | .awaiting setting => .ok { s with pending := .valued setting text }
  | _ => s.positional text

/-- **What one argument does.** -/
def State.step (s : State) (text : String) : Except ArgumentsFault State :=
  if s.positionalOnly then s.positional text
  else
    match text.toList with
    | ['-', '-'] => .ok { s with positionalOnly := true }
    | '-' :: '-' :: cs => s.long cs
    | ['-'] => s.plain text
    | '-' :: cs => s.short cs
    | _ => s.plain text

/-- **Read a command line**, without the name of the program. -/
def parse (args : List String) : Except ArgumentsFault Arguments := do
  (← args.foldlM State.step {}).settle

end Arguments

/-! ### Layers -/

namespace Config

/-- Seconds as milliseconds; what does not fit is the greatest number. -/
def millisOfSeconds (s : UInt64) : UInt64 := .ofNat (min (s.toNat * 1000) (UInt64.size - 1))

/-- What a command line says, laid over other parameters. -/
def overlay (c : Config) (a : Arguments) : Config where
  threads := a.threads.getD c.threads
  thoroughness := a.thoroughness.getD c.thoroughness
  watchdogMillis := (a.watchdog.map millisOfSeconds).getD c.watchdogMillis
  forceJoinMillis := (a.forceJoin.map millisOfSeconds).getD c.forceJoinMillis
  connectMillis := (a.connect.map millisOfSeconds).getD c.connectMillis
  checkReachability := !a.noReachabilityCheck && c.checkReachability

/-- **The parameters of a command line**, over those of its file, over the defaults. -/
def ofArguments (files : Files) (a : Arguments) : Except ScanError Config := do
  let base ← match a.config with
    | some path => load files path
    | none => .ok default
  (base.overlay a).validate

end Config

end TlsScan
