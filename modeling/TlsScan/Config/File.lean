import TlsScan.Config
import TlsScan.Toml.Parser

/-!
# Configuration files

A configuration file is a TOML table with a key for every parameter that differs from its
default.

## Main Definitions

* `Config.ofEntries` — the parameters that the entries of a file set.
* `Config.load` — reads, decodes and validates a file.
* `Config.exampleFile` — a file that sets every parameter to its default.
-/

namespace TlsScan

/-- What is known about files: the bytes of those that exist. -/
abbrev Files := String → Option ByteArray

namespace Config

open Toml

/-- A value of the wrong kind. -/
def wrongKind (key : String) : ScanError := .malformedConfig ("invalid value for " ++ key)

/-- A whole number from 0, as large as a file can spell it. -/
def number (key : String) : Toml → Except ScanError UInt64
  | .integer n =>
    if 0 ≤ n ∧ n < UInt64.size then .ok (.ofNat n.toNat) else .error (wrongKind key)
  | _ => .error (wrongKind key)

/-- A truth value. -/
def truth (key : String) : Toml → Except ScanError Bool
  | .boolean b => .ok b
  | _ => .error (wrongKind key)

/-- The word of an alternative that carries nothing: as a string, or as the only key of a
table with nothing behind it. -/
def wordOf? : Toml → Option String
  | .string s => some s
  | .table [(k, .table [])] => some k
  | .table [(k, .array [])] => some k
  | _ => none

/-- A degree of thoroughness. -/
def thoroughnessOf (key : String) (v : Toml) : Except ScanError Thoroughness :=
  match (wordOf? v).bind Vocabulary.ofWord? with
  | some t => .ok t
  | none => .error (wrongKind key)

/-- Set the parameter of one entry.  Keys that are no parameters are skipped. -/
def setEntry (c : Config) (e : String × Toml) : Except ScanError Config :=
  match e.1 with
  | "threads" => do return { c with threads := ← number e.1 e.2 }
  | "scan_detail" => do return { c with thoroughness := ← thoroughnessOf e.1 e.2 }
  | "watchdog_interval_ms" => do return { c with watchdogMillis := ← number e.1 e.2 }
  | "force_join_timeout_ms" => do return { c with forceJoinMillis := ← number e.1 e.2 }
  | "connect_timeout_ms" => do return { c with connectMillis := ← number e.1 e.2 }
  | "check_reachability" => do return { c with checkReachability := ← truth e.1 e.2 }
  | _ => .ok c

/-- **The parameters that entries set**, the others having their defaults. -/
def ofEntries (entries : List (String × Toml)) : Except ScanError Config :=
  entries.foldlM setEntry default

/-- The parameters of the text of a file, before they are validated. -/
def ofText (text : String) : Except ScanError Config :=
  match Toml.parse? text with
  | some entries => ofEntries entries
  | none => .error (.malformedConfig "the file is not well formed")

/-- The text of a file. -/
def readText (files : Files) (path : String) : Except ScanError String :=
  match files path with
  | none => .error (.io "No such file or directory (os error 2)")
  | some bytes =>
    match String.fromUTF8? bytes with
    | none => .error (.io "stream did not contain valid UTF-8")
    | some text => .ok text

/-- **Read a configuration file.** -/
def load (files : Files) (path : String) : Except ScanError Config := do
  (← ofText (← readText files path)).validate

/-- The line that sets a key. -/
def exampleLine (key value : String) : String := key ++ " = " ++ value ++ "\n"

/-- The text of a file that sets every parameter. -/
def fileText (c : Config) : String :=
  exampleLine "threads" (toString c.threads.toNat)
    ++ exampleLine "scan_detail" ("\"" ++ Vocabulary.word c.thoroughness ++ "\"")
    ++ exampleLine "watchdog_interval_ms" (toString c.watchdogMillis.toNat)
    ++ exampleLine "force_join_timeout_ms" (toString c.forceJoinMillis.toNat)
    ++ exampleLine "connect_timeout_ms" (toString c.connectMillis.toNat)
    ++ exampleLine "check_reachability" (if c.checkReachability then "true" else "false")

/-- **An example of a configuration file**, which changes nothing. -/
def exampleFile : String := default.fileText

end Config

end TlsScan
