import TlsScan.Dependency
import TlsScan.Log

/-!
# Sets of probes

The check that every set of probes has to pass before a scan.

## Main Definitions

* `ProbeSet.check` — refuses a set in which an identity occurs twice or probes wait for
  each other in a circle.
* `ProbeSet.warnings` — what a set asks for that nothing in it provides.

## Design Notes

Only probes asked for outside of choices can make a circle that never resolves.  Anything
else that is missing merely keeps a probe from running, which deserves a warning.
-/

namespace TlsScan

namespace ProbeSet

/-- **Refuse a set that can never complete.** -/
def check (l : List Declaration) : Except ScanError Dependencies :=
  match Dependencies.ofDeclarations l with
  | .error e => .error e
  | .ok g =>
    match g.findCycle with
    | some cycle => .error (.dependencyCycle cycle)
    | none => .ok g

/-- The properties that some probe of a set writes. -/
def declaredProperties (l : List Declaration) : Selection Property :=
  .ofList (l.flatMap (·.properties))

/-- The sets that some probe of a set adds to. -/
def providedFactSets (l : List Declaration) : Selection FactSet :=
  ⟨fun s => l.any fun d => d.contributions.contains s⟩

/-- A set of names between braces. -/
def braced (names : List String) : String :=
  "\x7b" ++ ", ".intercalate names ++ "\x7d"

/-- A warning about one probe, unless there is nothing to warn of. -/
def warningAbout (d : Declaration) (what : String) (names : List String) : List LogEntry :=
  if names.isEmpty then []
  else [.warning ("Probe " ++ d.probe.name ++ " requires " ++ what ++ braced names)]

/-- What one probe asks for that nothing in the set provides. -/
def warningsOf (l : List Declaration) (d : Declaration) : List LogEntry :=
  let unknownProbes : Selection ProbeId :=
    .ofList (d.requirement.referencedProbes.filter fun p => !l.any fun e => e.probe = p)
  let undeclared : Selection Property :=
    (Selection.ofList d.requirement.referencedProperties).difference (declaredProperties l)
  let missing := d.requirement.referencedFactSets.difference (providedFactSets l)
  warningAbout d "probes that are not part of this scan: "
      (unknownProbes.toList.map ProbeId.name)
    ++ warningAbout d "properties no probe in this scan provides: "
      (undeclared.toList.map Property.name)
    ++ missing.toList.map fun s =>
      .warning ("Probe " ++ d.probe.name ++ " requires " ++ s.name
        ++ " no probe in this scan provides")

/-- **What a set asks for that nothing in it provides**, probe by probe. -/
def warnings (l : List Declaration) : List LogEntry := l.flatMap (warningsOf l)

end ProbeSet

end TlsScan
