import TlsScan.Report

/-!
# Progress of a scan

What an observer of a scan learns while it runs, and the lines that a terminal shows for
it.

## Main Definitions

* `Progress` — one step in the life of a probe.
* `Progress.line` — the line shown for it, in colour or plain.
-/

namespace TlsScan

/-- **One step in the life of a probe.** -/
inductive Progress where
  /-- It was handed to the workers. -/
  | scheduled (p : ProbeId)
  /-- Its result was merged. -/
  | finished (p : ProbeId) (s : Status)
  /-- It never became ready. -/
  | notExecuted (p : ProbeId) (reason : String)
  deriving DecidableEq, Repr

namespace Progress

/-! ### Colours -/

/-- How a text stands out. -/
inductive Style where
  | boldYellow | green | red | dimmed
  deriving DecidableEq, Repr

/-- The escape character. -/
def escapeChar : Char := '\x1b'

/-- The sequence that starts a style. -/
def Style.opening : Style → List Char
  | boldYellow => escapeChar :: ['[', '1', ';', '3', '3', 'm']
  | green => escapeChar :: ['[', '3', '2', 'm']
  | red => escapeChar :: ['[', '3', '1', 'm']
  | dimmed => escapeChar :: ['[', '2', 'm']

/-- The sequence that ends every style. -/
def closing : List Char := escapeChar :: ['[', '0', 'm']

/-- Put `opening` after every end of a style inside a text, so that the outer style goes
on. -/
def reopen (opening : List Char) : List Char → List Char
  | [] => []
  | c :: cs =>
    match c, cs with
    | '\x1b', '[' :: '0' :: 'm' :: rest => closing ++ opening ++ reopen opening rest
    | c, cs => c :: reopen opening cs

/-- A text in a style, if styles are wanted. -/
def styled (colored : Bool) (s : Style) (text : String) : String :=
  if colored then String.ofList (s.opening ++ reopen s.opening text.toList ++ closing)
  else text

/-! ### Lines -/

/-- **The line shown for a step.** -/
def line (colored : Bool) : Progress → String
  | scheduled p => styled colored .boldYellow (p.name ++ "...") ++ "\n"
  | finished p .executed => "  " ++ styled colored .green "✓" ++ " " ++ p.name ++ "\n"
  | finished p .error => "  " ++ styled colored .red "✗" ++ " " ++ p.name ++ " (error)\n"
  | finished p .notExecuted => "  " ++ styled colored .dimmed "-" ++ " " ++ p.name ++ "\n"
  | notExecuted p reason =>
    "  " ++ styled colored .dimmed "-" ++ " " ++ p.name ++ ": "
      ++ styled colored .dimmed reason ++ "\n"

end Progress

end TlsScan
