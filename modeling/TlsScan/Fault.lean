/-!
# Faults with context

A fault is what goes wrong inside a probe, in the protocol engine or while a target is
resolved: a cause with the contexts it was reported through.  The scheduler never looks
inside a fault; it only writes it down.
-/

namespace TlsScan

/-- **A cause and its contexts**, outermost context first. -/
structure Fault where
  /-- The outermost text. -/
  summary : String
  /-- The texts below it, down to the root cause. -/
  causes : List String := []
  deriving DecidableEq, Repr, Inhabited

namespace Fault

/-- The fault of a list of texts, outermost first; no texts at all make an empty summary. -/
def ofChain : List String → Fault
  | [] => ⟨"", []⟩
  | s :: l => ⟨s, l⟩

/-- Report a fault through one more context. -/
def context (f : Fault) (s : String) : Fault := ⟨s, f.summary :: f.causes⟩

/-- The whole chain in one line, joined by colons. -/
def message (f : Fault) : String := ": ".intercalate (f.summary :: f.causes)

end Fault

end TlsScan
