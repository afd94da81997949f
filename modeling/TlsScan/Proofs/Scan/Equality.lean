import TlsScan.Scan.Event

/-!
# Comparing events

Requirements nest in themselves through their choices and exclusions, so their equality
is decided along that nesting.  With it, results, which may carry a requirement, and
events, which may carry a result, are compared as well.

## Main Definitions

* `Requirement.decEq` — whether two requirements are the same.
-/

namespace TlsScan

namespace Requirement

mutual

/-- **Whether two requirements are the same.** -/
def decEq : (q r : Requirement) → Decidable (q = r)
  | ⟨p, h, n, v, e, c, x⟩, ⟨p', h', n', v', e', c', x'⟩ =>
    letI := decEqChoice c c'
    letI := decEqExclusion x x'
    decidable_of_iff (p = p' ∧ h = h' ∧ n = n' ∧ v = v' ∧ e = e' ∧ c = c' ∧ x = x')
      (by rw [Requirement.mk.injEq])

/-- Whether two choices are the same. -/
def decEqChoice : (c d : Option (List Requirement)) → Decidable (c = d)
  | .none, .none => .isTrue rfl
  | .none, some _ => .isFalse nofun
  | some _, .none => .isFalse nofun
  | some l, some m =>
    letI := decEqList l m
    decidable_of_iff (l = m) (by rw [Option.some.injEq])

/-- Whether two lists of requirements are the same. -/
def decEqList : (l m : List Requirement) → Decidable (l = m)
  | [], [] => .isTrue rfl
  | [], _ :: _ => .isFalse nofun
  | _ :: _, [] => .isFalse nofun
  | q :: l, r :: m =>
    letI := decEq q r
    letI := decEqList l m
    decidable_of_iff (q = r ∧ l = m) (by rw [List.cons.injEq])

/-- Whether two exclusions are the same. -/
def decEqExclusion : (x y : Option Requirement) → Decidable (x = y)
  | .none, .none => .isTrue rfl
  | .none, some _ => .isFalse nofun
  | some _, .none => .isFalse nofun
  | some q, some r =>
    letI := decEq q r
    decidable_of_iff (q = r) (by rw [Option.some.injEq])

end

instance : DecidableEq Requirement := decEq

end Requirement

deriving instance DecidableEq for Write
deriving instance DecidableEq for ProbeResult
deriving instance DecidableEq for Facts
deriving instance DecidableEq for Scan.Ending
deriving instance DecidableEq for Scan.Activity
deriving instance DecidableEq for Scan.Event

end TlsScan
