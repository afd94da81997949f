import TlsScan.Proofs.Report.Growth
import TlsScan.Proofs.Scan.Outcomes

/-!
# The report of a scan grows

Every step of a scan that does not make it fail makes its report grow, and so does every run
of the coordinator.

## Main Results

* `Scan.Move.grows` — a step makes the report grow.
* `Scan.Reaches.grows` — the report of a scan grows until the scan fails.
-/

namespace TlsScan

namespace Scan

variable {β σ : Type} {x y : Point β σ}

/-- **Every step makes the report grow**, unless it makes the scan fail. -/
theorem Move.grows (h : Move x y) (hy : y.stage ≠ .failed) :
    x.state.report.Grows y.state.report := by
  cases h with
  | rest _ _ _ _ _ _ hreport _ => rw [hreport]; exact .refl _
  | hand _ _ _ _ _ _ hreport _ => rw [hreport]; exact .refl _
  | finish _ _ _ _ _ _ _ hmerge _ _ _ _ _ _ => exact .of_merge hmerge
  | leave _ _ _ _ _ _ _ _ hreport _ => rw [hreport]; exact .refl _
  | drain _ hmerge _ _ _ _ _ _ => exact .of_merge hmerge
  | complete t _ _ _ _ _ _ _ _ hreport _ =>
      rw [hreport]
      -- The end of the scan is noted, which is none of what has to be kept.
      obtain ⟨hrecords, hdecided, hversions, hextensions⟩ := Report.Grows.refl x.state.report
      exact ⟨hrecords, hdecided, hversions, hextensions⟩
  | giveUp _ _ _ _ _ _ _ _ _ _ _ hfailed => exact absurd hfailed hy
  | refuse _ _ _ _ _ hfailed => exact absurd hfailed hy

/-- **The report of a scan grows** for as long as the scan does not fail. -/
theorem Reaches.grows {w : Workers β σ} (h : Reaches w x y) (hx : x.Orderly)
    (hy : y.stage ≠ .failed) : x.state.report.Grows y.state.report := by
  induction h with
  | refl => exact .refl _
  | tail hreach hstep ih =>
      have hm := move_of_next (Reaches.orderly hreach hx).1 hstep
      exact (ih hm.stage_ne).trans (hm.grows hy)

end Scan

end TlsScan
