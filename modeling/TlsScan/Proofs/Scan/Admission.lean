import TlsScan.Proofs.Dependency.Graph
import TlsScan.Scan.Execution

/-!
# What a scan is admitted with, and what it comes to

The probes that `prepare` lets through have a graph of dependencies, so they differ in
their identities.  At its other end a scan is wrapped up as a `Run`, which is the
coordinator's last state seen from outside.

## Main Results

* `Scan.nodup_of_prepare` — no identity occurs twice.
* `Scan.outcome_runWith_eq_ok_iff` — a run has a report if its coordinator ended without
  an error, and then the coordinator's.

The last section defines one small scan in which every path through the coordinator is
taken; the conditions of later theorems are shown to hold there.
-/

namespace TlsScan

namespace Scan

/-- Probes that are admitted have passed their check. -/
theorem check_of_prepare {β : Type} {config : Config} {probes : List (Probe β)}
    {warnings : List LogEntry} (h : prepare config probes = .ok warnings) :
    ∃ g, ProbeSet.check (probes.map Probe.declaration) = .ok g := by
  unfold prepare at h
  dsimp only at h
  split at h
  · cases h
  · split at h
    · cases h
    · rename_i g hg
      exact ⟨g, hg⟩

/-- **No identity occurs twice among the probes of a scan.** -/
theorem nodup_of_prepare {β : Type} {config : Config} {probes : List (Probe β)}
    {warnings : List LogEntry} (h : prepare config probes = .ok warnings) :
    (probes.map Probe.id).Nodup := by
  obtain ⟨g, hg⟩ := check_of_prepare h
  have hnodup := ProbeSet.nodup_of_check hg
  rw [List.map_map] at hnodup
  exact hnodup

/-- Under the default configuration, probes that pass their check are admitted. -/
theorem prepare_of_check {β : Type} {probes : List (Probe β)}
    (h : (ProbeSet.check (probes.map Probe.declaration)).isOk = true) :
    prepare {} probes = .ok (ProbeSet.warnings (probes.map Probe.declaration)) := by
  unfold prepare
  cases hg : ProbeSet.check (probes.map Probe.declaration) with
  | error e =>
      rw [hg] at h
      cases h
  | ok g =>
      have hvalid : ({} : Config).validate = .ok {} := rfl
      have hthreads : ¬ Pool.capacity < ({} : Config).threads.toNat := by decide
      dsimp only
      rw [hvalid, hg]
      dsimp only
      rw [if_neg hthreads]

section
variable {β σ : Type} {w : Workers β σ} {target : String} {warnings : List LogEntry}
  {probes : List (Probe β)} {s : σ}

theorem trace_runWith : (runWith w target warnings probes s).1.trace
    = (Coordinator.scan w target probes s).1.trace := by
  unfold runWith
  split <;> simp_all

theorem workers_runWith : (runWith w target warnings probes s).2
    = (Coordinator.scan w target probes s).1.workers := by
  unfold runWith
  split <;> simp_all

theorem outcome_runWith_eq_ok_iff {r : Report} :
    (runWith w target warnings probes s).1.outcome = .ok r
      ↔ (Coordinator.scan w target probes s).2 = none
        ∧ (Coordinator.scan w target probes s).1.report = r := by
  unfold runWith
  split <;> simp_all

end

/-! ## A scan that takes every path -/

namespace Sample

/-- A target, and nothing that could be asked of it. -/
def surroundings : Surroundings Unit :=
  ⟨⟨"sample", 443, []⟩, {}, none, Duration.text, fun _ => default⟩

/-- A probe that always ends in the same way, or never. -/
def probe (d : Declaration) (delay : Option Nat) (e : Ending) : Probe (Work Unit) where
  declaration := d
  work := { delay := delay, run := fun _ u => (e, [], u) }

/-- A declaration that asks for executed probes only. -/
def needing (p : ProbeId) (l : List ProbeId) : Declaration :=
  { Declaration.bare p with requirement := Requirement.none.requireProbes l }

/-- What the first probe of the sample establishes. -/
def facts : Facts := { findings := [(.supportsRsa, .holds)], versions := some [.tls12] }

/-- What it has announced. -/
def announced : Declaration :=
  ⟨.protocolVersion, .none, [.supportsRsa], .ofList [.versions]⟩

/-- One probe is executed, one fails, one crashes, one never ends, and two never become
ready. -/
def probes : List (Probe (Work Unit)) :=
  [probe (needing .cipherSuite [.protocolVersion]) (some 3) (.failed ⟨"refused", []⟩),
    probe announced (some 5) (.result (.facts .protocolVersion facts)),
    probe (needing .drown [.cipherSuite]) (some 0) (.panicked none),
    probe (needing .alpn [.protocolVersion]) (some 3) (.panicked none),
    probe (.bare .heartbleed) none (.panicked none),
    probe (needing .poodle [.heartbleed]) (some 0) (.panicked none)]

/-- The coordinator of the scan with two workers, at its end. -/
def ended : Coordinator (Work Unit) (VirtualTime Unit) × Option ScanError :=
  Coordinator.scan (VirtualTime.workers surroundings) "sample" probes (.start 2 ())

/-- What the scan comes to. -/
def run : Run × VirtualTime Unit :=
  runWith (VirtualTime.workers surroundings) "sample" [] probes (.start 2 ())

/-- No two probes of the sample have one identity, and none wait for each other. -/
theorem check_probes : (ProbeSet.check (probes.map Probe.declaration)).isOk = true := by cbv

theorem warnings_probes : ProbeSet.warnings (probes.map Probe.declaration) = [] :=
  List.isEmpty_iff.mp (by decide +kernel)

theorem prepare_probes : prepare {} probes = .ok [] := by
  rw [prepare_of_check check_probes, warnings_probes]

theorem outcome_run : run.1.outcome = .ok ended.1.report :=
  outcome_runWith_eq_ok_iff.mpr ⟨by decide +kernel, rfl⟩

end Sample

end Scan

end TlsScan
