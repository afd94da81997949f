import TlsScan.Proofs.Config.Errors
import TlsScan.Proofs.Dependency.Circle
import TlsScan.Proofs.Scan.Admission

/-!
# Which configurations can be run

The check of a configuration refuses numbers that are too small.  What is too great it does
not ask, and it need not where times are concerned: 64 bits of milliseconds are always a
duration, what is left of one is never less than nothing, and seconds from a command line
stop at the greatest number.  But a pool has a limit of its own, far below the greatest
number of threads that can be written down.  So a set of probes that passes its check runs
under a valid configuration exactly up to that limit.

## Main Definitions

* `Scan.ExactTimes` — all times of a configuration are what its numbers say.

## Main Results

* `Scan.exactTimes` — no time of a configuration overflows.
* `Scan.prepare_of_validate` — under a valid configuration only the limit of the pool is
  left to be asked.
* `Scan.valid_runs_iff` — which valid configurations can be run.
-/

namespace TlsScan

namespace Scan

variable {ε : Type} {config : Config}

/-! ## Times -/

/-- **All times of a configuration are what its numbers say.**  The time that is left to the
watchdog is exact for every time that has passed, and it is nothing if that was longer; the
instants at which a wait is over are as far ahead as they should be. -/
structure ExactTimes (ε : Type) (c : Config) : Prop where
  connect : c.connectTimeout.toNanos = c.connectMillis.toNat * 1000000
  forceJoin : c.forceJoinTimeout.toNanos = c.forceJoinMillis.toNat * 1000000
  remaining : ∀ elapsed,
    (c.remaining elapsed).toNanos = c.watchdogMillis.toNat * 1000000 - elapsed.toNanos
  forceJoinAt : ∀ (e : Surroundings ε) (s : VirtualTime ε), e.config = c →
    VirtualTime.forceJoinAt e s = s.now + c.forceJoinMillis.toNat
  watchdogAt : ∀ (e : Surroundings ε) (s : VirtualTime ε), e.config = c →
    s.now - s.watchedSince < UInt64.size →
      VirtualTime.watchdogAt e s = s.now + (c.watchdogMillis.toNat - (s.now - s.watchedSince))

/-- What is left of one number of milliseconds after another one. -/
theorem toMillis_remaining (c : Config) (elapsed : UInt64) :
    (c.remaining (.ofMillis elapsed)).toMillis = c.watchdogMillis.toNat - elapsed.toNat := by
  rw [Config.remaining, Config.watchdogInterval, Duration.toMillis_eq,
    Duration.toNanos_saturatingSub, Duration.toNanos_ofMillis, Duration.toNanos_ofMillis,
    ← Nat.sub_mul, Nat.mul_div_cancel _ (by decide)]

/-- **No time of a configuration overflows**, however great its numbers are. -/
theorem exactTimes (c : Config) : ExactTimes ε c where
  connect := Duration.toNanos_ofMillis _
  forceJoin := Duration.toNanos_ofMillis _
  remaining elapsed := by
    rw [Config.remaining, Duration.toNanos_saturatingSub, Config.watchdogInterval,
      Duration.toNanos_ofMillis]
  forceJoinAt := by
    rintro e s rfl
    rw [VirtualTime.forceJoinAt, Config.forceJoinTimeout, Duration.toMillis_ofMillis]
  watchdogAt := by
    rintro e s rfl hidle
    rw [VirtualTime.watchdogAt, VirtualTime.idleTime, toMillis_remaining,
      UInt64.toNat_ofNat_of_lt' hidle]

/-! ## The pool -/

/-- **Under a valid configuration, a set of probes that passes its check is admitted unless
the pool cannot have so many workers.** -/
theorem prepare_of_validate {β : Type} {probes : List (Probe β)}
    (hvalid : config.validate = .ok config)
    (hcheck : ∃ g, ProbeSet.check (probes.map Probe.declaration) = .ok g) :
    prepare config probes =
      if Pool.capacity < config.threads.toNat then .error .tooManyWorkers
      else .ok (ProbeSet.warnings (probes.map Probe.declaration)) := by
  obtain ⟨g, hg⟩ := hcheck
  unfold prepare
  dsimp only
  rw [hvalid, hg]

/-- Probes whose identities differ, and of which none waits for itself, pass their check. -/
theorem check_of_acyclic {β : Type} {probes : List (Probe β)}
    (hnodup : (probes.map Probe.id).Nodup)
    (hfree : ∀ p, ¬ Relation.TransGen (ProbeSet.Awaits (probes.map Probe.declaration)) p p) :
    ∃ g, ProbeSet.check (probes.map Probe.declaration) = .ok g := by
  refine ProbeSet.check_succeeds_iff.mpr ⟨?_, hfree⟩
  rw [List.map_map]
  exact hnodup

/-- **Which valid configurations can be run.**  Take probes whose identities differ and of
which none waits for itself, directly or through others.  Under a valid configuration they
are admitted exactly if the pool can have as many workers as there are threads; with more of
them there is no pool, and with no more of them there is a scan, whatever surrounds it.  All
times of the configuration are exact in either case. -/
theorem valid_runs_iff {probes : List (Probe (Work ε))}
    (hvalid : config.validate = .ok config) (hnodup : (probes.map Probe.id).Nodup)
    (hfree : ∀ p, ¬ Relation.TransGen (ProbeSet.Awaits (probes.map Probe.declaration)) p p) :
    ((∃ warnings, prepare config probes = .ok warnings)
        ↔ config.threads.toNat ≤ Pool.capacity)
      ∧ (Pool.capacity < config.threads.toNat →
        prepare config probes = .error .tooManyWorkers)
      ∧ (config.threads.toNat ≤ Pool.capacity →
        ∀ connect (e : Surroundings ε) engine, e.config = config →
          ∃ run, perform connect e probes engine = .ok run)
      ∧ ExactTimes ε config := by
  have hprepare := prepare_of_validate hvalid (check_of_acyclic hnodup hfree)
  refine ⟨⟨?_, fun hle => ?_⟩, fun hlt => ?_, ?_, exactTimes config⟩
  · rintro ⟨warnings, h⟩
    rw [hprepare] at h
    split at h
    · cases h
    · rename_i hle
      exact Nat.le_of_not_lt hle
  · rw [hprepare, if_neg (Nat.not_lt.mpr hle)]
    exact ⟨_, rfl⟩
  · rw [hprepare, if_pos hlt]
  · rintro hle connect e engine rfl
    rw [perform, hprepare, if_neg (Nat.not_lt.mpr hle)]
    exact ⟨_, rfl⟩

namespace Sample

/-- The greatest numbers that a command line can ask for, with as many threads as a pool
can have. -/
def greatest : Arguments where
  threads := some (.ofNat Pool.capacity)
  watchdog := some (.ofNat (UInt64.size - 1))
  forceJoin := some (.ofNat (UInt64.size - 1))
  connect := some (.ofNat (UInt64.size - 1))

/-- No probe of the sample waits for itself. -/
theorem acyclic_probes (p : ProbeId) :
    ¬ Relation.TransGen (ProbeSet.Awaits (probes.map Probe.declaration)) p p := by
  have hcheck : ∃ g, ProbeSet.check (probes.map Probe.declaration) = .ok g := by
    have h := check_probes
    cases hg : ProbeSet.check (probes.map Probe.declaration) with
    | ok g => exact ⟨g, rfl⟩
    | error e =>
        rw [hg] at h
        cases h
  exact (ProbeSet.check_succeeds_iff.mp hcheck).2 p

end Sample

theorem valid_runs_iff_sample :
    ∃ config, Config.ofArguments (fun _ => none) Sample.greatest = .ok config
      ∧ config.watchdogMillis.toNat = UInt64.size - 1
      ∧ ∀ connect engine, ∃ run, perform connect { Sample.surroundings with config := config }
          Sample.probes engine = .ok run := by
  have hload : Config.ofArguments (fun _ => none) Sample.greatest
      = .ok (Config.default.overlay Sample.greatest) := by rfl
  have hruns := valid_runs_iff (Config.validate_of_ofArguments hload)
    (nodup_of_prepare Sample.prepare_probes) Sample.acyclic_probes
  refine ⟨_, hload, ?_, fun connect engine => ?_⟩
  · exact (Config.toNat_millisOfSeconds _).trans (Nat.min_eq_right (by decide))
  · exact hruns.2.2.1 (by decide) connect _ engine rfl

/-- One thread more than a pool can have is valid, but there is no scan with so many. -/
theorem valid_without_pool :
    ({ threads := 2305843009213693952, checkReachability := false } : Config).validate
        = .ok { threads := 2305843009213693952, checkReachability := false }
      ∧ ([Sample.probe (.bare .cipherSuite) (some 0) (.panicked none)].map Probe.id).Nodup
      ∧ (∀ p, ¬ Relation.TransGen (ProbeSet.Awaits [.bare .cipherSuite]) p p)
      ∧ prepare { threads := 2305843009213693952, checkReachability := false }
          [Sample.probe (.bare .cipherSuite) (some 0) (.panicked none)]
        = .error .tooManyWorkers := by
  have hnodup :
      ([Sample.probe (.bare .cipherSuite) (some 0) (.panicked none)].map Probe.id).Nodup := by
    decide
  have hfree : ∀ p, ¬ Relation.TransGen (ProbeSet.Awaits [.bare .cipherSuite]) p p := by
    intro p hp
    obtain ⟨q, ⟨⟨d, hd, -, hq⟩, -⟩, -⟩ := Relation.TransGen.head'_iff.mp hp
    obtain rfl := List.mem_singleton.mp hd
    exact absurd hq List.not_mem_nil
  refine ⟨rfl, hnodup, hfree, ?_⟩
  rw [prepare_of_validate rfl (check_of_acyclic hnodup hfree), if_pos (by decide)]

end Scan

end TlsScan
