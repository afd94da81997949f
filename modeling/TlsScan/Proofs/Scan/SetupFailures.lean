import Mathlib
import TlsScan.Proofs.Config.Errors
import TlsScan.Proofs.Scan.LeftOver

/-!
# Errors before and during a scan

A command line leads to a scan in several stages: its file is read, its parameters are
checked, its target is resolved, the probes are checked, the target is reached, and only
then is anything handed out.  Each stage has errors of its own.  `isSetupFailure` sorts
errors by their cause; this file compares it with what has happened.

It is right about every stage but the first: an error means that nothing was handed out
exactly if it counts as a setup failure, unless it comes from reading the file.  Such an
error keeps the scan from starting too, but does not count.

## Main Definitions

* `Scan.Attempt` — what becomes of a scan that was asked for.
* `Scan.attempt` — the scan that a command line asks for, with workers of any kind.

## Main Results

* `Report.isSetupFailure_of_merge` — a result that does not give up by itself is never
  refused with a setup failure.
* `Scan.Passes.fault` — a scan that fails has handed out a probe, and its error is no setup
  failure.
* `Scan.setup_failure_iff` — which errors are setup failures, in every case.
* `Scan.setup_failure_unread` — an error that is none although nothing was handed out.
-/

namespace TlsScan

/-! ## Errors of merges -/

namespace Report

variable {r r' : Report} {d : Declaration} {x : ProbeResult} {e : ScanError}

theorem isSetupFailure_of_putRecord {rec : Record}
    (h : r.putRecord rec = (r', some e)) : e.isSetupFailure = false := by
  unfold putRecord at h
  split at h <;> cases h
  rfl

/-- A list of writes fails with the error that one of them gives up with, or because the
place of a record is taken. -/
theorem isSetupFailure_of_writeAll {l : List Write} (hl : ∀ e, .refuse e ∉ l)
    (h : r.writeAll l = (r', some e)) : e.isSetupFailure = false := by
  induction l generalizing r with
  | nil => cases h
  | cons w l ih =>
      rw [writeAll] at h
      split at h
      · exact ih (fun e he => hl e (List.mem_cons_of_mem _ he)) h
      · rename_i s e' hw
        cases h
        cases w with
        | record rec => exact isSetupFailure_of_putRecord hw
        | finding p v => cases hw
        | versions l => cases hw
        | extensions l => cases hw
        | notExecuted p properties requirement => exact isSetupFailure_of_putRecord hw
        | refuse e' => exact absurd List.mem_cons_self (hl e')

theorem isSetupFailure_of_mergeFault? (h : mergeFault? d r = some e) :
    e.isSetupFailure = false := by
  unfold mergeFault? journalFault? at h
  split at h
  · split at h
    · cases h; rfl
    · split at h
      · cases h; rfl
      · split at h
        · cases h; rfl
        · split at h <;> cases h
          rfl
  · cases h; rfl

/-- **A result that does not give up by itself is never refused with a setup failure.** -/
theorem isSetupFailure_of_merge (hx : ∀ e, .refuse e ∉ x.writes)
    (h : r.merge d x = .error e) : e.isSetupFailure = false := by
  unfold merge at h
  split at h
  · cases h; rfl
  · split at h
    · rename_i hw
      cases h
      exact isSetupFailure_of_writeAll hx hw
    · split at h
      · rename_i hfault
        cases h
        exact isSetupFailure_of_mergeFault? hfault
      · cases h

end Report

namespace ProbeResult

theorem refuse_not_mem_facts {p : ProbeId} {f : Facts} (e : ScanError) :
    .refuse e ∉ (facts p f).writes := by
  cases hv : f.versions <;> cases he : f.extensions <;> simp [facts, hv, he]

theorem refuse_not_mem_failure {p : ProbeId} {l : List Property} {k : FailureKind}
    {m : String} (e : ScanError) : .refuse e ∉ (failure p l k m).writes := by
  simp [failure]

end ProbeResult

namespace Scan

/-! ## Errors before a scan -/

section
variable {β : Type} {files : Files} {lookup : Net.Lookup} {a : Arguments} {e : ScanError}

theorem error_of_resolve {text : String} (h : Net.Target.resolve lookup text = .error e) :
    e.isSetupFailure = true := by
  unfold Net.Target.resolve at h
  split at h
  · cases h; rfl
  · cases h

/-- **The error of an order counts exactly if the file gives parameters.** -/
theorem isSetupFailure_iff_of_order (h : Order.ofArguments files lookup a = .error e) :
    e.isSetupFailure = true ↔ a.ReadsFile files := by
  rcases bind_eq_error_iff.mp h with hc | ⟨c, hc, h⟩
  · exact Config.isSetupFailure_iff_of_ofArguments hc
  · refine iff_of_true ?_ (Config.readsFile_of_ofArguments hc)
    split at h
    · cases h; rfl
    · exact error_of_resolve (error_of_bind_pure h)

theorem readsFile_of_order {o : Order} (h : Order.ofArguments files lookup a = .ok o) :
    a.ReadsFile files := by
  obtain ⟨c, hc, -⟩ := bind_eq_ok_iff.mp h
  exact Config.readsFile_of_ofArguments hc

theorem isSetupFailure_of_add {g : Dependencies} {l : List Declaration}
    (h : g.add l = .error e) : e.isSetupFailure = true := by
  induction l generalizing g with
  | nil => cases h
  | cons d l ih =>
      rw [Dependencies.add] at h
      split at h
      · cases h; rfl
      · exact ih h

theorem isSetupFailure_of_check {l : List Declaration} (h : ProbeSet.check l = .error e) :
    e.isSetupFailure = true := by
  unfold ProbeSet.check at h
  split at h
  · rename_i hg
    cases h
    exact isSetupFailure_of_add hg
  · split at h <;> cases h
    rfl

/-- **Whatever refuses probes and parameters counts.** -/
theorem isSetupFailure_of_prepare {config : Config} {probes : List (Probe β)}
    (h : prepare config probes = .error (.error e)) : e.isSetupFailure = true := by
  unfold prepare at h
  dsimp only at h
  split at h
  · rename_i hc
    cases h
    obtain ⟨_, rfl⟩ := Config.error_of_validate hc
    rfl
  · split at h
    · rename_i hg
      cases h
      exact isSetupFailure_of_check hg
    · split at h <;> cases h

/-- **A target that cannot be reached counts.** -/
theorem isSetupFailure_of_reach {connect : Net.Connect} {target : Net.Target}
    {config : Config} (h : reach connect target config = .error e) :
    e.isSetupFailure = true := by
  unfold reach at h
  split at h
  · split at h <;> cases h
    rfl
  · cases h

end

/-! ## Errors during a scan -/

section
variable {β σ : Type} {w : Workers β σ} {target : String} {probes : List (Probe β)} {s : σ}
  {x : Point β σ} {e : ScanError}

theorem HandedOut.of_grown {l m : List Event} {p : ProbeId} (h : HandedOut l p)
    (hl : l <+: m) : HandedOut m p := by
  obtain ⟨snapshot, hp⟩ := h
  exact ⟨snapshot, hl.subset hp⟩

/-- What runs was handed out. -/
theorem Passes.handedOut (h : Passes w target probes s x)
    (hnodup : (probes.map Probe.id).Nodup) (hx : x.stage ≠ .failed) {p : ProbeId}
    (hp : p ∈ x.running) : HandedOut x.state.trace p := by
  rw [handedOut_iff_mem_life, (h.lives hnodup hx p).running hp]
  exact List.mem_singleton_self _

/-- **A scan that fails has handed out a probe, and its error is no setup failure.** -/
theorem Passes.fault (h : Passes w target probes s x)
    (hnodup : (probes.map Probe.id).Nodup) (hsub : ∀ p ∈ probes, p.HasDefaultSubstitute)
    (hf : FactResults (Coordinator.scan w target probes s).1.trace)
    (hx : x.phase = .stopped (some e)) :
    e.isSetupFailure = false ∧ ∃ p, HandedOut x.state.trace p := by
  refine h.invariant (I := fun x => x.phase = .stopped (some e) →
    e.isSetupFailure = false ∧ ∃ p, HandedOut x.state.trace p) nofun ?_ hx
  intro x y hreach hy ih hm hphase
  have hfine := hm.stage_ne
  have hgrows := hm.trace_grows
  have hfailed : y.stage = .failed := by rw [Point.stage, hphase]
  cases hm with
  | giveUp d es e' result fault _ he hd hrun hmerge _ _ htrace hend =>
      cases hend.symm.trans hphase
      have hey : e' ∈ y.state.trace := by
        rw [htrace]
        exact List.mem_append_right _ he
      refine ⟨Report.isSetupFailure_of_merge ?_ hmerge, d.probe,
        (hreach.handedOut hnodup hfine (List.mem_map_of_mem hrun)).of_grown hgrows⟩
      rcases hd.facts_or_failure (hf.of_grown hy.trace_grows) hey with
        ⟨i, f, -, rfl⟩ | ⟨k, m, rfl⟩
      · exact ProbeResult.refuse_not_mem_facts
      · exact ProbeResult.refuse_not_mem_failure
  | refuse p fault hp hmerge _ _ _ _ =>
      -- What stands in for an unready probe is accepted.
      have hpart := (hreach.accounted hfine).partitioned hnodup (hreach.ownResults hsub hf)
      have hfree := hpart.unscheduled_unrecorded p.id (List.mem_map_of_mem hp)
      rw [hsub p ((hreach.given hfine).1 p hp)] at hmerge
      obtain ⟨r', hok⟩ := Report.merge_diagnosed p.declaration.requirement hfree
      cases hok.symm.trans hmerge
  | _ => simp_all

end

/-! ## Attempts -/

/-- **What becomes of a scan that was asked for**: a run, or none at all. -/
abbrev Attempt := Except Refusal Run

namespace Attempt

/-- The error that it ends with. -/
def fault? : Attempt → Option ScanError
  | .error (.error e) => some e
  | .error .tooManyWorkers => none
  | .ok r => match r.outcome with
    | .error e => some e
    | .ok _ => none

/-- All that has happened. -/
def trace : Attempt → List Event
  | .error _ => []
  | .ok r => r.trace

theorem fault?_ok {r : Run} {e : ScanError} :
    fault? (.ok r) = some e ↔ r.outcome = .error e := by
  cases h : r.outcome <;> simp [fault?, h]

end Attempt

section
variable {β σ : Type} (files : Files) (lookup : Net.Lookup) (connect : Net.Connect)
  (hire : Order → Workers β σ × σ) (a : Arguments) (probes : List (Probe β))

/-- **The scan that a command line asks for**, with workers that are hired for it. -/
def attempt : Attempt :=
  match Order.ofArguments files lookup a with
  | .error e => .error (.error e)
  | .ok o =>
    match prepare o.config probes with
    | .error refusal => .error refusal
    | .ok warnings =>
      match reach connect o.target o.config with
      | .error fault => .ok ⟨warnings, [], .error fault⟩
      | .ok () => .ok (runWith (hire o).1 o.target.label warnings probes (hire o).2).1

end

/-- The workers in virtual time that a command line gets. -/
def World.hire {ε : Type} (w : World ε) (engine : ε) (o : Order) :
    Workers (Work ε) (VirtualTime ε) × VirtualTime ε :=
  (VirtualTime.workers (w.surroundings o), .start o.config.threads.toNat engine)

/-- With workers in virtual time it is the scan of `performArguments`. -/
theorem attempt_hire {ε : Type} (w : World ε) (engine : ε) (a : Arguments)
    (probes : List (Probe (Work ε))) :
    attempt w.files w.lookup w.connect (w.hire engine) a probes
      = (performArguments w a probes engine).map (·.2.1) := by
  unfold attempt performArguments
  cases Order.ofArguments w.files w.lookup a with
  | error e => rfl
  | ok o =>
      dsimp only [perform, World.surroundings]
      cases prepare o.config probes with
      | error refusal => rfl
      | ok warnings =>
          dsimp only [Except.map, execute]
          cases reach w.connect o.target o.config <;> rfl

section
variable {β σ : Type} {files : Files} {lookup : Net.Lookup} {connect : Net.Connect}
  {hire : Order → Workers β σ × σ} {a : Arguments} {probes : List (Probe β)} {e : ScanError}

/-- **Which errors are setup failures.**  Take probes that have the default substitute and
hand back facts, if anything, and a command line whose scan ends with an error.  If its
file gives parameters, or it names none, the error counts as a setup failure exactly if no
probe was handed out.  Otherwise no probe was handed out either, but the error does not
count. -/
theorem setup_failure_iff (hsub : ∀ p ∈ probes, p.HasDefaultSubstitute)
    (hf : FactResults (attempt files lookup connect hire a probes).trace)
    (he : (attempt files lookup connect hire a probes).fault? = some e) :
    (a.ReadsFile files → (e.isSetupFailure = true
        ↔ ∀ p, ¬ HandedOut (attempt files lookup connect hire a probes).trace p))
      ∧ (¬ a.ReadsFile files → e.isSetupFailure = false
        ∧ ∀ p, ¬ HandedOut (attempt files lookup connect hire a probes).trace p) := by
  have hnone : ∀ p, ¬ HandedOut [] p := fun p ⟨_, h⟩ => List.not_mem_nil h
  unfold attempt at hf he ⊢
  cases ho : Order.ofArguments files lookup a with
  | error e' =>
      simp only [ho] at he ⊢
      cases he
      have hiff := isSetupFailure_iff_of_order ho
      refine ⟨fun hreads => iff_of_true (hiff.mpr hreads) hnone, fun hunread => ⟨?_, hnone⟩⟩
      exact Bool.eq_false_iff.mpr fun h => hunread (hiff.mp h)
  | ok o =>
      simp only [ho] at hf he ⊢
      refine ⟨fun _ => ?_, fun hunread => absurd (readsFile_of_order ho) hunread⟩
      cases hp : prepare o.config probes with
      | error refusal =>
          simp only [hp] at he ⊢
          cases refusal <;> cases he
          exact iff_of_true (isSetupFailure_of_prepare hp) hnone
      | ok warnings =>
          simp only [hp] at hf he ⊢
          cases hr : reach connect o.target o.config with
          | error fault =>
              simp only [hr] at he ⊢
              cases he
              exact iff_of_true (isSetupFailure_of_reach hr) hnone
          | ok u =>
              -- The scan itself fails, so something was handed out.
              simp only [hr] at hf he ⊢
              simp only [Attempt.trace, trace_runWith] at hf ⊢
              have hfault := outcome_runWith_eq_error_iff.mp (Attempt.fault?_ok.mp he)
              have hphase : (final (hire o).1 o.target.label probes (hire o).2).phase
                  = .stopped (some e) := by
                rw [final, hfault]
              obtain ⟨hfalse, p, hout⟩ := (passes_final ..).fault (nodup_of_prepare hp) hsub
                hf hphase
              exact iff_of_false (by simp [hfalse]) fun h => h p hout

end

namespace Sample

/-- There is one file, and it is not well formed. -/
def files : Files := fun _ => some "threads = \"eight\"\n".toUTF8

/-- A command line that may name the file. -/
def arguments (config : Option String) : Arguments :=
  { target := some "127.0.0.1:443", config := config }

/-- The scan that it asks for, of probes one of which is not as declared. -/
def attempt (config : Option String) : Attempt :=
  Scan.attempt files (fun _ => .error ⟨"no such host", []⟩) (fun _ _ => .ok ())
    (fun _ => (VirtualTime.workers surroundings, .start 2 ())) (arguments config) defective

theorem hasDefaultSubstitute_defective : ∀ p ∈ defective, p.HasDefaultSubstitute :=
  List.forall_mem_cons.mpr ⟨fun _ => rfl, hasDefaultSubstitute⟩

/-- Without the file there is a scan. -/
theorem attempt_none : attempt none = .ok (runWith (VirtualTime.workers surroundings)
    "127.0.0.1:443" (ProbeSet.warnings (defective.map Probe.declaration)) defective
    (.start 2 ())).1 := by
  have horder : Order.ofArguments files (fun _ => .error ⟨"no such host", []⟩)
      (arguments none) = .ok ⟨⟨"127.0.0.1", 443, [.v4 ⟨127, 0, 0, 1⟩]⟩, {}⟩ := by cbv
  have hcheck : (ProbeSet.check (defective.map Probe.declaration)).isOk = true := by cbv
  have hprepare := prepare_of_check hcheck
  unfold attempt Scan.attempt
  rw [horder]
  dsimp only
  rw [hprepare]
  rfl

/-- With the file there is none. -/
theorem attempt_malformed : attempt (some "scan.toml")
    = .error (.error (.malformedConfig "invalid value for threads")) := by
  have htext : Config.readText files "scan.toml" = .ok "threads = \"eight\"\n" := by
    simp [Config.readText, files, String.fromUTF8?, String.fromUTF8,
      String.isValidUTF8]
  have hmalformed : Config.ofText "threads = \"eight\"\n"
      = .error (.malformedConfig "invalid value for threads") := by cbv
  have hload : Config.load files "scan.toml"
      = .error (.malformedConfig "invalid value for threads") := by
    unfold Config.load
    rw [htext]
    simp only [bind, Except.bind, hmalformed]
  unfold attempt Scan.attempt Order.ofArguments Config.ofArguments
  simp only [arguments, hload, bind, Except.bind]

end Sample

theorem setup_failure_iff_sample :
    (∀ p ∈ Sample.defective, p.HasDefaultSubstitute)
      ∧ FactResults (Sample.attempt none).trace
      ∧ (Sample.attempt none).fault? = some (.undeclaredProperty .compression .supportsRsa)
      ∧ ∃ p, HandedOut (Sample.attempt none).trace p := by
  have hf : FactResults (Sample.attempt none).trace := by
    rw [Sample.attempt_none]
    have hfollow : Follows (fun p => if p = .compression then .facts Sample.facts
        else Sample.fateOf p) (Coordinator.scan (VirtualTime.workers Sample.surroundings)
          "127.0.0.1:443" Sample.defective (.start 2 ())).1.trace := by decide +kernel
    rw [Attempt.trace, trace_runWith]
    exact hfollow.factResults
  have he : (Sample.attempt none).fault?
      = some (.undeclaredProperty .compression .supportsRsa) := by
    rw [Sample.attempt_none, Attempt.fault?_ok, outcome_runWith_eq_error_iff]
    decide +kernel
  have hreads : (Sample.arguments none).ReadsFile Sample.files := nofun
  -- The error does not count, so something was handed out.
  have hiff := (setup_failure_iff Sample.hasDefaultSubstitute_defective hf he).1 hreads
  refine ⟨Sample.hasDefaultSubstitute_defective, hf, he, ?_⟩
  by_contra hnone
  cases hiff.mpr fun p hp => hnone ⟨p, hp⟩

/-- **An error that keeps a scan from starting need not count.**  A file that is not well
formed leaves nothing to be handed out, but its error is no setup failure. -/
theorem setup_failure_unread :
    (∀ p ∈ Sample.defective, p.HasDefaultSubstitute)
      ∧ FactResults (Sample.attempt (some "scan.toml")).trace
      ∧ ∃ e, (Sample.attempt (some "scan.toml")).fault? = some e
        ∧ ¬ (e.isSetupFailure = true
          ↔ ∀ p, ¬ HandedOut (Sample.attempt (some "scan.toml")).trace p) := by
  rw [Sample.attempt_malformed]
  refine ⟨Sample.hasDefaultSubstitute_defective, nofun, _, rfl, fun hiff => ?_⟩
  cases hiff.mpr fun p ⟨_, h⟩ => List.not_mem_nil h

end Scan

end TlsScan
