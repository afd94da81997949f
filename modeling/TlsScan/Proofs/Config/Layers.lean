import Mathlib
import TlsScan.Proofs.Config.Errors
import TlsScan.Proofs.Toml.Keys

/-!
# Layers of a configuration

The parameters of a scan come from a command line, over a file, over the defaults.  What a
file sets is a layer, and so is what a command line sets: values for some of the parameters.
The parameters in force take each value from the uppermost layer that has one.

They are checked twice, though.  A file is checked when it is loaded, before a command line
is laid over it, so a file whose own parameters cannot be run is refused even where the
command line would have replaced them.

## Main Definitions

* `Config.Layer` — values for some of the parameters.
* `Config.Layer.onto` — parameters with a layer over them.
* `Config.Sets` — what the entries of a file set.
* `Config.effective` — the parameters in force.

## Main Results

* `Config.foldlM_setEntry` — a file lays what it sets over the parameters that were there,
  in whatever order it sets it.
* `Config.ofArguments_eq_of_fileSets` — the two checks.
* `Config.ofArguments_effective_iff` — which parameters a command line gives, and when.
-/

namespace TlsScan.Config

open Toml

/-! ## Layers -/

/-- **Values for some of the parameters.** -/
structure Layer where
  threads : Option UInt64 := none
  thoroughness : Option Thoroughness := none
  watchdogMillis : Option UInt64 := none
  forceJoinMillis : Option UInt64 := none
  connectMillis : Option UInt64 := none
  checkReachability : Option Bool := none
  deriving DecidableEq, Repr

namespace Layer

/-- Parameters with a layer over them. -/
def onto (l : Layer) (c : Config) : Config where
  threads := l.threads.getD c.threads
  thoroughness := l.thoroughness.getD c.thoroughness
  watchdogMillis := l.watchdogMillis.getD c.watchdogMillis
  forceJoinMillis := l.forceJoinMillis.getD c.forceJoinMillis
  connectMillis := l.connectMillis.getD c.connectMillis
  checkReachability := l.checkReachability.getD c.checkReachability

/-- What a command line sets: times in seconds, and the check of the target only off. -/
def ofArguments (a : Arguments) : Layer where
  threads := a.threads
  thoroughness := a.thoroughness
  watchdogMillis := a.watchdog.map millisOfSeconds
  forceJoinMillis := a.forceJoin.map millisOfSeconds
  connectMillis := a.connect.map millisOfSeconds
  checkReachability := if a.noReachabilityCheck then some false else none

end Layer

/-- A command line is laid over parameters as the layer that it is. -/
theorem overlay_eq (c : Config) (a : Arguments) : c.overlay a = (Layer.ofArguments a).onto c := by
  unfold overlay Layer.onto Layer.ofArguments
  cases a.noReachabilityCheck <;> rfl

/-! ## What a file sets -/

/-- A value spells a number, -/
def SpellsNumber (v : Toml) (n : UInt64) : Prop := v = .integer n.toNat

/-- or a degree of thoroughness, -/
def SpellsThoroughness (v : Toml) (t : Thoroughness) : Prop :=
  wordOf? v = some (Vocabulary.word t)

/-- or a truth value. -/
def SpellsTruth (v : Toml) (b : Bool) : Prop := v = .boolean b

/-- **What the entries of a file set**: each parameter that has an entry, to the value that
is spelled there.  The order of the entries does not count, and nor do other keys. -/
structure Sets (entries : List (String × Toml)) (l : Layer) : Prop where
  threads : Option.Rel SpellsNumber (entries.lookup "threads") l.threads
  thoroughness : Option.Rel SpellsThoroughness (entries.lookup "scan_detail") l.thoroughness
  watchdogMillis :
    Option.Rel SpellsNumber (entries.lookup "watchdog_interval_ms") l.watchdogMillis
  forceJoinMillis :
    Option.Rel SpellsNumber (entries.lookup "force_join_timeout_ms") l.forceJoinMillis
  connectMillis :
    Option.Rel SpellsNumber (entries.lookup "connect_timeout_ms") l.connectMillis
  checkReachability :
    Option.Rel SpellsTruth (entries.lookup "check_reachability") l.checkReachability

section
variable {entries : List (String × Toml)} {l : Layer} {c : Config} {k : String} {v : Toml}

/-- A number is read as it is spelled, -/
theorem number_eq {n : UInt64} (h : SpellsNumber v n) : number k v = .ok n := by
  obtain rfl := h
  have hbound : (0 : Int) ≤ n.toNat ∧ (n.toNat : Int) < UInt64.size :=
    ⟨Int.natCast_nonneg _, Int.ofNat_lt.mpr n.toNat_lt⟩
  rw [number, if_pos hbound, Int.toNat_natCast, UInt64.ofNat_toNat]

/-- and so is a degree of thoroughness, -/
theorem thoroughnessOf_eq {t : Thoroughness} (h : SpellsThoroughness v t) :
    thoroughnessOf k v = .ok t := by
  have hword : (wordOf? v).bind Vocabulary.ofWord? = some t := by
    rw [h]
    exact Vocabulary.ofWord?_word t
  rw [thoroughnessOf, hword]

/-- and a truth value. -/
theorem truth_eq {b : Bool} (h : SpellsTruth v b) : truth k v = .ok b := by
  obtain rfl := h
  rfl

/-! ### One entry after the other -/

/-- A layer without the value of one key. -/
def Layer.without (k : String) (l : Layer) : Layer where
  threads := if k = "threads" then none else l.threads
  thoroughness := if k = "scan_detail" then none else l.thoroughness
  watchdogMillis := if k = "watchdog_interval_ms" then none else l.watchdogMillis
  forceJoinMillis := if k = "force_join_timeout_ms" then none else l.forceJoinMillis
  connectMillis := if k = "connect_timeout_ms" then none else l.connectMillis
  checkReachability := if k = "check_reachability" then none else l.checkReachability

section
variable {α : Type} {spells : Toml → α → Prop} {key : String} {x : Option α}

theorem rel_head (h : Option.Rel spells (((k, v) :: entries).lookup key) x) (hkey : k = key) :
    ∃ a, x = some a ∧ spells v a := by
  rw [hkey, List.lookup_cons_self] at h
  cases h with
  | some h => exact ⟨_, rfl, h⟩

theorem rel_tail (h : Option.Rel spells (((k, v) :: entries).lookup key) x)
    (hk : k ∉ entries.map Prod.fst) :
    Option.Rel spells (entries.lookup key) (if k = key then none else x) := by
  by_cases hkey : k = key
  · have hnone : entries.lookup key = none := by
      refine List.lookup_eq_none_iff.mpr fun e he => bne_iff_ne.mpr ?_
      rintro rfl
      exact hk (hkey ▸ List.mem_map_of_mem he)
    rw [hnone, if_pos hkey]
    exact Option.Rel.none
  · rw [List.lookup_cons, beq_eq_false_iff_ne.mpr (Ne.symm hkey)] at h
    rwa [if_neg hkey]

end

/-- What the first entry does not set is set by the others. -/
theorem Sets.tail (h : Sets ((k, v) :: entries) l) (hk : k ∉ entries.map Prod.fst) :
    Sets entries (l.without k) where
  threads := rel_tail h.threads hk
  thoroughness := rel_tail h.thoroughness hk
  watchdogMillis := rel_tail h.watchdogMillis hk
  forceJoinMillis := rel_tail h.forceJoinMillis hk
  connectMillis := rel_tail h.connectMillis hk
  checkReachability := rel_tail h.checkReachability hk

/-- **The first entry sets its parameter**, and the others are laid over it. -/
theorem Sets.setEntry_head (h : Sets ((k, v) :: entries) l) :
    ∃ c', setEntry c (k, v) = .ok c' ∧ (l.without k).onto c' = l.onto c := by
  unfold setEntry
  split
  · next hk =>
      obtain ⟨n, hn, hv⟩ := rel_head h.threads hk
      refine ⟨{ c with threads := n }, ?_, ?_⟩
      · rw [number_eq hv]
        rfl
      · simp [Layer.onto, Layer.without, hn, show k = _ from hk]
  · next hk =>
      obtain ⟨t, ht, hv⟩ := rel_head h.thoroughness hk
      refine ⟨{ c with thoroughness := t }, ?_, ?_⟩
      · rw [thoroughnessOf_eq hv]
        rfl
      · simp [Layer.onto, Layer.without, ht, show k = _ from hk]
  · next hk =>
      obtain ⟨n, hn, hv⟩ := rel_head h.watchdogMillis hk
      refine ⟨{ c with watchdogMillis := n }, ?_, ?_⟩
      · rw [number_eq hv]
        rfl
      · simp [Layer.onto, Layer.without, hn, show k = _ from hk]
  · next hk =>
      obtain ⟨n, hn, hv⟩ := rel_head h.forceJoinMillis hk
      refine ⟨{ c with forceJoinMillis := n }, ?_, ?_⟩
      · rw [number_eq hv]
        rfl
      · simp [Layer.onto, Layer.without, hn, show k = _ from hk]
  · next hk =>
      obtain ⟨n, hn, hv⟩ := rel_head h.connectMillis hk
      refine ⟨{ c with connectMillis := n }, ?_, ?_⟩
      · rw [number_eq hv]
        rfl
      · simp [Layer.onto, Layer.without, hn, show k = _ from hk]
  · next hk =>
      obtain ⟨b, hb, hv⟩ := rel_head h.checkReachability hk
      refine ⟨{ c with checkReachability := b }, ?_, ?_⟩
      · rw [truth_eq hv]
        rfl
      · simp [Layer.onto, Layer.without, hb, show k = _ from hk]
  · exact ⟨c, rfl, by simp_all [Layer.onto, Layer.without]⟩

/-- **A file lays what it sets over the parameters** that were there. -/
theorem foldlM_setEntry (h : Sets entries l) (hkeys : (entries.map Prod.fst).Nodup) :
    entries.foldlM setEntry c = .ok (l.onto c) := by
  induction entries generalizing l c with
  | nil =>
      obtain ⟨threads, thoroughness, watchdogMillis, forceJoinMillis, connectMillis,
        checkReachability⟩ := l
      obtain ⟨⟨⟩, ⟨⟩, ⟨⟩, ⟨⟩, ⟨⟩, ⟨⟩⟩ := h
      rfl
  | cons e entries ih =>
      obtain ⟨k, v⟩ := e
      obtain ⟨hk, hkeys⟩ := List.nodup_cons.mp hkeys
      obtain ⟨c', hc', hover⟩ := h.setEntry_head (c := c)
      rw [List.foldlM_cons, hc']
      exact (ih (h.tail hk) hkeys).trans (congrArg Except.ok hover)

end

/-! ## The parameters in force -/

/-- **What the file of a command line sets**, if the command line names one: the file is
there, it is well formed, and every parameter that it has is spelled as it should be. -/
def FileSets (files : Files) (a : Arguments) (l : Layer) : Prop :=
  match a.config with
  | none => l = {}
  | some path => ∃ text entries, readText files path = .ok text
      ∧ Toml.parse? text = some entries ∧ Sets entries l

/-- **The parameters in force**: those of the command line, over those of the file, over
the defaults. -/
def effective (a : Arguments) (l : Layer) : Config :=
  (Layer.ofArguments a).onto (l.onto default)

section
variable {files : Files} {a : Arguments} {l : Layer}

/-- The parameters that a command line is laid over are those of the file, if these can be
run by themselves. -/
theorem base_eq_of_fileSets (h : FileSets files a l) :
    base files a = (l.onto default).validate := by
  unfold FileSets at h
  unfold base
  cases hpath : a.config with
  | none =>
      rw [hpath] at h
      obtain rfl : l = {} := h
      rfl
  | some path =>
      rw [hpath] at h
      obtain ⟨text, entries, htext, hentries, hsets⟩ := h
      have hload : ofText text = .ok (l.onto default) := by
        rw [ofText, hentries]
        exact foldlM_setEntry hsets (nodup_keys_of_parse? hentries)
      show load files path = _
      rw [load, htext]
      show (ofText text).bind _ = _
      rw [hload]
      rfl

/-- **There are two checks**: first of the parameters of the file, then of those in
force. -/
theorem ofArguments_eq_of_fileSets (h : FileSets files a l) :
    ofArguments files a
      = (l.onto default).validate >>= fun _ => (effective a l).validate := by
  rw [ofArguments_eq, base_eq_of_fileSets h]
  cases hfile : (l.onto default).validate with
  | error e => rfl
  | ok c =>
      obtain rfl := eq_of_validate hfile
      show (overlay _ a).validate = (effective a l).validate
      rw [overlay_eq, effective]

/-- **Which parameters a command line gives, and when.**  They are those in force, whatever
the file sets and in whatever order.  But they are given only if the parameters of the file
can be run by themselves, and the fault of those comes first. -/
theorem ofArguments_effective_iff (h : FileSets files a l) :
    (∀ c, ofArguments files a = .ok c ↔
        (l.onto default).validate.isOk ∧ (effective a l).validate.isOk ∧ c = effective a l)
      ∧ ∀ e, ofArguments files a = .error e ↔
          (l.onto default).validate = .error e
            ∨ (l.onto default).validate.isOk ∧ (effective a l).validate = .error e := by
  rw [ofArguments_eq_of_fileSets h]
  simp only [isOk_validate_iff]
  refine ⟨fun c => ?_, fun e => ?_⟩
  · rw [bind_eq_ok_iff]
    constructor
    · rintro ⟨b, hfile, hc⟩
      obtain rfl := eq_of_validate hfile
      obtain rfl := eq_of_validate hc
      exact ⟨hfile, hc, rfl⟩
    · rintro ⟨hfile, hc, rfl⟩
      exact ⟨_, hfile, hc⟩
  · rw [bind_eq_error_iff]
    refine or_congr_right ⟨?_, fun ⟨hfile, he⟩ => ⟨_, hfile, he⟩⟩
    rintro ⟨b, hfile, he⟩
    obtain rfl := eq_of_validate hfile
    exact ⟨hfile, he⟩

end

namespace Sample

/-- Any file has the same text. -/
def files (text : String) : Files := fun _ => some text.toUTF8

/-- A command line that names a file and sets two parameters. -/
def arguments : Arguments := { config := some "scan.toml", threads := some 4, connect := some 7 }

theorem readText_files (text : String) : readText (files text) "scan.toml" = .ok text := by
  have hdecode : String.fromUTF8? text.toUTF8 = some text := by
    simp [String.fromUTF8?, String.fromUTF8, text.isValidUTF8]
  rw [readText, files]
  show (match String.fromUTF8? text.toUTF8 with
    | none => _
    | some text => Except.ok text) = _
  rw [hdecode]

/-- A file that sets two parameters, one of which the command line sets too. -/
theorem fileSets : FileSets (files "scan_detail = \"all\"\nthreads = 2\n") arguments
    { threads := some 2, thoroughness := some .all } := by
  refine ⟨_, [("scan_detail", .string "all"), ("threads", .integer 2)], readText_files _, ?_, ?_⟩
  · cbv
  · constructor
    all_goals simp only [List.lookup, String.reduceBEq]
    all_goals constructor
    all_goals rfl

/-- A file that sets no number of threads with which a scan could run. -/
theorem fileSets_noThreads :
    FileSets (files "threads = 0\n") arguments { threads := some 0 } := by
  refine ⟨_, [("threads", .integer 0)], readText_files _, ?_, ?_⟩
  · cbv
  · constructor
    all_goals simp only [List.lookup, String.reduceBEq]
    all_goals constructor
    rfl

end Sample

theorem ofArguments_effective_iff_sample :
    FileSets (Sample.files "scan_detail = \"all\"\nthreads = 2\n") Sample.arguments
        { threads := some 2, thoroughness := some .all }
      ∧ ofArguments (Sample.files "scan_detail = \"all\"\nthreads = 2\n") Sample.arguments
        = .ok { threads := 4, thoroughness := .all, connectMillis := 7000 } := by
  refine ⟨Sample.fileSets, ?_⟩
  refine ((ofArguments_effective_iff Sample.fileSets).1 _).mpr ⟨?_, ?_, ?_⟩
  · decide
  · decide
  · decide +kernel

/-- **A file may be refused although the parameters in force can be run.** -/
theorem file_refused_under_valid :
    FileSets (Sample.files "threads = 0\n") Sample.arguments { threads := some 0 }
      ∧ (effective Sample.arguments { threads := some 0 }).validate.isOk
      ∧ ofArguments (Sample.files "threads = 0\n") Sample.arguments
        = .error (.config .noThreads) := by
  refine ⟨Sample.fileSets_noThreads, by decide, ?_⟩
  rw [ofArguments_eq_of_fileSets Sample.fileSets_noThreads]
  rfl

end TlsScan.Config
