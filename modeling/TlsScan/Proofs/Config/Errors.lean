import TlsScan.CommandLine

/-!
# Errors of configurations

Reading a configuration can fail in three ways, one after the other: the file has no text,
the text gives no parameters, or the parameters are not valid.  Each has errors of its own,
so an error tells how far the reading has come.

## Main Definitions

* `Config.Gives` — a file is there and gives parameters.
* `Arguments.ReadsFile` — so does the file of a command line, if it names one.

## Main Results

* `Config.isSetupFailure_iff_of_load`, `Config.isSetupFailure_iff_of_ofArguments` — an
  error counts as a setup failure exactly if parameters were given.
* `Config.validate_of_ofArguments` — configurations from command lines are valid.
-/

namespace TlsScan

/-! ## Failing in one of two steps -/

section
variable {ε α β : Type} {x : Except ε α} {f : α → Except ε β}

/-- Two steps succeed if both do. -/
theorem bind_eq_ok_iff {b : β} : (x >>= f) = .ok b ↔ ∃ a, x = .ok a ∧ f a = .ok b := by
  cases x <;> simp [bind, Except.bind]

/-- Two steps fail if the first one does, or the second one after it. -/
theorem bind_eq_error_iff {e : ε} :
    (x >>= f) = .error e ↔ x = .error e ∨ ∃ a, x = .ok a ∧ f a = .error e := by
  cases x <;> simp [bind, Except.bind]

/-- A step that nothing follows but a return fails by itself. -/
theorem error_of_bind_pure {g : α → β} {e : ε} (h : (x >>= fun a => pure (g a)) = .error e) :
    x = .error e := by
  rcases bind_eq_error_iff.mp h with h | ⟨a, -, h⟩
  · exact h
  · cases h

end

namespace Config

variable {files : Files} {path : String} {e : ScanError}

/-! ## Texts that give no parameters -/

section
variable {key : String} {v : Toml}

theorem error_of_number (h : number key v = .error e) : e = wrongKind key := by
  unfold number at h
  split at h
  · split at h <;> cases h
    rfl
  · cases h; rfl

theorem error_of_truth (h : truth key v = .error e) : e = wrongKind key := by
  unfold truth at h
  split at h <;> cases h
  rfl

theorem error_of_thoroughnessOf (h : thoroughnessOf key v = .error e) :
    e = wrongKind key := by
  unfold thoroughnessOf at h
  split at h <;> cases h
  rfl

end

/-- **An entry fails only because its value is of the wrong kind.** -/
theorem error_of_setEntry {c : Config} {entry : String × Toml}
    (h : setEntry c entry = .error e) : e = wrongKind entry.1 := by
  unfold setEntry at h
  split at h
  · exact error_of_number (error_of_bind_pure h)
  · exact error_of_thoroughnessOf (error_of_bind_pure h)
  · exact error_of_number (error_of_bind_pure h)
  · exact error_of_number (error_of_bind_pure h)
  · exact error_of_number (error_of_bind_pure h)
  · exact error_of_truth (error_of_bind_pure h)
  · cases h

theorem error_of_foldlM_setEntry {entries : List (String × Toml)} {c : Config}
    (h : entries.foldlM setEntry c = .error e) : ∃ key, e = wrongKind key := by
  induction entries generalizing c with
  | nil => cases h
  | cons entry entries ih =>
      rw [List.foldlM_cons, bind_eq_error_iff] at h
      rcases h with h | ⟨c', -, h⟩
      · exact ⟨_, error_of_setEntry h⟩
      · exact ih h

/-- A text that gives no parameters is malformed. -/
theorem error_of_ofText {text : String} (h : ofText text = .error e) :
    ∃ reason, e = .malformedConfig reason := by
  unfold ofText at h
  split at h
  · obtain ⟨key, rfl⟩ := error_of_foldlM_setEntry h
    exact ⟨_, rfl⟩
  · cases h; exact ⟨_, rfl⟩

/-- A file without a text cannot be read. -/
theorem error_of_readText (h : readText files path = .error e) : ∃ text, e = .io text := by
  unfold readText at h
  split at h
  · cases h; exact ⟨_, rfl⟩
  · split at h <;> cases h
    exact ⟨_, rfl⟩

/-- Parameters that are not valid are a fault of the configuration. -/
theorem error_of_validate {c : Config} (h : c.validate = .error e) :
    ∃ f, e = .config f := by
  unfold validate at h
  split at h <;> cases h
  exact ⟨_, rfl⟩

/-! ## Files that give parameters -/

/-- **A file is there and gives parameters**: it is a text, and the text is well formed.
The parameters need not be valid. -/
def Gives (files : Files) (path : String) : Prop :=
  ∃ text c, readText files path = .ok text ∧ ofText text = .ok c

theorem gives_of_load {c : Config} (h : load files path = .ok c) : Gives files path := by
  obtain ⟨text, htext, h⟩ := bind_eq_ok_iff.mp h
  obtain ⟨c', hc, -⟩ := bind_eq_ok_iff.mp h
  exact ⟨text, c', htext, hc⟩

/-- **The error of a file counts as a setup failure exactly if the file gives
parameters**, which are then not valid. -/
theorem isSetupFailure_iff_of_load (h : load files path = .error e) :
    e.isSetupFailure = true ↔ Gives files path := by
  rcases bind_eq_error_iff.mp h with htext | ⟨text, htext, h⟩
  · obtain ⟨_, rfl⟩ := error_of_readText htext
    refine iff_of_false nofun ?_
    rintro ⟨_, _, h, -⟩
    cases htext.symm.trans h
  rcases bind_eq_error_iff.mp h with hc | ⟨c, hc, h⟩
  · obtain ⟨_, rfl⟩ := error_of_ofText hc
    refine iff_of_false nofun ?_
    rintro ⟨text', _, h, h'⟩
    cases htext.symm.trans h
    cases hc.symm.trans h'
  · obtain ⟨_, rfl⟩ := error_of_validate h
    exact iff_of_true rfl ⟨text, c, htext, hc⟩

end Config

/-- **The file of a command line gives parameters**, if it names one. -/
def Arguments.ReadsFile (files : Files) (a : Arguments) : Prop :=
  ∀ path, a.config = some path → Config.Gives files path

namespace Config

variable {files : Files} {a : Arguments} {e : ScanError}

/-- The parameters that a command line is laid over. -/
def base (files : Files) (a : Arguments) : Except ScanError Config :=
  match a.config with
  | some path => load files path
  | none => .ok default

theorem ofArguments_eq :
    ofArguments files a = base files a >>= fun c => (c.overlay a).validate := by
  unfold ofArguments base
  cases a.config <;> rfl

theorem readsFile_of_base {c : Config} (h : base files a = .ok c) : a.ReadsFile files := by
  intro path hpath
  rw [base, hpath] at h
  exact gives_of_load h

theorem isSetupFailure_iff_of_base (h : base files a = .error e) :
    e.isSetupFailure = true ↔ a.ReadsFile files := by
  unfold base at h
  unfold Arguments.ReadsFile
  split at h
  · rename_i path hpath
    rw [isSetupFailure_iff_of_load h, hpath]
    simp
  · cases h

theorem readsFile_of_ofArguments {c : Config} (h : ofArguments files a = .ok c) :
    a.ReadsFile files := by
  rw [ofArguments_eq, bind_eq_ok_iff] at h
  obtain ⟨b, hb, -⟩ := h
  exact readsFile_of_base hb

/-- **The error of a command line's parameters counts as a setup failure exactly if its
file gives parameters.** -/
theorem isSetupFailure_iff_of_ofArguments (h : ofArguments files a = .error e) :
    e.isSetupFailure = true ↔ a.ReadsFile files := by
  rw [ofArguments_eq, bind_eq_error_iff] at h
  rcases h with hb | ⟨b, hb, h⟩
  · exact isSetupFailure_iff_of_base hb
  · obtain ⟨_, rfl⟩ := error_of_validate h
    exact iff_of_true rfl (readsFile_of_base hb)

/-! ## Valid configurations -/

section
variable {c c' : Config} {files : Files}

/-- A configuration that passes its check is handed back as it is. -/
theorem eq_of_validate (h : c.validate = .ok c') : c' = c := by
  unfold validate at h
  split at h <;> cases h
  rfl

theorem validate_self (h : c.validate = .ok c') : c'.validate = .ok c' := by
  obtain rfl := eq_of_validate h
  exact h

theorem isOk_validate_iff : c.validate.isOk = true ↔ c.validate = .ok c := by
  constructor
  · intro h
    cases hc : c.validate with
    | error e => rw [hc] at h; exact nomatch h
    | ok c' => rw [eq_of_validate hc]
  · intro h
    rw [h]
    rfl

/-- **Every configuration from a command line is valid.** -/
theorem validate_of_ofArguments {a : Arguments} (h : ofArguments files a = .ok c) :
    c.validate = .ok c := by
  rw [ofArguments_eq, bind_eq_ok_iff] at h
  obtain ⟨base, -, h⟩ := h
  exact validate_self h

/-- Seconds become milliseconds, up to the greatest number. -/
theorem toNat_millisOfSeconds (s : UInt64) :
    (millisOfSeconds s).toNat = min (s.toNat * 1000) (UInt64.size - 1) := by
  refine UInt64.toNat_ofNat_of_lt' (Nat.lt_of_le_of_lt (Nat.min_le_right ..) ?_)
  decide

end

end Config

end TlsScan
