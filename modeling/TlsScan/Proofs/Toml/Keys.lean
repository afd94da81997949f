import TlsScan.Toml.Parser

/-!
# Keys of tables

However a table is put together from lines, no key of it has two entries: every change of a
table either sets the entry of a key, or changes a table inside it.

## Main Definitions

* `Toml.Entries.keys` — the keys of a table that is being put together.

## Main Results

* `Toml.File.nodup_keys_add?`, `Toml.nodup_keys_of_foldlM` — a line, and a whole file.
* `Toml.nodup_keys_of_parse?` — the entries of a file have different keys.
-/

namespace TlsScan.Toml

namespace Entries

/-- The keys of a table. -/
def keys (es : Entries) : List String := es.map Prod.fst

variable {es es' : Entries} {k : String} {i : Item}

/-- Setting an entry adds its key, unless it is there. -/
theorem keys_set : keys (set k i es) = if k ∈ keys es then keys es else keys es ++ [k] := by
  induction es with
  | nil => rfl
  | cons e es ih =>
      rw [set]
      by_cases he : e.1 = k
      · rw [if_pos he, if_pos (he ▸ List.mem_cons_self)]
        exact congrArg (· :: keys es) he.symm
      · rw [if_neg he]
        show e.1 :: keys (set k i es) = if k ∈ e.1 :: keys es then _ else _
        have hmem : k ∈ e.1 :: keys es ↔ k ∈ keys es :=
          ⟨fun h => (List.mem_cons.mp h).resolve_left (Ne.symm he), List.mem_cons_of_mem _⟩
        rw [ih]
        simp only [hmem]
        split <;> rfl

theorem nodup_keys_set (h : (keys es).Nodup) : (keys (set k i es)).Nodup := by
  rw [keys_set]
  split
  · exact h
  · next hk =>
      refine List.nodup_append.mpr ⟨h, List.pairwise_singleton _ k, ?_⟩
      rintro a ha b hb rfl
      exact hk (List.mem_singleton.mp hb ▸ ha)

/-- **What changes a table below** leaves the keys different, if the change itself does. -/
theorem nodup_keys_modify? {through origin : Origin} {path : List String}
    {change : Origin → Entries → Option Entries}
    (hchange : ∀ {origin es es'}, change origin es = some es' → (keys es).Nodup →
      (keys es').Nodup)
    (h : modify? through change path origin es = some es') (hes : (keys es).Nodup) :
    (keys es').Nodup := by
  unfold modify? at h
  split at h
  · exact hchange h hes
  · -- The table of the first key of the path is set again, whatever happens inside it.
    split at h
    · obtain ⟨inner, -, h⟩ := Option.bind_eq_some_iff.mp h
      cases h
      exact nodup_keys_set hes
    · exact nomatch h
    · exact nomatch h
    · obtain ⟨inner, -, h⟩ := Option.bind_eq_some_iff.mp h
      cases h
      exact nodup_keys_set hes
    · split at h
      · exact nomatch h
      · obtain ⟨inner, -, h⟩ := Option.bind_eq_some_iff.mp h
        cases h
        exact nodup_keys_set hes

theorem nodup_keys_putValue? {path : List String} {v : Toml} {origin : Origin}
    (h : putValue? es path k v origin = some es') (hes : (keys es).Nodup) :
    (keys es').Nodup := by
  refine nodup_keys_modify? (fun h hes => ?_) h hes
  split at h
  · exact nomatch h
  · split at h
    · exact nomatch h
    · cases h
      exact nodup_keys_set hes

theorem nodup_keys_startTable? {path : List String}
    (h : startTable? es path k = some es') (hes : (keys es).Nodup) : (keys es').Nodup := by
  refine nodup_keys_modify? (fun h hes => ?_) h hes
  split at h
  · cases h
    exact nodup_keys_set hes
  · cases h
    exact nodup_keys_set hes
  · exact nomatch h

theorem nodup_keys_startElement? {path : List String}
    (h : startElement? es path k = some es') (hes : (keys es).Nodup) : (keys es').Nodup := by
  refine nodup_keys_modify? (fun h hes => ?_) h hes
  split at h
  · cases h
    exact nodup_keys_set hes
  · cases h
    exact nodup_keys_set hes
  · exact nomatch h

/-- The values of entries stand behind the same keys. -/
theorem keys_entriesToToml : (Item.entriesToToml es).map Prod.fst = keys es := by
  induction es with
  | nil => rw [Item.entriesToToml]; rfl
  | cons e es ih =>
      rw [Item.entriesToToml, List.map_cons, ih]
      rfl

end Entries

open Entries

/-- **A line leaves the keys different.** -/
theorem File.nodup_keys_add? {f f' : File} {l : Line} (h : f.add? l = some f')
    (hf : (keys f.entries).Nodup) : (keys f'.entries).Nodup := by
  cases l with
  | pair k v =>
      obtain ⟨es, hes, h⟩ := Option.bind_eq_some_iff.mp h
      cases h
      exact nodup_keys_modify? nodup_keys_putValue? hes hf
  | table k =>
      obtain ⟨es, hes, h⟩ := Option.bind_eq_some_iff.mp h
      cases h
      exact nodup_keys_startTable? hes hf
  | element k =>
      obtain ⟨es, hes, h⟩ := Option.bind_eq_some_iff.mp h
      cases h
      exact nodup_keys_startElement? hes hf

/-- **So do all lines of a file.** -/
theorem nodup_keys_of_foldlM {lines : List Line} {f f' : File}
    (h : lines.foldlM File.add? f = some f') (hf : (keys f.entries).Nodup) :
    (keys f'.entries).Nodup := by
  induction lines generalizing f with
  | nil => cases h; exact hf
  | cons l lines ih =>
      rw [List.foldlM_cons] at h
      obtain ⟨g, hg, h⟩ := Option.bind_eq_some_iff.mp h
      exact ih h (File.nodup_keys_add? hg hf)

/-- **The entries of a file have different keys.** -/
theorem nodup_keys_of_parse? {text : String} {entries : List (String × Toml)}
    (h : parse? text = some entries) : (entries.map Prod.fst).Nodup := by
  obtain ⟨lines, -, h⟩ := Option.bind_eq_some_iff.mp h
  obtain ⟨f, hf, rfl⟩ := Option.map_eq_some_iff.mp h
  rw [keys_entriesToToml]
  exact nodup_keys_of_foldlM hf List.nodup_nil

end TlsScan.Toml
