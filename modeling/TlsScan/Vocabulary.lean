/-!
# Finite vocabularies

The facts a scan speaks about (probes, properties, protocol versions, extensions,
message kinds, …) come from closed lists of names.  A `Vocabulary` is such a list,
in its order of declaration, together with the written word of every value.

## Main Definitions

* `Vocabulary` — the ordered, complete, duplicate-free list of values and their words.
* `Vocabulary.ofWord?` — the value a word stands for.
* `Vocabulary.rank` — the position of a value, which is the order reports are kept in.

## Design Notes

One list per type decides order, look-up and spelling, so no second table can drift
apart from it.  `ofWord?_word` and `word_injective` say that writing and reading a word
are inverse to each other.
-/

namespace TlsScan

/-- **A closed list of named values.**  `values` lists every value once, in the order in
which reports keep them; `word` is the spelling of a value in serialized text. -/
class Vocabulary (α : Type) where
  /-- Every value, in order of declaration. -/
  values : List α
  /-- The spelling of a value in serialized text. -/
  word : α → String
  /-- No value is left out. -/
  complete : ∀ a, a ∈ values
  /-- No word is used twice. -/
  distinct : (values.map word).Nodup

namespace Vocabulary

variable {α : Type} [Vocabulary α]

/-- The value that a word stands for. -/
def ofWord? (w : String) : Option α :=
  (values : List α).find? fun a => word a == w

/-- The position of a value in its vocabulary. -/
def rank [BEq α] (a : α) : Nat :=
  (values : List α).idxOf a

/-- No value is listed twice, because its word would be. -/
theorem values_nodup : (values : List α).Nodup :=
  List.Pairwise.of_map (S := (· ≠ ·)) word (fun _ _ h e => h (e ▸ rfl)) distinct

/-- Two values never share a position. -/
theorem rank_injective [BEq α] [LawfulBEq α] {a b : α} (h : rank a = rank b) : a = b := by
  have hat : ∀ c : α, (values : List α)[rank c]? = some c := fun c => by
    have hlt := List.idxOf_lt_length_of_mem (complete c)
    rw [rank, List.getElem?_eq_getElem hlt, List.getElem_idxOf]
  exact Option.some.inj ((hat a).symm.trans (h ▸ hat b))

/-- In a list whose words differ, a word is found under its own value. -/
private theorem find?_word_of_nodup {l : List α} (h : (l.map word).Nodup) {a : α}
    (ha : a ∈ l) : l.find? (fun b => word b == word a) = some a := by
  induction l with
  | nil => cases ha
  | cons b l ih =>
    rw [List.map_cons, List.nodup_cons] at h
    rcases List.mem_cons.1 ha with rfl | ha
    · simp
    · have hne : word b ≠ word a := fun e => h.1 (e ▸ List.mem_map_of_mem ha)
      simp [hne, ih h.2 ha]

/-- Reading the word of a value gives that value back. -/
@[simp] theorem ofWord?_word (a : α) : ofWord? (word a) = some a :=
  find?_word_of_nodup distinct (complete a)

/-- Two values never share a word. -/
theorem word_injective {a b : α} (h : word a = word b) : a = b := by
  have := ofWord?_word a
  rw [h, ofWord?_word] at this
  exact (Option.some.inj this).symm

/-- A word is read as `a` exactly when it is the word of `a`. -/
theorem ofWord?_eq_some_iff {w : String} {a : α} : ofWord? w = some a ↔ word a = w := by
  constructor
  · intro h
    simpa using List.find?_some h
  · rintro rfl
    exact ofWord?_word a

end Vocabulary

end TlsScan
