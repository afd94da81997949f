import TlsScan.Vocabulary

/-!
# Tables keyed by a vocabulary

A `Table α β` holds at most one entry per value of the vocabulary `α`.  It is its
look-up function, so two tables with the same entries are equal, and no order of
insertion is left behind; `entries` lists them in vocabulary order.

## Main Definitions

* `Table.get?`, `Table.insert`, `Table.contains` — look-up and update.
* `Table.entries` — the entries in vocabulary order.
* `Table.ofEntries` — entries written one after the other, the last one winning.
-/

namespace TlsScan

/-- At most one `β` for every `α`. -/
structure Table (α β : Type) where
  /-- The entry of a key. -/
  get? : α → Option β

namespace Table

variable {α β : Type}

/-- The table without entries. -/
def empty : Table α β := ⟨fun _ => none⟩

instance : Inhabited (Table α β) := ⟨empty⟩

/-- Two tables with the same look-ups are equal. -/
@[ext] theorem ext {s t : Table α β} (h : ∀ a, s.get? a = t.get? a) : s = t := by
  cases s; cases t; congr; exact funext h

/-- Set the entry of `a`, replacing the one it had. -/
def insert [DecidableEq α] (t : Table α β) (a : α) (b : β) : Table α β :=
  ⟨fun k => if k = a then some b else t.get? k⟩

/-- Whether `a` has an entry. -/
def contains (t : Table α β) (a : α) : Bool := (t.get? a).isSome

/-- The entries in vocabulary order. -/
def entries [Vocabulary α] (t : Table α β) : List (α × β) :=
  (Vocabulary.values : List α).filterMap fun a => (t.get? a).map (a, ·)

/-- The keys that have an entry, in vocabulary order. -/
def keys [Vocabulary α] (t : Table α β) : List α :=
  (Vocabulary.values : List α).filter t.contains

/-- The table of a list of entries; a later entry replaces an earlier one. -/
def ofEntries [DecidableEq α] (l : List (α × β)) : Table α β :=
  l.foldl (fun t e => t.insert e.1 e.2) empty

@[simp] theorem get?_empty (a : α) : (empty : Table α β).get? a = none := rfl

@[simp] theorem get?_insert [DecidableEq α] (t : Table α β) (a k : α) (b : β) :
    (t.insert a b).get? k = if k = a then some b else t.get? k := rfl

@[simp] theorem contains_empty (a : α) : (empty : Table α β).contains a = false := rfl

/-- An entry is there exactly when the look-up finds one. -/
theorem contains_iff {t : Table α β} {a : α} : t.contains a = true ↔ ∃ b, t.get? a = some b :=
  Option.isSome_iff_exists

@[simp] theorem contains_insert [DecidableEq α] (t : Table α β) (a k : α) (b : β) :
    (t.insert a b).contains k = (decide (k = a) || t.contains k) := by
  by_cases h : k = a <;> simp [contains, h]

/-- The listed entries are exactly those that a look-up finds. -/
theorem mem_entries [Vocabulary α] {t : Table α β} {a : α} {b : β} :
    (a, b) ∈ t.entries ↔ t.get? a = some b := by
  simp only [entries, List.mem_filterMap, Option.map_eq_some_iff, Prod.mk.injEq]
  constructor
  · rintro ⟨k, -, x, hx, rfl, rfl⟩
    exact hx
  · intro h
    exact ⟨a, Vocabulary.complete a, b, h, rfl, rfl⟩

/-- Equality of tables is decided key by key. -/
instance [Vocabulary α] [DecidableEq β] : DecidableEq (Table α β) := fun s t =>
  if h : ∀ a ∈ (Vocabulary.values : List α), s.get? a = t.get? a then
    .isTrue (ext fun a => h a (Vocabulary.complete a))
  else
    .isFalse fun e => h fun _ _ => e ▸ rfl

end Table

end TlsScan
