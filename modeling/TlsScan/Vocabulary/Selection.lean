import TlsScan.Vocabulary

/-!
# Sets of vocabulary values

A `Selection α` is a set of values of the vocabulary `α`.  It is its membership test, so
sets with the same members are equal; `toList` lists the members in vocabulary order.

## Main Definitions

* `Selection.contains`, `Selection.insert`, `Selection.insertAll` — membership and growth.
* `Selection.toList`, `Selection.ofList` — the members in vocabulary order, and back.
* `Selection.difference` — the members of one set that another lacks.
-/

namespace TlsScan

/-- A set of vocabulary values. -/
structure Selection (α : Type) where
  /-- Whether a value is a member. -/
  contains : α → Bool

namespace Selection

variable {α : Type}

/-- The set without members. -/
def empty : Selection α := ⟨fun _ => false⟩

instance : Inhabited (Selection α) := ⟨empty⟩

/-- Sets with the same members are equal. -/
@[ext] theorem ext {s t : Selection α} (h : ∀ a, s.contains a = t.contains a) : s = t := by
  cases s; cases t; congr; exact funext h

/-- Add one member. -/
def insert [DecidableEq α] (s : Selection α) (a : α) : Selection α :=
  ⟨fun k => decide (k = a) || s.contains k⟩

/-- Add every value of a list. -/
def insertAll [DecidableEq α] (s : Selection α) (l : List α) : Selection α :=
  ⟨fun k => l.contains k || s.contains k⟩

/-- The set of the values of a list. -/
def ofList [DecidableEq α] (l : List α) : Selection α := insertAll empty l

/-- The members that `t` lacks. -/
def difference (s t : Selection α) : Selection α :=
  ⟨fun k => s.contains k && !t.contains k⟩

/-- The members in vocabulary order. -/
def toList [Vocabulary α] (s : Selection α) : List α :=
  (Vocabulary.values : List α).filter s.contains

/-- Whether there is no member. -/
def isEmpty [Vocabulary α] (s : Selection α) : Bool := s.toList.isEmpty

@[simp] theorem contains_empty (a : α) : (empty : Selection α).contains a = false := rfl

@[simp] theorem contains_insert [DecidableEq α] (s : Selection α) (a k : α) :
    (s.insert a).contains k = (decide (k = a) || s.contains k) := rfl

@[simp] theorem contains_insertAll [DecidableEq α] (s : Selection α) (l : List α) (k : α) :
    (s.insertAll l).contains k = (l.contains k || s.contains k) := rfl

@[simp] theorem contains_ofList [DecidableEq α] (l : List α) (k : α) :
    (ofList l).contains k = l.contains k := by
  simp [ofList]

@[simp] theorem contains_difference (s t : Selection α) (k : α) :
    (s.difference t).contains k = (s.contains k && !t.contains k) := rfl

/-- The listed values are exactly the members. -/
@[simp] theorem mem_toList [Vocabulary α] {s : Selection α} {a : α} :
    a ∈ s.toList ↔ s.contains a = true := by
  simp [toList, Vocabulary.complete]

/-- A set is the set of its listed members. -/
@[simp] theorem ofList_toList [Vocabulary α] [DecidableEq α] (s : Selection α) :
    ofList s.toList = s := by
  ext a
  rw [contains_ofList, Bool.eq_iff_iff, List.contains_iff_mem, mem_toList]

/-- Equality of sets is decided value by value. -/
instance [Vocabulary α] : DecidableEq (Selection α) := fun s t =>
  if h : ∀ a ∈ (Vocabulary.values : List α), s.contains a = t.contains a then
    .isTrue (ext fun a => h a (Vocabulary.complete a))
  else
    .isFalse fun e => h fun _ _ => e ▸ rfl

end Selection

end TlsScan
