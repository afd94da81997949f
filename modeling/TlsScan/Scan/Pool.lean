/-!
# Pools

Work that waits for a free place, first come, first served.

## Main Definitions

* `Scan.Pool` — the work that is being done and the work that waits.
* `Scan.Pool.takeUp?` — gives a free place to the work that has waited longest.
* `Scan.Pool.all` — all work, in the order in which it came.

## Main Results

* `Scan.Pool.takeUp?_eq_none_iff` — work waits only while every place is taken.
* `Scan.Pool.all_of_takeUp?` — taking up work keeps the order of all work.

## Design Notes

That no more work is being done than there are places is part of the type.
-/

namespace TlsScan.Scan

/-- **Work under a limit.** -/
structure Pool (α : Type) where
  /-- How much work can be done at the same time. -/
  limit : Nat
  /-- The work that is being done, in the order in which it was taken up. -/
  active : List α
  /-- The work that waits for a free place, in the order in which it came. -/
  queue : List α
  /-- No more work is being done than can be. -/
  active_le : active.length ≤ limit

namespace Pool

variable {α : Type}

/-- The greatest number of workers that a pool can have. -/
def capacity : Nat := (UInt64.size - 1) / 8

/-- A pool without work. -/
def idle (limit : Nat) : Pool α := ⟨limit, [], [], Nat.zero_le _⟩

/-- Let work wait behind all other. -/
def submit (p : Pool α) (a : α) : Pool α := { p with queue := p.queue ++ [a] }

/-- All work, in the order in which it came. -/
def all (p : Pool α) : List α := p.active ++ p.queue

/-- How much work there is. -/
def size (p : Pool α) : Nat := p.active.length + p.queue.length

/-- Give a free place to the work that has waited longest, which is marked. -/
def takeUp? (mark : α → α) (p : Pool α) : Option (α × Pool α) :=
  match p.queue with
  | [] => none
  | a :: l =>
    if h : p.active.length < p.limit then
      some (mark a, { p with
        active := p.active ++ [mark a]
        queue := l
        active_le := by
          rw [List.length_append, List.length_singleton]
          exact h })
    else none

/-- Drop the work that is being done and is not to be kept. -/
def release (keep : α → Bool) (p : Pool α) : Pool α :=
  { p with
    active := p.active.filter keep
    active_le := Nat.le_trans (List.length_filter_le ..) p.active_le }

/-- Drop all work that is not to be kept. -/
def drop (keep : α → Bool) (p : Pool α) : Pool α :=
  { p.release keep with queue := p.queue.filter keep }

/-! ### What the operations do -/

@[simp] theorem all_submit (p : Pool α) (a : α) : (p.submit a).all = p.all ++ [a] := by
  simp [all, submit]

@[simp] theorem all_drop (keep : α → Bool) (p : Pool α) :
    (p.drop keep).all = p.all.filter keep := by
  simp [all, drop, release]

/-- **Work waits only while every place is taken.** -/
theorem takeUp?_eq_none_iff {mark : α → α} {p : Pool α} :
    p.takeUp? mark = none ↔ p.queue = [] ∨ p.active.length = p.limit := by
  have := p.active_le
  unfold takeUp?
  split
  · simp_all
  · rename_i a l hq
    by_cases h : p.active.length < p.limit
    · simp [h, hq, Nat.ne_of_lt h]
    · simp only [h, ↓reduceDIte, hq, reduceCtorEq, false_or, true_iff]
      omega

/-- What is taken up is the work that has waited longest. -/
theorem eq_of_takeUp? {mark : α → α} {p q : Pool α} {a : α}
    (h : p.takeUp? mark = some (a, q)) :
    ∃ b l, p.queue = b :: l ∧ a = mark b ∧ q.active = p.active ++ [a] ∧ q.queue = l
      ∧ q.limit = p.limit := by
  unfold takeUp? at h
  split at h
  · cases h
  · rename_i b l hq
    split at h
    · cases h
      exact ⟨b, l, hq, rfl, rfl, rfl, rfl⟩
    · cases h

/-- **Taking up work keeps the order of all work**, as far as marking does not show. -/
theorem all_of_takeUp? {β : Type} {f : α → β} {mark : α → α} {p q : Pool α} {a : α}
    (hf : ∀ b, f (mark b) = f b) (h : p.takeUp? mark = some (a, q)) :
    q.all.map f = p.all.map f := by
  obtain ⟨b, l, hq, rfl, ha, hl, -⟩ := eq_of_takeUp? h
  simp [all, hq, ha, hl, hf]

/-- What is taken up waits no longer. -/
theorem length_queue_of_takeUp? {mark : α → α} {p q : Pool α} {a : α}
    (h : p.takeUp? mark = some (a, q)) : q.queue.length + 1 = p.queue.length := by
  obtain ⟨b, l, hq, -, -, hl, -⟩ := eq_of_takeUp? h
  simp [hq, hl]

/-- Taking up work loses none. -/
theorem size_of_takeUp? {mark : α → α} {p q : Pool α} {a : α}
    (h : p.takeUp? mark = some (a, q)) : q.size = p.size := by
  obtain ⟨b, l, hq, -, ha, hl, -⟩ := eq_of_takeUp? h
  rw [size, size, hq, ha, hl, List.length_append, List.length_cons, List.length_cons,
    List.length_nil]
  omega

theorem size_release_le (keep : α → Bool) (p : Pool α) : (p.release keep).size ≤ p.size :=
  Nat.add_le_add_right (List.length_filter_le ..) _

/-- Dropping work that is being done makes a pool smaller. -/
theorem size_release_lt {keep : α → Bool} {p : Pool α} {a : α} (ha : a ∈ p.active)
    (hk : keep a = false) : (p.release keep).size < p.size := by
  refine Nat.add_lt_add_right ?_ _
  exact List.length_filter_lt_length_iff_exists.2 ⟨a, ha, by simp [hk]⟩

end Pool

end TlsScan.Scan
