import Mathlib.Logic.Relation
import TlsScan.Dependency

/-!
# The search for a circle

A graph in which the search finds no circle has none: it takes finitely many steps only
to come from a probe to one that waits for nothing in the set.  The search itself goes by
a measure, not by the structure of the graph, so what it does is first told as a relation,
one clause for each of its branches, and the facts about it go by induction along that.

## Main Definitions

* `Dependencies.Awaits` — one member waits for another one.
* `Dependencies.Enters`, `Dependencies.GoesThrough`, `Dependencies.Searches` — how the search
  goes.
* `Dependencies.Grounded` — there is no way to wait forever.
* `Dependencies.Marked` — what the marks say while the search goes on.

## Main Results

* `Dependencies.enters_visit`, `Dependencies.goesThrough_visitAll`,
  `Dependencies.searches_search` — so does the search go.
* `Dependencies.grounded_of_findCycle` — a graph without a circle to be found is grounded.
-/

namespace TlsScan.Dependencies

variable {g : Dependencies}

/-- **A member waits for another one.** -/
def Awaits (g : Dependencies) (p q : ProbeId) : Prop :=
  q ∈ g.of p ∧ g.contains q = true

/-! ## The course of the search -/

mutual

/-- **How a probe is entered** at the end of a path: with which marks, which circle is found
if any, and which marks are left. -/
inductive Enters (g : Dependencies) :
    ProbeId → Marks → List ProbeId → Option (List ProbeId) → Marks → Prop
  /-- There is a circle behind it. -/
  | found {p : ProbeId} {m m' : Marks} {path cycle : List ProbeId}
      (hp : m.contains p = false)
      (h : GoesThrough g (g.of p) (m.insert p .inProgress) (path ++ [p]) (some cycle) m') :
      Enters g p m path (some cycle) m'
  /-- There is none, and it is done. -/
  | clear {p : ProbeId} {m m' : Marks} {path : List ProbeId}
      (hp : m.contains p = false)
      (h : GoesThrough g (g.of p) (m.insert p .inProgress) (path ++ [p]) none m') :
      Enters g p m path none (m'.insert p .done)

/-- **How the probes are gone through** that the last one of a path waits for. -/
inductive GoesThrough (g : Dependencies) :
    List ProbeId → Marks → List ProbeId → Option (List ProbeId) → Marks → Prop
  | nil {m : Marks} {path : List ProbeId} : GoesThrough g [] m path none m
  /-- It is no member. -/
  | stranger {d : ProbeId} {l path : List ProbeId} {m m' : Marks}
      {found : Option (List ProbeId)} (hd : g.contains d = false)
      (h : GoesThrough g l m path found m') : GoesThrough g (d :: l) m path found m'
  /-- It was done before. -/
  | done {d : ProbeId} {l path : List ProbeId} {m m' : Marks}
      {found : Option (List ProbeId)} (hd : g.contains d = true)
      (hm : m.get? d = some .done)
      (h : GoesThrough g l m path found m') : GoesThrough g (d :: l) m path found m'
  /-- It is on the path. -/
  | circle {d : ProbeId} {l path : List ProbeId} {m : Marks} {start : Nat}
      (hd : g.contains d = true) (hm : m.get? d = some .inProgress)
      (hs : path.idxOf? d = some start) :
      GoesThrough g (d :: l) m path (some (path.drop start ++ [d])) m
  /-- It is said to be on the path, and is not. -/
  | astray {d : ProbeId} {l path : List ProbeId} {m : Marks}
      (hd : g.contains d = true) (hm : m.get? d = some .inProgress)
      (hs : path.idxOf? d = none) : GoesThrough g (d :: l) m path none m
  /-- It is new, and there is a circle behind it. -/
  | found {d : ProbeId} {l path cycle : List ProbeId} {m m' : Marks}
      (hd : g.contains d = true) (hm : m.get? d = none)
      (h : Enters g d m path (some cycle) m') : GoesThrough g (d :: l) m path (some cycle) m'
  /-- It is new, and there is none. -/
  | clear {d : ProbeId} {l path : List ProbeId} {m m' m'' : Marks}
      {found : Option (List ProbeId)} (hd : g.contains d = true) (hm : m.get? d = none)
      (h : Enters g d m path none m') (hl : GoesThrough g l m' path found m'') :
      GoesThrough g (d :: l) m path found m''

end

mutual

theorem enters_visit (g : Dependencies) (p : ProbeId) (m : Marks) (path : List ProbeId)
    (h : m.contains p = false) :
    Enters g p m path (visit g p m path h).cycle (visit g p m path h).marks := by
  have hlt := Marks.left_insert_lt .inProgress h
  have hinner := goesThrough_visitAll g (g.of p) (m.insert p .inProgress) (path ++ [p])
  rw [visit]
  cases hc : (visitAll g (g.of p) (m.insert p .inProgress) (path ++ [p])).cycle with
  | some cycle =>
      rw [hc] at hinner
      exact .found h hinner
  | none =>
      rw [hc] at hinner
      exact .clear h hinner
termination_by (Marks.left m, 0)

theorem goesThrough_visitAll (g : Dependencies) (l : List ProbeId) (m : Marks)
    (path : List ProbeId) :
    GoesThrough g l m path (visitAll g l m path).cycle (visitAll g l m path).marks := by
  cases l with
  | nil =>
      rw [visitAll]
      exact .nil
  | cons d l =>
      rw [visitAll]
      cases hd : g.contains d with
      | false => exact .stranger hd (goesThrough_visitAll g l m path)
      | true =>
          rw [if_pos rfl]
          split
          · exact .done hd ‹_› (goesThrough_visitAll g l m path)
          · split
            · exact .circle hd ‹_› ‹_›
            · exact .astray hd ‹_› ‹_›
          · rename_i hm
            have hnone : m.contains d = false := by simp [Table.contains, hm]
            have hle := (visit g d m path hnone).left_le
            have hfirst := enters_visit g d m path hnone
            dsimp only
            cases hc : (visit g d m path hnone).cycle with
            | some cycle =>
                rw [hc] at hfirst
                exact .found hd hm hfirst
            | none =>
                rw [hc] at hfirst
                exact .clear hd hm hfirst (goesThrough_visitAll g l _ path)
termination_by (Marks.left m, l.length + 1)
decreasing_by
  all_goals simp_wf
  all_goals first
    | exact Prod.Lex.right _ (by simp_all)
    | rcases Nat.lt_or_eq_of_le hle with h | h
      · exact Prod.Lex.left _ _ h
      · rw [h]
        exact Prod.Lex.right _ (by simp_all)

end

/-- **How the probes of a list are searched from**, one after the other. -/
inductive Searches (g : Dependencies) :
    List ProbeId → Marks → Option (List ProbeId) → Prop
  | nil {m : Marks} : Searches g [] m none
  /-- It was entered before. -/
  | marked {p : ProbeId} {l : List ProbeId} {m : Marks} {found : Option (List ProbeId)}
      (hp : m.contains p = true) (hl : Searches g l m found) : Searches g (p :: l) m found
  /-- There is a circle behind it. -/
  | found {p : ProbeId} {l cycle : List ProbeId} {m m' : Marks}
      (h : Enters g p m [] (some cycle) m') : Searches g (p :: l) m (some cycle)
  /-- There is none. -/
  | clear {p : ProbeId} {l : List ProbeId} {m m' : Marks} {found : Option (List ProbeId)}
      (h : Enters g p m [] none m') (hl : Searches g l m' found) : Searches g (p :: l) m found

theorem searches_search (g : Dependencies) (l : List ProbeId) (m : Marks) :
    Searches g l m (search g l m) := by
  induction l generalizing m with
  | nil => exact .nil
  | cons p l ih =>
      rw [search]
      split
      · rename_i hnone
        have hfirst := enters_visit g p m [] hnone
        dsimp only
        cases hc : (visit g p m [] hnone).cycle with
        | some cycle =>
            rw [hc] at hfirst
            exact .found hfirst
        | none =>
            rw [hc] at hfirst
            exact .clear hfirst (ih _)
      · rename_i hsome
        exact .marked (by simpa using hsome) (ih m)

/-! ## What the search establishes -/

/-- **There is no way to wait forever**: who waits for whom from a probe on, it is finitely
often. -/
def Grounded (g : Dependencies) : ProbeId → Prop := Acc fun q p => g.Awaits p q

/-- **What the marks say** while the search goes on at the end of a path: what is in progress
is on the path, and what is done is grounded. -/
structure Marked (g : Dependencies) (m : Marks) (path : List ProbeId) : Prop where
  onPath : ∀ p, m.get? p = some .inProgress → p ∈ path
  done : ∀ p, m.get? p = some .done → g.Grounded p

theorem marked_empty (g : Dependencies) : Marked g Table.empty [] := ⟨nofun, nofun⟩

/-- A probe is put on the path. -/
theorem Marked.begin {m : Marks} {path : List ProbeId} (h : Marked g m path) (p : ProbeId) :
    Marked g (m.insert p .inProgress) (path ++ [p]) := by
  refine ⟨fun q hq => ?_, fun q hq => ?_⟩
  · rw [Table.get?_insert] at hq
    split at hq
    · rename_i heq
      simp [heq]
    · exact List.mem_append_left _ (h.onPath q hq)
  · rw [Table.get?_insert] at hq
    split at hq
    · cases hq
    · exact h.done q hq

/-- A probe that is grounded is taken off the path. -/
theorem Marked.finish {m : Marks} {path : List ProbeId} {p : ProbeId}
    (h : Marked g m (path ++ [p])) (hp : g.Grounded p) :
    Marked g (m.insert p .done) path := by
  refine ⟨fun q hq => ?_, fun q hq => ?_⟩
  · rw [Table.get?_insert] at hq
    split at hq
    · cases hq
    · rename_i hne
      exact (List.mem_append.mp (h.onPath q hq)).resolve_right (by simpa using hne)
  · rw [Table.get?_insert] at hq
    split at hq
    · rename_i heq
      rwa [heq]
    · exact h.done q hq

mutual

/-- **A probe behind which no circle is found is grounded.** -/
theorem Marked.enters {p : ProbeId} {m m' : Marks} {path : List ProbeId}
    {cycle : Option (List ProbeId)} (hm : Marked g m path) (h : Enters g p m path cycle m')
    (hc : cycle = none) : Marked g m' path ∧ g.Grounded p := by
  match h with
  | .found _ _ => cases hc
  | .clear _ hinner =>
      obtain ⟨hmarked, hgrounded⟩ := Marked.goesThrough (hm.begin p) hinner rfl
      have hp : g.Grounded p := Acc.intro p fun q ⟨hq, hmember⟩ => hgrounded q hq hmember
      exact ⟨hmarked.finish hp, hp⟩

/-- And so is every member that is gone through. -/
theorem Marked.goesThrough {l : List ProbeId} {m m' : Marks} {path : List ProbeId}
    {cycle : Option (List ProbeId)} (hm : Marked g m path)
    (h : GoesThrough g l m path cycle m') (hc : cycle = none) :
    Marked g m' path ∧ ∀ d ∈ l, g.contains d = true → g.Grounded d := by
  match h with
  | .nil => exact ⟨hm, nofun⟩
  | .stranger hd hl =>
      obtain ⟨hmarked, hgrounded⟩ := Marked.goesThrough hm hl hc
      refine ⟨hmarked, List.forall_mem_cons.mpr ⟨fun hmember => ?_, hgrounded⟩⟩
      exact absurd (hd.symm.trans hmember) (by decide)
  | .done _ hdone hl =>
      obtain ⟨hmarked, hgrounded⟩ := Marked.goesThrough hm hl hc
      exact ⟨hmarked, List.forall_mem_cons.mpr ⟨fun _ => hm.done _ hdone, hgrounded⟩⟩
  | .circle _ _ _ => cases hc
  | .astray _ hprogress hnone =>
      -- What is in progress is on the path, so it is found there.
      exact absurd (hm.onPath _ hprogress) (List.idxOf?_eq_none_iff.mp hnone)
  | .found _ _ _ => cases hc
  | .clear _ _ hfirst hl =>
      obtain ⟨hmarked, hp⟩ := Marked.enters hm hfirst rfl
      obtain ⟨hmarked', hgrounded⟩ := Marked.goesThrough hmarked hl hc
      exact ⟨hmarked', List.forall_mem_cons.mpr ⟨fun _ => hp, hgrounded⟩⟩

end

/-- If no circle is found from any probe of a list, all of them are grounded. -/
theorem grounded_of_searches {l : List ProbeId} {m : Marks} (hm : Marked g m [])
    (h : Searches g l m none) : ∀ p ∈ l, g.Grounded p := by
  induction l generalizing m with
  | nil => nofun
  | cons p l ih =>
      cases h with
      | clear hfirst hl =>
          obtain ⟨hmarked, hp⟩ := hm.enters hfirst rfl
          exact List.forall_mem_cons.mpr ⟨hp, ih hmarked hl⟩
      | marked hsome hl =>
          refine List.forall_mem_cons.mpr ⟨?_, ih hm hl⟩
          -- It has a mark, and as the path is empty, it is done.
          obtain ⟨mark, hmark⟩ := Table.contains_iff.mp hsome
          cases mark with
          | inProgress => exact absurd (hm.onPath p hmark) List.not_mem_nil
          | done => exact hm.done p hmark

/-- **A graph in which no circle is found is grounded.** -/
theorem grounded_of_findCycle (h : g.findCycle = none) (p : ProbeId) : g.Grounded p := by
  cases hp : g.contains p with
  | true =>
      have hsearches := searches_search g g.edges.keys Table.empty
      rw [← findCycle, h] at hsearches
      refine grounded_of_searches (marked_empty g) hsearches p ?_
      exact List.mem_filter.mpr ⟨Vocabulary.complete p, hp⟩
  | false =>
      -- A probe that is no member waits for nothing.
      refine Acc.intro p fun q ⟨hq, _⟩ => ?_
      have hnone : g.edges.get? p = none := by simpa [contains, Table.contains] using hp
      rw [of, hnone] at hq
      cases hq

end TlsScan.Dependencies
