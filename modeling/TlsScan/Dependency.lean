import TlsScan.Declaration

/-!
# Dependencies between probes

The graph of the probes that have to be executed before others, and the search for a
circle in it.

## Main Definitions

* `Dependencies` — the probes of a set, each with the probes it waits for.
* `Dependencies.ofDeclarations` — the graph of a set, unless an identity occurs twice.
* `Dependencies.visit`, `Dependencies.findCycle` — the search.

## Design Notes

The search goes depth first.  Probes on the current path are marked as being in progress;
one that is done cannot reach a circle any more and is never entered again.  Every step
marks a probe that had no mark, which bounds the search.
-/

namespace TlsScan

/-- **The probes of a set, each with the probes it waits for.** -/
structure Dependencies where
  edges : Table ProbeId (List ProbeId)
  deriving DecidableEq

namespace Dependencies

/-- Whether a probe belongs to the set. -/
def contains (g : Dependencies) (p : ProbeId) : Bool := g.edges.contains p

/-- The probes that a probe waits for. -/
def of (g : Dependencies) (p : ProbeId) : List ProbeId := (g.edges.get? p).getD []

/-- Add the probes of further declarations.  The first identity that is there already is an
error. -/
def add (g : Dependencies) : List Declaration → Except ScanError Dependencies
  | [] => .ok g
  | d :: l =>
    if g.contains d.probe then .error (.duplicateProbe d.probe)
    else add ⟨g.edges.insert d.probe d.dependencies⟩ l

/-- **The graph of a set of probes.** -/
def ofDeclarations (l : List Declaration) : Except ScanError Dependencies :=
  add ⟨Table.empty⟩ l

/-! ### Marks -/

/-- How far the search is with a probe. -/
inductive Mark where
  | inProgress | done
  deriving DecidableEq, Repr

/-- The marks of the search. -/
abbrev Marks := Table ProbeId Mark

/-- The number of probes without a mark. -/
def Marks.left (m : Marks) : Nat :=
  (Vocabulary.values : List ProbeId).countP fun p => !m.contains p

/-- Setting a mark leaves no more probes without one. -/
theorem Marks.left_insert_le (m : Marks) (p : ProbeId) (x : Mark) :
    Marks.left (m.insert p x) ≤ Marks.left m := by
  refine List.countP_mono_left fun q _ h => ?_
  simp only [Table.contains_insert, Bool.not_or, Bool.and_eq_true] at h
  exact h.2

/-- A stricter test that fails for some member is passed by fewer members. -/
private theorem countP_lt_countP {α : Type} {s t : α → Bool}
    (hst : ∀ a, s a = true → t a = true) {l : List α} {a : α} (ha : a ∈ l)
    (hs : s a = false) (ht : t a = true) : l.countP s < l.countP t := by
  induction l with
  | nil => cases ha
  | cons b l ih =>
    have mono : l.countP s ≤ l.countP t := List.countP_mono_left fun c _ => hst c
    rcases List.mem_cons.1 ha with rfl | hb
    · simp only [List.countP_cons, hs, ht]
      simp
      omega
    · have hl := ih hb
      rw [List.countP_cons, List.countP_cons]
      cases hsb : s b with
      | true =>
        rw [if_pos rfl, if_pos (hst b hsb)]
        omega
      | false =>
        rw [if_neg Bool.false_ne_true]
        omega

/-- Setting the first mark of a probe leaves fewer probes without one. -/
theorem Marks.left_insert_lt {m : Marks} {p : ProbeId} (x : Mark)
    (h : m.contains p = false) : Marks.left (m.insert p x) < Marks.left m := by
  refine countP_lt_countP (fun q hq => ?_) (Vocabulary.complete p) ?_ ?_
  · simp only [Table.contains_insert, Bool.not_or, Bool.and_eq_true] at hq
    exact hq.2
  · simp
  · simp [h]

/-! ### Search -/

/-- The outcome of a part of the search: a circle if one was found, and the marks, none of
which has been taken back. -/
structure Search (before : Marks) where
  cycle : Option (List ProbeId)
  marks : Marks
  left_le : Marks.left marks ≤ Marks.left before

mutual

/-- **Enter a probe that has no mark yet**, at the end of a path. -/
def visit (g : Dependencies) (p : ProbeId) (m : Marks) (path : List ProbeId)
    (h : m.contains p = false) : Search m :=
  have lt := Marks.left_insert_lt .inProgress h
  let inner := visitAll g (g.of p) (m.insert p .inProgress) (path ++ [p])
  match inner.cycle with
  | some cycle => ⟨some cycle, inner.marks, Nat.le_trans inner.left_le (Nat.le_of_lt lt)⟩
  | none =>
    ⟨none, inner.marks.insert p .done,
      Nat.le_trans (Marks.left_insert_le ..) (Nat.le_trans inner.left_le (Nat.le_of_lt lt))⟩
termination_by (Marks.left m, 0)

/-- Go through the probes that the last one of a path waits for.  One that is on the path
closes a circle. -/
def visitAll (g : Dependencies) : (l : List ProbeId) → (m : Marks) → (path : List ProbeId) →
    Search m
  | [], m, _ => ⟨none, m, Nat.le_refl _⟩
  | d :: l, m, path =>
    if g.contains d then
      match hm : m.get? d with
      | some .done => visitAll g l m path
      | some .inProgress =>
        match path.idxOf? d with
        | some start => ⟨some (path.drop start ++ [d]), m, Nat.le_refl _⟩
        | none => ⟨none, m, Nat.le_refl _⟩
      | none =>
        let first := visit g d m path (by simp [Table.contains, hm])
        match first.cycle with
        | some cycle => ⟨some cycle, first.marks, first.left_le⟩
        | none =>
          let rest := visitAll g l first.marks path
          ⟨rest.cycle, rest.marks, Nat.le_trans rest.left_le first.left_le⟩
    else visitAll g l m path
termination_by l m => (Marks.left m, l.length + 1)
decreasing_by
  all_goals simp_wf
  all_goals first
    | exact Prod.Lex.right _ (by omega)
    | rcases Nat.lt_or_eq_of_le first.left_le with h | h
      · exact Prod.Lex.left _ _ h
      · rw [h]; exact Prod.Lex.right _ (by omega)

end

/-- Enter every probe of a list that has no mark by then. -/
def search (g : Dependencies) : List ProbeId → Marks → Option (List ProbeId)
  | [], _ => none
  | p :: l, m =>
    if h : m.contains p = false then
      let first := visit g p m [] h
      match first.cycle with
      | some cycle => some cycle
      | none => search g l first.marks
    else search g l m

/-- **The first circle found**, as a path that ends where it starts. -/
def findCycle (g : Dependencies) : Option (List ProbeId) :=
  search g g.edges.keys Table.empty

end Dependencies

end TlsScan
