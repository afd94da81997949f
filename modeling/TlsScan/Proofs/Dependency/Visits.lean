import TlsScan.Proofs.Dependency.Circle

/-!
# The visits of the search

What the search for a circle finds says little about how it goes.  Here it is told once more
as it goes on in place: the path is a stack, onto which a probe is put when it is entered and
from which it is taken when it is left, and every visit is written down with the marks and
the path at its beginning and at its end.  That a probe in progress is found on the path is
not taken for granted: a part of the search that does not find it goes astray and leaves
everything as it is.

## Main Definitions

* `Dependencies.Visit`, `Dependencies.Lookup` — what is written down.
* `Dependencies.enter`, `Dependencies.enterAll`, `Dependencies.tour` — the search in place.
* `Dependencies.course` — all that the search for a circle does.
* `Dependencies.Consistent` — what the marks and the path have in common at any time.
* `Dependencies.Visit.Sound`, `Dependencies.Walk.Sound` — what is claimed of one visit, and of a
  part of the search.

## Main Results

* `Dependencies.Consistent.begin`, `Dependencies.Consistent.finish` — putting a probe onto the
  path and taking it off.
* `Dependencies.sound_enter`, `Dependencies.sound_enterAll` — one visit, and one pass over what
  a probe waits for.
* `Dependencies.sound_tour` — a search from one probe after the other.
-/

namespace TlsScan.Dependencies

variable {g : Dependencies}

/-! ## The search in place -/

/-- **A visit of a probe**: what there was when it was entered, and when it was left. -/
structure Visit where
  probe : ProbeId
  marks : Marks
  path : List ProbeId
  /-- The circle that was found meanwhile. -/
  cycle : Option (List ProbeId)
  /-- A probe in progress was not found on the path, so it was left at once. -/
  astray : Bool
  marksAfter : Marks
  pathAfter : List ProbeId

/-- **A look for a probe in progress** on the path. -/
structure Lookup where
  probe : ProbeId
  path : List ProbeId

/-- Where it was found. -/
def Lookup.position? (l : Lookup) : Option Nat := l.path.idxOf? l.probe

/-- As long as no mark is set, there are no fewer probes without one. -/
theorem Marks.left_le_self (m : Marks) : Marks.left m ≤ Marks.left m := Nat.le_refl _

/-- **A part of the search in place.** -/
structure Walk (before : Marks) where
  cycle : Option (List ProbeId)
  /-- A probe in progress was not found on the path, so the rest was left out. -/
  astray : Bool
  marks : Marks
  path : List ProbeId
  /-- The visits that have begun in it, in order. -/
  visits : List Visit
  lookups : List Lookup
  left_le : Marks.left marks ≤ Marks.left before

namespace Walk

variable {m : Marks}

/-- **Leave a probe** once all that it waits for was gone through.  If there was a circle, or if
the search went astray, path and marks stay as they are then. -/
def leave (p : ProbeId) (path : List ProbeId) (h : m.contains p = false)
    (inner : Walk (m.insert p .inProgress)) : Walk m :=
  have le := Nat.le_trans inner.left_le (Nat.le_of_lt (Marks.left_insert_lt .inProgress h))
  if inner.cycle.isSome || inner.astray then
    ⟨inner.cycle, false, inner.marks, inner.path,
      ⟨p, m, path, inner.cycle, inner.astray, inner.marks, inner.path⟩ :: inner.visits,
      inner.lookups, le⟩
  else
    ⟨none, false, inner.marks.insert p .done, inner.path.dropLast,
      ⟨p, m, path, none, false, inner.marks.insert p .done, inner.path.dropLast⟩ ::
        inner.visits, inner.lookups, Nat.le_trans (Marks.left_insert_le ..) le⟩

/-- One part of the search after the other. -/
def andThen (first : Walk m) (rest : Walk first.marks) : Walk m :=
  ⟨rest.cycle, rest.astray, rest.marks, rest.path, first.visits ++ rest.visits,
    first.lookups ++ rest.lookups, Nat.le_trans rest.left_le first.left_le⟩

/-- What it comes to, apart from what was written down. -/
def search (w : Walk m) : Search m := ⟨w.cycle, w.marks, w.left_le⟩

/-- Nothing is done. -/
def nothing (m : Marks) (path : List ProbeId) : Walk m :=
  ⟨none, false, m, path, [], [], Marks.left_le_self m⟩

/-- A probe in progress is looked for on the path, where it closes a circle. -/
def lookUp (d : ProbeId) (m : Marks) (path : List ProbeId) : Walk m :=
  match path.idxOf? d with
  | some start =>
    ⟨some (path.drop start ++ [d]), false, m, path, [], [⟨d, path⟩], Marks.left_le_self m⟩
  | none => ⟨none, true, m, path, [], [⟨d, path⟩], Marks.left_le_self m⟩

end Walk

mutual

/-- **Enter a probe that has no mark yet**, and leave it again. -/
def enter (g : Dependencies) (p : ProbeId) (m : Marks) (path : List ProbeId)
    (h : m.contains p = false) : Walk m :=
  .leave p path h (enterAll g (g.of p) (m.insert p .inProgress) (path ++ [p]))
termination_by (Marks.left m, 0)
decreasing_by exact Prod.Lex.left _ _ (Marks.left_insert_lt .inProgress h)

/-- Go through the probes that the last one of the path waits for. -/
def enterAll (g : Dependencies) : (l : List ProbeId) → (m : Marks) → (path : List ProbeId) →
    Walk m
  | [], m, path => .nothing m path
  | d :: l, m, path =>
    if g.contains d then
      match hm : m.get? d with
      | some .done => enterAll g l m path
      | some .inProgress => .lookUp d m path
      | none =>
        let first := enter g d m path (by simp [Table.contains, hm])
        if first.cycle.isSome then first else first.andThen (enterAll g l first.marks first.path)
    else enterAll g l m path
termination_by l m => (Marks.left m, l.length + 1)
decreasing_by
  all_goals simp_wf
  all_goals first
    | exact Prod.Lex.right _ (by omega)
    | rcases Nat.lt_or_eq_of_le first.left_le with h | h
      · exact Prod.Lex.left _ _ h
      · rw [h]; exact Prod.Lex.right _ (by omega)

end

/-- Enter every probe of a list that has no mark by then. -/
def tour (g : Dependencies) : List ProbeId → (m : Marks) → List ProbeId → Walk m
  | [], m, path => .nothing m path
  | p :: l, m, path =>
    if h : m.contains p = false then
      let first := enter g p m path h
      if first.cycle.isSome then first else first.andThen (tour g l first.marks first.path)
    else tour g l m path

/-- **All that the search for a circle does.** -/
def course (g : Dependencies) : Walk Table.empty := tour g g.edges.keys Table.empty []

/-! ## Marks and path -/

/-- **What the marks and the path have in common** at any time: besides the trail, whatever a
probe waits for that is done is done itself, and it does not wait forever. -/
structure Consistent (g : Dependencies) (m : Marks) (path : List ProbeId) : Prop
    extends Trail g m path where
  closed : ∀ p q, m.get? p = some .done → g.Awaits p q → m.get? q = some .done
  grounded : ∀ p, m.get? p = some .done → g.Grounded p

theorem consistent_empty (g : Dependencies) : Consistent g Table.empty [] :=
  ⟨trail_empty g, nofun, nofun⟩

section
variable {m : Marks} {path : List ProbeId} {p : ProbeId}

/-- A new probe is put on the path behind one that waits for it. -/
theorem Consistent.begin (h : Consistent g m path) (hp : m.contains p = false)
    (hnext : (path ++ [p]).IsChain g.Awaits) :
    Consistent g (m.insert p .inProgress) (path ++ [p]) := by
  have hnone : m.get? p = none := by simpa [Table.contains] using hp
  have hold : ∀ q, (m.insert p .inProgress).get? q = some .done → m.get? q = some .done := by
    intro q hq
    rw [Table.get?_insert] at hq
    split at hq
    · cases hq
    · exact hq
  refine ⟨h.toTrail.begin hp hnext, fun q r hq hr => ?_, fun q hq => h.grounded q (hold q hq)⟩
  have hr' := h.closed q r (hold q hq) hr
  have hne : r ≠ p := by
    rintro rfl
    cases hnone.symm.trans hr'
  rw [Table.get?_insert, if_neg hne]
  exact hr'

/-- Whatever the last probe of the path waits for can follow it. -/
theorem Consistent.chain {init : List ProbeId} {d : ProbeId} (h : Consistent g m (init ++ [p]))
    (hd : g.Awaits p d) : (init ++ [p] ++ [d]).IsChain g.Awaits := by
  rw [List.append_assoc, List.singleton_append, List.isChain_append_cons_cons]
  exact ⟨h.follows, hd, .singleton d⟩

/-- A probe that waits only for probes that are done is taken off the path. -/
theorem Consistent.finish (h : Consistent g m (path ++ [p]))
    (hdone : ∀ q, g.Awaits p q → m.get? q = some .done) :
    Consistent g (m.insert p .done) path := by
  have hkeep : ∀ q, m.get? q = some .done → (m.insert p .done).get? q = some .done := by
    intro q hq
    rw [Table.get?_insert]
    split
    · rfl
    · exact hq
  have hground : g.Grounded p := Acc.intro p fun q hq => h.grounded q (hdone q hq)
  refine ⟨h.toTrail.finish, fun q r hq hr => ?_, fun q hq => ?_⟩
  · rw [Table.get?_insert] at hq
    split at hq
    · rename_i heq
      exact hkeep r (hdone r (heq ▸ hr))
    · exact hkeep r (h.closed q r hq hr)
  · rw [Table.get?_insert] at hq
    split at hq
    · rename_i heq
      exact heq ▸ hground
    · exact h.grounded q hq

end

/-! ## What is claimed -/

/-- **A table of marks has turned into another one behind a probe**: whatever has changed had no
mark, is done now, and the probe waits for it, directly or through others. -/
def Turned (g : Dependencies) (p : ProbeId) (m m' : Marks) : Prop :=
  ∀ q, m'.get? q ≠ m.get? q →
    m.get? q = none ∧ m'.get? q = some .done ∧ Relation.ReflTransGen g.Awaits p q

/-- **What is claimed of a visit.**  The probe is a member without a mark.  The path holds the
probes in progress, each once, and each of them waits for the next one, the last one for the
probe.  Whatever a probe waits for that is done is done as well, and no probe that is done is
on a circle.  The visit is the one that `visit` makes, and it does not go astray.  If it finds
nothing, the path is as it was, the probe is done, and nothing but what it waits for has
turned. -/
structure Visit.Sound (g : Dependencies) (v : Visit) : Prop where
  member : g.contains v.probe = true
  unmarked : v.marks.get? v.probe = none
  distinct : v.path.Nodup
  inProgress : ∀ p, v.marks.get? p = some .inProgress ↔ p ∈ v.path
  follows : (v.path ++ [v.probe]).IsChain g.Awaits
  closed : ∀ p q, v.marks.get? p = some .done → g.Awaits p q → v.marks.get? q = some .done
  acyclic : ∀ p, v.marks.get? p = some .done → ¬ Relation.TransGen g.Awaits p p
  agrees : ∀ h, (visit g v.probe v.marks v.path h).cycle = v.cycle
    ∧ (visit g v.probe v.marks v.path h).marks = v.marksAfter
  onCourse : v.astray = false
  restored : v.cycle = none → v.pathAfter = v.path
  done : v.cycle = none → v.marksAfter.get? v.probe = some .done
  turned : v.cycle = none → Turned g v.probe v.marks v.marksAfter

/-- **What is claimed of all that is written down** in a part of the search. -/
structure Walk.Written (g : Dependencies) {m : Marks} (w : Walk m) : Prop where
  visits : ∀ v ∈ w.visits, v.Sound g
  lookups : ∀ l ∈ w.lookups, l.position?.isSome = true
  marked : ∀ q, w.marks.contains q = true
    ↔ m.contains q = true ∨ q ∈ w.visits.map (·.probe)
  fresh : ∀ v ∈ w.visits, m.contains v.probe = false
  distinct : (w.visits.map (·.probe)).Nodup

/-- What is claimed of a part of the search, behind a probe and with a path. -/
structure Walk.Sound (g : Dependencies) (p : ProbeId) (path : List ProbeId) {m : Marks}
    (w : Walk m) : Prop extends Walk.Written g w where
  onCourse : w.astray = false
  restored : w.cycle = none → w.path = path
  consistent : w.cycle = none → Consistent g w.marks path
  turned : w.cycle = none → Turned g p m w.marks

/-! ## What turns -/

section
variable {m m' m'' : Marks} {p q : ProbeId}

theorem Turned.refl (g : Dependencies) (p : ProbeId) (m : Marks) : Turned g p m m :=
  fun _ h => absurd rfl h

/-- A mark that was set stays. -/
theorem Turned.keeps (h : Turned g p m m') {x : Mark} (hq : m.get? q = some x) :
    m'.get? q = some x := by
  by_cases heq : m'.get? q = m.get? q
  · rw [heq, hq]
  · cases (h q heq).1.symm.trans hq

theorem Turned.trans (h : Turned g p m m') (h' : Turned g p m' m'') : Turned g p m m'' := by
  intro q hq
  by_cases heq : m'.get? q = m.get? q
  · rw [← heq] at hq ⊢
    exact h' q hq
  · obtain ⟨hnone, hdone, hreach⟩ := h q heq
    exact ⟨hnone, h'.keeps hdone, hreach⟩

/-- What turns behind a probe turns behind whoever waits for it. -/
theorem Turned.of_awaits (h : Turned g q m m') (hpq : g.Awaits p q) : Turned g p m m' := by
  intro r hr
  obtain ⟨hnone, hdone, hreach⟩ := h r hr
  exact ⟨hnone, hdone, hreach.head hpq⟩

/-- A probe that is entered and left has turned itself. -/
theorem Turned.visit (h : Turned g p (m.insert p .inProgress) m') (hp : m.contains p = false) :
    Turned g p m (m'.insert p .done) := by
  intro q hq
  rw [Table.get?_insert] at hq ⊢
  by_cases heq : q = p
  · subst heq
    exact ⟨by simpa [Table.contains] using hp, if_pos rfl, .refl⟩
  · rw [if_neg heq] at hq ⊢
    have hsame : (m.insert p .inProgress).get? q = m.get? q := by
      rw [Table.get?_insert, if_neg heq]
    rw [← hsame] at hq ⊢
    exact h q hq

end

/-! ## One visit -/

section
variable {m : Marks} {path : List ProbeId} {p : ProbeId}

/-- **What is written down one after the other.** -/
theorem Walk.Written.andThen {first : Walk m} {rest : Walk first.marks}
    (hfirst : first.Written g) (hrest : rest.Written g) : (first.andThen rest).Written g where
  visits := List.forall_mem_append.mpr ⟨hfirst.visits, hrest.visits⟩
  lookups := List.forall_mem_append.mpr ⟨hfirst.lookups, hrest.lookups⟩
  marked q := by
    show rest.marks.contains q = true ↔ _ ∨ q ∈ (first.visits ++ rest.visits).map (·.probe)
    rw [List.map_append, List.mem_append, ← or_assoc, ← hfirst.marked q]
    exact hrest.marked q
  fresh v hv := by
    rcases List.mem_append.mp hv with hv | hv
    · exact hfirst.fresh v hv
    · -- What has no mark now had none before.
      have hnow := hrest.fresh v hv
      rw [← Bool.not_eq_true, hfirst.marked, not_or] at hnow
      exact Bool.eq_false_iff.mpr hnow.1
  distinct := by
    show ((first.visits ++ rest.visits).map (·.probe)).Nodup
    rw [List.map_append, List.nodup_append']
    refine ⟨hfirst.distinct, hrest.distinct, fun q hq hq' => ?_⟩
    -- A probe that was visited has a mark, so it is not visited again.
    obtain ⟨v, hv, rfl⟩ := List.mem_map.mp hq'
    have hmark := (hfirst.marked v.probe).mpr (Or.inr hq)
    exact absurd ((hrest.fresh v hv).symm.trans hmark) (by decide)

theorem Walk.written_nothing : (Walk.nothing m path).Written g where
  visits := List.forall_mem_nil _
  lookups := List.forall_mem_nil _
  marked q := by simp [Walk.nothing]
  fresh := List.forall_mem_nil _
  distinct := List.nodup_nil

/-- **One visit after the other.** -/
theorem Walk.Sound.andThen {d : ProbeId} {first : Walk m} {rest : Walk first.marks}
    (hfirst : first.Sound g d path) (hrest : rest.Sound g p path) (hd : g.Awaits p d)
    (hnone : first.cycle = none) : (first.andThen rest).Sound g p path where
  toWritten := hfirst.toWritten.andThen hrest.toWritten
  onCourse := hrest.onCourse
  restored := hrest.restored
  consistent := hrest.consistent
  turned h := ((hfirst.turned hnone).of_awaits hd).trans (hrest.turned h)

/-- What holds behind a probe holds behind whoever waits for it. -/
theorem Walk.Sound.of_awaits {d : ProbeId} {w : Walk m} (h : w.Sound g d path)
    (hd : g.Awaits p d) : w.Sound g p path :=
  { h with turned := fun hnone => (h.turned hnone).of_awaits hd }

theorem Walk.sound_nothing (hc : Consistent g m path) : (Walk.nothing m path).Sound g p path where
  toWritten := written_nothing
  onCourse := rfl
  restored _ := rfl
  consistent _ := hc
  turned _ := .refl g p m

/-- **A probe in progress is found on the path.** -/
theorem Walk.sound_lookUp {d : ProbeId} (hc : Consistent g m path)
    (hd : m.get? d = some .inProgress) :
    (Walk.lookUp d m path).Sound g p path ∧ (Walk.lookUp d m path).cycle.isSome = true := by
  obtain ⟨start, hstart⟩ : ∃ start, path.idxOf? d = some start := by
    refine Option.ne_none_iff_exists'.mp fun hnone => ?_
    exact List.idxOf?_eq_none_iff.mp hnone ((hc.inProgress d).mp hd)
  rw [Walk.lookUp, hstart]
  have hfound : (Lookup.mk d path).position?.isSome = true := by
    rw [Lookup.position?, hstart]
    rfl
  exact ⟨⟨⟨List.forall_mem_nil _, List.forall_mem_singleton.mpr hfound, fun q => by simp,
    List.forall_mem_nil _, List.nodup_nil⟩, rfl, nofun, nofun, nofun⟩, rfl⟩

/-- **A visit that begins with consistent marks is sound**, if it ends as it should. -/
theorem Visit.sound_of_consistent {v : Visit} (hc : Consistent g v.marks v.path)
    (hp : v.marks.contains v.probe = false) (hmember : g.contains v.probe = true)
    (hnext : (v.path ++ [v.probe]).IsChain g.Awaits)
    (hagrees : (visit g v.probe v.marks v.path hp).cycle = v.cycle
      ∧ (visit g v.probe v.marks v.path hp).marks = v.marksAfter)
    (hcourse : v.astray = false)
    (hleft : v.cycle = none → v.pathAfter = v.path
      ∧ v.marksAfter.get? v.probe = some .done ∧ Turned g v.probe v.marks v.marksAfter) :
    v.Sound g where
  member := hmember
  unmarked := by simpa [Table.contains] using hp
  distinct := hc.distinct
  inProgress := hc.inProgress
  follows := hnext
  closed := hc.closed
  acyclic q hq := (hc.grounded q hq).not_transGen
  agrees _ := hagrees
  onCourse := hcourse
  restored hnone := (hleft hnone).1
  done hnone := (hleft hnone).2.1
  turned hnone := (hleft hnone).2.2

section
variable {inner : Walk (m.insert p .inProgress)}

/-- The visits in a part of the search, with the one that they belong to. -/
theorem Walk.Sound.cons_visits (hinner : inner.Sound g p (path ++ [p]))
    (hp : m.contains p = false) {v : Visit} (hv : v.Sound g) (hvp : v.probe = p) :
    (∀ u ∈ v :: inner.visits, m.contains u.probe = false)
      ∧ ((v :: inner.visits).map (·.probe)).Nodup
      ∧ (∀ u ∈ v :: inner.visits, u.Sound g)
      ∧ ∀ q, inner.marks.contains q = true
        ↔ m.contains q = true ∨ q ∈ (v :: inner.visits).map (·.probe) := by
  subst hvp
  -- Whatever is visited then has no mark, so it is another probe.
  have hfresh : ∀ u ∈ inner.visits, u.probe ≠ v.probe ∧ m.contains u.probe = false := by
    intro u hu
    have hnow := hinner.fresh u hu
    rw [Table.contains_insert, Bool.or_eq_false_iff, decide_eq_false_iff_not] at hnow
    exact hnow
  refine ⟨List.forall_mem_cons.mpr ⟨hp, fun u hu => (hfresh u hu).2⟩, ?_,
    List.forall_mem_cons.mpr ⟨hv, hinner.visits⟩, fun q => ?_⟩
  · rw [List.map_cons, List.nodup_cons]
    refine ⟨fun hmem => ?_, hinner.distinct⟩
    obtain ⟨u, hu, heq⟩ := List.mem_map.mp hmem
    exact (hfresh u hu).1 heq
  · rw [hinner.marked, Table.contains_insert, Bool.or_eq_true, decide_eq_true_eq,
      List.map_cons, List.mem_cons, or_assoc, or_left_comm]

/-- **To leave a probe is sound**, if all that it waits for is done when no circle was
found. -/
theorem Walk.Sound.leave (h : m.contains p = false) (hc : Consistent g m path)
    (hmember : g.contains p = true) (hnext : (path ++ [p]).IsChain g.Awaits)
    (hinner : inner.Sound g p (path ++ [p]))
    (hdone : inner.cycle = none → ∀ q, g.Awaits p q → inner.marks.get? q = some .done)
    (hagrees : visit g p m path h = (inner.leave p path h).search) :
    (inner.leave p path h).Sound g p path
      ∧ ((inner.leave p path h).cycle = none →
        (inner.leave p path h).marks.get? p = some .done) := by
  rw [Walk.leave, hinner.onCourse, Bool.or_false] at hagrees ⊢
  cases hcycle : inner.cycle with
  | some cycle =>
      rw [hcycle, Option.isSome_some, if_pos rfl] at hagrees
      rw [Option.isSome_some, if_pos rfl]
      obtain ⟨hfresh, hdistinct, hvisits, hmarked⟩ := hinner.cons_visits h
        (v := ⟨p, m, path, some cycle, false, inner.marks, inner.path⟩)
        (Visit.sound_of_consistent hc h hmember hnext
          ⟨by rw [hagrees]; rfl, by rw [hagrees]; rfl⟩ rfl nofun) rfl
      exact ⟨⟨⟨hvisits, hinner.lookups, hmarked, hfresh, hdistinct⟩, rfl, nofun, nofun, nofun⟩,
        nofun⟩
  | none =>
      rw [hcycle, Option.isSome_none, if_neg Bool.false_ne_true] at hagrees
      rw [Option.isSome_none, if_neg Bool.false_ne_true]
      have hpath : inner.path.dropLast = path := by
        rw [hinner.restored hcycle, List.dropLast_concat]
      have hself : (inner.marks.insert p .done).get? p = some .done := by
        rw [Table.get?_insert, if_pos rfl]
      have hturned := (hinner.turned hcycle).visit h
      obtain ⟨hfresh, hdistinct, hvisits, hmarked⟩ := hinner.cons_visits h
        (v := ⟨p, m, path, none, false, inner.marks.insert p .done, inner.path.dropLast⟩)
        (Visit.sound_of_consistent hc h hmember hnext
          ⟨by rw [hagrees]; rfl, by rw [hagrees]; rfl⟩ rfl
          fun _ => ⟨hpath, hself, hturned⟩) rfl
      have hconsistent := (hinner.consistent hcycle).finish (hdone hcycle)
      refine ⟨⟨⟨hvisits, hinner.lookups, fun q => ?_, hfresh, hdistinct⟩, rfl, fun _ => hpath,
        fun _ => hconsistent, fun _ => hturned⟩, fun _ => hself⟩
      · rw [Table.contains_insert, Bool.or_eq_true, decide_eq_true_eq, hmarked q,
          List.map_cons, List.mem_cons]
        exact ⟨fun hor => hor.elim (fun heq => Or.inr (Or.inl heq)) id, Or.inr⟩

end

end

/-! ## All visits -/

section
variable {d p : ProbeId} {l path : List ProbeId} {m : Marks}

theorem eq_search {s : Search m} {w : Walk m} (hcycle : s.cycle = w.cycle)
    (hmarks : s.marks = w.marks) : s = w.search := by
  cases s
  cases hcycle
  cases hmarks
  rfl

theorem visit_eq_search (h : m.contains p = false)
    (hcourse : (enterAll g (g.of p) (m.insert p .inProgress) (path ++ [p])).astray = false)
    (hagrees : visitAll g (g.of p) (m.insert p .inProgress) (path ++ [p])
      = (enterAll g (g.of p) (m.insert p .inProgress) (path ++ [p])).search) :
    visit g p m path h = (enter g p m path h).search := by
  have hcycle : (visitAll g (g.of p) (m.insert p .inProgress) (path ++ [p])).cycle
      = (enterAll g (g.of p) (m.insert p .inProgress) (path ++ [p])).cycle :=
    congrArg (·.cycle) hagrees
  have hmarks : (visitAll g (g.of p) (m.insert p .inProgress) (path ++ [p])).marks
      = (enterAll g (g.of p) (m.insert p .inProgress) (path ++ [p])).marks :=
    congrArg (·.marks) hagrees
  rw [enter, visit, Walk.leave, hcourse, Bool.or_false, ← hcycle]
  cases (visitAll g (g.of p) (m.insert p .inProgress) (path ++ [p])).cycle with
  | some cycle => exact eq_search rfl hmarks
  | none => exact eq_search rfl (congrArg (·.insert p .done) hmarks)

theorem enterAll_stranger (l path : List ProbeId) (m : Marks) (hd : g.contains d = false) :
    enterAll g (d :: l) m path = enterAll g l m path
      ∧ visitAll g (d :: l) m path = visitAll g l m path := by
  rw [enterAll, visitAll, if_neg (by rw [hd]; decide), if_neg (by rw [hd]; decide)]
  exact ⟨rfl, rfl⟩

theorem enterAll_done (l path : List ProbeId) (hd : g.contains d = true)
    (hm : m.get? d = some .done) :
    enterAll g (d :: l) m path = enterAll g l m path
      ∧ visitAll g (d :: l) m path = visitAll g l m path := by
  rw [enterAll, visitAll, if_pos hd, if_pos hd]
  constructor <;> split <;> simp_all

theorem enterAll_inProgress (l path : List ProbeId) (hd : g.contains d = true)
    (hm : m.get? d = some .inProgress) :
    enterAll g (d :: l) m path = .lookUp d m path
      ∧ visitAll g (d :: l) m path = (Walk.lookUp d m path).search := by
  rw [enterAll, visitAll, if_pos hd, if_pos hd]
  constructor
  · split <;> simp_all
  · split
    · simp_all
    · rw [Walk.lookUp]
      cases path.idxOf? d <;> rfl
    · simp_all

theorem enterAll_new (hd : g.contains d = true) (hm : m.contains d = false) :
    enterAll g (d :: l) m path = if (enter g d m path hm).cycle.isSome then enter g d m path hm
      else (enter g d m path hm).andThen
        (enterAll g l (enter g d m path hm).marks (enter g d m path hm).path) := by
  have hnone : m.get? d = none := by simpa [Table.contains] using hm
  rw [enterAll, if_pos hd]
  split <;> simp_all

section
variable {w : Walk m} (hd : g.contains d = true) (hm : m.contains d = false)
  (hw : visit g d m path hm = w.search)

include hd hw

theorem visitAll_of_found {cycle : List ProbeId} (hcycle : w.cycle = some cycle) :
    visitAll g (d :: l) m path = w.search := by
  have hnone : m.get? d = none := by simpa [Table.contains] using hm
  have hfound : (visit g d m path hm).cycle = some cycle := by rw [hw]; exact hcycle
  rw [visitAll, if_pos hd]
  split
  · simp_all
  · simp_all
  · dsimp only
    rw [hfound]
    exact eq_search hcycle.symm (congrArg (·.marks) hw)

theorem visitAll_of_clear {rest : Walk w.marks} (hcycle : w.cycle = none)
    (hrest : visitAll g l w.marks path = rest.search) :
    visitAll g (d :: l) m path = (w.andThen rest).search := by
  have hnone : m.get? d = none := by simpa [Table.contains] using hm
  have hclear : (visit g d m path hm).cycle = none := by rw [hw]; exact hcycle
  have hmarks : (visit g d m path hm).marks = w.marks := by rw [hw]; rfl
  rw [visitAll, if_pos hd]
  split
  · simp_all
  · simp_all
  · dsimp only
    rw [hclear]
    refine eq_search ?_ ?_
    · exact (congrArg (fun m => (visitAll g l m path).cycle) hmarks).trans
        (congrArg (·.cycle) hrest)
    · exact (congrArg (fun m => (visitAll g l m path).marks) hmarks).trans
        (congrArg (·.marks) hrest)

end

/-- What is to be shown of a visit. -/
def EnteredSoundly (g : Dependencies) (p : ProbeId) (m : Marks) (path : List ProbeId)
    (h : m.contains p = false) : Prop :=
  Consistent g m path → g.contains p = true → (path ++ [p]).IsChain g.Awaits →
    (enter g p m path h).Sound g p path ∧ visit g p m path h = (enter g p m path h).search
      ∧ ((enter g p m path h).cycle = none → (enter g p m path h).marks.get? p = some .done)

/-- **Going through the probes that another one waits for is sound**, if visits are.  When no
circle is found, all of them that are members are done. -/
theorem sound_enterAll {n : Nat} {init : List ProbeId}
    (henter : ∀ p m path h, Marks.left m ≤ n → EnteredSoundly g p m path h)
    (hle : Marks.left m ≤ n) (hc : Consistent g m (init ++ [p]))
    (hl : ∀ d ∈ l, g.contains d = true → g.Awaits p d) :
    (enterAll g l m (init ++ [p])).Sound g p (init ++ [p])
      ∧ visitAll g l m (init ++ [p]) = (enterAll g l m (init ++ [p])).search
      ∧ ((enterAll g l m (init ++ [p])).cycle = none → ∀ d ∈ l, g.contains d = true →
        (enterAll g l m (init ++ [p])).marks.get? d = some .done) := by
  induction l generalizing m with
  | nil =>
      rw [enterAll, visitAll]
      exact ⟨Walk.sound_nothing hc, rfl, fun _ => List.forall_mem_nil _⟩
  | cons d l ih =>
      obtain ⟨hpd, hrest⟩ := List.forall_mem_cons.mp hl
      cases hd : g.contains d with
      | false =>
          obtain ⟨hsound, hagrees, hdone⟩ := ih hle hc hrest
          obtain ⟨henter, hvisit⟩ := enterAll_stranger l (init ++ [p]) m hd
          rw [henter, hvisit]
          refine ⟨hsound, hagrees, fun hnone => List.forall_mem_cons.mpr ⟨fun hmember => ?_,
            hdone hnone⟩⟩
          exact absurd (hd.symm.trans hmember) (by decide)
      | true =>
          cases hm : m.get? d with
          | none =>
              have hnew : m.contains d = false := by rw [Table.contains, hm]; rfl
              obtain ⟨hsound, hagrees, hdone⟩ :=
                henter d m (init ++ [p]) hnew hle hc hd (hc.chain (hpd hd))
              rw [enterAll_new hd hnew]
              cases hfirst : (enter g d m (init ++ [p]) hnew).cycle with
              | some cycle =>
                  rw [Option.isSome_some, if_pos rfl]
                  refine ⟨hsound.of_awaits (hpd hd),
                    visitAll_of_found hd hnew hagrees hfirst, fun hnone => ?_⟩
                  cases hfirst.symm.trans hnone
              | none =>
                  rw [Option.isSome_none, if_neg Bool.false_ne_true, hsound.restored hfirst]
                  obtain ⟨hsound', hagrees', hdone'⟩ :=
                    ih (Nat.le_trans (enter g d m (init ++ [p]) hnew).left_le hle)
                      (hsound.consistent hfirst) hrest
                  refine ⟨hsound.andThen hsound' (hpd hd) hfirst,
                    visitAll_of_clear hd hnew hagrees hfirst hagrees',
                    fun hnone => List.forall_mem_cons.mpr ⟨fun _ => ?_, hdone' hnone⟩⟩
                  exact (hsound'.turned hnone).keeps (hdone hfirst)
          | some mark =>
              cases mark with
              | done =>
                  obtain ⟨hsound, hagrees, hdone⟩ := ih hle hc hrest
                  obtain ⟨henter, hvisit⟩ := enterAll_done l (init ++ [p]) hd hm
                  rw [henter, hvisit]
                  exact ⟨hsound, hagrees, fun hnone => List.forall_mem_cons.mpr
                    ⟨fun _ => (hsound.turned hnone).keeps hm, hdone hnone⟩⟩
              | inProgress =>
                  obtain ⟨hsound, hsome⟩ := Walk.sound_lookUp (p := p) hc hm
                  obtain ⟨henter, hagrees⟩ := enterAll_inProgress l (init ++ [p]) hd hm
                  rw [henter]
                  refine ⟨hsound, hagrees, fun hnone => ?_⟩
                  rw [hnone] at hsome
                  cases hsome

/-- **Every visit is sound**, and so is all that it leads to. -/
theorem sound_enter (h : m.contains p = false) : EnteredSoundly g p m path h := by
  -- What is visited behind a probe is visited with fewer probes without a mark.
  induction hn : Marks.left m using Nat.strongRecOn generalizing p m path with
  | ind n ih =>
      intro hc hmember hnext
      have hlt := Marks.left_insert_lt .inProgress h
      obtain ⟨hinner, hagrees, hdone⟩ := sound_enterAll (l := g.of p)
        (fun q m' path' h' hle => ih _ (by omega) h' rfl) (Nat.le_refl _)
        (hc.begin h hnext) fun d hd hmember => ⟨hd, hmember⟩
      have hsame := visit_eq_search h hinner.onCourse hagrees
      rw [enter] at hsame ⊢
      obtain ⟨hsound, hself⟩ := hinner.leave h hc hmember hnext
        (fun hnone q hq => hdone hnone q hq.1 hq.2) hsame
      exact ⟨hsound, hsame, hself⟩

/-- **A search from every probe of a list is sound**, if they are members, and it finds what
`search` finds.  When that is nothing, all of them have a mark. -/
theorem sound_tour (hc : Consistent g m []) (hl : ∀ p ∈ l, g.contains p = true) :
    (tour g l m []).Written g ∧ (tour g l m []).cycle = search g l m
      ∧ ((tour g l m []).cycle = none →
        ∀ p ∈ l, (tour g l m []).marks.contains p = true) := by
  induction l generalizing m with
  | nil => exact ⟨Walk.written_nothing, rfl, fun _ => List.forall_mem_nil _⟩
  | cons p l ih =>
      obtain ⟨hp, hrest⟩ := List.forall_mem_cons.mp hl
      rw [tour, search]
      split
      · rename_i hnew
        obtain ⟨hsound, hagrees, hdone⟩ := sound_enter hnew hc hp (List.isChain_singleton p)
        have hcycle : (visit g p m [] hnew).cycle = (enter g p m [] hnew).cycle :=
          congrArg (·.cycle) hagrees
        have hmarks : (visit g p m [] hnew).marks = (enter g p m [] hnew).marks :=
          congrArg (·.marks) hagrees
        dsimp only
        rw [hcycle, hmarks]
        cases hfirst : (enter g p m [] hnew).cycle with
        | some cycle =>
            rw [Option.isSome_some, if_pos rfl]
            refine ⟨hsound.toWritten, hfirst, fun hnone => ?_⟩
            cases hfirst.symm.trans hnone
        | none =>
            rw [Option.isSome_none, if_neg Bool.false_ne_true, hsound.restored hfirst]
            obtain ⟨hwritten, hfound, hall⟩ := ih (hsound.consistent hfirst) hrest
            refine ⟨hsound.toWritten.andThen hwritten, hfound, fun hnone =>
              List.forall_mem_cons.mpr ⟨?_, hall hnone⟩⟩
            -- What was marked by the visit stays so.
            refine (hwritten.marked p).mpr (Or.inl ?_)
            rw [Table.contains, hdone hfirst]
            rfl
      · rename_i hold
        obtain ⟨hwritten, hfound, hall⟩ := ih hc hrest
        refine ⟨hwritten, hfound, fun hnone => List.forall_mem_cons.mpr
          ⟨(hwritten.marked p).mpr (Or.inl ?_), hall hnone⟩⟩
        simpa using hold

end

end TlsScan.Dependencies
