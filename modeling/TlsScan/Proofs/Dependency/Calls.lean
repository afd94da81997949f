import Mathlib.Logic.Relation
import TlsScan.Proofs.Dependency.Visits

/-!
# The calls of the search

The search in place writes down itself which probes it visits, and could keep something back.
So the calls that the search makes are told here from the functions that it consists of, one
clause for each place at which one of them calls itself or another one.  All visits and all
looks at the path are written down, whatever the search finds, and nothing else is.

## Main Definitions

* `Dependencies.Call`, `Dependencies.Makes` — the calls, and which ones another one makes.
* `Dependencies.Called` — the calls of the search for a circle.
* `Dependencies.Walk.Tells` — a part of the search writes down what a call leads to.

## Main Results

* `Dependencies.tells_enter`, `Dependencies.tells_enterAll`, `Dependencies.tells_tour` — the
  search in place writes down what it should.
* `Dependencies.course_sound` — every call of the whole search is sound.
-/

namespace TlsScan.Dependencies

variable {g : Dependencies}

/-! ## Calls -/

/-- **A call of a part of the search.** -/
inductive Call where
  | search (l : List ProbeId) (m : Marks)
  | visit (p : ProbeId) (m : Marks) (path : List ProbeId)
  | visitAll (l : List ProbeId) (m : Marks) (path : List ProbeId)
  /-- To look for a probe in progress on the path. -/
  | lookUp (p : ProbeId) (path : List ProbeId)

/-- Whether a call is one of those that are written down. -/
def Call.isWritten : Call → Bool
  | visit .. | lookUp .. => true
  | search .. | visitAll .. => false

/-- The call that a visit was. -/
def Visit.call (v : Visit) : Call := .visit v.probe v.marks v.path

/-- The call that a look at the path was. -/
def Lookup.call (l : Lookup) : Call := .lookUp l.probe l.path

/-- **One call makes another one**, or goes on with it. -/
inductive Makes (g : Dependencies) : Call → Call → Prop
  /-- A search goes past a probe that has a mark, -/
  | marked {p : ProbeId} {l : List ProbeId} {m : Marks} (hp : m.contains p = true) :
      Makes g (.search (p :: l) m) (.search l m)
  /-- and visits one that has none. -/
  | root {p : ProbeId} {l : List ProbeId} {m : Marks} (hp : m.contains p = false) :
      Makes g (.search (p :: l) m) (.visit p m [])
  /-- If there is no circle behind it, the search goes on. -/
  | nextRoot {p : ProbeId} {l : List ProbeId} {m : Marks} (hp : m.contains p = false)
      (hfound : (Dependencies.visit g p m [] hp).cycle = none) :
      Makes g (.search (p :: l) m) (.search l (Dependencies.visit g p m [] hp).marks)
  /-- A visit goes through the probes that its probe waits for. -/
  | inner {p : ProbeId} {m : Marks} {path : List ProbeId} :
      Makes g (.visit p m path) (.visitAll (g.of p) (m.insert p .inProgress) (path ++ [p]))
  /-- One that is no member is left out, -/
  | stranger {d : ProbeId} {l path : List ProbeId} {m : Marks} (hd : g.contains d = false) :
      Makes g (.visitAll (d :: l) m path) (.visitAll l m path)
  /-- and so is one that is done. -/
  | done {d : ProbeId} {l path : List ProbeId} {m : Marks} (hd : g.contains d = true)
      (hm : m.get? d = some .done) : Makes g (.visitAll (d :: l) m path) (.visitAll l m path)
  /-- One that is in progress is looked for on the path. -/
  | lookUp {d : ProbeId} {l path : List ProbeId} {m : Marks} (hd : g.contains d = true)
      (hm : m.get? d = some .inProgress) : Makes g (.visitAll (d :: l) m path) (.lookUp d path)
  /-- One that is new is visited. -/
  | enter {d : ProbeId} {l path : List ProbeId} {m : Marks} (hd : g.contains d = true)
      (hm : m.contains d = false) : Makes g (.visitAll (d :: l) m path) (.visit d m path)
  /-- If there is no circle behind it, the others follow. -/
  | next {d : ProbeId} {l path : List ProbeId} {m : Marks} (hd : g.contains d = true)
      (hm : m.contains d = false) (hfound : (Dependencies.visit g d m path hm).cycle = none) :
      Makes g (.visitAll (d :: l) m path)
        (.visitAll l (Dependencies.visit g d m path hm).marks path)

/-- One call leads to another one, directly or through others. -/
def Leads (g : Dependencies) : Call → Call → Prop := Relation.ReflTransGen (Makes g)

/-- **The calls that the search for a circle makes.** -/
def Called (g : Dependencies) : Call → Prop := g.Leads (.search g.edges.keys Table.empty)

/-! ### Which calls a call makes -/

section
variable {d p : ProbeId} {l path : List ProbeId} {m : Marks} {c : Call}

theorem not_contains_of_get? {x : Mark} (hm : m.get? d = some x) : m.contains d ≠ false := by
  rw [Table.contains, hm]
  exact Bool.noConfusion

theorem makes_stranger_iff (hd : g.contains d = false) :
    Makes g (.visitAll (d :: l) m path) c ↔ c = .visitAll l m path := by
  constructor
  · intro h
    cases h <;> first | rfl | exact absurd (hd.symm.trans ‹_›) Bool.noConfusion
  · rintro rfl
    exact .stranger hd

theorem makes_done_iff (hd : g.contains d = true) (hm : m.get? d = some .done) :
    Makes g (.visitAll (d :: l) m path) c ↔ c = .visitAll l m path := by
  constructor
  · intro h
    cases h with
    | stranger | done => rfl
    | lookUp _ hm' => cases hm.symm.trans hm'
    | enter _ hm' | next _ hm' => exact absurd hm' (not_contains_of_get? hm)
  · rintro rfl
    exact .done hd hm

theorem makes_inProgress_iff (hd : g.contains d = true) (hm : m.get? d = some .inProgress) :
    Makes g (.visitAll (d :: l) m path) c ↔ c = .lookUp d path := by
  constructor
  · intro h
    cases h with
    | lookUp => rfl
    | stranger hd' => cases hd.symm.trans hd'
    | done _ hm' => cases hm.symm.trans hm'
    | enter _ hm' | next _ hm' => exact absurd hm' (not_contains_of_get? hm)
  · rintro rfl
    exact .lookUp hd hm

theorem makes_new_iff (hd : g.contains d = true) (hm : m.contains d = false) :
    Makes g (.visitAll (d :: l) m path) c ↔ c = .visit d m path
      ∨ (visit g d m path hm).cycle = none
        ∧ c = .visitAll l (visit g d m path hm).marks path := by
  constructor
  · intro h
    cases h with
    | enter => exact Or.inl rfl
    | next _ _ hfound => exact Or.inr ⟨hfound, rfl⟩
    | stranger hd' => cases hd.symm.trans hd'
    | done _ hm' | lookUp _ hm' => exact absurd hm (not_contains_of_get? hm')
  · rintro (rfl | ⟨hfound, rfl⟩)
    · exact .enter hd hm
    · exact .next hd hm hfound

theorem makes_root_iff (hp : m.contains p = false) :
    Makes g (.search (p :: l) m) c ↔ c = .visit p m []
      ∨ (visit g p m [] hp).cycle = none ∧ c = .search l (visit g p m [] hp).marks := by
  constructor
  · intro h
    cases h with
    | root => exact Or.inl rfl
    | nextRoot _ hfound => exact Or.inr ⟨hfound, rfl⟩
    | marked hp' => cases hp.symm.trans hp'
  · rintro (rfl | ⟨hfound, rfl⟩)
    · exact .root hp
    · exact .nextRoot hp hfound

theorem makes_marked_iff (hp : m.contains p = true) :
    Makes g (.search (p :: l) m) c ↔ c = .search l m := by
  constructor
  · intro h
    cases h with
    | marked => rfl
    | root hp' | nextRoot hp' => cases hp.symm.trans hp'
  · rintro rfl
    exact .marked hp

theorem makes_inner_iff : Makes g (.visit p m path) c
    ↔ c = .visitAll (g.of p) (m.insert p .inProgress) (path ++ [p]) := by
  constructor
  · rintro ⟨⟩
    rfl
  · rintro rfl
    exact .inner

end

/-! ## What is written down -/

namespace Walk

variable {m : Marks}

/-- The calls that are written down in a part of the search. -/
def calls (w : Walk m) : List Call := w.visits.map Visit.call ++ w.lookups.map Lookup.call

/-- **A part of the search writes down what a call leads to**, and nothing else. -/
def Tells (g : Dependencies) (c : Call) (w : Walk m) : Prop :=
  ∀ c', c'.isWritten = true → (g.Leads c c' ↔ c' ∈ w.calls)

theorem mem_calls_andThen {first : Walk m} {rest : Walk first.marks} {c : Call} :
    c ∈ (first.andThen rest).calls ↔ c ∈ first.calls ∨ c ∈ rest.calls := by
  simp only [calls, andThen, List.map_append, List.mem_append]
  exact or_or_or_comm

theorem calls_leave {p : ProbeId} {path : List ProbeId} (h : m.contains p = false)
    (inner : Walk (m.insert p .inProgress)) :
    (inner.leave p path h).calls = .visit p m path :: inner.calls := by
  rw [leave]
  split <;> rfl

theorem calls_lookUp (d : ProbeId) (m : Marks) (path : List ProbeId) :
    (lookUp d m path).calls = [.lookUp d path] := by
  rw [lookUp]
  split <;> rfl

/-- What is not written down itself leads to what the calls do that it makes. -/
theorem tells_iff {c : Call} (hc : c.isWritten = false) {w : Walk m} :
    w.Tells g c ↔ ∀ c', c'.isWritten = true →
      ((∃ b, Makes g c b ∧ g.Leads b c') ↔ c' ∈ w.calls) := by
  refine forall_congr' fun c' => imp_congr_right fun hc' => ?_
  have hne : c ≠ c' := by
    rintro rfl
    cases hc.symm.trans hc'
  rw [Leads, Relation.ReflTransGen.cases_head_iff, or_iff_right hne]

/-- A call that only goes on with another one. -/
theorem Tells.of_makes {b c : Call} (hc : c.isWritten = false)
    (hmakes : ∀ {b'}, Makes g c b' ↔ b' = b) {w : Walk m} (h : w.Tells g b) : w.Tells g c := by
  refine (tells_iff hc).mpr fun c' hc' => ?_
  simp only [hmakes, exists_eq_left]
  exact h c' hc'

/-- A call that makes one call after the other. -/
theorem Tells.andThen {b b' c : Call} (hc : c.isWritten = false)
    (hmakes : ∀ {a}, Makes g c a ↔ a = b ∨ a = b') {first : Walk m} {rest : Walk first.marks}
    (hfirst : first.Tells g b) (hrest : rest.Tells g b') : (first.andThen rest).Tells g c := by
  refine (tells_iff hc).mpr fun c' hc' => ?_
  simp only [hmakes, or_and_right, exists_or, exists_eq_left]
  rw [mem_calls_andThen, hfirst c' hc', hrest c' hc']

/-- A call that makes no call. -/
theorem tells_nothing {c : Call} (hc : c.isWritten = false) (hmakes : ∀ b, ¬ Makes g c b)
    (path : List ProbeId) : (nothing m path).Tells g c := by
  refine (tells_iff hc).mpr fun c' _ => iff_of_false ?_ List.not_mem_nil
  rintro ⟨b, hb, -⟩
  exact hmakes b hb

/-- A look at the path makes no call. -/
theorem tells_lookUp (d : ProbeId) (m : Marks) (path : List ProbeId) :
    (lookUp d m path).Tells g (.lookUp d path) := by
  intro c' _
  rw [calls_lookUp, List.mem_singleton, Leads, Relation.ReflTransGen.cases_head_iff]
  constructor
  · rintro (rfl | ⟨b, hb, -⟩)
    · rfl
    · cases hb
  · rintro rfl
    exact Or.inl rfl

/-- A visit writes itself down, and all that it leads to. -/
theorem Tells.leave {p : ProbeId} {path : List ProbeId} (h : m.contains p = false)
    {inner : Walk (m.insert p .inProgress)}
    (hinner : inner.Tells g (.visitAll (g.of p) (m.insert p .inProgress) (path ++ [p]))) :
    (inner.leave p path h).Tells g (.visit p m path) := by
  intro c' hc'
  rw [calls_leave, List.mem_cons, ← hinner c' hc', Leads,
    Relation.ReflTransGen.cases_head_iff, eq_comm]
  simp only [makes_inner_iff, exists_eq_left]

end Walk

section
variable {p : ProbeId} {l path : List ProbeId} {m : Marks}

/-- What is to be shown of what is written down in a visit. -/
def EntersTold (g : Dependencies) (p : ProbeId) (m : Marks) (path : List ProbeId)
    (h : m.contains p = false) : Prop :=
  Consistent g m path → g.contains p = true → (path ++ [p]).IsChain g.Awaits →
    (enter g p m path h).Tells g (.visit p m path)

/-- **What is written down while the probes are gone through that another one waits for** is
what that leads to, if it is so for visits. -/
theorem tells_enterAll {n : Nat} {init : List ProbeId}
    (henter : ∀ p m path h, Marks.left m ≤ n → EntersTold g p m path h)
    (hle : Marks.left m ≤ n) (hc : Consistent g m (init ++ [p]))
    (hl : ∀ d ∈ l, g.contains d = true → g.Awaits p d) :
    (enterAll g l m (init ++ [p])).Tells g (.visitAll l m (init ++ [p])) := by
  induction l generalizing m with
  | nil =>
      rw [enterAll]
      exact Walk.tells_nothing rfl (fun _ h => by cases h) _
  | cons d l ih =>
      obtain ⟨hpd, hrest⟩ := List.forall_mem_cons.mp hl
      cases hd : g.contains d with
      | false =>
          rw [(enterAll_stranger l (init ++ [p]) m hd).1]
          exact (ih hle hc hrest).of_makes rfl (makes_stranger_iff hd)
      | true =>
          cases hm : m.get? d with
          | some mark =>
              cases mark with
              | done =>
                  rw [(enterAll_done l (init ++ [p]) hd hm).1]
                  exact (ih hle hc hrest).of_makes rfl (makes_done_iff hd hm)
              | inProgress =>
                  rw [(enterAll_inProgress l (init ++ [p]) hd hm).1]
                  exact (Walk.tells_lookUp d m _).of_makes rfl (makes_inProgress_iff hd hm)
          | none =>
              have hnew : m.contains d = false := by rw [Table.contains, hm]; rfl
              have hnext := hc.chain (hpd hd)
              have hfirst := henter d m (init ++ [p]) hnew hle hc hd hnext
              obtain ⟨hsound, hagrees, -⟩ := sound_enter hnew hc hd hnext
              rw [enterAll_new hd hnew]
              cases hfound : (enter g d m (init ++ [p]) hnew).cycle with
              | some cycle =>
                  rw [Option.isSome_some, if_pos rfl]
                  refine hfirst.of_makes rfl ?_
                  intro c
                  rw [makes_new_iff hd hnew, hagrees]
                  simp [Walk.search, hfound]
              | none =>
                  rw [Option.isSome_none, if_neg Bool.false_ne_true, hsound.restored hfound]
                  refine hfirst.andThen rfl ?_ (ih (Nat.le_trans
                    (enter g d m (init ++ [p]) hnew).left_le hle)
                    (hsound.consistent hfound) hrest)
                  intro c
                  rw [makes_new_iff hd hnew, hagrees]
                  simp [Walk.search, hfound]

/-- **What is written down in a visit is what it leads to.** -/
theorem tells_enter (h : m.contains p = false) : EntersTold g p m path h := by
  -- What is visited behind a probe is visited with fewer probes without a mark.
  induction hn : Marks.left m using Nat.strongRecOn generalizing p m path with
  | ind n ih =>
      intro hc hmember hnext
      have hlt := Marks.left_insert_lt .inProgress h
      rw [enter]
      exact (tells_enterAll (fun q m' path' h' hle => ih _ (by omega) h' rfl) (Nat.le_refl _)
        (hc.begin h hnext) fun d hd hmember => ⟨hd, hmember⟩).leave h

/-- **What is written down in a search from every probe of a list is what that leads to.** -/
theorem tells_tour (hc : Consistent g m []) (hl : ∀ p ∈ l, g.contains p = true) :
    (tour g l m []).Tells g (.search l m) := by
  induction l generalizing m with
  | nil => exact Walk.tells_nothing rfl (fun _ h => by cases h) _
  | cons p l ih =>
      obtain ⟨hp, hrest⟩ := List.forall_mem_cons.mp hl
      rw [tour]
      split
      · rename_i hnew
        have hfirst := tells_enter hnew hc hp (List.isChain_singleton p)
        obtain ⟨hsound, hagrees, -⟩ := sound_enter hnew hc hp (List.isChain_singleton p)
        dsimp only
        cases hfound : (enter g p m [] hnew).cycle with
        | some cycle =>
            rw [Option.isSome_some, if_pos rfl]
            refine hfirst.of_makes rfl ?_
            intro c
            rw [makes_root_iff hnew, hagrees]
            simp [Walk.search, hfound]
        | none =>
            rw [Option.isSome_none, if_neg Bool.false_ne_true, hsound.restored hfound]
            refine hfirst.andThen rfl ?_ (ih (hsound.consistent hfound) hrest)
            intro c
            rw [makes_root_iff hnew, hagrees]
            simp [Walk.search, hfound]
      · rename_i hold
        exact (ih hc hrest).of_makes rfl (makes_marked_iff (by simpa using hold))

end

/-- **Every call of the search is sound.**  What is told in place finds the circle that the
search finds.  The visits that are written down are those that the search makes, whatever it
finds, and so are the looks at the path.  Every visit is as claimed; every probe in progress is
found on the path; no probe is visited twice, and if there is no circle to be found, every
member is visited. -/
theorem course_sound (g : Dependencies) :
    g.course.cycle = g.findCycle
      ∧ (∀ p m path, g.Called (.visit p m path)
        ↔ ∃ v ∈ g.course.visits, v.probe = p ∧ v.marks = m ∧ v.path = path)
      ∧ (∀ p path, g.Called (.lookUp p path) ↔ ⟨p, path⟩ ∈ g.course.lookups)
      ∧ (∀ v ∈ g.course.visits, v.Sound g)
      ∧ (∀ l ∈ g.course.lookups, l.position?.isSome = true)
      ∧ (g.course.visits.map (·.probe)).Nodup
      ∧ (g.findCycle = none → ∀ p, g.contains p = true → p ∈ g.course.visits.map (·.probe)) := by
  have hmember : ∀ p, p ∈ g.edges.keys ↔ g.contains p = true := fun p => by
    rw [Table.keys, List.mem_filter, and_iff_right (Vocabulary.complete p), contains]
  have htells : g.course.Tells g (.search g.edges.keys Table.empty) :=
    tells_tour (consistent_empty g) fun p => (hmember p).mp
  obtain ⟨hwritten, hfound, hall⟩ := sound_tour (consistent_empty g) fun p => (hmember p).mp
  refine ⟨hfound, fun p m path => ?_, fun p path => ?_, hwritten.visits, hwritten.lookups,
    hwritten.distinct, fun hnone p hp => ?_⟩
  · refine (htells _ rfl).trans ?_
    simp [Walk.calls, Visit.call, Lookup.call]
  · refine (htells _ rfl).trans ?_
    simp only [Walk.calls, Visit.call, Lookup.call, List.mem_append, List.mem_map, reduceCtorEq,
      and_false, exists_false, false_or, Call.lookUp.injEq]
    constructor
    · rintro ⟨⟨_, _⟩, h, rfl, rfl⟩
      exact h
    · intro h
      exact ⟨_, h, rfl, rfl⟩
  · have hmark := hall (hfound.trans hnone) p ((hmember p).mpr hp)
    rcases (hwritten.marked p).mp hmark with hempty | hvisited
    · cases hempty
    · exact hvisited

end TlsScan.Dependencies
