import Mathlib.Data.List.Chain
import Mathlib.Data.List.Nodup
import TlsScan.Proofs.Dependency.Graph
import TlsScan.Proofs.Dependency.Search

/-!
# Circles of probes

The search hands back a path when it meets a probe that is still in progress.  Probes in
progress are exactly those on the path, each of them waits for the next one, and none is
there twice; so the path from that probe on is a circle, and it is one of the smallest kind,
as it meets no probe again before it closes.  Together with `grounded_of_findCycle` this
says that the search finds a circle exactly if there is one.

## Main Definitions

* `IsCircle` — a path that ends where it starts and meets nobody twice before that.
* `ProbeSet.Awaits` — one probe of a set asks for another one.
* `Dependencies.Trail` — what the path of the search and the marks have in common.

## Main Results

* `Dependencies.Trail.enters`, `Dependencies.Trail.goesThrough` — the search keeps a trail,
  and what it finds is a circle.
* `Dependencies.findCycle_eq_none_iff` — no circle is found exactly if there is none.
* `Dependencies.circles_are_found` — the search in the graph of a set, in terms of the set.
* `ProbeSet.check_succeeds_iff` — which sets pass their check.
-/

namespace TlsScan

/-! ## Circles of a relation -/

/-- **A circle of a relation**: a path that ends where it starts, along which everyone is
related to the next one, and which meets nobody twice before it closes. -/
structure IsCircle {α : Type} (r : α → α → Prop) (path : List α) : Prop where
  two_le : 2 ≤ path.length
  closed : path.head? = path.getLast?
  distinct : path.dropLast.Nodup
  follows : path.IsChain r

section
variable {α : Type} {r : α → α → Prop} {path : List α}

/-- Who is first on a path reaches all others. -/
theorem transGen_of_isChain {a : α} {l : List α} (h : (a :: l).IsChain r) :
    ∀ b ∈ l, Relation.TransGen r a b := by
  induction l generalizing a with
  | nil => nofun
  | cons b l ih =>
      obtain ⟨hab, hl⟩ := List.isChain_cons_cons.mp h
      exact List.forall_mem_cons.mpr ⟨.single hab, fun c hc => .head hab (ih hl c hc)⟩

/-- A circle has a first member, which is met again. -/
theorem IsCircle.exists_head (h : IsCircle r path) : ∃ a l, path = a :: l ∧ a ∈ l := by
  match path, h.two_le, h.closed with
  | a :: b :: l, _, hclosed =>
      rw [List.head?_cons, List.getLast?_cons_cons] at hclosed
      exact ⟨a, b :: l, rfl, List.mem_of_getLast? hclosed.symm⟩

/-- **Along a circle someone reaches itself**, -/
theorem IsCircle.exists_transGen (h : IsCircle r path) : ∃ a, Relation.TransGen r a a := by
  obtain ⟨a, l, rfl, ha⟩ := h.exists_head
  exact ⟨a, transGen_of_isChain h.follows a ha⟩

/-- and everyone comes after someone. -/
theorem IsCircle.exists_before (h : IsCircle r path) : ∀ b ∈ path, ∃ a, r a b := by
  obtain ⟨a, l, rfl, ha⟩ := h.exists_head
  have hbefore : ∀ b ∈ l, ∃ c, r c b := fun b hb => by
    obtain ⟨c, -, hc⟩ := Relation.TransGen.tail'_iff.mp (transGen_of_isChain h.follows b hb)
    exact ⟨c, hc⟩
  exact List.forall_mem_cons.mpr ⟨hbefore a ha, hbefore⟩

end

namespace Dependencies

variable {g : Dependencies}

/-! ## The path of the search -/

/-- **What the path and the marks have in common**: the probes in progress are those on the
path, each once, and each waits for the next one. -/
structure Trail (g : Dependencies) (m : Marks) (path : List ProbeId) : Prop where
  distinct : path.Nodup
  inProgress : ∀ p, m.get? p = some .inProgress ↔ p ∈ path
  follows : path.IsChain g.Awaits

theorem trail_empty (g : Dependencies) : Trail g Table.empty [] :=
  ⟨List.nodup_nil, fun _ => iff_of_false nofun List.not_mem_nil, .nil⟩

/-- A probe that has no mark is not on the path. -/
theorem Trail.not_mem {m : Marks} {path : List ProbeId} {p : ProbeId} (h : Trail g m path)
    (hp : m.contains p = false) : p ∉ path := by
  intro hpath
  have hmark : m.contains p = true := Table.contains_iff.mpr ⟨_, (h.inProgress p).mpr hpath⟩
  exact absurd (hp.symm.trans hmark) (by decide)

/-- A new probe is put on the path behind one that waits for it. -/
theorem Trail.begin {m : Marks} {path : List ProbeId} {p : ProbeId} (h : Trail g m path)
    (hp : m.contains p = false) (hnext : (path ++ [p]).IsChain g.Awaits) :
    Trail g (m.insert p .inProgress) (path ++ [p]) := by
  refine ⟨List.nodup_append.mpr ⟨h.distinct, List.nodup_singleton p, ?_⟩, fun q => ?_, hnext⟩
  · rintro q hq _ hqp rfl
    rw [List.mem_singleton] at hqp
    exact h.not_mem hp (hqp ▸ hq)
  · rw [Table.get?_insert, List.mem_append, List.mem_singleton]
    split
    · rename_i heq
      exact iff_of_true rfl (Or.inr heq)
    · rename_i hne
      rw [h.inProgress q, or_iff_left hne]

/-- A probe that is done is taken off the path. -/
theorem Trail.finish {m : Marks} {path : List ProbeId} {p : ProbeId}
    (h : Trail g m (path ++ [p])) : Trail g (m.insert p .done) path := by
  obtain ⟨hpath, -, hdiff⟩ := List.nodup_append.mp h.distinct
  refine ⟨hpath, fun q => ?_, h.follows.left_of_append⟩
  rw [Table.get?_insert]
  split
  · rename_i heq
    refine iff_of_false nofun fun hq => ?_
    exact hdiff q hq p (List.mem_singleton_self p) heq
  · rename_i hne
    rw [h.inProgress q, List.mem_append, List.mem_singleton, or_iff_left hne]

/-- **From a probe on the path that the last one waits for, the path is a circle.** -/
theorem Trail.isCircle {m : Marks} {path : List ProbeId} {d : ProbeId} {start : Nat}
    (h : Trail g m path) (hs : path.idxOf? d = some start)
    (hnext : (path ++ [d]).IsChain g.Awaits) : IsCircle g.Awaits (path.drop start ++ [d]) := by
  obtain ⟨hlt, hd, -⟩ := List.idxOf?_eq_some_iff.mp hs
  refine ⟨?_, ?_, ?_, ?_⟩
  · rw [List.length_append, List.length_drop, List.length_singleton]
    omega
  · rw [List.drop_eq_getElem_cons hlt, hd, List.cons_append, List.head?_cons,
      ← List.cons_append, List.getLast?_concat]
  · rw [List.dropLast_concat]
    exact h.distinct.sublist (List.drop_sublist ..)
  · rw [← List.drop_append_of_le_length (Nat.le_of_lt hlt)]
    exact hnext.drop start

/-! ## What the search finds -/

mutual

/-- **What is found behind a probe is a circle**, and if nothing is found, there is the same
path as before. -/
theorem Trail.enters {p : ProbeId} {m m' : Marks} {path : List ProbeId}
    {found : Option (List ProbeId)} (ht : Trail g m path)
    (hnext : (path ++ [p]).IsChain g.Awaits) (h : Enters g p m path found m') :
    (∀ cycle, found = some cycle → IsCircle g.Awaits cycle)
      ∧ (found = none → Trail g m' path) := by
  -- Whoever the probe waits for can come behind it.
  have hlast : ∀ d ∈ g.of p, g.contains d = true →
      (path ++ [p] ++ [d]).IsChain g.Awaits := fun d hd hmember => by
    rw [List.append_assoc, List.singleton_append, List.isChain_append_cons_cons]
    exact ⟨hnext, ⟨hd, hmember⟩, .singleton d⟩
  match h with
  | .found hp hinner =>
      obtain ⟨hcircle, -⟩ := Trail.goesThrough (ht.begin hp hnext) hlast hinner
      exact ⟨hcircle, nofun⟩
  | .clear hp hinner =>
      obtain ⟨-, hclear⟩ := Trail.goesThrough (ht.begin hp hnext) hlast hinner
      exact ⟨nofun, fun _ => (hclear rfl).finish⟩

/-- And so it is with the probes that the last one on the path waits for. -/
theorem Trail.goesThrough {l : List ProbeId} {m m' : Marks} {path : List ProbeId}
    {found : Option (List ProbeId)} (ht : Trail g m path)
    (hnext : ∀ d ∈ l, g.contains d = true → (path ++ [d]).IsChain g.Awaits)
    (h : GoesThrough g l m path found m') :
    (∀ cycle, found = some cycle → IsCircle g.Awaits cycle)
      ∧ (found = none → Trail g m' path) := by
  have hrest : ∀ {d l'}, l = d :: l' → ∀ q ∈ l', g.contains q = true →
      (path ++ [q]).IsChain g.Awaits := by
    rintro d l' rfl q hq
    exact hnext q (List.mem_cons_of_mem d hq)
  match h with
  | .nil => exact ⟨nofun, fun _ => ht⟩
  | .stranger _ hl => exact Trail.goesThrough ht (hrest rfl) hl
  | .done _ _ hl => exact Trail.goesThrough ht (hrest rfl) hl
  | .circle hd _ hs =>
      refine ⟨fun cycle hc => ?_, nofun⟩
      cases hc
      exact ht.isCircle hs (hnext _ List.mem_cons_self hd)
  | .astray _ hprogress hnone =>
      -- What is in progress is on the path, so it is found there.
      exact absurd ((ht.inProgress _).mp hprogress) (List.idxOf?_eq_none_iff.mp hnone)
  | .found hd _ hfirst =>
      obtain ⟨hcircle, -⟩ := Trail.enters ht (hnext _ List.mem_cons_self hd) hfirst
      exact ⟨hcircle, nofun⟩
  | .clear hd _ hfirst hl =>
      obtain ⟨-, hclear⟩ := Trail.enters ht (hnext _ List.mem_cons_self hd) hfirst
      exact Trail.goesThrough (hclear rfl) (hrest rfl) hl

end

theorem isCircle_of_searches {l cycle : List ProbeId} {m : Marks} (ht : Trail g m [])
    (h : Searches g l m (some cycle)) : IsCircle g.Awaits cycle := by
  induction l generalizing m with
  | nil => cases h
  | cons p l ih =>
      cases h with
      | marked _ hl => exact ih ht hl
      | found hfirst => exact (ht.enters (.singleton p) hfirst).1 cycle rfl
      | clear hfirst hl => exact ih ((ht.enters (.singleton p) hfirst).2 rfl) hl

/-- The course of the whole search. -/
theorem searches_findCycle (g : Dependencies) :
    Searches g g.edges.keys Table.empty g.findCycle := searches_search ..

/-- **What the search finds is a circle.** -/
theorem isCircle_of_findCycle {cycle : List ProbeId} (h : g.findCycle = some cycle) :
    IsCircle g.Awaits cycle :=
  isCircle_of_searches (trail_empty g) (h ▸ searches_findCycle g)

/-- A probe that cannot wait forever does not wait for itself. -/
theorem Grounded.not_transGen {p : ProbeId} (h : g.Grounded p) :
    ¬ Relation.TransGen g.Awaits p p := by
  induction h with
  | intro p _ ih =>
      intro hp
      obtain ⟨q, hq, hqp⟩ := Relation.TransGen.head'_iff.mp hp
      exact ih q hq (Relation.TransGen.tail'_iff.mpr ⟨p, hqp, hq⟩)

/-- **No circle is found exactly if nobody waits for itself.** -/
theorem findCycle_eq_none_iff :
    g.findCycle = none ↔ ∀ p, ¬ Relation.TransGen g.Awaits p p := by
  constructor
  · exact fun h p => (grounded_of_findCycle h p).not_transGen
  · intro h
    cases hc : g.findCycle with
    | none => rfl
    | some cycle =>
        obtain ⟨p, hp⟩ := (isCircle_of_findCycle hc).exists_transGen
        exact absurd hp (h p)

end Dependencies

/-! ## Sets of probes -/

namespace ProbeSet

/-- **One probe of a set asks for another one of the set.** -/
def Awaits (l : List Declaration) (p q : ProbeId) : Prop :=
  (∃ d ∈ l, d.probe = p ∧ q ∈ d.dependencies) ∧ ∃ e ∈ l, e.probe = q

instance (l : List Declaration) (p q : ProbeId) : Decidable (Awaits l p q) :=
  inferInstanceAs (Decidable (_ ∧ _))

end ProbeSet

namespace Dependencies

variable {g : Dependencies} {l : List Declaration}

/-- Declarations whose identities differ are taken in. -/
theorem add_succeeds (hnodup : (l.map (·.probe)).Nodup)
    (hfree : ∀ d ∈ l, g.contains d.probe = false) : ∃ g', g.add l = .ok g' := by
  induction l generalizing g with
  | nil => exact ⟨g, rfl⟩
  | cons a l ih =>
      rw [List.map_cons, List.nodup_cons] at hnodup
      rw [add, hfree a List.mem_cons_self, if_neg Bool.false_ne_true]
      refine ih hnodup.2 fun d hd => ?_
      have hne : d.probe ≠ a.probe := fun heq => hnodup.1 (heq ▸ List.mem_map_of_mem hd)
      rw [contains, Table.contains_insert, decide_eq_false hne, Bool.false_or]
      exact hfree d (List.mem_cons_of_mem a hd)

theorem ofDeclarations_succeeds (hnodup : (l.map (·.probe)).Nodup) :
    ∃ g, ofDeclarations l = .ok g := add_succeeds hnodup fun _ _ => rfl

/-- Who waits for whom can be read off the declarations. -/
theorem awaits_iff (h : ofDeclarations l = .ok g) {p q : ProbeId} :
    g.Awaits p q ↔ ProbeSet.Awaits l p q := by
  unfold Awaits ProbeSet.Awaits
  rw [contains_of_ofDeclarations h]
  refine and_congr_left fun _ => ⟨fun hq => ?_, ?_⟩
  · cases hp : g.contains p with
    | true =>
        obtain ⟨d, hd, rfl⟩ := (contains_of_ofDeclarations h).mp hp
        rw [of_of_ofDeclarations h hd] at hq
        exact ⟨d, hd, rfl, hq⟩
    | false =>
        -- A probe that is no member waits for nothing.
        have hnone : g.edges.get? p = none := by simpa [contains, Table.contains] using hp
        rw [of, hnone] at hq
        cases hq
  · rintro ⟨d, hd, rfl, hq⟩
    rwa [of_of_ofDeclarations h hd]

theorem awaits_eq (h : ofDeclarations l = .ok g) : g.Awaits = ProbeSet.Awaits l := by
  funext p q
  exact propext (awaits_iff h)

/-- In the graph of a set, no circle is found exactly if nobody of the set waits for itself. -/
theorem findCycle_eq_none_iff_of_ofDeclarations (h : ofDeclarations l = .ok g) :
    g.findCycle = none ↔ ∀ p, ¬ Relation.TransGen (ProbeSet.Awaits l) p p := by
  rw [← awaits_eq h]
  exact findCycle_eq_none_iff

/-- **The search for circles is right.**  Take declarations whose identities differ.  They
have a graph, and the search in it comes to an end.  It finds nothing exactly if no probe of
the set waits for itself, directly or through others of the set.  What it finds is a circle:
a path of two probes or more that ends where it starts and meets nobody twice before that,
on which everyone is a member and asks for the next one. -/
theorem circles_are_found (hnodup : (l.map (·.probe)).Nodup) :
    ∃ g, ofDeclarations l = .ok g
      ∧ Searches g g.edges.keys Table.empty g.findCycle
      ∧ (g.findCycle = none ↔ ∀ p, ¬ Relation.TransGen (ProbeSet.Awaits l) p p)
      ∧ ∀ path, g.findCycle = some path →
        IsCircle (ProbeSet.Awaits l) path ∧ ∀ p ∈ path, ∃ d ∈ l, d.probe = p := by
  obtain ⟨g, hg⟩ := ofDeclarations_succeeds hnodup
  refine ⟨g, hg, searches_findCycle g, findCycle_eq_none_iff_of_ofDeclarations hg,
    fun path hpath => ?_⟩
  have hcircle := isCircle_of_findCycle hpath
  rw [awaits_eq hg] at hcircle
  refine ⟨hcircle, fun p hp => ?_⟩
  obtain ⟨_, -, hmember⟩ := hcircle.exists_before p hp
  exact hmember

namespace Sample

/-- A declaration that asks for executed probes. -/
def asking (p : ProbeId) (l : List ProbeId) : Declaration :=
  { Declaration.bare p with requirement := Requirement.none.requireProbes l }

/-- Two probes ask for each other; one of them asks twice, and for a stranger in between. -/
def entangled : List Declaration :=
  [asking .cipherSuite [.resumption], asking .resumption [.sessionTicket],
    asking .sessionTicket [.resumption, .alpn, .resumption]]

end Sample

theorem circles_are_found_sample :
    (Sample.entangled.map (·.probe)).Nodup
      ∧ ∃ g path, ofDeclarations Sample.entangled = .ok g ∧ g.findCycle = some path
        ∧ IsCircle (ProbeSet.Awaits Sample.entangled) path := by
  have hnodup : (Sample.entangled.map (·.probe)).Nodup := by decide
  have hout : ProbeSet.Awaits Sample.entangled .resumption .sessionTicket := by decide
  have hback : ProbeSet.Awaits Sample.entangled .sessionTicket .resumption := by decide
  obtain ⟨g, hg, -, hnone, hcircle⟩ := circles_are_found hnodup
  -- As one of them waits for itself, something is found.
  have hsome : g.findCycle ≠ none := fun h =>
    hnone.mp h .resumption (.head hout (.single hback))
  obtain ⟨path, hpath⟩ := Option.ne_none_iff_exists'.mp hsome
  exact ⟨hnodup, g, path, hg, hpath, (hcircle path hpath).1⟩

end Dependencies

/-- **A set passes its check** exactly if no identity occurs twice in it and nobody waits for
itself. -/
theorem ProbeSet.check_succeeds_iff {l : List Declaration} :
    (∃ g, check l = .ok g) ↔ (l.map (·.probe)).Nodup
      ∧ ∀ p, ¬ Relation.TransGen (Awaits l) p p := by
  constructor
  · rintro ⟨g, h⟩
    obtain ⟨hg, hnone⟩ := check_eq_ok_iff.mp h
    exact ⟨nodup_of_check h, (Dependencies.findCycle_eq_none_iff_of_ofDeclarations hg).mp hnone⟩
  · rintro ⟨hnodup, hfree⟩
    obtain ⟨g, hg⟩ := Dependencies.ofDeclarations_succeeds hnodup
    have hnone := (Dependencies.findCycle_eq_none_iff_of_ofDeclarations hg).mpr hfree
    exact ⟨g, check_eq_ok_iff.mpr ⟨hg, hnone⟩⟩

end TlsScan
