import TlsScan.Proofs.Dependency.Circle

/-!
# What the check of a set reads

The check of a set of probes has two parts.  It takes in the declarations one by one and
stops at the first identity that it has already; so this part depends on their order.  If it
goes through, what it leaves is a table, and the search for a circle sees nothing else.  The
table has the hard edges of the declarations: their identities, each with the probes that it
asks for outside of choices.  In which order they came, and whatever else the declarations
say, is forgotten by then.

## Main Definitions

* `Declaration.hardEdges` — an identity with the probes that it asks for in any case.
* `ProbeSet.FirstRepeat` — the first identity that a list has already.

## Main Results

* `ProbeSet.exists_firstRepeat_iff`, `ProbeSet.FirstRepeat.ofDeclarations_eq` — when there is
  one, and what it leads to.
* `ProbeSet.check_of_nodup` — the verdicts if there is none.
* `Dependencies.ofDeclarations_eq_of_perm` — the graph is made of the hard edges only.
* `ProbeSet.check_reads_hard_edges` — what the check of a set reads.
-/

namespace TlsScan

/-- **The hard edges of a declaration**: its identity, with the probes that it asks for in
any case. -/
def Declaration.hardEdges (d : Declaration) : ProbeId × List ProbeId := (d.probe, d.dependencies)

/-- **The first repeat of a list**: the identity of the first declaration that has one that
came before. -/
def ProbeSet.FirstRepeat (l : List Declaration) (p : ProbeId) : Prop :=
  ∃ before d after, l = before ++ d :: after ∧ d.probe = p
    ∧ p ∈ before.map (·.probe) ∧ (before.map (·.probe)).Nodup

namespace Dependencies

variable {g g' : Dependencies} {l m : List Declaration}

/-- Declarations are taken in one part after the other. -/
theorem add_append (h : g.add l = .ok g') : g.add (l ++ m) = g'.add m := by
  induction l generalizing g with
  | nil => cases h; rfl
  | cons d l ih =>
      rw [add] at h
      rw [List.cons_append, add]
      split at h
      · cases h
      · rename_i hnew
        rw [if_neg hnew]
        exact ih h

/-- **The entries of the graph of a set are its hard edges.** -/
theorem get?_eq_some_iff (h : ofDeclarations l = .ok g) {p : ProbeId} {deps : List ProbeId} :
    g.edges.get? p = some deps ↔ (p, deps) ∈ l.map Declaration.hardEdges := by
  obtain ⟨hnew, hold⟩ := get?_of_add h
  constructor
  · intro hdeps
    by_cases hp : p ∈ l.map (·.probe)
    · obtain ⟨d, hd, rfl⟩ := List.mem_map.mp hp
      rw [hnew d hd] at hdeps
      cases hdeps
      exact List.mem_map_of_mem hd
    · rw [hold p hp] at hdeps
      cases hdeps
  · intro hedge
    obtain ⟨d, hd, hdp⟩ := List.mem_map.mp hedge
    cases hdp
    exact hnew d hd

/-- **The graph of a set is made of its hard edges**, in whatever order they come. -/
theorem ofDeclarations_eq_of_perm (hnodup : (l.map (·.probe)).Nodup)
    (h : (m.map Declaration.hardEdges).Perm (l.map Declaration.hardEdges)) :
    ofDeclarations m = ofDeclarations l := by
  have hprobes : (m.map (·.probe)).Perm (l.map (·.probe)) := by
    have hmap := h.map Prod.fst
    rwa [List.map_map, List.map_map] at hmap
  obtain ⟨g, hg⟩ := ofDeclarations_succeeds hnodup
  obtain ⟨g', hg'⟩ := ofDeclarations_succeeds (hprobes.nodup_iff.mpr hnodup)
  have hedges : g'.edges = g.edges := Table.ext fun p => Option.ext fun deps => by
    rw [get?_eq_some_iff hg, get?_eq_some_iff hg', h.mem_iff]
  have hgraphs : g' = g := congrArg Dependencies.mk hedges
  rw [hg, hg', hgraphs]

end Dependencies

namespace ProbeSet

open Dependencies

variable {l m : List Declaration} {p : ProbeId}

/-! ## The first repeat -/

/-- **There is a first repeat** exactly if some identity occurs twice. -/
theorem exists_firstRepeat_iff : (∃ p, FirstRepeat l p) ↔ ¬ (l.map (·.probe)).Nodup := by
  constructor
  · rintro ⟨_, before, d, after, rfl, rfl, hmem, -⟩ hnodup
    rw [List.map_append, List.map_cons, List.nodup_append] at hnodup
    exact hnodup.2.2 _ hmem _ List.mem_cons_self rfl
  · intro hnodup
    induction l using List.reverseRecOn with
    | nil => exact absurd List.nodup_nil hnodup
    | append_singleton l d ih =>
        by_cases hl : (l.map (·.probe)).Nodup
        · refine ⟨d.probe, l, d, [], rfl, rfl, ?_, hl⟩
          by_contra hd
          rw [List.map_append, List.map_singleton, ← List.concat_eq_append,
            List.nodup_concat] at hnodup
          exact hnodup ⟨hd, hl⟩
        · -- It is repeated before the last one already.
          obtain ⟨p, before, d', after, rfl, hrepeat⟩ := ih hl
          exact ⟨p, before, d', after ++ [d], by simp, hrepeat⟩

/-- **A graph is not made beyond the first repeat.** -/
theorem FirstRepeat.ofDeclarations_eq (h : FirstRepeat l p) :
    ofDeclarations l = .error (.duplicateProbe p) := by
  obtain ⟨before, d, after, rfl, rfl, hmem, hnodup⟩ := h
  obtain ⟨g, hg⟩ := ofDeclarations_succeeds hnodup
  have hcontains : g.contains d.probe = true :=
    (contains_of_ofDeclarations hg).mpr (List.mem_map.mp hmem)
  rw [ofDeclarations, add_append hg, add, if_pos hcontains]

/-- So the search for a circle is not begun. -/
theorem FirstRepeat.check_eq (h : FirstRepeat l p) :
    check l = .error (.duplicateProbe p) := by
  rw [check, h.ofDeclarations_eq]

/-- **Without a repeat there are two verdicts**: the set passes as nobody waits for itself, or
a circle is reported that is one. -/
theorem check_of_nodup (hnodup : (l.map (·.probe)).Nodup) :
    ((∃ g, check l = .ok g) ∧ ∀ p, ¬ Relation.TransGen (Awaits l) p p)
      ∨ ∃ cycle, check l = .error (.dependencyCycle cycle) ∧ IsCircle (Awaits l) cycle := by
  obtain ⟨g, hg⟩ := ofDeclarations_succeeds hnodup
  cases hc : g.findCycle with
  | none =>
      exact Or.inl ⟨⟨g, check_eq_ok_iff.mpr ⟨hg, hc⟩⟩,
        (findCycle_eq_none_iff_of_ofDeclarations hg).mp hc⟩
  | some cycle =>
      refine Or.inr ⟨cycle, ?_, awaits_eq hg ▸ isCircle_of_findCycle hc⟩
      rw [check, hg]
      dsimp only
      rw [hc]

/-- Neither of them speaks of a repeat. -/
theorem check_ne_duplicateProbe (hnodup : (l.map (·.probe)).Nodup) :
    check l ≠ .error (.duplicateProbe p) := by
  intro h
  rcases check_of_nodup hnodup with ⟨⟨g, hg⟩, -⟩ | ⟨cycle, hcycle, -⟩
  · cases hg.symm.trans h
  · cases hcycle.symm.trans h

/-- **The check names the first repeat**, and nothing else. -/
theorem check_eq_duplicateProbe_iff :
    check l = .error (.duplicateProbe p) ↔ FirstRepeat l p := by
  refine ⟨fun h => ?_, FirstRepeat.check_eq⟩
  obtain ⟨q, hq⟩ := exists_firstRepeat_iff.mpr fun hnodup => check_ne_duplicateProbe hnodup h
  have hpq := h.symm.trans hq.check_eq
  cases hpq
  exact hq

/-! ## The whole check -/

/-- **The check of a set reads its hard edges only.**  It speaks of a repeated identity
exactly if there is one.  It then names the first declaration in the list whose identity
came before, and has not even made a graph in which it could look for a circle.  If no
identity is repeated, the set passes or a circle is reported.  Then take any other list with
the same hard edges in any order, whatever else its declarations ask for and write.  The check
says the same about it: either both sets pass, or the same circle is reported, from the same
probe on. -/
theorem check_reads_hard_edges (l : List Declaration) :
    ((∃ p, check l = .error (.duplicateProbe p)) ↔ ¬ (l.map (·.probe)).Nodup)
      ∧ (∀ p, check l = .error (.duplicateProbe p) ↔ FirstRepeat l p)
      ∧ (∀ p, FirstRepeat l p → ofDeclarations l = .error (.duplicateProbe p))
      ∧ ((l.map (·.probe)).Nodup →
        (((∃ g, check l = .ok g) ∧ ∀ p, ¬ Relation.TransGen (Awaits l) p p)
          ∨ ∃ cycle, check l = .error (.dependencyCycle cycle) ∧ IsCircle (Awaits l) cycle)
        ∧ ∀ m : List Declaration,
          (m.map Declaration.hardEdges).Perm (l.map Declaration.hardEdges) →
            check m = check l) := by
  refine ⟨?_, fun p => check_eq_duplicateProbe_iff, fun p => FirstRepeat.ofDeclarations_eq,
    fun hnodup => ⟨check_of_nodup hnodup, fun m hm => ?_⟩⟩
  · simp only [check_eq_duplicateProbe_iff]
    exact exists_firstRepeat_iff
  · rw [check, check, ofDeclarations_eq_of_perm hnodup hm]

namespace Sample

/-- The entangled probes in another order, with other clauses and other facts.  Who asks for
whom in any case is the same. -/
def rearranged : List Declaration :=
  let soft := Requirement.none.anyOf [Requirement.none.requireProbes [.cipherSuite]]
  [{ Dependencies.Sample.asking .sessionTicket [.resumption, .alpn, .resumption] with
      properties := [.vulnerableToHeartbleed] },
    { Declaration.bare .cipherSuite with requirement := soft.requireProbes [.resumption] },
    { Dependencies.Sample.asking .resumption [.sessionTicket] with
      contributions := .ofList [.versions] }]

/-- The entangled probes, with two of them once more. -/
def repeated : List Declaration :=
  Dependencies.Sample.entangled ++ [.bare .resumption, .bare .cipherSuite]

end Sample

theorem check_reads_hard_edges_sample :
    (Dependencies.Sample.entangled.map (·.probe)).Nodup
      ∧ (Sample.rearranged.map Declaration.hardEdges).Perm
        (Dependencies.Sample.entangled.map Declaration.hardEdges)
      ∧ (∃ cycle, check Dependencies.Sample.entangled = .error (.dependencyCycle cycle)
        ∧ check Sample.rearranged = .error (.dependencyCycle cycle))
      ∧ FirstRepeat Sample.repeated .resumption
      ∧ check Sample.repeated = .error (.duplicateProbe .resumption) := by
  have hnodup : (Dependencies.Sample.entangled.map (·.probe)).Nodup := by decide
  have hperm : (Sample.rearranged.map Declaration.hardEdges).Perm
      (Dependencies.Sample.entangled.map Declaration.hardEdges) := by decide
  obtain ⟨-, -, -, hfree⟩ := check_reads_hard_edges Dependencies.Sample.entangled
  obtain ⟨-, hnamed, -, -⟩ := check_reads_hard_edges Sample.repeated
  have hrepeat : FirstRepeat Sample.repeated .resumption :=
    ⟨Dependencies.Sample.entangled, .bare .resumption, [.bare .cipherSuite], rfl, rfl,
      by decide, by decide⟩
  refine ⟨hnodup, hperm, ?_, hrepeat, (hnamed _).mpr hrepeat⟩
  obtain ⟨hverdict, hsame⟩ := hfree hnodup
  rw [hsame _ hperm]
  rcases hverdict with ⟨-, hnone⟩ | ⟨cycle, hcycle, -⟩
  · -- But one of the probes waits for itself.
    have hout : Awaits Dependencies.Sample.entangled .resumption .sessionTicket := by decide
    have hback : Awaits Dependencies.Sample.entangled .sessionTicket .resumption := by decide
    exact absurd (.head hout (.single hback)) (hnone .resumption)
  · exact ⟨cycle, hcycle, hcycle⟩

end ProbeSet

end TlsScan
