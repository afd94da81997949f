import TlsScan.ProbeSet

/-!
# The graph of a set of probes

The graph takes in one declaration after another and stops at the first identity that it
has already.  So a graph that takes in all of a list has exactly the probes of the list as
its members, each with what its declaration asks for.

## Main Results

* `Dependencies.nodup_of_add`, `ProbeSet.nodup_of_check` — no identity occurs twice in a
  set that has a graph.
* `Dependencies.contains_of_ofDeclarations`, `Dependencies.of_of_ofDeclarations` — the
  members of the graph, and what they wait for.
-/

namespace TlsScan

namespace Dependencies

variable {g g' : Dependencies} {l : List Declaration}

/-- Declarations that are added to a graph differ in their identities from each other
and from what the graph has. -/
theorem nodup_of_add (h : g.add l = .ok g') :
    (l.map (·.probe)).Nodup ∧ ∀ d ∈ l, g.contains d.probe = false := by
  induction l generalizing g with
  | nil => exact ⟨List.nodup_nil, fun d hd => absurd hd List.not_mem_nil⟩
  | cons a l ih =>
      rw [add] at h
      split at h
      · cases h
      · rename_i hfree
        obtain ⟨hl, hnew⟩ := ih h
        have hcontains : ∀ p, contains ⟨g.edges.insert a.probe a.dependencies⟩ p
            = (decide (p = a.probe) || g.contains p) := fun p => by
          simp [contains]
        have hdiff : ∀ d ∈ l, d.probe ≠ a.probe ∧ g.contains d.probe = false := by
          intro d hd
          have := hnew d hd
          rw [hcontains, Bool.or_eq_false_iff, decide_eq_false_iff_not] at this
          exact this
        refine ⟨?_, fun d hd => ?_⟩
        · rw [List.map_cons, List.nodup_cons]
          refine ⟨fun ha => ?_, hl⟩
          obtain ⟨d, hd, heq⟩ := List.mem_map.mp ha
          exact (hdiff d hd).1 heq
        · rcases List.mem_cons.mp hd with rfl | hd
          · simpa using hfree
          · exact (hdiff d hd).2

/-- A graph that takes in declarations has what they ask for, and else what it had. -/
theorem get?_of_add (h : g.add l = .ok g') :
    (∀ d ∈ l, g'.edges.get? d.probe = some d.dependencies)
      ∧ ∀ p, p ∉ l.map (·.probe) → g'.edges.get? p = g.edges.get? p := by
  have hnodup := (nodup_of_add h).1
  induction l generalizing g with
  | nil =>
      cases h
      exact ⟨nofun, fun _ _ => rfl⟩
  | cons a l ih =>
      rw [List.map_cons, List.nodup_cons] at hnodup
      rw [add] at h
      split at h
      · cases h
      · obtain ⟨hnew, hold⟩ := ih h hnodup.2
        refine ⟨List.forall_mem_cons.mpr ⟨?_, hnew⟩, fun p hp => ?_⟩
        · rw [hold _ hnodup.1, Table.get?_insert, if_pos rfl]
        · rw [List.map_cons, List.mem_cons, not_or] at hp
          rw [hold p hp.2, Table.get?_insert, if_neg hp.1]

/-- **The members of a graph are the probes of its set**, -/
theorem contains_of_ofDeclarations (h : ofDeclarations l = .ok g) {p : ProbeId} :
    g.contains p = true ↔ ∃ d ∈ l, d.probe = p := by
  obtain ⟨hnew, hold⟩ := get?_of_add h
  rw [contains, Table.contains_iff]
  constructor
  · intro ⟨deps, hdeps⟩
    by_cases hp : p ∈ l.map (·.probe)
    · exact List.mem_map.mp hp
    · rw [hold p hp] at hdeps
      cases hdeps
  · intro ⟨d, hd, hp⟩
    exact ⟨_, hp ▸ hnew d hd⟩

/-- **and each waits for what its declaration asks for.** -/
theorem of_of_ofDeclarations (h : ofDeclarations l = .ok g) {d : Declaration} (hd : d ∈ l) :
    g.of d.probe = d.dependencies := by
  rw [of, (get?_of_add h).1 d hd, Option.getD_some]

end Dependencies

namespace ProbeSet

theorem check_eq_ok_iff {l : List Declaration} {g : Dependencies} :
    check l = .ok g ↔ Dependencies.ofDeclarations l = .ok g ∧ g.findCycle = none := by
  unfold check
  cases Dependencies.ofDeclarations l with
  | error e => simp
  | ok g' =>
      dsimp only
      rw [Except.ok.injEq]
      constructor
      · intro h
        split at h
        · cases h
        · rename_i hnone
          cases h
          exact ⟨rfl, hnone⟩
      · rintro ⟨heq, hnone⟩
        subst heq
        rw [hnone]

theorem nodup_of_check {l : List Declaration} {g : Dependencies} (h : check l = .ok g) :
    (l.map (·.probe)).Nodup := (Dependencies.nodup_of_add (check_eq_ok_iff.mp h).1).1

end ProbeSet

end TlsScan
