import Mathlib.Data.List.Basic
import Mathlib.Data.List.Infix
import Mathlib.Data.List.Nodup
import TlsScan.Proofs.Scan.Turns

/-!
# First come, first served

Who has a place among the workers, and who waits for one, is not decided where the
coordinator keeps its list of the tasks that run.  The two sides have only the order of their
doings in common.  A timeline is a record of it: what the coordinator does with tasks, and what
the workers do on their own.  This file says which timelines there can be when places are given
to those that wait in the order in which they were handed out, and what follows from that for
every moment of them.

## Main Definitions

* `Scan.Incident`, `Scan.Timeline` — what happens to tasks, in order.
* `Scan.Timeline.present`, `Scan.Timeline.executing`, `Scan.Timeline.waiting` — the tasks that
  were handed out and are not gone, and those of them that have a place or wait for one.
* `Scan.Timeline.atHand`, `Scan.Timeline.held` — the tasks that the coordinator can take over,
  and those that it has on its list.
* `Scan.Timeline.Saturated` — no place is free that someone waits for.
* `Scan.Timeline.Allowed`, `Scan.Timeline.Lawful` — what can happen next, and what can happen.
* `Scan.Timeline.Proceeds` — how workers go on by themselves.
* `Scan.Workers.Semaphore` — workers who give their places first come, first served.

## Main Results

* `Scan.Timeline.Lawful.present_eq` — those that have a place come first.
* `Scan.Timeline.Lawful.executing_eq_take` — when no place is free that someone waits for, it is
  the first ones that have a place, as many as there are places.
* `Scan.Timeline.Lawful.held_eq_present` — when nothing can be taken over, those on the list of
  the coordinator are those that are present.

## Design Notes

The coordinator is free to do what it likes; whether it waits only for tasks that have a place
is for it to show.  A task that could start need not have started while several are handed out
one after the other, but no time passes before it has.
-/

namespace TlsScan.Scan

/-! ## Incidents -/

/-- **What happens to a task**, or to all of them. -/
inductive Incident where
  /-- The coordinator hands it out. -/
  | submitted (p : ProbeId)
  /-- It gets a place. -/
  | started (p : ProbeId)
  /-- It ends, in whatever way, and its place is free. -/
  | ended (p : ProbeId)
  /-- The coordinator takes over how it has ended. -/
  | collected (p : ProbeId)
  /-- The coordinator begins to wait for it alone. -/
  | joined (p : ProbeId)
  /-- The coordinator has it stopped, and its place is free. -/
  | stopped (p : ProbeId)
  /-- Time passes. -/
  | lapse
  deriving DecidableEq

namespace Incident

/-- Who comes in. -/
def submission? : Incident → Option ProbeId
  | submitted p => some p
  | _ => none

/-- Who gets a place. -/
def start? : Incident → Option ProbeId
  | started p => some p
  | _ => none

/-- Who ends. -/
def ending? : Incident → Option ProbeId
  | ended p => some p
  | _ => none

/-- Whose ending is taken over. -/
def collection? : Incident → Option ProbeId
  | collected p => some p
  | _ => none

/-- Who leaves the workers. -/
def departure? : Incident → Option ProbeId
  | ended p | stopped p => some p
  | _ => none

/-- Who leaves the list of the coordinator. -/
def release? : Incident → Option ProbeId
  | collected p | stopped p => some p
  | _ => none

/-- Who waits no longer. -/
def relief? : Incident → Option ProbeId
  | started p | ended p | stopped p => some p
  | _ => none

/-- For whom the watchdog strikes. -/
def strike? : Incident → Option ProbeId
  | joined p | stopped p => some p
  | _ => none

/-- Whether it is the workers who do it, or nobody, and not the coordinator. -/
def isOwn : Incident → Bool
  | started _ | ended _ | lapse => true
  | _ => false

end Incident

/-- **What happens in the course of a scan**, in order. -/
abbrev Timeline := List Incident

namespace Timeline

/-! ## Those that have come and are not gone -/

/-- **The tasks that have come and are not gone**, in the order in which they came, for two
ways to come and to go. -/
def standing (comes goes : Incident → Option ProbeId) (h : Timeline) : List ProbeId :=
  (h.filterMap comes).filter fun p => p ∉ h.filterMap goes

section
variable {comes goes : Incident → Option ProbeId} {h : Timeline} {i : Incident} {p : ProbeId}

theorem mem_standing :
    p ∈ standing comes goes h ↔ p ∈ h.filterMap comes ∧ p ∉ h.filterMap goes := by
  rw [standing, List.mem_filter, decide_eq_true_eq]

/-- Nobody comes or goes. -/
theorem standing_concat (hc : comes i = none) (hg : goes i = none) :
    standing comes goes (h ++ [i]) = standing comes goes h := by
  simp [standing, List.filterMap_append, hc, hg]

/-- Someone comes who was not gone before. -/
theorem standing_concat_of_comes (hc : comes i = some p) (hg : goes i = none)
    (hp : p ∉ h.filterMap goes) :
    standing comes goes (h ++ [i]) = standing comes goes h ++ [p] := by
  simp only [standing, List.filterMap_append, List.filter_append, List.filterMap_cons,
    List.filterMap_nil, hc, hg, List.append_nil]
  rw [List.filter_singleton, decide_eq_true hp]
  rfl

/-- Someone goes. -/
theorem standing_concat_of_goes (hc : comes i = none) (hg : goes i = some p) :
    standing comes goes (h ++ [i]) = (standing comes goes h).filter (· ≠ p) := by
  simp only [standing, List.filterMap_append, List.filterMap_cons, List.filterMap_nil, hc, hg,
    List.append_nil, List.filter_filter]
  refine List.filter_congr fun q _ => ?_
  by_cases hq : q = p <;> simp [hq]

end

/-- The tasks that have got a place. -/
def starts (h : Timeline) : List ProbeId := h.filterMap Incident.start?

/-- **The tasks that were handed out and have neither ended nor been stopped**, in the order in
which they were handed out. -/
def present : Timeline → List ProbeId := standing Incident.submission? Incident.departure?

/-- **The tasks that are being executed**: they have got a place and not given it back. -/
def executing : Timeline → List ProbeId := standing Incident.start? Incident.departure?

/-- The tasks that wait for a place. -/
def waiting : Timeline → List ProbeId := standing Incident.submission? Incident.relief?

/-- The tasks that have ended, and nobody has taken over how. -/
def atHand : Timeline → List ProbeId := standing Incident.ending? Incident.collection?

/-- The tasks that the coordinator has on its list. -/
def held : Timeline → List ProbeId := standing Incident.submission? Incident.release?

/-- **No place is free that someone waits for.** -/
def Saturated (limit : Nat) (h : Timeline) : Prop :=
  waiting h = [] ∨ limit ≤ (executing h).length

section
variable {h : Timeline} {p : ProbeId}

/-- Whom a kind of incidents was about is known from the incidents themselves. -/
theorem mem_filterMap_iff {f : Incident → Option ProbeId} {l : List Incident}
    (hf : ∀ i, f i = some p ↔ i ∈ l) : p ∈ h.filterMap f ↔ ∃ i ∈ l, i ∈ h := by
  simp only [List.mem_filterMap, hf, and_comm]

theorem mem_submissions : p ∈ h.filterMap Incident.submission? ↔ .submitted p ∈ h := by
  simpa using mem_filterMap_iff (l := [.submitted p])
    fun i => by cases i <;> simp [Incident.submission?]

theorem mem_starts : p ∈ h.filterMap Incident.start? ↔ .started p ∈ h := by
  simpa using mem_filterMap_iff (l := [.started p])
    fun i => by cases i <;> simp [Incident.start?]

theorem mem_endings : p ∈ h.filterMap Incident.ending? ↔ .ended p ∈ h := by
  simpa using mem_filterMap_iff (l := [.ended p])
    fun i => by cases i <;> simp [Incident.ending?]

theorem mem_collections : p ∈ h.filterMap Incident.collection? ↔ .collected p ∈ h := by
  simpa using mem_filterMap_iff (l := [.collected p])
    fun i => by cases i <;> simp [Incident.collection?]

theorem mem_departures :
    p ∈ h.filterMap Incident.departure? ↔ .ended p ∈ h ∨ .stopped p ∈ h := by
  simpa using mem_filterMap_iff (l := [.ended p, .stopped p])
    fun i => by cases i <;> simp [Incident.departure?]

theorem mem_releases :
    p ∈ h.filterMap Incident.release? ↔ .collected p ∈ h ∨ .stopped p ∈ h := by
  simpa using mem_filterMap_iff (l := [.collected p, .stopped p])
    fun i => by cases i <;> simp [Incident.release?]

theorem mem_reliefs : p ∈ h.filterMap Incident.relief?
    ↔ .started p ∈ h ∨ .ended p ∈ h ∨ .stopped p ∈ h := by
  simpa using mem_filterMap_iff (l := [.started p, .ended p, .stopped p])
    fun i => by cases i <;> simp [Incident.relief?]

theorem mem_present :
    p ∈ present h ↔ .submitted p ∈ h ∧ .ended p ∉ h ∧ .stopped p ∉ h := by
  rw [present, mem_standing, mem_submissions, mem_departures, not_or]

theorem mem_executing :
    p ∈ executing h ↔ .started p ∈ h ∧ .ended p ∉ h ∧ .stopped p ∉ h := by
  rw [executing, mem_standing, mem_starts, mem_departures, not_or]

theorem mem_waiting : p ∈ waiting h
    ↔ .submitted p ∈ h ∧ .started p ∉ h ∧ .ended p ∉ h ∧ .stopped p ∉ h := by
  rw [waiting, mem_standing, mem_submissions, mem_reliefs, not_or, not_or]

theorem mem_atHand : p ∈ atHand h ↔ .ended p ∈ h ∧ .collected p ∉ h := by
  rw [atHand, mem_standing, mem_endings, mem_collections]

theorem mem_held :
    p ∈ held h ↔ .submitted p ∈ h ∧ .collected p ∉ h ∧ .stopped p ∉ h := by
  rw [held, mem_standing, mem_submissions, mem_releases, not_or]

end

/-! ## What can happen -/

/-- **A claim holds throughout a timeline**, for every incident and those before it. -/
def Throughout (P : Timeline → Incident → Prop) (h : Timeline) : Prop :=
  ∀ pre i, pre ++ [i] <+: h → P pre i

section
variable {P : Timeline → Incident → Prop} {h : Timeline} {i : Incident}

theorem throughout_nil : Throughout P [] := by
  intro pre i hpre
  simp at hpre

theorem throughout_concat : Throughout P (h ++ [i]) ↔ Throughout P h ∧ P h i := by
  constructor
  · intro hall
    exact ⟨fun pre j hpre => hall pre j (hpre.trans (List.prefix_append ..)),
      hall h i (List.prefix_refl _)⟩
  · rintro ⟨hall, hi⟩ pre j hpre
    rcases List.prefix_concat_iff.mp hpre with heq | hpre
    · obtain ⟨rfl, hj⟩ := List.append_inj' heq rfl
      cases hj
      exact hi
    · exact hall pre j hpre

/-- Incidents of which nothing is claimed can be added. -/
theorem Throughout.append {l : Timeline} (hall : Throughout P h)
    (hl : ∀ i ∈ l, ∀ pre, P pre i) : Throughout P (h ++ l) := by
  induction l using List.reverseRecOn with
  | nil => rwa [List.append_nil]
  | append_singleton l i ih =>
      rw [← List.append_assoc]
      exact throughout_concat.mpr
        ⟨ih fun j hj => hl j (List.mem_append_left _ hj), hl i (by simp) _⟩

end

/-- **What can happen next**, when so many places are given to those that wait in the order in
which they were handed out.  A place is free again when a task ends or is stopped.  Time passes
only while none is free that someone waits for. -/
def Allowed (limit : Nat) (h : Timeline) : Incident → Prop
  | .submitted p => .submitted p ∉ h
  | .started p => (waiting h).head? = some p ∧ (executing h).length < limit
  | .ended p => p ∈ executing h
  | .collected p => p ∈ atHand h
  | .joined _ => True
  | .stopped p => p ∈ present h
  | .lapse => Saturated limit h

/-- **A timeline that there can be.** -/
def Lawful (limit : Nat) : Timeline → Prop := Throughout (Allowed limit)

section
variable {limit : Nat} {h : Timeline} {i : Incident} {p : ProbeId}

theorem lawful_concat : Lawful limit (h ++ [i]) ↔ Lawful limit h ∧ Allowed limit h i :=
  throughout_concat

theorem Lawful.upTo {pre : Timeline} (hl : Lawful limit h) (hpre : pre <+: h) :
    Lawful limit pre := fun pre' i h' => hl pre' i (h'.trans hpre)

/-- No task is handed out twice. -/
theorem Lawful.nodup (hl : Lawful limit h) : (h.filterMap Incident.submission?).Nodup := by
  induction h using List.reverseRecOn with
  | nil => exact List.nodup_nil
  | append_singleton h i ih =>
      obtain ⟨hbefore, hi⟩ := lawful_concat.mp hl
      have hnodup := ih hbefore
      rw [List.filterMap_append]
      cases i with
      | submitted p =>
          rw [List.nodup_append']
          refine ⟨hnodup, List.nodup_singleton p, fun q hq hp => ?_⟩
          rw [List.mem_singleton.mp hp, mem_submissions] at hq
          exact hi hq
      | _ => exact (List.append_nil _).symm ▸ hnodup

/-- **One thing after the other**, as far as a single task is concerned. -/
structure InOrder (h : Timeline) (p : ProbeId) : Prop where
  submitted : .started p ∈ h ∨ .ended p ∈ h ∨ .stopped p ∈ h → .submitted p ∈ h
  ended : .collected p ∈ h → .ended p ∈ h
  apart : .ended p ∈ h → .stopped p ∉ h

theorem Lawful.inOrder (hl : Lawful limit h) (p : ProbeId) : InOrder h p := by
  induction h using List.reverseRecOn with
  | nil => constructor <;> simp
  | append_singleton h i ih =>
      obtain ⟨hbefore, hi⟩ := lawful_concat.mp hl
      obtain ⟨hsubmitted, hended, hapart⟩ := ih hbefore
      cases i with
      | started q =>
          have hq := mem_waiting.mp (List.mem_of_mem_head? hi.1)
          constructor <;> grind
      | ended q =>
          have hq := mem_executing.mp hi
          constructor <;> grind
      | collected q =>
          have hq := mem_atHand.mp hi
          constructor <;> grind
      | stopped q =>
          have hq := mem_present.mp hi
          constructor <;> grind
      | _ => constructor <;> grind

/-! ### Who has a place -/

/-- A task that is handed out for the first time has not come to anything before. -/
theorem Lawful.not_mem (hl : Lawful limit h) (hp : .submitted p ∉ h) :
    .started p ∉ h ∧ .ended p ∉ h ∧ .collected p ∉ h ∧ .stopped p ∉ h := by
  obtain ⟨hsubmitted, hended, -⟩ := hl.inOrder p
  tauto

theorem Lawful.present_submitted (hl : Lawful limit h) (hp : .submitted p ∉ h) :
    present (h ++ [.submitted p]) = present h ++ [p] := by
  have hnew := hl.not_mem hp
  exact standing_concat_of_comes rfl rfl (by rw [mem_departures]; tauto)

theorem Lawful.waiting_submitted (hl : Lawful limit h) (hp : .submitted p ∉ h) :
    waiting (h ++ [.submitted p]) = waiting h ++ [p] := by
  have hnew := hl.not_mem hp
  exact standing_concat_of_comes rfl rfl (by rw [mem_reliefs]; tauto)

theorem Lawful.held_submitted (hl : Lawful limit h) (hp : .submitted p ∉ h) :
    held (h ++ [.submitted p]) = held h ++ [p] := by
  have hnew := hl.not_mem hp
  exact standing_concat_of_comes rfl rfl (by rw [mem_releases]; tauto)

theorem starts_concat (hi : i.start? = none) : starts (h ++ [i]) = starts h := by
  simp [starts, List.filterMap_append, hi]

theorem executing_started (hp : p ∈ waiting h) :
    executing (h ++ [.started p]) = executing h ++ [p] := by
  have hp' := mem_waiting.mp hp
  exact standing_concat_of_comes rfl rfl (by rw [mem_departures]; tauto)

/-- The first one that waits gets the place, and the others go on waiting. -/
theorem Lawful.waiting_started (hl : Lawful limit h) (hp : (waiting h).head? = some p) :
    waiting h = p :: waiting (h ++ [.started p]) := by
  obtain ⟨l, hwaiting⟩ := List.head?_eq_some_iff.mp hp
  -- Nobody waits twice.
  have hnodup : (waiting h).Nodup := hl.nodup.sublist List.filter_sublist
  rw [hwaiting, List.nodup_cons] at hnodup
  have hrest : waiting (h ++ [.started p]) = (waiting h).filter (· ≠ p) :=
    standing_concat_of_goes rfl rfl
  rw [hrest, hwaiting, List.filter_cons_of_neg (by simp), List.filter_eq_self.mpr]
  intro q hq
  exact decide_eq_true fun heq => hnodup.1 (heq ▸ hq)

/-- A task that ends had a place, so it did not wait for one. -/
theorem waiting_ended (hp : p ∈ executing h) : waiting (h ++ [.ended p]) = waiting h := by
  refine (standing_concat_of_goes rfl rfl).trans (List.filter_eq_self.mpr fun q hq => ?_)
  refine decide_eq_true fun heq => ?_
  exact (mem_waiting.mp hq).2.1 (heq ▸ (mem_executing.mp hp).1)

theorem Lawful.atHand_ended (hl : Lawful limit h) (hp : p ∈ executing h) :
    atHand (h ++ [.ended p]) = atHand h ++ [p] := by
  refine standing_concat_of_comes rfl rfl fun hcollected => ?_
  exact (mem_executing.mp hp).2.1 ((hl.inOrder p).ended (mem_collections.mp hcollected))

/-- **Those that have a place come first**, and then those that wait for one. -/
theorem Lawful.present_eq (hl : Lawful limit h) : present h = executing h ++ waiting h := by
  induction h using List.reverseRecOn with
  | nil => rfl
  | append_singleton h i ih =>
      obtain ⟨hbefore, hi⟩ := lawful_concat.mp hl
      have heq := ih hbefore
      -- Whoever leaves is missed in all three lists.
      have hleave : ∀ {q}, (present h).filter (· ≠ q)
          = (executing h).filter (· ≠ q) ++ (waiting h).filter (· ≠ q) := by
        intro q
        rw [heq, List.filter_append]
      cases i with
      | submitted q =>
          rw [hbefore.present_submitted hi, hbefore.waiting_submitted hi, heq,
            show executing (h ++ [.submitted q]) = executing h from standing_concat rfl rfl,
            List.append_assoc]
      | started q =>
          rw [executing_started (List.mem_of_mem_head? hi.1), List.append_assoc,
            List.singleton_append, ← hbefore.waiting_started hi.1, ← heq]
          exact standing_concat rfl rfl
      | ended q | stopped q =>
          rw [present, executing, waiting, standing_concat_of_goes rfl rfl,
            standing_concat_of_goes rfl rfl, standing_concat_of_goes rfl rfl]
          exact hleave
      | _ =>
          rw [present, executing, waiting, standing_concat rfl rfl, standing_concat rfl rfl,
            standing_concat rfl rfl]
          exact heq

/-- **No more tasks are executed than there are places.** -/
theorem Lawful.executing_le (hl : Lawful limit h) : (executing h).length ≤ limit := by
  induction h using List.reverseRecOn with
  | nil => exact Nat.zero_le limit
  | append_singleton h i ih =>
      obtain ⟨hbefore, hi⟩ := lawful_concat.mp hl
      have hle := ih hbefore
      have hleave : ∀ {q}, ((executing h).filter (· ≠ q)).length ≤ limit :=
        Nat.le_trans (List.length_filter_le ..) hle
      cases i with
      | started q =>
          rw [executing_started (List.mem_of_mem_head? hi.1), List.length_append,
            List.length_singleton]
          exact hi.2
      | ended q | stopped q =>
          rw [executing, standing_concat_of_goes rfl rfl]
          exact hleave
      | _ =>
          rw [executing, standing_concat rfl rfl]
          exact hle

theorem Lawful.executing_initial (hl : Lawful limit h) : executing h <+: present h := by
  rw [hl.present_eq]
  exact List.prefix_append ..

/-- **When no place is free that someone waits for, the first ones are executed**, as many as
there are places. -/
theorem Lawful.executing_eq_take (hl : Lawful limit h) (hs : Saturated limit h) :
    executing h = (present h).take (min limit (present h).length) := by
  have heq := hl.present_eq
  rcases hs with hnobody | hfull
  · -- Nobody waits, so all are executed,
    rw [hnobody, List.append_nil] at heq
    rw [heq, Nat.min_eq_right hl.executing_le, List.take_length]
  · -- or all places are taken.
    have hlength : (executing h).length = limit := Nat.le_antisymm hl.executing_le hfull
    rw [heq, List.length_append, Nat.min_eq_left (by omega), ← hlength, List.take_left]

/-- **While anyone is present, the first one is executed**, if there are places at all. -/
theorem Lawful.head_executing (hl : Lawful limit h) (hs : Saturated limit h) (hpos : 0 < limit)
    (hp : (present h).head? = some p) : p ∈ executing h := by
  obtain ⟨l, hpresent⟩ := List.head?_eq_some_iff.mp hp
  rw [hl.executing_eq_take hs, hpresent, List.length_cons]
  obtain ⟨n, hn⟩ : ∃ n, min limit (l.length + 1) = n + 1 :=
    Nat.exists_eq_succ_of_ne_zero (by omega)
  rw [hn, List.take_succ_cons]
  exact List.mem_cons_self

end

/-! ## Workers on their own -/

/-- **Workers go on by themselves** from one timeline to another one. -/
inductive Proceeds (limit : Nat) (h : Timeline) : Timeline → Prop
  | refl : Proceeds limit h h
  | concat {h' : Timeline} {i : Incident} (hp : Proceeds limit h h') (hown : i.isOwn = true)
      (hi : Allowed limit h' i) : Proceeds limit h (h' ++ [i])

section
variable {limit : Nat} {h h' h'' : Timeline} {i : Incident}

theorem Proceeds.single (hown : i.isOwn = true) (hi : Allowed limit h i) :
    Proceeds limit h (h ++ [i]) := refl.concat hown hi

theorem Proceeds.trans (hp : Proceeds limit h h') (hp' : Proceeds limit h' h'') :
    Proceeds limit h h'' := by
  induction hp' with
  | refl => exact hp
  | concat _ hown hi ih => exact ih.concat hown hi

/-- Whatever workers may do keeps a claim that nothing they do can break. -/
theorem Proceeds.throughout {P : Timeline → Incident → Prop} (hp : Proceeds limit h h')
    (hP : ∀ h i, i.isOwn = true → Allowed limit h i → P h i) (hall : Throughout P h) :
    Throughout P h' := by
  induction hp with
  | refl => exact hall
  | concat _ hown hi ih => exact throughout_concat.mpr ⟨ih, hP _ _ hown hi⟩

theorem Proceeds.initial (hp : Proceeds limit h h') : h <+: h' := by
  induction hp with
  | refl => exact List.prefix_refl _
  | concat _ _ _ ih => exact ih.trans (List.prefix_append ..)

theorem Proceeds.lawful (hp : Proceeds limit h h') (hl : Lawful limit h) : Lawful limit h' :=
  hp.throughout (fun _ _ _ hi => hi) hl

/-- What the coordinator has done stays the same. -/
theorem Proceeds.filter_isOwn (hp : Proceeds limit h h') :
    h'.filter (!·.isOwn) = h.filter (!·.isOwn) := by
  induction hp with
  | refl => rfl
  | concat _ hown _ ih => rw [List.filter_append, ih, List.filter_cons_of_neg (by simp [hown]),
      List.filter_nil, List.append_nil]

/-- So does whether it has done something. -/
theorem mem_iff_of_filter_isOwn (hsame : h'.filter (!·.isOwn) = h.filter (!·.isOwn))
    (hown : i.isOwn = false) : i ∈ h' ↔ i ∈ h := by
  have hmem : ∀ l : Timeline, i ∈ l ↔ i ∈ l.filter (!·.isOwn) := by simp [hown]
  rw [hmem, hsame, ← hmem]

/-- The list of the coordinator stays the same. -/
theorem Proceeds.held_eq (hp : Proceeds limit h h') : held h' = held h := by
  induction hp with
  | refl => rfl
  | @concat _ i _ hown _ ih =>
      rw [← ih]
      cases i <;> first | exact standing_concat rfl rfl | cases hown

/-- **Tasks that are executed can end one after the other.** -/
theorem proceeds_ended (hl : Lawful limit h) {l : List ProbeId} (hnodup : l.Nodup)
    (hexecuting : ∀ p ∈ l, p ∈ executing h) :
    ∃ h', Proceeds limit h h' ∧ executing h' = (executing h).filter (· ∉ l)
      ∧ waiting h' = waiting h ∧ atHand h' = atHand h ++ l ∧ starts h' = starts h := by
  induction l generalizing h with
  | nil => exact ⟨h, .refl, by simp, rfl, (List.append_nil _).symm, rfl⟩
  | cons p l ih =>
      obtain ⟨hp, hrest⟩ := List.forall_mem_cons.mp hexecuting
      obtain ⟨hfresh, hnodup⟩ := List.nodup_cons.mp hnodup
      have hl' : Lawful limit (h ++ [.ended p]) := lawful_concat.mpr ⟨hl, hp⟩
      have hgone : executing (h ++ [.ended p]) = (executing h).filter (· ≠ p) :=
        standing_concat_of_goes rfl rfl
      obtain ⟨h', hproceeds, hexec, hwait, hhand, hstarts⟩ := ih hl' hnodup fun q hq => by
        rw [hgone, List.mem_filter]
        exact ⟨hrest q hq, decide_eq_true fun heq => hfresh (heq ▸ hq)⟩
      have hfirst : Proceeds limit h (h ++ [.ended p]) := .single rfl hp
      refine ⟨h', hfirst.trans hproceeds, ?_, hwait.trans (waiting_ended hp), ?_, ?_⟩
      · rw [hexec, hgone, List.filter_filter]
        refine List.filter_congr fun q _ => ?_
        by_cases hq : q = p <;> simp [hq]
      · rw [hhand, hl.atHand_ended hp, List.append_assoc, List.singleton_append]
      · exact hstarts.trans (starts_concat rfl)

end

/-! ## The list of the coordinator -/

section
variable {limit : Nat} {h h' : Timeline} {p : ProbeId}

/-- Whoever leaves the list is missed there, and the others stay in order. -/
theorem Lawful.held_concat (hl : Lawful limit h) {i : Incident} {l m : List ProbeId}
    (hheld : held h = l ++ p :: m) (hs : i.submission? = none) (hr : i.release? = some p) :
    held (h ++ [i]) = l ++ m := by
  have hnodup : (held h).Nodup := hl.nodup.sublist List.filter_sublist
  rw [hheld, List.nodup_middle, List.nodup_cons] at hnodup
  have hothers : ∀ q ∈ l ++ m, decide (q ≠ p) = true := fun q hq =>
    decide_eq_true fun heq => hnodup.1 (heq ▸ hq)
  obtain ⟨hleft, hright⟩ := List.forall_mem_append.mp hothers
  rw [held, standing_concat_of_goes hs hr, ← held, hheld, List.filter_append,
    List.filter_cons_of_neg (by simp), List.filter_eq_self.mpr hleft,
    List.filter_eq_self.mpr hright]

/-- **A task that is waited for alone goes on, or it has ended and can be collected.** -/
theorem Lawful.executing_or_atHand (hl : Lawful limit h) (hp : p ∈ executing h)
    (hproceeds : Proceeds limit (h ++ [.joined p]) h') : p ∈ executing h' ∨ p ∈ atHand h' := by
  obtain ⟨hstarted, hended, hstopped⟩ := mem_executing.mp hp
  have hcollected : .collected p ∉ h := mt (hl.inOrder p).ended hended
  have hgrown : ∀ {i : Incident}, i ∈ h → i ∈ h' := fun hi =>
    hproceeds.initial.subset (List.mem_append_left _ hi)
  have hsame : ∀ {i : Incident}, i.isOwn = false → i ≠ .joined p → i ∉ h → i ∉ h' := by
    intro i hown hne
    rw [mem_iff_of_filter_isOwn hproceeds.filter_isOwn hown, List.mem_append,
      List.mem_singleton, or_iff_left hne]
    exact id
  by_cases hend : .ended p ∈ h'
  · exact Or.inr (mem_atHand.mpr ⟨hend, hsame rfl Incident.noConfusion hcollected⟩)
  · exact Or.inl (mem_executing.mpr
      ⟨hgrown hstarted, hend, hsame rfl Incident.noConfusion hstopped⟩)

/-- Whatever can be taken over is on the list of the coordinator. -/
theorem Lawful.held_of_atHand (hl : Lawful limit h) (hp : p ∈ atHand h) : p ∈ held h := by
  obtain ⟨hended, hcollected⟩ := mem_atHand.mp hp
  have hp := hl.inOrder p
  exact mem_held.mpr ⟨hp.submitted (Or.inr (Or.inl hended)), hcollected, hp.apart hended⟩

/-- **When nothing is left to be taken over, the coordinator has those on its list that are
present.** -/
theorem Lawful.held_eq_present (hl : Lawful limit h) (hnone : atHand h = []) :
    held h = present h := by
  refine List.filter_congr fun p _ => ?_
  have hcollected : .collected p ∈ h ↔ .ended p ∈ h := by
    refine ⟨(hl.inOrder p).ended, fun hended => ?_⟩
    by_contra hnot
    have hmem := mem_atHand.mpr ⟨hended, hnot⟩
    rw [hnone] at hmem
    cases hmem
  rw [decide_eq_decide, mem_releases, mem_departures, hcollected]

end

end Timeline

open Timeline

/-! ## The contract -/

/-- The task that a worker takes up. -/
def Activity.start? : Activity → Option ProbeId
  | .started p => some p
  | .noted _ => none

variable {β σ : Type}

/-- **Workers who give so many places to those that wait, first come, first served.**  `Past`
says that they can be in a state after a timeline, when they have told of these starts.
Whatever they are asked for, they go on by themselves from there, and only as is allowed.
After a wait they have told of every start, and no place is free that someone waits for,
unless a task has ended that can be collected. -/
structure Workers.Semaphore (w : Workers β σ) (limit : Nat) where
  Past : σ → List ProbeId → Timeline → Prop
  /-- Only what has started is told to have. -/
  told : ∀ {s l h}, Past s l h → l <+: starts h
  /-- What has ended can be collected, once. -/
  outcome : ∀ {s l h} p, Past s l h → ((w.outcome? s p).isSome = true ↔ p ∈ atHand h)
  submit : ∀ {s l h} t, Past s l h → .submitted t.probe.id ∉ h →
    ∃ h', Proceeds limit (h ++ [.submitted t.probe.id]) h' ∧ Past (w.submit s t) l h'
  await : ∀ {s l h}, Past s l h → ∃ h', Proceeds limit h h'
    ∧ Past (w.await s).2 (l ++ (w.await s).1.filterMap Activity.start?) h'
    ∧ starts h' = l ++ (w.await s).1.filterMap Activity.start?
    ∧ (Saturated limit h' ∨ atHand h' ≠ [])
  awaitOne : ∀ {s l h} p, Past s l h → ∃ h', Proceeds limit (h ++ [.joined p]) h'
    ∧ Past (w.awaitOne s p).2 (l ++ (w.awaitOne s p).1.filterMap Activity.start?) h'
  collect : ∀ {s l h p e s'}, Past s l h → w.collect? s p = some (e, s') →
    ∃ h', Proceeds limit (h ++ [.collected p]) h' ∧ Past s' l h'
  /-- A task that is stopped leaves its place, or the queue. -/
  kill : ∀ {s l h} p, Past s l h → p ∈ present h →
    ∃ h', Proceeds limit (h ++ [.stopped p]) h' ∧ Past (w.kill s p) l h'
  restartWatchdog : ∀ {s l h}, Past s l h →
    ∃ h', Proceeds limit h h' ∧ Past (w.restartWatchdog s) l h'

end TlsScan.Scan
