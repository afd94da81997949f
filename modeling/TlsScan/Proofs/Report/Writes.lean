import Mathlib.Data.List.Induction
import TlsScan.Report.Write

/-!
# What a list of writes leaves in a report

`Report.writeAll` goes through its list write by write and stops at the first
that fails.  This file says in closed form what a list that went through has
left behind, one view of the report at a time:

* `records` — a record that was there is still there as it was, and the
  identities with a record are the old ones and those that the list files;
* `findings` — the finding of a property is the old one with everything offered
  for it settled after it, in order;
* `versions`, `extensions` — the old set with everything added;
* `journal` — exactly what was offered;
* `heading` — what it was.

The facts are put together as `Report.Takes`, and the journal as `Report.Notes`.
Single writes are taken in and noted whether they fail or not (`takes_write`,
`notes_write`), and what holds of two lists holds of the two in a row (`takes_writeAll`,
`notes_writeAll`).

The last section turns to success: a list goes through as soon as it gives up
nowhere, names no identity twice and none that has a record
(`writeAll_succeeds`).
-/

namespace TlsScan

/-! ## Views of a single write -/

namespace Write

/-- The record that a write files in a report, if it files one. -/
def record? (r : Report) : Write → Option Record
  | .record rec => some rec
  | .notExecuted p _ q => some (.notExecuted p (q.reason r))
  | _ => none

/-- The identity under which a write files a record, if it files one. -/
def identity? : Write → Option ProbeId
  | .record rec => some rec.probe
  | .notExecuted p _ _ => some p
  | _ => none

theorem identity?_eq (r : Report) (w : Write) :
    w.identity? = (w.record? r).map (·.probe) := by
  cases w <;> rfl

/-- The findings that a write offers, in order. -/
def offers : Write → List (Property × Finding)
  | .finding q v => [(q, v)]
  | .notExecuted _ l _ => l.map fun q => (q, .couldNotTest)
  | _ => []

/-- The findings that a write offers for one property. -/
def offersFor (q : Property) (w : Write) : List Finding :=
  (w.offers.filter (·.1 = q)).map (·.2)

/-- The protocol versions that a write adds, if it adds to that set. -/
def versions? : Write → Option (List ProtocolVersion)
  | .versions l => some l
  | _ => none

/-- The extensions that a write adds, if it adds to that set. -/
def extensions? : Write → Option (List Extension)
  | .extensions l => some l
  | _ => none

/-- The set of supported values that a write adds to, if there is one. -/
def factSet? : Write → Option FactSet
  | .versions _ => some .versions
  | .extensions _ => some .extensions
  | _ => none

/-- The error with which a write gives up, if it does. -/
def refusal? : Write → Option ScanError
  | .refuse e => some e
  | _ => none

end Write

/-! ## Findings offered one after another -/

namespace Finding

/-- The finding that stays when a list of them is offered one after another. -/
def settleAll (current : Option Finding) (l : List Finding) : Option Finding :=
  l.foldl (fun c v => some (v.settledAfter c)) current

theorem settleAll_append (c : Option Finding) (l m : List Finding) :
    settleAll c (l ++ m) = settleAll (settleAll c l) m := List.foldl_append

/-- One offer replaces a conclusive finding only by a conclusive one. -/
theorem filter_settledAfter (v : Finding) (c : Option Finding) :
    (some (v.settledAfter c)).filter isConclusive
      = if v.isConclusive then some v else c.filter isConclusive := by
  cases c with
  | none => cases v <;> rfl
  | some x => cases v <;> cases x <;> rfl

/-- **The conclusive finding that stays is the last conclusive one offered**, or
the one before all offers. -/
theorem filter_settleAll (c : Option Finding) (l : List Finding) :
    (settleAll c l).filter isConclusive
      = ((l.filter isConclusive).getLast?).or (c.filter isConclusive) := by
  -- The last offer decides, so the induction takes it off first.
  induction l using List.reverseRecOn generalizing c with
  | nil => rfl
  | append_singleton l v ih =>
      rw [settleAll_append, settleAll, List.foldl_cons, List.foldl_nil,
        filter_settledAfter, ih, List.filter_append]
      by_cases hv : v.isConclusive <;> simp [hv]

/-- Something stays if there was something or anything was offered. -/
theorem isSome_settleAll (c : Option Finding) (l : List Finding) :
    (settleAll c l).isSome = true ↔ c.isSome = true ∨ l ≠ [] := by
  induction l generalizing c with
  | nil => simp [settleAll]
  | cons v l ih =>
      rw [settleAll, List.foldl_cons]
      exact (ih _).trans (by simp)

end Finding

/-! ## Sets that grow list by list -/

/-- A set after the values of some lists were added to it; it is unknown as long
as nothing was added. -/
def Selection.enlarge {α : Type} [DecidableEq α] (s : Option (Selection α))
    (l : List (List α)) : Option (Selection α) :=
  l.foldl (fun s vs => some ((s.getD .empty).insertAll vs)) s

namespace Selection

variable {α : Type} [DecidableEq α]

theorem enlarge_append (s : Option (Selection α)) (l m : List (List α)) :
    enlarge s (l ++ m) = enlarge (enlarge s l) m := List.foldl_append

/-- A set is known once it was, or something was added. -/
theorem isSome_enlarge (s : Option (Selection α)) (l : List (List α)) :
    (enlarge s l).isSome = (s.isSome || !l.isEmpty) := by
  cases l with
  | nil => simp [enlarge]
  | cons vs l =>
      -- A set that is known stays known, whichever it is.
      suffices ∀ s : Selection α, (enlarge (some s) l).isSome by
        simp [enlarge] at this ⊢
        exact this _
      induction l with
      | nil => intro s; rfl
      | cons us l ih => exact fun s => ih _

/-- The members are the old ones and those that were added. -/
theorem contains_enlarge (s : Option (Selection α)) (l : List (List α)) (a : α) :
    ((enlarge s l).getD .empty).contains a
      = ((s.getD .empty).contains a || l.any fun vs => vs.contains a) := by
  induction l generalizing s with
  | nil => simp [enlarge]
  | cons vs l ih =>
      have hstep : enlarge s (vs :: l)
          = enlarge (some ((s.getD .empty).insertAll vs)) l := rfl
      rw [hstep, ih, Option.getD_some, contains_insertAll, List.any_cons]
      cases vs.contains a <;> cases (s.getD .empty).contains a <;> rfl

end Selection

namespace Report

/-! ## One write -/

theorem hasRecord_iff {r : Report} {p : ProbeId} :
    r.hasRecord p = true ↔ ∃ rec, r.records.get? p = some rec := Table.contains_iff

theorem putFindings_eq (r : Report) (l : List Property) (v : Finding) :
    (r.putFindings l v).records = r.records ∧ (r.putFindings l v).versions = r.versions
      ∧ (r.putFindings l v).extensions = r.extensions
      ∧ (r.putFindings l v).journal.factSets = r.journal.factSets := by
  unfold putFindings
  induction l generalizing r with
  | nil => exact ⟨rfl, rfl, rfl, rfl⟩
  | cons q l ih => exact ih (r.putFinding q v)

theorem hasRecord_putFindings (r : Report) (l : List Property) (v : Finding) :
    (r.putFindings l v).hasRecord = r.hasRecord := by
  funext p
  rw [hasRecord, (putFindings_eq r l v).1, hasRecord]

theorem finding?_putFinding (r : Report) (q k : Property) (v : Finding) :
    (r.putFinding q v).finding? k
      = if k = q then some (v.settledAfter (r.finding? q)) else r.finding? k := rfl

/-- Offers for the properties of a list, as the list of single offers. -/
theorem finding?_putFindings (r : Report) (l : List Property) (v : Finding)
    (k : Property) :
    (r.putFindings l v).finding? k
      = Finding.settleAll (r.finding? k) ((l.filter (· = k)).map fun _ => v) := by
  unfold putFindings
  induction l generalizing r with
  | nil => rfl
  | cons q l ih =>
      rw [List.foldl_cons, ih, finding?_putFinding]
      by_cases h : k = q
      · subst h
        simp [Finding.settleAll]
      · simp [h, Ne.symm h]

theorem journal_putFindings (r : Report) (l : List Property) (v : Finding)
    (k : Property) :
    (r.putFindings l v).journal.properties.contains k
      = (r.journal.properties.contains k || l.contains k) := by
  unfold putFindings
  induction l generalizing r with
  | nil => simp
  | cons q l ih =>
      rw [List.foldl_cons, ih]
      by_cases h : k = q <;> simp [putFinding, h]

/-- A record is filed only where there was none, and nothing else changes. -/
theorem of_putRecord {r r' : Report} {rec : Record}
    (h : r.putRecord rec = (r', none)) :
    r.hasRecord rec.probe = false
      ∧ r' = { r with records := r.records.insert rec.probe rec } := by
  unfold putRecord putRecord? at h
  by_cases hr : r.hasRecord rec.probe
  · simp [hr] at h
  · simp only [hr, Bool.false_eq_true, if_false, Prod.mk.injEq, and_true] at h
    exact ⟨by simpa using hr, h.symm⟩

theorem putRecord_of_hasRecord_eq_false {r : Report} {rec : Record}
    (h : r.hasRecord rec.probe = false) :
    r.putRecord rec = ({ r with records := r.records.insert rec.probe rec }, none) := by
  simp [putRecord, putRecord?, h]

/-- Whether a record finds its place taken or not, nothing but the records changes. -/
theorem putRecord_fst (r : Report) (rec : Record) :
    (r.putRecord rec).1 = { r with
      records :=
        if r.hasRecord rec.probe then r.records else r.records.insert rec.probe rec } := by
  unfold putRecord putRecord?
  cases r.hasRecord rec.probe <;> rfl

/-- **What a write does to the records**: it files one where there was none, or
leaves them alone. -/
theorem records_write {r r' : Report} {w : Write} (h : r.write w = (r', none)) :
    (w.record? r = none ∧ r'.records = r.records)
      ∨ ∃ rec, w.record? r = some rec ∧ r.hasRecord rec.probe = false
          ∧ r'.records = r.records.insert rec.probe rec := by
  cases w with
  | record rec =>
      obtain ⟨hfree, rfl⟩ := of_putRecord h
      exact Or.inr ⟨rec, rfl, hfree, rfl⟩
  | finding q v => cases h; exact Or.inl ⟨rfl, rfl⟩
  | versions l => cases h; exact Or.inl ⟨rfl, rfl⟩
  | extensions l => cases h; exact Or.inl ⟨rfl, rfl⟩
  | notExecuted p l q =>
      obtain ⟨hfree, rfl⟩ := of_putRecord h
      have hsame := (putFindings_eq r l .couldNotTest).1
      refine Or.inr ⟨.notExecuted p (q.reason r), rfl, ?_, ?_⟩
      · simpa [hasRecord, hsame] using hfree
      · simp only [hsame]
  | refuse e => cases h

/-- **What a write does to a finding**, whether it fails or not: it settles what it offers
for the property. -/
theorem finding?_write (r : Report) (w : Write) (k : Property) :
    (r.write w).1.finding? k = Finding.settleAll (r.finding? k) (w.offersFor k) := by
  cases w with
  | record rec => rw [write, putRecord_fst]; rfl
  | finding q v =>
      rw [write, finding?_putFinding]
      by_cases hk : k = q
      · subst hk
        simp [Write.offersFor, Write.offers, Finding.settleAll]
      · simp [Write.offersFor, Write.offers, Finding.settleAll, hk, Ne.symm hk]
  | versions l => rfl
  | extensions l => rfl
  | notExecuted p l q =>
      rw [write, putRecord_fst]
      refine (finding?_putFindings r l .couldNotTest k).trans ?_
      congr 1
      simp [Write.offersFor, Write.offers, List.filter_map, Function.comp_def]
  | refuse e => rfl

/-- **What a write does to the sets**, whether it fails or not: it adds the values that it
names. -/
theorem sets_write (r : Report) (w : Write) :
    (r.write w).1.versions = Selection.enlarge r.versions w.versions?.toList
      ∧ (r.write w).1.extensions
        = Selection.enlarge r.extensions w.extensions?.toList := by
  cases w with
  | record rec => rw [write, putRecord_fst]; exact ⟨rfl, rfl⟩
  | finding q v => exact ⟨rfl, rfl⟩
  | versions l => exact ⟨rfl, rfl⟩
  | extensions l => exact ⟨rfl, rfl⟩
  | notExecuted p l q =>
      rw [write, putRecord_fst]
      obtain ⟨-, hv, he, -⟩ := putFindings_eq r l .couldNotTest
      exact ⟨hv, he⟩
  | refuse e => exact ⟨rfl, rfl⟩

/-- **What a report says about the scan as such**: its target, and when it began and
ended. -/
def heading (r : Report) : String × Timestamp × Option Timestamp :=
  (r.target, r.startedAt, r.finishedAt)

/-- **No write touches the heading.** -/
theorem heading_write (r : Report) (w : Write) : (r.write w).1.heading = r.heading := by
  cases w with
  | record rec => rw [write, putRecord_fst]; rfl
  | notExecuted p l q =>
      rw [write, putRecord_fst]
      show (l.foldl (fun r k => r.putFinding k .couldNotTest) r).heading = r.heading
      induction l generalizing r with
      | nil => rfl
      | cons k l ih => exact ih (r.putFinding k .couldNotTest)
  | _ => rfl

/-- **What a write does to the journal**, whether it fails or not: it notes what it
offers. -/
theorem journal_write (r : Report) (w : Write) :
    (∀ k, (r.write w).1.journal.properties.contains k
        = (r.journal.properties.contains k || (w.offers.map (·.1)).contains k))
      ∧ ∀ t, (r.write w).1.journal.factSets.contains t
        = (r.journal.factSets.contains t || decide (w.factSet? = some t)) := by
  cases w with
  | record rec =>
      rw [write, putRecord_fst]
      exact ⟨fun k => by simp [Write.offers], fun t => by simp [Write.factSet?]⟩
  | finding q v =>
      refine ⟨fun k => ?_, fun t => by simp [write, putFinding, Write.factSet?]⟩
      by_cases hk : k = q <;> simp [write, putFinding, Write.offers, hk]
  | versions l =>
      refine ⟨fun k => by simp [write, addVersions, Write.offers], fun t => ?_⟩
      cases t <;> simp [write, addVersions, Write.factSet?]
  | extensions l =>
      refine ⟨fun k => by simp [write, addExtensions, Write.offers], fun t => ?_⟩
      cases t <;> simp [write, addExtensions, Write.factSet?]
  | notExecuted p l q =>
      rw [write, putRecord_fst]
      refine ⟨fun k => ?_, fun t => ?_⟩
      · refine (journal_putFindings r l .couldNotTest k).trans ?_
        simp [Write.offers, Function.comp_def]
      · simp [(putFindings_eq r l .couldNotTest).2.2.2, Write.factSet?]
  | refuse e => exact ⟨fun k => by simp [write, Write.offers],
      fun t => by simp [write, Write.factSet?]⟩

/-! ## Lists of writes -/

theorem writeAll_cons {r r' : Report} {w : Write} {l : List Write} :
    r.writeAll (w :: l) = (r', none)
      ↔ ∃ s, r.write w = (s, none) ∧ s.writeAll l = (r', none) := by
  rw [writeAll]
  constructor
  · intro h
    split at h
    · rename_i s hw
      exact ⟨s, hw, h⟩
    · cases h
  · rintro ⟨s, hw, hl⟩
    rw [hw]
    exact hl

theorem writeAll_append {r r' : Report} {l m : List Write} :
    r.writeAll (l ++ m) = (r', none)
      ↔ ∃ s, r.writeAll l = (s, none) ∧ s.writeAll m = (r', none) := by
  induction l generalizing r with
  | nil => simp [writeAll]
  | cons w l ih =>
      rw [List.cons_append, writeAll_cons]
      simp only [writeAll_cons, ih]
      constructor
      · rintro ⟨s, hw, t, hl, hm⟩
        exact ⟨t, ⟨s, hw, hl⟩, hm⟩
      · rintro ⟨t, ⟨s, hw, hl⟩, hm⟩
        exact ⟨s, hw, t, hl, hm⟩

/-- One finding for every property of a list is offered write by write. -/
theorem writeAll_findings (r : Report) (l : List Property) (v : Finding) (m : List Write) :
    r.writeAll (l.map (fun q => .finding q v) ++ m) = (r.putFindings l v).writeAll m := by
  induction l generalizing r with
  | nil => rfl
  | cons q l ih => exact ih (r.putFinding q v)

/-- **A result whose reasons are read off the report** does what the one does that gives
these reasons. -/
theorem writeAll_diagnosed (r : Report) (p : ProbeId) (l : List Property) (q : Requirement) :
    r.writeAll (ProbeResult.diagnosed p l q).writes
      = r.writeAll (ProbeResult.notExecuted p l (q.reason r)).writes :=
  (writeAll_findings r l .couldNotTest [.record (.notExecuted p (q.reason r))]).symm

/-- **A report has taken in a list of writes**, as far as its facts go.  Records that were
there are there as they were, and new ones are where they belong; the findings that were
offered are settled after the old ones, and the sets are enlarged. -/
structure Takes (r : Report) (l : List Write) (r' : Report) : Prop where
  kept : ∀ p rec, r.records.get? p = some rec → r'.records.get? p = some rec
  filed : ∀ p rec, r'.records.get? p = some rec → r.records.get? p = some rec ∨ rec.probe = p
  recorded : ∀ p, r'.hasRecord p = true
    ↔ r.hasRecord p = true ∨ p ∈ l.filterMap Write.identity?
  findings : ∀ k, r'.finding? k
    = Finding.settleAll (r.finding? k) (l.flatMap (Write.offersFor k))
  versions : r'.versions = Selection.enlarge r.versions (l.filterMap Write.versions?)
  extensions : r'.extensions = Selection.enlarge r.extensions (l.filterMap Write.extensions?)

/-- **A journal has noted a list of writes**: what it had, and all that they offer. -/
structure Notes (r : Report) (l : List Write) (r' : Report) : Prop where
  properties : ∀ k, r'.journal.properties.contains k = true
    ↔ r.journal.properties.contains k = true ∨ k ∈ (l.flatMap Write.offers).map (·.1)
  factSets : ∀ t, r'.journal.factSets.contains t = true
    ↔ r.journal.factSets.contains t = true ∨ t ∈ l.filterMap Write.factSet?

section
variable {r s r' : Report} {l m : List Write}

theorem Takes.refl (r : Report) : r.Takes [] r :=
  ⟨fun _ _ h => h, fun _ _ h => Or.inl h, fun _ => (or_iff_left List.not_mem_nil).symm,
    fun _ => rfl, rfl, rfl⟩

theorem Takes.trans (h : r.Takes l s) (h' : s.Takes m r') : r.Takes (l ++ m) r' := by
  refine ⟨fun p rec hp => h'.kept p rec (h.kept p rec hp), fun p rec hp => ?_, fun p => ?_,
    fun k => ?_, ?_, ?_⟩
  · rcases h'.filed p rec hp with hs | hnew
    · exact h.filed p rec hs
    · exact Or.inr hnew
  · rw [h'.recorded, h.recorded, List.filterMap_append, List.mem_append, or_assoc]
  · rw [h'.findings, h.findings, List.flatMap_append, Finding.settleAll_append]
  · rw [h'.versions, h.versions, List.filterMap_append, Selection.enlarge_append]
  · rw [h'.extensions, h.extensions, List.filterMap_append, Selection.enlarge_append]

theorem Notes.of_journal_eq (h : r'.journal = r.journal) : r.Notes [] r' := by
  refine ⟨fun k => ?_, fun t => ?_⟩
  · rw [h]
    exact (or_iff_left List.not_mem_nil).symm
  · rw [h]
    exact (or_iff_left List.not_mem_nil).symm

theorem Notes.refl (r : Report) : r.Notes [] r := .of_journal_eq rfl

theorem Notes.trans (h : r.Notes l s) (h' : s.Notes m r') : r.Notes (l ++ m) r' := by
  refine ⟨fun k => ?_, fun t => ?_⟩
  · rw [h'.properties, h.properties, List.flatMap_append, List.map_append, List.mem_append,
      or_assoc]
  · rw [h'.factSets, h.factSets, List.filterMap_append, List.mem_append, or_assoc]

end

/-- What a write does to the records, whether it fails or not: a record that finds its place
taken is not filed. -/
theorem records_write_fst (r : Report) (w : Write) :
    (r.write w).1.records = match w.record? r with
      | none => r.records
      | some rec =>
        if r.hasRecord rec.probe then r.records else r.records.insert rec.probe rec := by
  cases w with
  | record rec => rw [write, putRecord_fst]; rfl
  | notExecuted p l q =>
      rw [write, putRecord_fst]
      dsimp only [Write.record?]
      rw [hasRecord_putFindings, (putFindings_eq r l .couldNotTest).1]
  | finding q v => rfl
  | versions l => rfl
  | extensions l => rfl
  | refuse e => rfl

/-- **In every place the old record stays**, and a new one comes where there was none. -/
theorem get?_write (r : Report) (w : Write) (p : ProbeId) :
    (r.write w).1.records.get? p
      = (r.records.get? p).or ((w.record? r).filter (·.probe = p)) := by
  rw [records_write_fst]
  cases hnew : w.record? r with
  | none => exact Option.or_none.symm
  | some new =>
      dsimp only
      by_cases hp : new.probe = p
      · subst hp
        rw [Option.filter_some, decide_eq_true rfl, if_pos rfl, hasRecord, Table.contains]
        cases hold : r.records.get? new.probe with
        | none => exact (Table.get?_insert ..).trans (if_pos rfl)
        | some old => exact hold
      · rw [Option.filter_some, decide_eq_false hp, if_neg Bool.false_ne_true, Option.or_none]
        split
        · rfl
        · rw [Table.get?_insert, if_neg (Ne.symm hp)]

/-- **A report takes in every single write**, whether it fails or not. -/
theorem takes_write (r : Report) (w : Write) : r.Takes [w] (r.write w).1 := by
  refine ⟨fun p rec hp => ?_, fun p rec hp => ?_, fun p => ?_, fun k => ?_, ?_, ?_⟩
  · rw [get?_write, hp, Option.some_or]
  · rw [get?_write, Option.or_eq_some_iff, Option.filter_eq_some_iff] at hp
    exact hp.imp_right fun hnew => of_decide_eq_true hnew.2.2
  · rw [hasRecord, Table.contains, get?_write, Option.isSome_or, Bool.or_eq_true,
      List.filterMap_cons, List.filterMap_nil, w.identity?_eq r]
    refine or_congr_right ?_
    cases w.record? r with
    | none => exact iff_of_false Bool.false_ne_true List.not_mem_nil
    | some new => simp [eq_comm (a := p)]
  · rw [finding?_write, List.flatMap_singleton]
  · rw [(sets_write r w).1]
    cases hv : w.versions? <;> simp [hv]
  · rw [(sets_write r w).2]
    cases he : w.extensions? <;> simp [he]

/-- **A journal notes every single write**, whether it fails or not. -/
theorem notes_write (r : Report) (w : Write) : r.Notes [w] (r.write w).1 := by
  obtain ⟨hproperties, hsets⟩ := journal_write r w
  refine ⟨fun k => ?_, fun t => ?_⟩
  · rw [hproperties, List.flatMap_singleton]
    simp
  · rw [hsets]
    cases ht : w.factSet? <;> simp [ht, eq_comm (a := t)]

section
variable {r r' : Report} {l : List Write}

/-- **What a list that goes through leaves in a report.** -/
theorem takes_writeAll (h : r.writeAll l = (r', none)) : r.Takes l r' := by
  induction l generalizing r with
  | nil => cases h; exact .refl _
  | cons w l ih =>
      obtain ⟨s, hw, hl⟩ := writeAll_cons.mp h
      have hfirst := takes_write r w
      rw [hw] at hfirst
      exact hfirst.trans (ih hl)

/-- **A list of writes leaves the heading as it was**, wherever it stops. -/
theorem heading_writeAll (r : Report) (l : List Write) :
    (r.writeAll l).1.heading = r.heading := by
  induction l generalizing r with
  | nil => rfl
  | cons w l ih =>
      have hfirst := heading_write r w
      rw [writeAll]
      split
      · rename_i s hs
        rw [hs] at hfirst
        exact (ih s).trans hfirst
      · rename_i s e hs
        rw [hs] at hfirst
        exact hfirst

/-- **The journal notes exactly what a list that goes through offers.** -/
theorem notes_writeAll (h : r.writeAll l = (r', none)) : r.Notes l r' := by
  induction l generalizing r with
  | nil => cases h; exact .refl _
  | cons w l ih =>
      obtain ⟨s, hw, hl⟩ := writeAll_cons.mp h
      have hfirst := notes_write r w
      rw [hw] at hfirst
      exact hfirst.trans (ih hl)

theorem records_writeAll_of_identity?_eq_nil (h : r.writeAll l = (r', none))
    (hl : l.filterMap Write.identity? = []) : r'.records = r.records := by
  induction l generalizing r with
  | nil => cases h; rfl
  | cons w l ih =>
      obtain ⟨s, hw, hl'⟩ := writeAll_cons.mp h
      cases hid : w.identity? with
      | some p => simp [hid] at hl
      | none =>
          rw [ih hl' (by simpa [hid] using hl)]
          rcases records_write hw with ⟨-, heq⟩ | ⟨new, hnew, -, -⟩
          · exact heq
          · rw [w.identity?_eq r, hnew] at hid
            cases hid

/-- The record of a list that ends with the only one it files. -/
theorem records_writeAll_concat {rec : Record}
    (h : r.writeAll (l ++ [.record rec]) = (r', none))
    (hl : l.filterMap Write.identity? = []) :
    r'.records = r.records.insert rec.probe rec := by
  obtain ⟨s, hs, hlast⟩ := writeAll_append.mp h
  obtain ⟨t, hw, ht⟩ := writeAll_cons.mp hlast
  cases ht
  rw [(of_putRecord hw).2, records_writeAll_of_identity?_eq_nil hs hl]

/-- Every record is filed under the identity it names. -/
def Filed (r : Report) : Prop := ∀ p rec, r.records.get? p = some rec → rec.probe = p

/-- A report that takes in writes keeps its records filed. -/
theorem Takes.filed_of_filed (h : r.Takes l r') (hr : r.Filed) : r'.Filed := by
  intro p rec hp
  rcases h.filed p rec hp with hold | hnew
  · exact hr p rec hold
  · exact hnew

end

/-! ## Lists that go through -/

/-- **A list goes through** as soon as it gives up nowhere and files every identity
at most once, and none that has a record. -/
theorem writeAll_succeeds {r : Report} {l : List Write}
    (hgive : l.filterMap Write.refusal? = [])
    (hnodup : (l.filterMap Write.identity?).Nodup)
    (hfree : ∀ p ∈ l.filterMap Write.identity?, r.hasRecord p = false) :
    ∃ r', r.writeAll l = (r', none) := by
  induction l generalizing r with
  | nil => exact ⟨r, rfl⟩
  | cons w l ih =>
      -- The first write goes through, as it files nothing that is taken.
      have hw : ∃ s, r.write w = (s, none) := by
        cases w with
        | record rec =>
            exact ⟨_, putRecord_of_hasRecord_eq_false (hfree _ (by simp [Write.identity?]))⟩
        | notExecuted p m q =>
            refine ⟨_, putRecord_of_hasRecord_eq_false ?_⟩
            have hp := hfree p (by simp [Write.identity?])
            simpa [hasRecord, Record.notExecuted, (putFindings_eq r m .couldNotTest).1]
              using hp
        | finding q v => exact ⟨_, rfl⟩
        | versions vs => exact ⟨_, rfl⟩
        | extensions es => exact ⟨_, rfl⟩
        | refuse e => simp [Write.refusal?] at hgive
      obtain ⟨s, hs⟩ := hw
      -- What it has filed is none of what the rest files.
      have hrest : ∃ r', s.writeAll l = (r', none) := by
        refine ih ?_ ?_ ?_
        · rw [List.filterMap_eq_nil_iff] at hgive ⊢
          exact fun v hv => hgive v (List.mem_cons_of_mem _ hv)
        · cases hid : w.identity? with
          | none => simpa [hid] using hnodup
          | some p =>
              rw [List.filterMap_cons, hid] at hnodup
              exact (List.nodup_cons.mp hnodup).2
        · intro p hp
          rcases records_write hs with ⟨hnew, heq⟩ | ⟨new, hnew, -, heq⟩
          · have := hfree p (by simpa [w.identity?_eq r, hnew] using hp)
            simpa [hasRecord, heq] using this
          · rw [List.filterMap_cons, w.identity?_eq r, hnew] at hnodup hfree
            have hne : p ≠ new.probe := by
              rintro rfl
              exact (List.nodup_cons.mp hnodup).1 hp
            have := hfree p (List.mem_cons_of_mem _ hp)
            simpa [hasRecord, heq, hne] using this
      obtain ⟨r', hl⟩ := hrest
      exact ⟨r', writeAll_cons.mpr ⟨s, hs, hl⟩⟩

end Report

end TlsScan
