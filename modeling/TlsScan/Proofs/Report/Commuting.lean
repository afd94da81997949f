import Mathlib.Data.List.Pairwise
import TlsScan.Proofs.Report.History

/-!
# Results that can be merged in any order

Results of different probes file their records in different places, and what they add to the
sets is united.  Only their findings can come into conflict.  Of all that one result offers
for a property, one value counts, the one it would leave in an empty report: the rest of its
offers make no difference, whatever the report says (`settleAll_lastWord`).  So two results
change places as soon as, for each property, they leave the same value or exactly one of
their values is conclusive, and a list in which any two of them do so can be merged in any
order.

## Main Definitions

* `Report.PlainResult` — the stock results, with all that they will write.
* `Report.PlainResult.leaves`, `Report.PlainResult.Compatible` — the value that a result leaves
  for a property, and when two of them get on with each other.
* `Report.mergeResults` — merges a list of results one after another.

## Main Results

* `Finding.settleAll_lastWord` — of several offers one value counts.
* `Report.mergeResult_comm` — two compatible results change places.
* `Report.results_commute` — a list of compatible results can be merged in any order.
-/

namespace TlsScan

/-! ## One value for several offers -/

namespace Finding

/-- To settle one finding after another and then a third one, the last two can be settled
first. -/
theorem settledAfter_assoc (v u : Finding) (c : Option Finding) :
    v.settledAfter (some (u.settledAfter c)) = (v.settledAfter (some u)).settledAfter c := by
  cases c with
  | none => rfl
  | some c =>
      simp only [settledAfter]
      by_cases hc : c.isConclusive <;> by_cases hu : u.isConclusive <;>
        by_cases hv : v.isConclusive <;> simp [hc, hu, hv]

/-- The last word once one more finding is offered. -/
theorem lastWord_concat (l : List Finding) (v : Finding) :
    lastWord (l ++ [v]) = some (v.settledAfter (lastWord l)) := by
  rw [← settleAll_none, settleAll_append, settleAll_none]
  rfl

/-- **Of several offers only their last word counts**, whatever was found before. -/
theorem settleAll_lastWord (c : Option Finding) (l : List Finding) :
    settleAll c l = settleAll c (lastWord l).toList := by
  induction l using List.reverseRecOn with
  | nil => rfl
  | append_singleton l v ih =>
      rw [settleAll_append, ih, lastWord_concat]
      cases lastWord l with
      | none => rfl
      | some u => exact congrArg some (settledAfter_assoc v u c)

/-- **Two findings change places** if they are the same or exactly one of them is
conclusive. -/
theorem settledAfter_comm {v w : Finding} (h : v = w ∨ v.isConclusive ≠ w.isConclusive)
    (c : Option Finding) :
    w.settledAfter (some (v.settledAfter c)) = v.settledAfter (some (w.settledAfter c)) := by
  rcases h with rfl | h
  · rfl
  · -- The conclusive one of the two stays in both orders.
    rw [settledAfter_assoc, settledAfter_assoc]
    congr 1
    simp only [settledAfter]
    cases hv : v.isConclusive <;> cases hw : w.isConclusive <;> simp_all

end Finding

/-- The lists that are added to a set can come in any order. -/
theorem Selection.enlarge_perm {α : Type} [DecidableEq α] {l m : List (List α)}
    (h : l.Perm m) (s : Option (Selection α)) : enlarge s l = enlarge s m := by
  refine h.foldl_eq' (fun x _ y _ s => ?_) s
  rw [Option.some_inj]
  ext a
  simp only [Option.getD_some, contains_insertAll]
  exact Bool.or_left_comm ..

namespace Report

/-! ## Plain results -/

/-- **A stock result with all that it will write.**  The reasons for which a probe was not
executed are text here; they can have been read off any report, but are not read off the one
that the result is merged into. -/
inductive PlainResult where
  | failure (p : ProbeId) (properties : List Property) (kind : FailureKind) (message : String)
  | notExecuted (p : ProbeId) (properties : List Property) (reason : String)
  | facts (p : ProbeId) (f : Facts)

namespace PlainResult

/-- The result among the stock results. -/
def stock : PlainResult → StockResult
  | failure p properties kind message => .failure p properties kind message
  | notExecuted p properties reason => .notExecuted p properties reason
  | facts p f => .facts p f

/-- The result itself. -/
def result (x : PlainResult) : ProbeResult := x.stock.result

/-- The record that it files. -/
def record : PlainResult → Record
  | failure p _ kind message => .error p (kind.details message)
  | notExecuted p _ reason => .notExecuted p reason
  | facts p f => .executed p f.data

/-- **The value that a result leaves for a property**, if it writes it: its last conclusive
one, or its last one if none is conclusive. -/
def leaves (x : PlainResult) (q : Property) : Option Finding :=
  Finding.lastWord (x.result.offersFor q)

/-- **Two results get on with each other** if, for each property that both write, they leave
the same value or exactly one of the two values is conclusive. -/
def Compatible (x y : PlainResult) : Prop :=
  ∀ q v w, x.leaves q = some v → y.leaves q = some w →
    v = w ∨ v.isConclusive ≠ w.isConclusive

/-- Only finitely many properties have to be looked at. -/
instance (x y : PlainResult) : Decidable (x.Compatible y) :=
  decidable_of_iff (∀ q ∈ (Vocabulary.values : List Property), ∀ v ∈ x.leaves q,
      ∀ w ∈ y.leaves q, v = w ∨ v.isConclusive ≠ w.isConclusive)
    ⟨fun h q v w hv hw => h q (Vocabulary.complete q) v hv w hw,
      fun h q _ v hv w hw => h q v w hv hw⟩

theorem probe_record (x : PlainResult) : x.record.probe = x.result.identity := by
  cases x <;> rfl

/-- A plain result files its record last, and what it writes before cannot fail. -/
theorem exists_writes (x : PlainResult) :
    ∃ l, x.result.writes = l ++ [.record x.record] ∧ ∀ w ∈ l, w.isSafe = true := by
  obtain ⟨l, w, hwrites, hl, -, -⟩ := (Call.merge x.stock).exists_last rfl
  refine ⟨l, ?_, hl⟩
  have hlast : x.result.writes.getLast? = some (.record x.record) := by
    cases x <;> exact List.getLast?_concat
  have hwrites : x.result.writes = l ++ [w] := hwrites
  rw [hwrites, List.getLast?_concat, Option.some_inj] at hlast
  rw [hwrites, hlast]

end PlainResult

/-! ## Two results -/

/-- What the merge of a result leaves, whether it fails or not. -/
def mergeResult (r : Report) (x : PlainResult) : Report := (r.writeAll x.result.writes).1

section
variable {x y : PlainResult}

theorem takes_mergeResult (r : Report) (x : PlainResult) :
    r.Takes x.result.writes (r.mergeResult x) := takes_call r (.merge x.stock)

theorem notes_mergeResult (r : Report) (x : PlainResult) :
    r.Notes x.result.writes (r.mergeResult x) := notes_call (c := .merge x.stock) r rfl

/-- In every place the old record stays, and that of the result comes where there was
none. -/
theorem get?_mergeResult (r : Report) (x : PlainResult) (p : ProbeId) :
    (r.mergeResult x).records.get? p
      = (r.records.get? p).or ((some x.record).filter (·.probe = p)) := by
  obtain ⟨l, hwrites, hl⟩ := x.exists_writes
  obtain ⟨s, hs, hlast⟩ := writeAll_safe_concat (r := r) (w := .record x.record) hl
  have hnone : l.filterMap Write.identity? = [] :=
    List.filterMap_eq_nil_iff.mpr fun v hv => Write.identity?_of_isSafe (hl v hv)
  rw [mergeResult, hwrites, hlast, get?_write, records_writeAll_of_identity?_eq_nil hs hnone]
  rfl

/-- The value that a result leaves is settled after the old one. -/
theorem finding?_mergeResult (r : Report) (x : PlainResult) (q : Property) :
    (r.mergeResult x).finding? q = Finding.settleAll (r.finding? q) (x.leaves q).toList :=
  ((takes_mergeResult r x).findings q).trans (Finding.settleAll_lastWord _ _)

/-- **Reports that look the same from every side are the same.** -/
theorem eq_of_views {r r' : Report} (hheading : r.heading = r'.heading)
    (hrecords : ∀ p, r.records.get? p = r'.records.get? p)
    (hfindings : ∀ q, r.finding? q = r'.finding? q) (hversions : r.versions = r'.versions)
    (hextensions : r.extensions = r'.extensions)
    (hproperties : ∀ q, r.journal.properties.contains q = true
      ↔ r'.journal.properties.contains q = true)
    (hsets : ∀ t, r.journal.factSets.contains t = true
      ↔ r'.journal.factSets.contains t = true) : r = r' := by
  obtain ⟨target, startedAt, finishedAt, records, findings, versions, extensions, journal⟩ := r
  obtain ⟨target', startedAt', finishedAt', records', findings', versions', extensions',
    journal'⟩ := r'
  obtain ⟨properties, sets⟩ := journal
  obtain ⟨properties', sets'⟩ := journal'
  obtain rfl : records = records' := Table.ext hrecords
  obtain rfl : findings = findings' := Table.ext hfindings
  obtain rfl : properties = properties' :=
    Selection.ext fun q => Bool.eq_iff_iff.mpr (hproperties q)
  obtain rfl : sets = sets' := Selection.ext fun t => Bool.eq_iff_iff.mpr (hsets t)
  cases hheading
  cases hversions
  cases hextensions
  rfl

/-- **Two results that get on with each other change places**, if they are of different
probes. -/
theorem mergeResult_comm (hne : x.result.identity ≠ y.result.identity) (h : x.Compatible y)
    (r : Report) : (r.mergeResult x).mergeResult y = (r.mergeResult y).mergeResult x := by
  have hxy := (takes_mergeResult r x).trans (takes_mergeResult _ y)
  have hyx := (takes_mergeResult r y).trans (takes_mergeResult _ x)
  have nxy := (notes_mergeResult r x).trans (notes_mergeResult _ y)
  have nyx := (notes_mergeResult r y).trans (notes_mergeResult _ x)
  have hswap : (x.result.writes ++ y.result.writes).Perm (y.result.writes ++ x.result.writes) :=
    List.perm_append_comm
  refine eq_of_views ?_ (fun p => ?_) (fun q => ?_) ?_ ?_ (fun q => ?_) (fun t => ?_)
  · simp only [mergeResult, heading_writeAll]
  · -- At most one of the two records belongs in this place.
    simp only [get?_mergeResult, Option.or_assoc]
    congr 1
    by_cases hx : x.record.probe = p
    · have hy : ¬ y.record.probe = p := by
        rw [y.probe_record, ← hx, x.probe_record]
        exact Ne.symm hne
      simp [Option.filter, hx, hy]
    · simp [Option.filter, hx]
  · simp only [finding?_mergeResult]
    cases hv : x.leaves q with
    | none => rfl
    | some v =>
        cases hw : y.leaves q with
        | none => rfl
        | some w => exact congrArg some (Finding.settledAfter_comm (h q v w hv hw) _)
  · rw [hxy.versions, hyx.versions]
    exact Selection.enlarge_perm (hswap.filterMap _) _
  · rw [hxy.extensions, hyx.extensions]
    exact Selection.enlarge_perm (hswap.filterMap _) _
  · rw [nxy.properties, nyx.properties, ((hswap.flatMap_right _).map _).mem_iff]
  · rw [nxy.factSets, nyx.factSets, (hswap.filterMap _).mem_iff]

end

/-! ## Lists of results -/

/-- **Merge a list of results one after another**, up to the first that fails. -/
def mergeResults (r : Report) : List PlainResult → Report × Option ScanError
  | [] => (r, none)
  | x :: l =>
    match r.writeAll x.result.writes with
    | (r, none) => r.mergeResults l
    | (r, some e) => (r, some e)

/-- A merge goes through if the place of its record is free, -/
theorem writeAll_eq_of_free {r : Report} {x : PlainResult}
    (hfree : r.hasRecord x.result.identity = false) :
    r.writeAll x.result.writes = (r.mergeResult x, none) := by
  refine Prod.ext rfl ?_
  refine (fault_call r (.merge x.stock)).trans ?_
  show (Option.filter r.hasRecord (some x.result.identity)).map _ = none
  rw [Option.filter_some, hfree]
  rfl

/-- and takes no other place. -/
theorem hasRecord_mergeResult {r : Report} {x : PlainResult} {p : ProbeId}
    (hne : x.result.identity ≠ p) : (r.mergeResult x).hasRecord p = r.hasRecord p := by
  rw [hasRecord, Table.contains, get?_mergeResult, Option.filter_some, x.probe_record,
    decide_eq_false hne, if_neg Bool.false_ne_true, Option.or_none]
  rfl

/-- **Results of different probes are all merged**, if none of their places is taken. -/
theorem mergeResults_eq_foldl {l : List PlainResult} {r : Report}
    (hdistinct : (l.map fun x => x.result.identity).Nodup)
    (hfree : ∀ x ∈ l, r.hasRecord x.result.identity = false) :
    r.mergeResults l = (l.foldl mergeResult r, none) := by
  induction l generalizing r with
  | nil => rfl
  | cons x l ih =>
      obtain ⟨hx, hl⟩ := List.forall_mem_cons.mp hfree
      rw [List.map_cons, List.nodup_cons] at hdistinct
      rw [mergeResults, writeAll_eq_of_free hx]
      refine ih hdistinct.2 fun y hy => ?_
      have hne : x.result.identity ≠ y.result.identity := fun heq =>
        hdistinct.1 (List.mem_map.mpr ⟨y, hy, heq.symm⟩)
      rw [hasRecord_mergeResult hne]
      exact hl y hy

/-- **Results that get on with each other can be merged in any order.**  Take a report and a
list of results of different probes, none of which has a record in it.  If any two of them,
for each property that both write, leave the same value or exactly one conclusive value, then
the list can be merged in every order, no merge fails, and all orders lead to the same
report. -/
theorem results_commute (r : Report) (l : List PlainResult)
    (hdistinct : (l.map fun x => x.result.identity).Nodup)
    (hfree : ∀ x ∈ l, r.hasRecord x.result.identity = false)
    (hcompat : l.Pairwise PlainResult.Compatible) :
    ∃ r', ∀ m, l.Perm m → r.mergeResults m = (r', none) := by
  refine ⟨l.foldl mergeResult r, fun m hperm => ?_⟩
  have hdistinct' : (m.map fun x => x.result.identity).Nodup :=
    (hperm.map _).nodup_iff.mp hdistinct
  rw [mergeResults_eq_foldl hdistinct' fun x hx => hfree x (hperm.mem_iff.mpr hx)]
  -- Any two of the list change places, on whatever report.
  have hswap : l.Pairwise fun x y =>
      ∀ s : Report, (s.mergeResult x).mergeResult y = (s.mergeResult y).mergeResult x :=
    ((List.pairwise_map.mp hdistinct).and hcompat).imp fun h s => mergeResult_comm h.1 h.2 s
  have hsymm : Std.Symm fun x y : PlainResult =>
      ∀ s : Report, (s.mergeResult x).mergeResult y = (s.mergeResult y).mergeResult x :=
    ⟨fun x y h s => (h s).symm⟩
  have hall := hswap.forall_of_forall fun x hx s => rfl
  rw [hperm.foldl_eq' fun x hx y hy s => hall hx hy s]

namespace Sample

/-- Three results that write the same property: facts that change their mind, a failure, and
facts that agree with the first ones. -/
def agreeing : List PlainResult :=
  [.facts .alpn { findings := [(.supportsRsa, .fails), (.supportsRsa, .holds),
      (.supportsRsa, .timeout)], versions := some [] },
    .failure .heartbleed [.supportsRsa, .supportsHeartbeat] .killed "late",
    .facts .cipherSuite { findings := [(.supportsRsa, .holds)], extensions := some [.alpn] }]

theorem compatible_agreeing : agreeing.Pairwise PlainResult.Compatible := by
  decide +kernel

end Sample

theorem results_commute_sample : ∃ r',
    (new "sample" default).mergeResults Sample.agreeing = (r', none)
      ∧ (new "sample" default).mergeResults Sample.agreeing.reverse = (r', none) := by
  obtain ⟨r', h⟩ := results_commute (new "sample" default) Sample.agreeing (by decide)
    (by decide) Sample.compatible_agreeing
  exact ⟨r', h _ (List.Perm.refl _), h _ (List.reverse_perm _).symm⟩

end Report

end TlsScan
