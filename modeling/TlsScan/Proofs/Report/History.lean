import Mathlib.Data.List.DropRight
import TlsScan.Proofs.Report.Growth

/-!
# Histories of reports

Whatever is done to a report is done by calls: single records, findings and sets, results
that every probe can use, and taking the journal.  Calls can fail, and a merge can fail after
most of it was done; more calls may follow all the same.

A call fails at its end or not at all, as only a record can be refused, and the record comes
last.  So what a call offers is offered whether it fails or not, and what a report says
after a history of calls can be read off what all of them write.

## Main Definitions

* `Report.Call`, `Report.call`, `Report.after` — calls, what one does, and what many leave.
* `Report.sinceTaken` — the calls since the journal was last taken.
* `Finding.lastWord`, `Selection.union` — what offers and additions come to.
* `Report.Tells` — what a report says after a history.

## Main Results

* `Report.takes_call`, `Report.notes_call` — what one call leaves, whether it fails or not.
* `Report.fault_call` — a call fails exactly if it files a record whose place is taken.
* `Report.tells_ofHistory` — a report tells its history, as a whole.
* `Report.history_is_kept` — the same, beside what later calls keep.
-/

namespace TlsScan

/-! ## What offers and additions come to -/

/-- **The finding that stays of all that were offered**: the last conclusive one if there was
one, and otherwise the last. -/
def Finding.lastWord (l : List Finding) : Option Finding :=
  ((l.filter isConclusive).getLast?).or l.getLast?

/-- **All that was added to a set**, which is unknown if nothing ever was. -/
def Selection.union {α : Type} [DecidableEq α] (l : List (List α)) : Option (Selection α) :=
  if l.isEmpty then none else some (.ofList l.flatten)

/-- Findings offered one after another leave the last word. -/
theorem Finding.settleAll_none (l : List Finding) : settleAll none l = lastWord l := by
  induction l using List.reverseRecOn with
  | nil => rfl
  | append_singleton l v ih =>
      rw [settleAll_append, ih]
      show some (v.settledAfter (lastWord l)) = lastWord (l ++ [v])
      unfold lastWord
      rw [List.filter_append, List.getLast?_concat]
      by_cases hv : v.isConclusive = true
      · -- A conclusive finding is the last word, whatever came before.
        rw [List.filter_cons_of_pos hv, List.filter_nil, List.getLast?_concat, Option.some_or]
        cases ((l.filter isConclusive).getLast?).or l.getLast? with
        | none => rfl
        | some c => simp [settledAfter, hv]
      · rw [List.filter_cons_of_neg hv, List.filter_nil, List.append_nil]
        cases hlast : (l.filter isConclusive).getLast? with
        | some c =>
            have hc := (List.mem_filter.mp (List.mem_of_getLast? hlast)).2
            simp [settledAfter, hc, hv]
        | none =>
            -- So far nothing was conclusive, so the last finding before was not either.
            rw [Option.none_or, Option.none_or]
            cases hbefore : l.getLast? with
            | none => rfl
            | some c =>
                have hc : ¬ c.isConclusive = true :=
                  List.filter_eq_nil_iff.mp (List.getLast?_eq_none_iff.mp hlast) c
                    (List.mem_of_getLast? hbefore)
                simp [settledAfter, hc]

/-- Lists added one after another leave their union. -/
theorem Selection.enlarge_none {α : Type} [DecidableEq α] (l : List (List α)) :
    enlarge none l = union l := by
  unfold union
  split
  · rename_i hl
    rw [List.isEmpty_iff.mp hl]
    rfl
  · rename_i hl
    have hsome : (enlarge none l).isSome = true := by
      rw [isSome_enlarge, Bool.eq_false_iff.mpr hl]
      rfl
    obtain ⟨s, hs⟩ := Option.isSome_iff_exists.mp hsome
    rw [hs, Option.some_inj]
    ext a
    have hcontains := contains_enlarge none l a
    rw [hs, Option.getD_some] at hcontains
    rw [hcontains, contains_ofList, Bool.eq_iff_iff]
    simp

/-! ## Writes that cannot fail -/

namespace Write

/-- Whether a write goes through whatever the report says, and files no record. -/
def isSafe : Write → Bool
  | finding .. | versions _ | extensions _ => true
  | _ => false

theorem exists_write {w : Write} (hw : w.isSafe = true) (r : Report) :
    ∃ s, r.write w = (s, none) := by
  cases w with
  | finding q v => exact ⟨_, rfl⟩
  | versions l => exact ⟨_, rfl⟩
  | extensions l => exact ⟨_, rfl⟩
  | _ => cases hw

/-- Findings can be offered in any number. -/
theorem isSafe_findings {α : Type} (l : List α) (f : α → Property × Finding) :
    ∀ w ∈ l.map fun a => finding (f a).1 (f a).2, w.isSafe = true := by
  intro w hw
  obtain ⟨a, -, rfl⟩ := List.mem_map.mp hw
  rfl

theorem identity?_of_isSafe {w : Write} (hw : w.isSafe = true) : w.identity? = none := by
  cases w with
  | record rec => cases hw
  | notExecuted p l q => cases hw
  | _ => rfl

end Write

namespace Report

/-! ## Calls -/

/-- The results that every probe can use. -/
inductive StockResult where
  | failure (p : ProbeId) (properties : List Property) (kind : FailureKind) (message : String)
  | notExecuted (p : ProbeId) (properties : List Property) (reason : String)
  | diagnosed (p : ProbeId) (properties : List Property) (requirement : Requirement)
  | facts (p : ProbeId) (f : Facts)

/-- The result itself. -/
def StockResult.result : StockResult → ProbeResult
  | failure p properties kind message => .failure p properties kind message
  | notExecuted p properties reason => .notExecuted p properties reason
  | diagnosed p properties requirement => .diagnosed p properties requirement
  | facts p f => .facts p f

/-- **One call to a report.** -/
inductive Call where
  | putRecord (rec : Record)
  | putFinding (q : Property) (v : Finding)
  | addVersions (l : List ProtocolVersion)
  | addExtensions (l : List Extension)
  | merge (x : StockResult)
  | takeJournal

/-- **What one call does**; if it fails, what was done before stays. -/
def call (r : Report) : Call → Report × Option ScanError
  | .putRecord rec => r.putRecord rec
  | .putFinding q v => (r.putFinding q v, none)
  | .addVersions l => (r.addVersions l, none)
  | .addExtensions l => (r.addExtensions l, none)
  | .merge x => r.writeAll x.result.writes
  | .takeJournal => (r.clearJournal, none)

/-- **What a history leaves.**  It goes on after a call that fails. -/
def after (r : Report) (l : List Call) : Report := l.foldl (fun r c => (r.call c).1) r

namespace Call

/-- What a call writes. -/
def writes : Call → List Write
  | putRecord rec => [.record rec]
  | putFinding q v => [.finding q v]
  | addVersions l => [.versions l]
  | addExtensions l => [.extensions l]
  | merge x => x.result.writes
  | takeJournal => []

/-- The identity of the record that a call files, if it files one. -/
def identity? : Call → Option ProbeId
  | putRecord rec => some rec.probe
  | merge x => some x.result.identity
  | _ => none

/-- Whether a call takes the journal. -/
def takes : Call → Bool
  | takeJournal => true
  | _ => false

end Call

/-- The calls of a history since the journal was last taken. -/
def sinceTaken (l : List Call) : List Call := l.rtakeWhile fun c => !c.takes

/-- What the calls of a history write. -/
def written (l : List Call) : List Write := l.flatMap Call.writes

/-- **What a report says after a history that began with nothing.**  The places of its
records are those that some call has filed one in; its findings and sets are what all offers
and additions come to; and its journal is what was written since it was last taken. -/
structure Tells (l : List Call) (r : Report) : Prop where
  filed : r.Filed
  recorded : ∀ p, r.hasRecord p = true ↔ ∃ c ∈ l, c.identity? = some p
  findings : ∀ q, r.finding? q = Finding.lastWord ((written l).flatMap (Write.offersFor q))
  versions : r.versions = Selection.union ((written l).filterMap Write.versions?)
  extensions : r.extensions = Selection.union ((written l).filterMap Write.extensions?)
  properties : ∀ q, r.journal.properties.contains q = true
    ↔ q ∈ ((written (sinceTaken l)).flatMap Write.offers).map (·.1)
  factSets : ∀ t, r.journal.factSets.contains t = true
    ↔ t ∈ (written (sinceTaken l)).filterMap Write.factSet?

/-- The report that a history makes of a new one. -/
def ofHistory (target : String) (startedAt : Timestamp) (l : List Call) : Report :=
  (new target startedAt).after l

/-! ## One call -/

section
variable {r : Report} {l : List Write} {w : Write} {c : Call}

/-- What goes through and files nothing can be written in front of anything. -/
theorem writeAll_safe_concat (hl : ∀ v ∈ l, v.isSafe = true) :
    ∃ s, r.writeAll l = (s, none) ∧ r.writeAll (l ++ [w]) = s.write w := by
  induction l generalizing r with
  | nil =>
      refine ⟨r, rfl, ?_⟩
      rw [List.nil_append, writeAll]
      rcases r.write w with ⟨s, _ | e⟩ <;> rfl
  | cons v l ih =>
      obtain ⟨hv, hl⟩ := List.forall_mem_cons.mp hl
      obtain ⟨s, hs⟩ := Write.exists_write hv r
      rw [List.cons_append, writeAll, writeAll, hs]
      exact ih hl

theorem hasRecord_of_safe {s : Report} (hl : ∀ v ∈ l, v.isSafe = true)
    (h : r.writeAll l = (s, none)) : s.hasRecord = r.hasRecord := by
  have hnone : l.filterMap Write.identity? = [] :=
    List.filterMap_eq_nil_iff.mpr fun v hv => Write.identity?_of_isSafe (hl v hv)
  have hrecords := records_writeAll_of_identity?_eq_nil h hnone
  funext p
  rw [hasRecord, hrecords, hasRecord]

/-- A write fails exactly if it files a record whose place is taken, or gives up. -/
theorem fault_write (r : Report) (w : Write) :
    (r.write w).2
      = ((w.identity?.filter r.hasRecord).map .duplicateResult).or w.refusal? := by
  have hput : ∀ (s : Report) (rec : Record), s.hasRecord = r.hasRecord →
      (s.putRecord rec).2
        = ((some rec.probe).filter r.hasRecord).map .duplicateResult := by
    intro s rec hsame
    unfold putRecord putRecord?
    rw [← hsame, Option.filter_some]
    cases s.hasRecord rec.probe <;> rfl
  cases w with
  | record rec => exact (hput r rec rfl).trans (Option.or_none).symm
  | notExecuted p m q =>
      have hsame := hasRecord_putFindings r m .couldNotTest
      exact (hput _ (.notExecuted p (q.reason r)) hsame).trans (Option.or_none).symm
  | finding q v => rfl
  | versions vs => rfl
  | extensions es => rfl
  | refuse e => rfl

/-- **Only the last write of a call can fail**: what is in front of it goes through and files
nothing. -/
theorem Call.exists_last (hc : c.takes = false) :
    ∃ l w, c.writes = l ++ [w] ∧ (∀ v ∈ l, v.isSafe = true) ∧ w.identity? = c.identity?
      ∧ w.refusal? = none := by
  cases c with
  | putRecord rec => exact ⟨[], .record rec, rfl, List.forall_mem_nil _, rfl, rfl⟩
  | putFinding q v => exact ⟨[], .finding q v, rfl, List.forall_mem_nil _, rfl, rfl⟩
  | addVersions vs => exact ⟨[], .versions vs, rfl, List.forall_mem_nil _, rfl, rfl⟩
  | addExtensions es => exact ⟨[], .extensions es, rfl, List.forall_mem_nil _, rfl, rfl⟩
  | takeJournal => cases hc
  | merge x =>
      cases x with
      | failure p m kind message =>
          exact ⟨_, _, rfl, Write.isSafe_findings m fun q => (q, kind.finding), rfl, rfl⟩
      | notExecuted p m reason =>
          exact ⟨_, _, rfl, Write.isSafe_findings m fun q => (q, .couldNotTest), rfl, rfl⟩
      | diagnosed p m q => exact ⟨[], _, rfl, List.forall_mem_nil _, rfl, rfl⟩
      | facts p f =>
          refine ⟨_, _, rfl, fun v hv => ?_, rfl, rfl⟩
          rcases List.mem_append.mp hv with hv | hv
          · rcases List.mem_append.mp hv with hv | hv
            · exact Write.isSafe_findings f.findings id v hv
            · obtain ⟨vs, -, rfl⟩ := Option.map_eq_some_iff.mp (Option.mem_toList.mp hv)
              rfl
          · obtain ⟨es, -, rfl⟩ := Option.map_eq_some_iff.mp (Option.mem_toList.mp hv)
            rfl

/-- A call does what it writes. -/
theorem call_eq (r : Report) (hc : c.takes = false) : r.call c = r.writeAll c.writes := by
  cases c with
  | putRecord rec =>
      rw [call, Call.writes, writeAll, write]
      rcases r.putRecord rec with ⟨s, _ | e⟩ <;> rfl
  | takeJournal => cases hc
  | _ => rfl

/-- A call goes through up to its last write. -/
theorem exists_call (r : Report) (hc : c.takes = false) :
    ∃ l w s, c.writes = l ++ [w] ∧ r.writeAll l = (s, none) ∧ r.call c = s.write w
      ∧ s.hasRecord = r.hasRecord ∧ w.identity? = c.identity? ∧ w.refusal? = none := by
  obtain ⟨l, w, hwrites, hl, hid, hgive⟩ := c.exists_last hc
  obtain ⟨s, hs, hlast⟩ := writeAll_safe_concat (r := r) (w := w) hl
  exact ⟨l, w, s, hwrites, hs, by rw [call_eq r hc, hwrites, hlast], hasRecord_of_safe hl hs,
    hid, hgive⟩

theorem Call.eq_takeJournal (hc : c.takes = true) : c = .takeJournal := by
  cases c with
  | takeJournal => rfl
  | _ => cases hc

/-- **A report takes in every call**, whether it fails or not. -/
theorem takes_call (r : Report) (c : Call) : r.Takes c.writes (r.call c).1 := by
  cases hc : c.takes with
  | true =>
      rw [Call.eq_takeJournal hc]
      obtain ⟨hkept, hfiled, hrecorded, hfindings, hversions, hextensions⟩ := Takes.refl r
      exact ⟨hkept, hfiled, hrecorded, hfindings, hversions, hextensions⟩
  | false =>
      obtain ⟨l, w, s, hwrites, hs, hlast, -⟩ := exists_call r hc
      rw [hwrites, hlast]
      exact (takes_writeAll hs).trans (takes_write s w)

/-- **The journal notes every call but the one that takes it**, whether it fails or not. -/
theorem notes_call (r : Report) (hc : c.takes = false) : r.Notes c.writes (r.call c).1 := by
  obtain ⟨l, w, s, hwrites, hs, hlast, -⟩ := exists_call r hc
  rw [hwrites, hlast]
  exact (notes_writeAll hs).trans (notes_write s w)

/-- **A call fails exactly if it files a record whose place is taken.** -/
theorem fault_call (r : Report) (c : Call) :
    (r.call c).2 = (c.identity?.filter r.hasRecord).map .duplicateResult := by
  cases hc : c.takes with
  | true =>
      rw [Call.eq_takeJournal hc]
      rfl
  | false =>
      obtain ⟨l, w, s, -, -, hlast, hsame, hid, hgive⟩ := exists_call r hc
      rw [hlast, fault_write, hid, hgive, hsame, Option.or_none]

/-- **A record whose place is taken is refused, and nothing changes.** -/
theorem putRecord_of_hasRecord {rec : Record} (h : r.hasRecord rec.probe = true) :
    r.putRecord rec = (r, some (.duplicateResult rec.probe)) := by
  rw [putRecord, putRecord?, if_pos h]

theorem Call.mem_identities {p : ProbeId} :
    p ∈ c.writes.filterMap Write.identity? ↔ c.identity? = some p := by
  cases hc : c.takes with
  | true =>
      rw [Call.eq_takeJournal hc]
      exact iff_of_false List.not_mem_nil (Option.some_ne_none p).symm
  | false =>
      obtain ⟨l, w, hwrites, hl, hid, -⟩ := c.exists_last hc
      have hnone : l.filterMap Write.identity? = [] :=
        List.filterMap_eq_nil_iff.mpr fun v hv => Write.identity?_of_isSafe (hl v hv)
      rw [hwrites, List.filterMap_append, hnone, List.nil_append, hid.symm]
      cases h : w.identity? <;> simp [h, eq_comm]

end

/-! ## Histories -/

theorem after_concat (r : Report) (l : List Call) (c : Call) :
    r.after (l ++ [c]) = ((r.after l).call c).1 := by
  rw [after, List.foldl_append]
  rfl

theorem after_append (r : Report) (l m : List Call) :
    r.after (l ++ m) = (r.after l).after m := List.foldl_append

/-- **A report takes in a history as a whole.** -/
theorem takes_after (r : Report) (l : List Call) : r.Takes (written l) (r.after l) := by
  induction l generalizing r with
  | nil => exact .refl r
  | cons c l ih => exact (takes_call r c).trans (ih _)

/-- **A report grows along a history.** -/
theorem grows_after (r : Report) (l : List Call) : r.Grows (r.after l) :=
  .of_takes (takes_after r l)

theorem sinceTaken_concat_of_takes {c : Call} (l : List Call) (hc : c.takes = true) :
    sinceTaken (l ++ [c]) = [] := List.rtakeWhile_concat_neg _ _ _ (by simp [hc])

theorem sinceTaken_concat {c : Call} (l : List Call) (hc : c.takes = false) :
    sinceTaken (l ++ [c]) = sinceTaken l ++ [c] :=
  List.rtakeWhile_concat_pos _ _ _ (by simp [hc])

/-- **The journal has noted what was written since it was last taken**, if it began
empty. -/
theorem notes_after {r : Report} (hr : r.journal = .empty) (l : List Call) :
    r.Notes (written (sinceTaken l)) (r.after l) := by
  -- A call that takes the journal is the last one that matters, so the induction is on the
  -- end of the history.
  induction l using List.reverseRecOn with
  | nil => exact .refl r
  | append_singleton l c ih =>
      rw [after_concat]
      cases hc : c.takes with
      | true =>
          rw [sinceTaken_concat_of_takes l hc, Call.eq_takeJournal hc]
          exact .of_journal_eq hr.symm
      | false =>
          rw [sinceTaken_concat l hc, written, List.flatMap_append, List.flatMap_singleton]
          exact ih.trans (notes_call _ hc)

/-- **A report tells its history.** -/
theorem tells_ofHistory (target : String) (startedAt : Timestamp) (l : List Call) :
    (ofHistory target startedAt l).Tells l := by
  have htakes := takes_after (new target startedAt) l
  have hnotes := notes_after (r := new target startedAt) rfl l
  have hempty : (new target startedAt).Filed :=
    fun p rec h => absurd h (Option.some_ne_none rec).symm
  refine ⟨htakes.filed_of_filed hempty, fun p => ?_, fun q => ?_, ?_, ?_, fun q => ?_,
    fun t => ?_⟩
  · refine (htakes.recorded p).trans ((or_iff_right Bool.false_ne_true).trans ?_)
    simp only [written, List.filterMap_flatMap, List.mem_flatMap, Call.mem_identities]
  · exact (htakes.findings q).trans (Finding.settleAll_none _)
  · exact htakes.versions.trans (Selection.enlarge_none _)
  · exact htakes.extensions.trans (Selection.enlarge_none _)
  · exact (hnotes.properties q).trans (or_iff_right Bool.false_ne_true)
  · exact (hnotes.factSets t).trans (or_iff_right Bool.false_ne_true)

/-- **A report only grows.**  Take a new report and any history of calls, failing ones
included.  The report then tells the history: each record is filed under its own identity,
each finding is the last word of all that were offered, each set is the union of all that
was added, and the journal is what was offered since it was last taken.  Whatever calls come
later, the report keeps its records, and the values of its sets.  A call fails exactly if it
files a record whose place is taken; and if it does nothing else, nothing changes. -/
theorem history_is_kept (target : String) (startedAt : Timestamp) (l : List Call) :
    (ofHistory target startedAt l).Tells l
      ∧ (∀ more, (ofHistory target startedAt l).Grows (ofHistory target startedAt (l ++ more)))
      ∧ (∀ c, ((ofHistory target startedAt l).call c).2
        = (c.identity?.filter (ofHistory target startedAt l).hasRecord).map .duplicateResult)
      ∧ ∀ rec, (ofHistory target startedAt l).hasRecord rec.probe = true →
        (ofHistory target startedAt l).call (.putRecord rec)
          = (ofHistory target startedAt l, some (.duplicateResult rec.probe)) := by
  refine ⟨tells_ofHistory target startedAt l, fun more => ?_, fault_call _,
    fun rec hrec => putRecord_of_hasRecord hrec⟩
  rw [ofHistory, ofHistory, after_append]
  exact grows_after _ more

namespace Sample

/-- A second result of a probe comes too late. -/
def late : List Call :=
  [.merge (.facts .alpn { findings := [(.supportsRsa, .holds)] }), .takeJournal,
    .merge (.failure .alpn [.supportsRsa, .supportsDh] .killed "late")]

end Sample

theorem history_is_kept_sample :
    (ofHistory "" default Sample.late).call (.putRecord (.executed .alpn .null))
        = (ofHistory "" default Sample.late, some (.duplicateResult .alpn))
      ∧ (ofHistory "" default Sample.late).finding? .supportsRsa = some .holds
      ∧ (ofHistory "" default Sample.late).finding? .supportsDh = some .timeout
      ∧ (ofHistory "" default Sample.late).journal.properties.contains .supportsRsa = true := by
  obtain ⟨htells, -, -, hrefused⟩ := history_is_kept "" default Sample.late
  refine ⟨hrefused (.executed .alpn .null) (by decide), ?_, ?_, ?_⟩
  · rw [htells.findings]
    rfl
  · rw [htells.findings]
    rfl
  · rw [htells.properties]
    decide

end Report

end TlsScan
