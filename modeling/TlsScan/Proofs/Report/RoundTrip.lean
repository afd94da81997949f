import TlsScan.Proofs.Json.Lawful
import TlsScan.Proofs.Json.Values
import TlsScan.Proofs.Timestamp.RoundTrip
import TlsScan.Report.Json

/-!
# Reports are read back

A report is read back from its compact and from its indented text, less the journal, which
is no part of what is written.  Three containers stand around the data of a record, so the
data may be nested as deep as a reader accepts, less three.

## Main Results

* `Table.ofEntries_entries`, `Table.decode?_encode` — a table is read back if its values are.
* `Record.ofDocument?_document` — a record is, with data and without.
* `Report.texts_round_trip` — and a report is, from both texts, and is written again as before.
-/

namespace TlsScan

open Json

/-! ## Timestamps and sets -/

instance : Lawful Timestamp where
  wholeNumbers _ := trivial
  decode?_encode t := by
    show (some t.text).bind Timestamp.parse? = some t
    rw [Option.bind_some, Timestamp.parse?_text]

instance : NotNull Timestamp where
  ne_null _ := nofun

section
variable {α : Type} [Vocabulary α] [DecidableEq α]

instance : Lawful (Selection α) where
  wholeNumbers s := wholeNumbers s.toList
  decode?_encode s := by
    show (Codec.decode? (Document.ofJson (Codec.encode s.toList))).map Selection.ofList = _
    rw [decode?_encode, Option.map_some, Selection.ofList_toList]

instance : NotNull (Selection α) where
  ne_null _ := nofun

end

/-! ## Tables -/

namespace Table

variable {α β : Type} [DecidableEq α] {t : Table α β} {l : List (α × β)} {a : α} {b : β}

/-- A key under which nothing is written keeps what it had. -/
theorem get?_foldl_insert_of_not_mem (h : ∀ b, (a, b) ∉ l) :
    (l.foldl (fun t e => t.insert e.1 e.2) t).get? a = t.get? a := by
  induction l generalizing t with
  | nil => rfl
  | cons e l ih =>
      have hne : a ≠ e.1 := fun heq => h e.2 (heq ▸ List.mem_cons_self)
      rw [List.foldl_cons, ih fun b hb => h b (List.mem_cons_of_mem _ hb), get?_insert,
        if_neg hne]

/-- A key under which only one value is written has that value. -/
theorem get?_foldl_insert_of_mem (h : ∀ b', (a, b') ∈ l → b' = b)
    (hb : (a, b) ∈ l ∨ t.get? a = some b) :
    (l.foldl (fun t e => t.insert e.1 e.2) t).get? a = some b := by
  induction l generalizing t with
  | nil => exact hb.resolve_left List.not_mem_nil
  | cons e l ih =>
      refine ih (fun b' hb' => h b' (List.mem_cons_of_mem _ hb')) ?_
      by_cases heq : a = e.1
      · have hvalue : e.2 = b := h e.2 (heq ▸ List.mem_cons_self)
        exact .inr (by rw [get?_insert, if_pos heq, hvalue])
      · rw [get?_insert, if_neg heq]
        refine hb.imp_left fun hmem => ?_
        rcases List.mem_cons.mp hmem with rfl | hmem
        · exact absurd rfl heq
        · exact hmem

variable [Vocabulary α]

/-- **A table is the table of its entries.** -/
theorem ofEntries_entries (t : Table α β) : ofEntries t.entries = t := by
  ext1 a
  cases h : t.get? a with
  | none =>
      refine get?_foldl_insert_of_not_mem fun b hb => ?_
      rw [mem_entries.mp hb] at h
      cases h
  | some b =>
      refine get?_foldl_insert_of_mem (fun b' hb' => ?_) (.inl (mem_entries.mpr h))
      rw [mem_entries.mp hb'] at h
      exact Option.some.inj h

variable {value : β → Json} {value? : Document → Option β}

omit [DecidableEq α] in
theorem wholeNumbers_encode (h : ∀ a b, t.get? a = some b → WholeNumbers (value b)) :
    WholeNumbers (t.encode value) := by
  refine wholeFields_iff.mpr fun f hf => ?_
  obtain ⟨⟨a, b⟩, he, rfl⟩ := List.mem_map.mp hf
  exact h a b (mem_entries.mp he)

omit [DecidableEq α] in
/-- Entries are read one after the other. -/
theorem mapM_entries {entries : List (α × β)}
    (h : ∀ e ∈ entries, value? (Document.ofJson (value e.2)) = some e.2) :
    List.mapM (m := Option)
        (fun (k, d) => do return ((← Vocabulary.ofWord? k : α), ← value? d))
        (entries.map fun e => (Vocabulary.word e.1, Document.ofJson (value e.2)))
      = some entries := by
  induction entries with
  | nil => rfl
  | cons e entries ih =>
      obtain ⟨he, hentries⟩ := List.forall_mem_cons.mp h
      rw [List.map_cons, List.mapM_cons, ih hentries]
      simp only [Vocabulary.ofWord?_word, he]
      rfl

/-- **A table is read back if its values are.** -/
theorem decode?_encode
    (h : ∀ a b, t.get? a = some b → value? (Document.ofJson (value b)) = some b) :
    decode? value? (Document.ofJson (t.encode value)) = some t := by
  have hmem : ∀ e ∈ t.entries, value? (Document.ofJson (value e.2)) = some e.2 :=
    fun e he => h e.1 e.2 (mem_entries.mp he)
  rw [encode, decode?, Document.entries?_ofJson, List.map_map]
  show (List.mapM (m := Option) _
    (t.entries.map fun e => (Vocabulary.word e.1, Document.ofJson (value e.2))) >>= _) = _
  rw [mapM_entries hmem]
  exact congrArg some (ofEntries_entries t)

end Table

/-! ## Records -/

namespace Record

variable {r : Record} {around n : Nat}

theorem wholeNumbers_document (h : WholeNumbers r.data) : WholeNumbers r.document := by
  unfold document
  split
  · exact ⟨wholeNumbers r.probe, wholeNumbers r.status, wholeNumbers r.details, trivial⟩
  · exact ⟨wholeNumbers r.probe, wholeNumbers r.status, wholeNumbers r.details, h, trivial⟩

/-- **A record is read back**, also one without data, if there is room for its data inside
the containers around it. -/
theorem ofDocument?_document (h : Data n r.data) (hroom : around + 1 + n ≤ Document.deepest) :
    ofDocument? around (Document.ofJson r.document) = some r := by
  obtain ⟨probe, status, details, data⟩ := r
  unfold document
  by_cases hdata : data = .null
  · subst hdata
    rw [if_pos rfl]
    exact record?_ofJson_bind (by simp) (by simp [List.lookup_cons])
  · rw [if_neg hdata]
    exact record?_ofJson_bind (by simp)
      (by simp [List.lookup_cons, h.nestedValue?_ofJson hroom])

end Record

namespace Report

/-- Points in time, records and findings are written as what they are. -/
theorem encode_eq (r : Report) : Codec.encode r = .object
    [("target", Codec.encode r.target), ("started_at", Codec.encode r.startedAt),
     ("finished_at", Codec.encode r.finishedAt),
     ("results", r.records.encode Record.document),
     ("properties", r.findings.encode Codec.encode),
     ("versions", Codec.encode r.versions), ("extensions", Codec.encode r.extensions)] := rfl

theorem wholeNumbers_encode {r : Report} {n : Nat}
    (hdata : ∀ p record, r.records.get? p = some record → Data n record.data) :
    WholeNumbers (Codec.encode r) :=
  ⟨trivial, trivial, wholeNumbers r.finishedAt,
    Table.wholeNumbers_encode fun p record h =>
      Record.wholeNumbers_document (hdata p record h).wholeNumbers,
    Table.wholeNumbers_encode fun _ finding _ => wholeNumbers finding,
    wholeNumbers r.versions, wholeNumbers r.extensions, trivial⟩

/-- **A report is read from its document**, less the journal. -/
theorem decode?_encode {r : Report} {n : Nat}
    (hdata : ∀ p record, r.records.get? p = some record → Data n record.data)
    (hroom : n + 3 ≤ Document.deepest) :
    Codec.decode? (Document.ofJson (Codec.encode r))
      = some { r with journal := Journal.empty } := by
  have hrecords : Table.decode? (Record.ofDocument? 2)
      (Document.ofJson (r.records.encode Record.document)) = some r.records :=
    Table.decode?_encode fun p record h =>
      Record.ofDocument?_document (hdata p record h) (by omega)
  have hfindings : Table.decode? Codec.decode?
      (Document.ofJson (r.findings.encode Codec.encode)) = some r.findings :=
    Table.decode?_encode fun _ finding _ => Lawful.decode?_encode finding
  rw [encode_eq]
  show ofDocument? _ = _
  rw [ofDocument?]
  exact record?_ofJson_bind (by simp) (by simp [List.lookup_cons, hrecords, hfindings])

/-- **A report is read back from both of its texts**, whatever its target, records, findings
and supported values, if the data of its records is nested no deeper than a reader accepts
below the three containers of a report.  Less the journal, it is the same report, and it is
written as the same texts again. -/
theorem texts_round_trip (r : Report) {n : Nat}
    (hdata : ∀ p record, r.records.get? p = some record → Data n record.data)
    (hroom : n + 3 ≤ Document.deepest) :
    ∃ s, read? r.compactText = some s ∧ read? r.prettyText = some s
      ∧ s = { r with journal := Journal.empty }
      ∧ s.compactText = r.compactText ∧ s.prettyText = r.prettyText := by
  have hwhole := wholeNumbers_encode hdata
  have hread := decode?_encode hdata hroom
  have hjournal : Codec.encode { r with journal := Journal.empty } = Codec.encode r := rfl
  refine ⟨{ r with journal := Journal.empty }, ?_, ?_, rfl, ?_, ?_⟩
  · rw [read?, Json.read?, compactText, parse?_compact hwhole, Option.bind_some, hread]
  · rw [read?, Json.read?, prettyText, parse?_pretty hwhole, Option.bind_some, hread]
  · rw [compactText, compactText, hjournal]
  · rw [prettyText, prettyText, hjournal]

namespace Sample

/-- Data with an object in a list in an object, whose keys are not set in their order. -/
def data : Json := .ofFields
  [("suites", .array [.ofFields [("id", .number (.whole 47)), ("gap", .number (.whole (-1)))]]),
   ("note", .text "\"é\n")]

theorem isDate_leapDay : IsDate 0 2 29 := by decide

theorem isDate_lastDay : IsDate 9999 12 31 := by decide

/-- A report from a leap day to the end of the last year of four digits, with two records. -/
def report : Report where
  target := "example.com:443 \u2028"
  startedAt := { Timestamp.epoch with date := ⟨0, 2, 29, isDate_leapDay⟩ }
  finishedAt := some
    { date := ⟨9999, 12, 31, isDate_lastDay⟩
      minute := Fin.last 1439
      second := (Fin.last 59).castSucc
      nanos := Fin.last 999999999 }
  records := (Table.empty.insert .paddingOracle (.executed .paddingOracle data)).insert .drown
    (.error .drown "no answer")
  findings := Table.empty.insert .vulnerableToPaddingOracle .holds
  versions := some (Selection.ofList [.tls12, .ssl3])
  extensions := some Selection.empty
  journal := ⟨Selection.empty, Selection.empty.insert .versions⟩

end Sample

theorem texts_round_trip_sample :
    (∀ p record, Sample.report.records.get? p = some record → Data 3 record.data)
      ∧ 3 + 3 ≤ Document.deepest
      ∧ Sample.report.journal ≠ Journal.empty
      ∧ ∃ s, read? Sample.report.compactText = some s ∧ read? Sample.report.prettyText = some s
        ∧ s = { Sample.report with journal := Journal.empty }
        ∧ s.compactText = Sample.report.compactText
        ∧ s.prettyText = Sample.report.prettyText := by
  have hsuite : Data 1
      (.ofFields [("id", .number (.whole 47)), ("gap", .number (.whole (-1)))]) :=
    .object (List.forall_mem_cons.mpr ⟨.whole ⟨by decide, by decide⟩,
      List.forall_mem_cons.mpr ⟨.whole ⟨by decide, by decide⟩, nofun⟩⟩)
  have hdata : Data 3 Sample.data :=
    .object (List.forall_mem_cons.mpr ⟨.array (List.forall_mem_cons.mpr ⟨hsuite, nofun⟩),
      List.forall_mem_cons.mpr ⟨.text _, nofun⟩⟩)
  have hrecords : ∀ p record, Sample.report.records.get? p = some record →
      Data 3 record.data := by
    intro p record h
    simp only [Sample.report, Table.get?_insert, Table.get?_empty] at h
    split at h
    · cases h
      exact .null
    · split at h
      · cases h
        exact hdata
      · cases h
  exact ⟨hrecords, by decide, by decide,
    texts_round_trip Sample.report hrecords (by decide)⟩

end Report

end TlsScan
