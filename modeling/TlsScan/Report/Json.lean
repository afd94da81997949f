import TlsScan.Json.Codec
import TlsScan.Report

/-!
# Reports in JSON

The written form of reports and records, and their readers.

## Main Definitions

* `Report.document` — the fields of a report, with a given way to write points in time.
* `Report.compactText`, `Report.prettyText` — the two written forms.
* `Report.read?` — reads either.
-/

namespace TlsScan

open Json

instance : Codec Timestamp where
  encode t := .text t.text
  decode? d := d.string?.bind Timestamp.parse?

/-! ### Sets and tables -/

/-- A set is the list of its members. -/
instance {α : Type} [Vocabulary α] [DecidableEq α] : Codec (Selection α) where
  encode s := .array (s.toList.map Codec.encode)
  decode? d := (Codec.decode? d).map fun (l : List α) => Selection.ofList l

namespace Table

variable {α β : Type} [Vocabulary α] [DecidableEq α]

/-- A table is an object with the words of its keys. -/
def encode (value : β → Json) (t : Table α β) : Json :=
  .object (t.entries.map fun (a, b) => (Vocabulary.word a, value b))

/-- The table of an object; of two entries with one key the later counts. -/
def decode? (value? : Document → Option β) (d : Document) : Option (Table α β) := do
  let fields ← d.entries?
  let entries ← fields.mapM fun (k, d) => do
    return ((← Vocabulary.ofWord? k : α), ← value? d)
  return ofEntries entries

end Table

/-! ### Records -/

namespace Record

/-- The fields of a record; data is left out when there is none. -/
def document (r : Record) : Json :=
  .object <|
    [("probe", Codec.encode r.probe), ("status", Codec.encode r.status),
     ("details", Codec.encode r.details)]
      ++ if r.data = .null then [] else [("data", r.data)]

/-- The record of a document that stands inside `around` containers. -/
def ofDocument? (around : Nat) (d : Document) : Option Record := do
  match ← d.record? ["probe", "status", "details", "data"] 3 with
  | [probe, status, details, data] =>
    let data ← match data with
      | some data => data.nestedValue? (around + 1)
      | none => some .null
    return ⟨← required? probe, ← required? status, ← optional? details, data⟩
  | _ => none

instance : Codec Record where
  encode := document
  decode? := ofDocument? 0

end Record

/-! ### Reports -/

namespace Report

/-- **The fields of a report.**  The journal is no part of it. -/
def document (writeTime : Timestamp → String) (r : Report) : Json :=
  .object
    [("target", .text r.target),
     ("started_at", .text (writeTime r.startedAt)),
     ("finished_at", .orNull (r.finishedAt.map fun t => .text (writeTime t))),
     ("results", r.records.encode Record.document),
     ("properties", r.findings.encode Codec.encode),
     ("versions", Codec.encode r.versions),
     ("extensions", Codec.encode r.extensions)]

/-- The report of a document, with an empty journal. -/
def ofDocument? (d : Document) : Option Report := do
  match ← d.record? ["target", "started_at", "finished_at", "results", "properties",
      "versions", "extensions"] 7 with
  | [target, startedAt, finishedAt, results, properties, versions, extensions] =>
    return {
      target := ← required? target
      startedAt := ← required? startedAt
      finishedAt := ← optional? finishedAt
      records := ← results.bind (Table.decode? (Record.ofDocument? 2))
      findings := ← properties.bind (Table.decode? Codec.decode?)
      versions := ← optional? versions
      extensions := ← optional? extensions
      journal := Journal.empty }
  | _ => none

instance : Codec Report where
  encode := document Timestamp.text
  decode? := ofDocument?

/-- The report as compact text. -/
def compactText (r : Report) : String := compact (Codec.encode r)

/-- The report as indented text. -/
def prettyText (r : Report) : String := pretty (Codec.encode r)

/-- **Read a report from its text.** -/
def read? (text : String) : Option Report := Json.read? Report text

end Report

end TlsScan
