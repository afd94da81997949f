/-!
# TOML values

Values of the TOML configuration format, and how tables are put together from the lines of
a file.

## Main Definitions

* `Toml` — a value.
* `Toml.Line` — a line that says something: a header, or a key with a value.
* `Toml.ofLines?` — the table that a list of lines describes.
* `Toml.ofPairs?` — the table that a list of keys with values describes.

## Design Notes

A table can come into being in three ways, which decide how it may be continued: by its own
header or braces, which happens once; as a part of a longer header, after which its own
header may still follow; and as a part of a dotted key, after which only dotted keys may.
-/

namespace TlsScan

/-- **A TOML value.**  Floats and points in time are recognised, but no setting has one, so
that their value is not kept. -/
inductive Toml where
  | string (s : String)
  | integer (n : Int)
  | boolean (b : Bool)
  | float
  | dateTime
  | array (items : List Toml)
  | table (entries : List (String × Toml))
  deriving Repr, Inhabited

namespace Toml

/-- How a table came into being. -/
inductive Origin where
  /-- By its own header or braces. -/
  | explicit
  /-- As a part of a longer header. -/
  | header
  /-- As a part of a dotted key. -/
  | dotted
  deriving DecidableEq, Repr

/-- A part of a file that is still being put together. -/
inductive Item where
  | value (v : Toml)
  | table (origin : Origin) (entries : List (String × Item))
  /-- An array of tables, the last one first. -/
  | tables (rev : List (List (String × Item)))
  deriving Repr, Inhabited

/-- The entries of a table that is still being put together. -/
abbrev Entries := List (String × Item)

namespace Entries

/-- The entry of a key. -/
def get? (es : Entries) (k : String) : Option Item := (es.find? fun e => e.1 == k).map (·.2)

/-- Set the entry of a key. -/
def set (k : String) (i : Item) : Entries → Entries
  | [] => [(k, i)]
  | e :: es => if e.1 = k then (k, i) :: es else e :: set k i es

/-- Change the table that a path leads to.  Tables on the way that are not there yet come
into being as `through`; values are no tables, and of an array of tables the last one is
meant.  A dotted key does not lead into a table that has its own header. -/
def modify? (through : Origin) (change : Origin → Entries → Option Entries) :
    List String → Origin → Entries → Option Entries
  | [], origin, es => change origin es
  | k :: path, _, es =>
    match get? es k with
    | none => do
      let inner ← modify? through change path through []
      return set k (.table through inner) es
    | some (.value _) => none
    | some (.tables []) => none
    | some (.tables (last :: earlier)) => do
      let inner ← modify? through change path .explicit last
      return set k (.tables (inner :: earlier)) es
    | some (.table origin inner) =>
      if through = .dotted ∧ origin = .explicit then none
      else do
        let inner ← modify? through change path origin inner
        return set k (.table origin inner) es

/-- Give a value to a dotted key, which must not have one.  Only a table made by dotted
keys is continued by one. -/
def putValue? (es : Entries) (path : List String) (k : String) (v : Toml)
    (origin : Origin) : Option Entries :=
  modify? .dotted (fun origin es =>
      if (origin = .dotted) = path.isEmpty then none
      else if (get? es k).isSome then none
      else some (set k (.value v) es))
    path origin es

/-- Start the table of a header. -/
def startTable? (es : Entries) (path : List String) (k : String) : Option Entries :=
  modify? .header (fun _ es =>
      match get? es k with
      | none => some (set k (.table .explicit []) es)
      | some (.table .header inner) => some (set k (.table .explicit inner) es)
      | some _ => none)
    path .explicit es

/-- Start one more table of an array of tables. -/
def startElement? (es : Entries) (path : List String) (k : String) : Option Entries :=
  modify? .header (fun _ es =>
      match get? es k with
      | none => some (set k (.tables [[]]) es)
      | some (.tables rev) => some (set k (.tables ([] :: rev)) es)
      | some _ => none)
    path .explicit es

end Entries

mutual

/-- The value of a part. -/
def Item.toToml : Item → Toml
  | .value v => v
  | .table _ entries => .table (Item.entriesToToml entries)
  | .tables rev => .array (Item.tablesToToml rev).reverse

/-- The values of entries. -/
def Item.entriesToToml : List (String × Item) → List (String × Toml)
  | [] => []
  | (k, i) :: es => (k, i.toToml) :: Item.entriesToToml es

/-- The values of tables. -/
def Item.tablesToToml : List (List (String × Item)) → List Toml
  | [] => []
  | es :: l => .table (Item.entriesToToml es) :: Item.tablesToToml l

end

/-- A key, of which all parts but the last lead to a table. -/
structure Key where
  path : List String
  last : String
  deriving DecidableEq, Repr

/-- **A line that says something.** -/
inductive Line where
  /-- A key and its value. -/
  | pair (k : Key) (v : Toml)
  /-- The header of a table. -/
  | table (k : Key)
  /-- The header of one more table of an array. -/
  | element (k : Key)
  deriving Repr

/-- A file while its lines are read: all tables, and the path of the current one. -/
structure File where
  entries : Entries
  current : List String

/-- What one line does. -/
def File.add? (f : File) : Line → Option File
  | .pair k v => do
    let entries ← Entries.modify? .header (fun origin es => es.putValue? k.path k.last v origin)
      f.current .explicit f.entries
    return { f with entries := entries }
  | .table k => do
    return ⟨← f.entries.startTable? k.path k.last, k.path ++ [k.last]⟩
  | .element k => do
    return ⟨← f.entries.startElement? k.path k.last, k.path ++ [k.last]⟩

/-- **The entries that a list of lines describes**, `none` if lines contradict each
other. -/
def ofLines? (lines : List Line) : Option (List (String × Toml)) :=
  (lines.foldlM File.add? ⟨[], []⟩).map fun f => Item.entriesToToml f.entries

/-- **The table that a list of keys with values describes.** -/
def ofPairs? (pairs : List (Key × Toml)) : Option Toml :=
  (pairs.foldlM (fun (es : Entries) (p : Key × Toml) =>
      es.putValue? p.1.path p.1.last p.2 .explicit) []).map
    fun es => .table (Item.entriesToToml es)

end Toml

end TlsScan
