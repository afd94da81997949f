import TlsScan.Json.Document
import TlsScan.Json.Printer
import TlsScan.Vocabulary

/-!
# Values with a JSON form

## Main Definitions

* `Json.Codec` — a type with a written form and its reader.
* `Json.Document.record?` — the fields of a record, by name or by position.
* `Json.Document.variant?` — a named alternative and what it carries.
* `Json.read?`, `Json.write` — from and to text.

## Design Notes

A record is written as an object with its fields in order.  It is read from an object with
its fields in any order, further fields being ignored and a repeated one refused, and from
an array of the fields in order.  An alternative is written as its name, or as an object
with that name as its only key; one that carries nothing is read from both.
-/

namespace TlsScan.Json

/-! ### Parts of documents -/

namespace Document

/-- The text of a string. -/
def string? : Document → Option String
  | text s => s
  | _ => none

/-- A natural number up to `bound`, spelled without fraction and exponent. -/
def natural? (bound : Nat) : Document → Option Nat
  | number l => l.natural? bound
  | _ => none

/-- The document of a field that may be absent.  Finding the field again afterwards is a
repetition. -/
def lookUp? (name : String) : List (Option String × Document) →
    Option (Option Document)
  | [] => some none
  | (k, d) :: l =>
    if k = some name then
      if l.any fun f => f.1 = some name then none else some (some d)
    else lookUp? name l

/-- **The fields of a record.**  From an object, the field of every name, where absent ones
are none; every key has to be a text and no known one may be repeated.  From an array, the
items in the order of the names, of which the first `needed` have to be there. -/
def record? (names : List String) (needed : Nat) : Document → Option (List (Option Document))
  | object fields =>
    if fields.all fun f => f.1.isSome then names.mapM fun name => lookUp? name fields
    else none
  | array items =>
    if needed ≤ items.length ∧ items.length ≤ names.length then
      some (items.map some ++ List.replicate (names.length - items.length) none)
    else none
  | _ => none

/-- **A named alternative**, and the document that it carries. -/
def variant? : Document → Option (String × Option Document)
  | text s => s.map fun name => (name, none)
  | object [(some name, d)] => some (name, some d)
  | _ => none

/-- The name of an alternative that carries nothing. -/
def plainVariant? (d : Document) : Option String :=
  match d.variant? with
  | some (name, none) => some name
  | some (name, some null) => some name
  | _ => none

/-- The fields of an object whose keys are texts. -/
def entries? : Document → Option (List (String × Document))
  | object fields => fields.mapM fun f => f.1.map fun k => (k, f.2)
  | _ => none

end Document

/-! ### Codecs -/

/-- **A type with a JSON form.** -/
class Codec (α : Type) where
  /-- The written form. -/
  encode : α → Json
  /-- The value of a document. -/
  decode? : Document → Option α

/-- Read a value from a text. -/
def read? (α : Type) [Codec α] (text : String) : Option α :=
  (Document.parse? text).bind Codec.decode?

/-- Write a value without blanks. -/
def write {α : Type} [Codec α] (a : α) : String := compact (Codec.encode a)

/-- A value of a vocabulary is its word. -/
instance {α : Type} [Vocabulary α] : Codec α where
  encode a := text (Vocabulary.word a)
  decode? d := d.plainVariant?.bind Vocabulary.ofWord?

instance : Codec String where
  encode := text
  decode? := Document.string?

instance : Codec Bool where
  encode := bool
  decode?
    | .bool b => some b
    | _ => none

instance : Codec UInt16 where
  encode n := ofNat n.toNat
  decode? d := (d.natural? (UInt16.size - 1)).map UInt16.ofNat

instance : Codec UInt64 where
  encode n := ofNat n.toNat
  decode? d := (d.natural? (UInt64.size - 1)).map UInt64.ofNat

/-- Nothing is written as null. -/
instance {α : Type} [Codec α] : Codec (Option α) where
  encode a := orNull (a.map Codec.encode)
  decode?
    | .null => some none
    | d => (Codec.decode? d).map some

instance {α : Type} [Codec α] : Codec (List α) where
  encode l := array (l.map Codec.encode)
  decode?
    | .array items => items.mapM Codec.decode?
    | _ => none

/-- The value of a field that has to be there. -/
def required? {α : Type} [Codec α] (d : Option Document) : Option α :=
  d.bind Codec.decode?

/-- The value of a field that may be absent. -/
def optional? {α : Type} [Codec α] : Option Document → Option (Option α)
  | none => some none
  | some d => Codec.decode? d

/-- The value of a field with a default. -/
def withDefault? {α : Type} [Codec α] (default : α) : Option Document → Option α
  | none => some default
  | some d => Codec.decode? d

end TlsScan.Json
