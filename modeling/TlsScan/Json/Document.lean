import TlsScan.Json.Token

/-!
# The structure of a JSON text

A document is a text whose brackets have been matched and whose words have been told
apart, while its numbers are still literals and its objects still have all their fields in
the order of the text.

## Main Definitions

* `Json.Document` — the structure of a text.
* `Json.Document.parse?` — reads a document, with a stack of the containers that are open.
* `Json.Document.depth` — how deeply containers are nested.
* `Json.Document.value?` — the value of a document: of fields with one key the last counts.

## Design Notes

Reading is one fold over the tokens, and a stack keeps what is open, so that no depth of
nesting is too much for it; how much nesting a place accepts is decided where the value is
taken.
-/

namespace TlsScan.Json

/-- **The structure of a JSON text.**  A string or key whose escapes make no characters is
`none`. -/
inductive Document where
  | null
  | bool (b : Bool)
  | number (l : Literal)
  | text (s : Option String)
  | array (items : List Document)
  | object (fields : List (Option String × Document))
  deriving Repr, Inhabited

namespace Document

/-! ### Reading -/

/-- A container that is still open, with what it holds so far, last one first. -/
inductive Frame where
  /-- An array before its next item. -/
  | item (rev : List Document)
  /-- An object before the value of a key. -/
  | field (rev : List (Option String × Document)) (key : Option String)
  deriving Repr

/-- What may come next. -/
inductive State where
  /-- A value. -/
  | value (stack : List Frame)
  /-- The first item of an array, or its end. -/
  | firstItem (stack : List Frame)
  /-- The first key of an object, or its end. -/
  | firstKey (stack : List Frame)
  /-- A key. -/
  | key (rev : List (Option String × Document)) (stack : List Frame)
  /-- The colon behind a key. -/
  | colon (rev : List (Option String × Document)) (key : Option String) (stack : List Frame)
  /-- A comma, or the end of the container around a complete value. -/
  | complete (d : Document) (stack : List Frame)
  deriving Repr

/-- The start of a value. -/
def begin? (stack : List Frame) : Token → Option State
  | .null => some (.complete null stack)
  | .bool b => some (.complete (bool b) stack)
  | .number l => some (.complete (number l) stack)
  | .text s => some (.complete (text s) stack)
  | .arrayOpen => some (.firstItem stack)
  | .objectOpen => some (.firstKey stack)
  | _ => none

/-- **What one token does.** -/
def step : State → Token → Option State
  | .value stack, t => begin? stack t
  | .firstItem stack, .arrayClose => some (.complete (array []) stack)
  | .firstItem stack, t => begin? (.item [] :: stack) t
  | .firstKey stack, .objectClose => some (.complete (object []) stack)
  | .firstKey stack, .text k => some (.colon [] k stack)
  | .key rev stack, .text k => some (.colon rev k stack)
  | .colon rev k stack, .colon => some (.value (.field rev k :: stack))
  | .complete d (.item rev :: stack), .comma => some (.value (.item (d :: rev) :: stack))
  | .complete d (.item rev :: stack), .arrayClose =>
    some (.complete (array (d :: rev).reverse) stack)
  | .complete d (.field rev k :: stack), .comma => some (.key ((k, d) :: rev) stack)
  | .complete d (.field rev k :: stack), .objectClose =>
    some (.complete (object ((k, d) :: rev).reverse) stack)
  | _, _ => none

/-- The document at the end of the tokens. -/
def finish? : State → Option Document
  | .complete d [] => some d
  | _ => none

/-- The document of a list of tokens. -/
def ofTokens? (ts : List Token) : Option Document :=
  (ts.foldlM step (.value [])).bind finish?

/-- **Read a document**, `none` if the text is not JSON. -/
def parse? (text : String) : Option Document :=
  (tokens? text.toList).bind ofTokens?

/-! ### Values -/

mutual

/-- How deeply containers are nested. -/
def depth : Document → Nat
  | array items => depthItems items + 1
  | object fields => depthFields fields + 1
  | _ => 0

/-- The greatest depth of a list of items. -/
def depthItems : List Document → Nat
  | [] => 0
  | d :: l => max (depth d) (depthItems l)

/-- The greatest depth of a list of fields. -/
def depthFields : List (Option String × Document) → Nat
  | [] => 0
  | (_, d) :: l => max (depth d) (depthFields l)

end

mutual

/-- **The value of a document**, `none` if a number is too large or a string has no
characters. -/
def value? : Document → Option Json
  | null => some .null
  | bool b => some (.bool b)
  | number l => l.value?.map .number
  | text s => s.map .text
  | array items => (valueItems? items).map .array
  | object fields => (valueFields? fields).map Json.ofFields

/-- The values of a list of items. -/
def valueItems? : List Document → Option (List Json)
  | [] => some []
  | d :: l => do return (← value? d) :: (← valueItems? l)

/-- The values of a list of fields, in the order of the text. -/
def valueFields? : List (Option String × Document) → Option (List (String × Json))
  | [] => some []
  | (k, d) :: l => do return (← k, ← value? d) :: (← valueFields? l)

end

/-- The greatest number of containers around or inside a value. -/
def deepest : Nat := 127

/-- The value of a document that stands inside `around` containers. -/
def nestedValue? (around : Nat) (d : Document) : Option Json :=
  if around + d.depth ≤ deepest then d.value? else none

end Document

end TlsScan.Json
