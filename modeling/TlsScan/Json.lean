/-!
# JSON values

Values of the JSON data format, as probes attach them to their records and as reports are
written.

## Main Definitions

* `Json.Number` — a whole number or a double.
* `Json` — a value; an object keeps its fields in the order in which they are written.
* `Json.put` — set a field of an object whose keys are kept in order.
-/

namespace TlsScan

/-- A number: exact when it is whole and fits 64 bits, a double otherwise. -/
inductive Json.Number where
  /-- A whole number. -/
  | whole (n : Int)
  /-- A double, by its 64 bits. -/
  | real (bits : UInt64)
  deriving DecidableEq, Repr

/-- **A JSON value.** -/
inductive Json where
  | null
  | bool (b : Bool)
  | number (n : Json.Number)
  | text (s : String)
  | array (items : List Json)
  | object (fields : List (String × Json))
  deriving Repr, Inhabited

namespace Json

/-! ### Equality -/

mutual

/-- Whether two values are equal. -/
def same : Json → Json → Bool
  | null, null => true
  | bool a, bool b => a == b
  | number a, number b => a = b
  | text a, text b => a == b
  | array l, array m => sameItems l m
  | object l, object m => sameFields l m
  | _, _ => false

/-- Whether two lists of items are equal. -/
def sameItems : List Json → List Json → Bool
  | [], [] => true
  | a :: l, b :: m => same a b && sameItems l m
  | _, _ => false

/-- Whether two lists of fields are equal. -/
def sameFields : List (String × Json) → List (String × Json) → Bool
  | [], [] => true
  | (j, a) :: l, (k, b) :: m => j == k && same a b && sameFields l m
  | _, _ => false

end

mutual

/-- The comparison finds equality. -/
theorem same_iff : ∀ {a b : Json}, same a b = true ↔ a = b
  | null, b => by cases b <;> simp [same]
  | bool _, b => by cases b <;> simp [same]
  | number _, b => by cases b <;> simp [same]
  | text _, b => by cases b <;> simp [same]
  | array l, b => by cases b <;> simp [same, sameItems_iff (l := l)]
  | object l, b => by cases b <;> simp [same, sameFields_iff (l := l)]

/-- The comparison of items finds equality. -/
theorem sameItems_iff : ∀ {l m : List Json}, sameItems l m = true ↔ l = m
  | [], m => by cases m <;> simp [sameItems]
  | a :: l, m => by
    cases m <;> simp [sameItems, same_iff (a := a), sameItems_iff (l := l)]

/-- The comparison of fields finds equality. -/
theorem sameFields_iff : ∀ {l m : List (String × Json)}, sameFields l m = true ↔ l = m
  | [], m => by cases m <;> simp [sameFields]
  | (j, a) :: l, [] => by simp [sameFields]
  | (j, a) :: l, (k, b) :: m => by
    simp [sameFields, same_iff (a := a), sameFields_iff (l := l), and_assoc]

end

instance : DecidableEq Json := fun a b =>
  if h : same a b = true then .isTrue (same_iff.1 h) else .isFalse fun e => h (same_iff.2 e)

/-- A whole number. -/
def ofNat (n : Nat) : Json := number (.whole n)

/-- A list of texts. -/
def texts (l : List String) : Json := array (l.map text)

/-- A value or null. -/
def orNull : Option Json → Json
  | some j => j
  | none => null

/-- Set the field `k` among fields kept in the order of their keys. -/
def put (k : String) (v : Json) : List (String × Json) → List (String × Json)
  | [] => [(k, v)]
  | (l, w) :: rest =>
    if k < l then (k, v) :: (l, w) :: rest
    else if k = l then (k, v) :: rest
    else (l, w) :: put k v rest

/-- The object with the given fields, in the order of their keys; of two fields with one
key the later counts. -/
def ofFields (l : List (String × Json)) : Json :=
  object (l.foldl (fun fields f => put f.1 f.2 fields) [])

/-- The field `k` of an object. -/
def field? (k : String) : Json → Option Json
  | object fields => (fields.find? fun f => f.1 == k).map (·.2)
  | _ => none

end Json

end TlsScan
