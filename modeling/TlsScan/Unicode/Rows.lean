import TlsScan.Text.Number
import TlsScan.Text.Split

/-!
# Tables of code points

Tables of the Unicode standard are kept as text: rows of hexadecimal numbers, with blanks
between numbers and semicolons between rows.

## Main Definitions

* `Unicode.rows` — the rows of a table.
* `Unicode.Range`, `Unicode.Run` — rows that speak of many code points.
-/

namespace TlsScan.Unicode

open Text

/-- A hexadecimal number. -/
def hexadecimal (cs : List Char) : Nat :=
  cs.foldl (fun n c => n * 16 + (digitValue? 16 c).getD 0) 0

/-- The numbers of a row. -/
def numbers (cs : List Char) : List Nat :=
  ((split ' ' (cs.map fun c => if c = '\n' then ' ' else c)).filter fun w => !w.isEmpty).map
    hexadecimal

/-- The rows of a table. -/
def rows (table : String) : List (List Nat) := (split ';' table.toList).map numbers

/-- **A range of code points**, with the value of a property. -/
structure Range where
  first : Nat
  last : Nat
  value : Nat := 0

/-- Whether a code point is in a range. -/
def Range.contains (r : Range) (n : Nat) : Bool := r.first ≤ n && n ≤ r.last

/-- The ranges of a table, with or without values. -/
def ranges (table : String) : List Range :=
  (rows table).filterMap fun
    | [first, last] => some ⟨first, last, 0⟩
    | [first, last, value] => some ⟨first, last, value⟩
    | _ => none

/-- The value of a code point, 0 outside of all ranges. -/
def valueIn (l : List Range) (c : Char) : Nat :=
  ((l.find? fun r => r.contains c.toNat).map Range.value).getD 0

/-- Whether a character is in one of some ranges. -/
def isIn (l : List Range) (c : Char) : Bool := l.any fun r => r.contains c.toNat

/-- **A run of code points at equal distances**, mapped to another such run. -/
structure Run where
  first : Nat
  last : Nat
  distance : Nat
  firstImage : Nat
  imageDistance : Nat

/-- What a code point of a run is mapped to. -/
def Run.image? (r : Run) (n : Nat) : Option Nat :=
  if r.first ≤ n && n ≤ r.last && (n - r.first) % r.distance = 0 then
    some (r.firstImage + (n - r.first) / r.distance * r.imageDistance)
  else none

/-- The runs of a table. -/
def runs (table : String) : List Run :=
  (rows table).filterMap fun
    | [first, last, distance, firstImage, imageDistance] =>
      some ⟨first, last, distance, firstImage, imageDistance⟩
    | _ => none

end TlsScan.Unicode
