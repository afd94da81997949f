/-!
# Cutting texts

## Main Definitions

* `Text.split` — the pieces between separators.
* `Text.cutFirst?`, `Text.cutLast?` — the two sides of the first and of the last separator.
* `Text.contains` — whether a text contains another one.
-/

namespace TlsScan.Text

/-- The pieces of a text between separators, of which there is always one. -/
def split (separator : Char) : List Char → List (List Char)
  | [] => [[]]
  | c :: cs =>
    if c = separator then [] :: split separator cs
    else
      match split separator cs with
      | [] => [[c]]
      | p :: ps => (c :: p) :: ps

/-- What stands before and behind the first separator. -/
def cutFirst? (separator : Char) : List Char → Option (List Char × List Char)
  | [] => none
  | c :: cs =>
    if c = separator then some ([], cs)
    else (cutFirst? separator cs).map fun (l, r) => (c :: l, r)

/-- What stands before and behind the last separator. -/
def cutLast? (separator : Char) : List Char → Option (List Char × List Char)
  | [] => none
  | c :: cs =>
    match cutLast? separator cs with
    | some (l, r) => some (c :: l, r)
    | none => if c = separator then some ([], cs) else none

/-- Whether a text contains another one. -/
def contains (part : List Char) : List Char → Bool
  | [] => part.isEmpty
  | c :: cs => part.isPrefixOf (c :: cs) || contains part cs

end TlsScan.Text
