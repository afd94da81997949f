import TlsScan.Proofs.Json.Lexing
import TlsScan.Proofs.Json.Parsing

/-!
# Reading what was printed

Both printers write the tokens of the document that a value has; they differ in blanks only.
So both texts are read as that document.

## Main Definitions

* `Json.WholeNumbers` — values without doubles.
* `Json.Document.ofJson` — the document of a value.

## Main Results

* `Json.spells_compactChars`, `Json.spells_prettyChars` — what both printers write is read
  as the tokens of the value.
* `Json.parse?_compact`, `Json.parse?_pretty` — so it is read as its document.
-/

namespace TlsScan.Json

/-! ## The document of a value -/

mutual

/-- **A value without doubles.** -/
def WholeNumbers : Json → Prop
  | number (.real _) => False
  | array items => WholeItems items
  | object fields => WholeFields fields
  | _ => True

/-- Items without doubles. -/
def WholeItems : List Json → Prop
  | [] => True
  | j :: l => WholeNumbers j ∧ WholeItems l

/-- Fields without doubles. -/
def WholeFields : List (String × Json) → Prop
  | [] => True
  | (_, j) :: l => WholeNumbers j ∧ WholeFields l

end

namespace Document

mutual

/-- **The document of a value**, in which numbers are literals.  That of a double is the one
that its text spells. -/
def ofJson : Json → Document
  | .null => null
  | .bool b => bool b
  | .number (.whole n) => number (.ofInt n)
  | .number (.real bits) => number ((Literal.parse? (Number.realText bits)).getD (.ofInt 0))
  | .text s => text (some s)
  | .array items => array (ofJsonItems items)
  | .object fields => object (ofJsonFields fields)

/-- The documents of items. -/
def ofJsonItems : List Json → List Document
  | [] => []
  | j :: l => ofJson j :: ofJsonItems l

/-- The documents of fields. -/
def ofJsonFields : List (String × Json) → List (Option String × Document)
  | [] => []
  | (k, j) :: l => (some k, ofJson j) :: ofJsonFields l

end

theorem ofJsonItems_eq_map (l : List Json) : ofJsonItems l = l.map ofJson := by
  induction l with
  | nil => rfl
  | cons j l ih => rw [ofJsonItems, ih]; rfl

theorem ofJsonFields_eq_map (l : List (String × Json)) :
    ofJsonFields l = l.map fun f => (some f.1, ofJson f.2) := by
  induction l with
  | nil => rfl
  | cons f l ih => rw [ofJsonFields, ih]; rfl

end Document

theorem wholeItems_iff {l : List Json} : WholeItems l ↔ ∀ j ∈ l, WholeNumbers j := by
  induction l with
  | nil => simp [WholeItems]
  | cons j l ih => simp [WholeItems, ih]

theorem wholeFields_iff {l : List (String × Json)} :
    WholeFields l ↔ ∀ f ∈ l, WholeNumbers f.2 := by
  induction l with
  | nil => simp [WholeFields]
  | cons f l ih => simp [WholeFields, ih]

/-! ## What the printers write -/

open Lexer Document

theorem spells_null : Spells nullWord [.null] := spells_word (List.all_eq_true.mp rfl) rfl

theorem spells_bool (b : Bool) : Spells (boolWord b) [.bool b] := by
  cases b <;> exact spells_word (List.all_eq_true.mp rfl) rfl

theorem spells_whole (n : Int) :
    Spells (Number.text (.whole n)) [.number (.ofInt n)] :=
  spells_word (fun _ => isWordChar_of_mem_text) (wordToken?_text n)

/-- A text is followed by a bracket or a mark and what comes then. -/
theorem Lexer.Spells.append_mark {cs ds : List Char} {ts us : List Token} {c : Char} {t : Token}
    (h : Spells cs ts) (h' : Spells ds us) (hc : start? c = some (.between, some t))
    (hword : isWordChar c = false) : Spells (cs ++ c :: ds) (ts ++ t :: us) :=
  h.append (Spells.mark c (some t) hc h') hword

/-- A key is followed by a colon and what comes then. -/
theorem spells_field (k : String) {cs : List Char} {ts : List Token} (h : Spells cs ts) :
    Spells (quoted k ++ ':' :: cs) (.text (some k) :: .colon :: ts) :=
  (spells_quoted k).append_mark h rfl rfl

mutual

/-- **The compact text of a value is read as its tokens.** -/
theorem spells_compactChars : ∀ j, WholeNumbers j →
    Spells (compactChars j) (ofJson j).tokens
  | .null, _ => spells_null
  | .bool b, _ => spells_bool b
  | .number (.whole n), _ => spells_whole n
  | .number (.real _), h => h.elim
  | .text s, _ => spells_quoted s
  | .array items, h => by
      have hitems := (spells_compactItems items h).append_mark spells_nil
        (c := ']') (t := .arrayClose) rfl rfl
      exact Spells.mark '[' (some .arrayOpen) rfl hitems
  | .object fields, h => by
      have hfields := (spells_compactFields fields h).append_mark spells_nil
        (c := '\x7d') (t := .objectClose) rfl rfl
      exact Spells.mark '\x7b' (some .objectOpen) rfl hfields

theorem spells_compactItems : ∀ l, WholeItems l →
    Spells (compactItems l) (itemTokens (ofJsonItems l))
  | [], _ => spells_nil
  | [j], h => spells_compactChars j h.1
  | j :: k :: l, h =>
      (spells_compactChars j h.1).append_mark (spells_compactItems (k :: l) h.2) rfl rfl

theorem spells_compactFields : ∀ l, WholeFields l →
    Spells (compactFields l) (fieldTokens (ofJsonFields l))
  | [], _ => spells_nil
  | [(k, j)], h => spells_field k (spells_compactChars j h.1)
  | (k, j) :: f :: l, h =>
      (spells_field k (spells_compactChars j h.1)).append_mark
        (spells_compactFields (f :: l) h.2) rfl rfl

end

/-- **The compact text of a value is read as its document.** -/
theorem parse?_compact {j : Json} (h : WholeNumbers j) :
    Document.parse? (compact j) = some (.ofJson j) := by
  rw [Document.parse?, compact, String.toList_ofList, (spells_compactChars j h).tokens?]
  exact ofTokens?_tokens _

mutual

/-- **The indented text of a value is read as its tokens.** -/
theorem spells_prettyChars : ∀ (depth : Nat) (j : Json), WholeNumbers j →
    Spells (prettyChars depth j) (ofJson j).tokens
  | _, .null, _ => spells_null
  | _, .bool b, _ => spells_bool b
  | _, .number (.whole n), _ => spells_whole n
  | _, .number (.real _), h => h.elim
  | _, .text s, _ => spells_quoted s
  | _, .array [], _ => Spells.mark '[' (some .arrayOpen) rfl
      (Spells.mark ']' (some .arrayClose) rfl spells_nil)
  | depth, .array (j :: l), h => by
      have hclose := Spells.mark ']' (some .arrayClose) rfl spells_nil
      have hitems := spells_prettyItems (depth + 1) (j :: l) h
      simp only [prettyChars, List.cons_append, List.append_assoc]
      exact Spells.mark '[' (some .arrayOpen) rfl
        ((hitems.append (hclose.blanks depth) rfl).blanks (depth + 1))
  | _, .object [], _ => Spells.mark '\x7b' (some .objectOpen) rfl
      (Spells.mark '\x7d' (some .objectClose) rfl spells_nil)
  | depth, .object (f :: l), h => by
      have hclose := Spells.mark '\x7d' (some .objectClose) rfl spells_nil
      have hfields := spells_prettyFields (depth + 1) (f :: l) h
      simp only [prettyChars, List.cons_append, List.append_assoc]
      exact Spells.mark '\x7b' (some .objectOpen) rfl
        ((hfields.append (hclose.blanks depth) rfl).blanks (depth + 1))

theorem spells_prettyItems : ∀ (depth : Nat) (l : List Json), WholeItems l →
    Spells (prettyItems depth l) (itemTokens (ofJsonItems l))
  | _, [], _ => spells_nil
  | depth, [j], h => spells_prettyChars depth j h.1
  | depth, j :: k :: l, h => by
      have hrest := (spells_prettyItems depth (k :: l) h.2).blanks depth
      rw [prettyItems, List.append_assoc]
      exact (spells_prettyChars depth j h.1).append_mark hrest rfl rfl

theorem spells_prettyFields : ∀ (depth : Nat) (l : List (String × Json)), WholeFields l →
    Spells (prettyFields depth l) (fieldTokens (ofJsonFields l))
  | _, [], _ => spells_nil
  | depth, [(k, j)], h =>
      spells_field k (Spells.mark ' ' none rfl (spells_prettyChars depth j h.1))
  | depth, (k, j) :: f :: l, h => by
      have hfield := spells_field k (Spells.mark ' ' none rfl (spells_prettyChars depth j h.1))
      have hrest := (spells_prettyFields depth (f :: l) h.2).blanks depth
      rw [prettyFields, List.append_assoc]
      exact hfield.append_mark hrest rfl rfl

end

/-- **The indented text of a value is read as its document.** -/
theorem parse?_pretty {j : Json} (h : WholeNumbers j) :
    Document.parse? (pretty j) = some (.ofJson j) := by
  rw [Document.parse?, pretty, String.toList_ofList, (spells_prettyChars 0 j h).tokens?]
  exact ofTokens?_tokens _

end TlsScan.Json
