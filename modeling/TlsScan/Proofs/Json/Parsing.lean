import TlsScan.Json.Document

/-!
# From tokens to documents

Documents are read from tokens with a stack of the containers that are open.  Here a
document is first taken apart into its tokens, by recursion on its structure, and then shown
to be what is read from them.

## Main Definitions

* `Json.Document.tokens` — the tokens of a document.

## Main Results

* `Json.Document.foldlM_tokens` — in front of any stack, the tokens of a document complete it.
* `Json.Document.ofTokens?_tokens` — a document is read from its tokens.
-/

namespace TlsScan.Json.Document

/-! ## The tokens of a document -/

mutual

/-- **The tokens of a document.** -/
def tokens : Document → List Token
  | null => [.null]
  | bool b => [.bool b]
  | number l => [.number l]
  | text s => [.text s]
  | array items => .arrayOpen :: (itemTokens items ++ [.arrayClose])
  | object fields => .objectOpen :: (fieldTokens fields ++ [.objectClose])

/-- The tokens of items, with commas between them. -/
def itemTokens : List Document → List Token
  | [] => []
  | [d] => tokens d
  | d :: e :: l => tokens d ++ .comma :: itemTokens (e :: l)

/-- The tokens of fields, with commas between them. -/
def fieldTokens : List (Option String × Document) → List Token
  | [] => []
  | [(k, d)] => .text k :: .colon :: tokens d
  | (k, d) :: f :: l => .text k :: .colon :: (tokens d ++ .comma :: fieldTokens (f :: l))

end

/-! ## Reading them back -/

section
variable {stack : List Frame} {s : State} {t : Token} {ts us : List Token}

theorem foldlM_cons_of_step {s' : State} (h : step s t = some s') :
    (t :: ts).foldlM step s = ts.foldlM step s' := by
  rw [List.foldlM_cons, h]
  rfl

/-- Tokens that lead to a state are followed by what goes on from there. -/
theorem foldlM_append_of_some {s' : State} (h : ts.foldlM step s = some s') :
    (ts ++ us).foldlM step s = us.foldlM step s' := by
  rw [List.foldlM_append, h]
  rfl

/-- Where an array may also end, a document starts as anywhere else. -/
theorem foldlM_firstItem (d : Document) :
    (tokens d ++ us).foldlM step (.firstItem stack)
      = (tokens d ++ us).foldlM step (.value (.item [] :: stack)) := by
  cases d <;> rfl

end

mutual

/-- **In front of any stack, the tokens of a document complete it.** -/
theorem foldlM_tokens : ∀ (d : Document) (stack : List Frame),
    (tokens d).foldlM step (.value stack) = some (.complete d stack)
  | null, _ => rfl
  | bool _, _ => rfl
  | number _, _ => rfl
  | text _, _ => rfl
  | array [], _ => rfl
  | array (d :: l), stack => by
      rw [tokens, foldlM_cons_of_step rfl]
      have hfirst : (itemTokens (d :: l) ++ [Token.arrayClose]).foldlM step (.firstItem stack)
          = (itemTokens (d :: l) ++ [Token.arrayClose]).foldlM step
            (.value (.item [] :: stack)) := by
        cases l with
        | nil => exact foldlM_firstItem d
        | cons e l =>
            rw [itemTokens, List.append_assoc]
            exact foldlM_firstItem d
      rw [hfirst]
      exact foldlM_itemTokens (d :: l) (List.cons_ne_nil d l) [] stack
  | object [], _ => rfl
  | object ((k, d) :: l), stack => by
      rw [tokens, foldlM_cons_of_step rfl]
      -- The first key is read like the others, with nothing before it.
      have hfirst : (fieldTokens ((k, d) :: l) ++ [Token.objectClose]).foldlM step
            (.firstKey stack)
          = (fieldTokens ((k, d) :: l) ++ [Token.objectClose]).foldlM step
            (.key [] stack) := by
        cases l <;> rfl
      rw [hfirst]
      exact foldlM_fieldTokens ((k, d) :: l) (List.cons_ne_nil _ l) [] stack

/-- Behind the items that were read before, the tokens of further items complete an array. -/
theorem foldlM_itemTokens : ∀ (l : List Document), l ≠ [] →
    ∀ (rev : List Document) (stack : List Frame),
      (itemTokens l ++ [Token.arrayClose]).foldlM step (.value (.item rev :: stack))
        = some (.complete (array (rev.reverse ++ l)) stack)
  | [], h, _, _ => absurd rfl h
  | [d], _, rev, stack => by
      rw [itemTokens, foldlM_append_of_some (foldlM_tokens d _), foldlM_cons_of_step rfl,
        List.reverse_cons]
      rfl
  | d :: e :: l, _, rev, stack => by
      rw [itemTokens, List.append_assoc, foldlM_append_of_some (foldlM_tokens d _),
        List.cons_append, foldlM_cons_of_step rfl,
        foldlM_itemTokens (e :: l) (List.cons_ne_nil e l) (d :: rev) stack,
        List.reverse_cons, List.append_assoc]
      rfl

/-- Behind the fields that were read before, the tokens of further fields complete an
object. -/
theorem foldlM_fieldTokens : ∀ (l : List (Option String × Document)), l ≠ [] →
    ∀ (rev : List (Option String × Document)) (stack : List Frame),
      (fieldTokens l ++ [Token.objectClose]).foldlM step (.key rev stack)
        = some (.complete (object (rev.reverse ++ l)) stack)
  | [], h, _, _ => absurd rfl h
  | [(k, d)], _, rev, stack => by
      rw [fieldTokens, List.cons_append, foldlM_cons_of_step rfl, List.cons_append,
        foldlM_cons_of_step rfl, foldlM_append_of_some (foldlM_tokens d _),
        foldlM_cons_of_step rfl, List.reverse_cons]
      rfl
  | (k, d) :: f :: l, _, rev, stack => by
      rw [fieldTokens, List.cons_append, foldlM_cons_of_step rfl, List.cons_append,
        foldlM_cons_of_step rfl, List.append_assoc,
        foldlM_append_of_some (foldlM_tokens d _), List.cons_append,
        foldlM_cons_of_step rfl,
        foldlM_fieldTokens (f :: l) (List.cons_ne_nil f l) ((k, d) :: rev) stack,
        List.reverse_cons, List.append_assoc]
      rfl

end

/-- **A document is read from its tokens.** -/
theorem ofTokens?_tokens (d : Document) : ofTokens? (tokens d) = some d := by
  rw [ofTokens?, foldlM_tokens]
  rfl

end TlsScan.Json.Document
