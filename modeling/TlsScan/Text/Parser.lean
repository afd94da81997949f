/-!
# Parsers

A parser reads a value from the start of a text and leaves the rest, or fails.

## Main Definitions

* `Text.Parser` — the type of parsers.
* `Parser.satisfying`, `Parser.exactly`, `Parser.takeWhile` — reading of characters.
* `Parser.orElse`, `Parser.maybe`, `Parser.many` — choice and repetition.
-/

namespace TlsScan.Text

/-- **A parser**: from the text before it to a value and the text behind it. -/
abbrev Parser := StateT (List Char) Option

namespace Parser

variable {α : Type}

/-- Fails on every text. -/
def fail : Parser α := fun _ => none

/-- The characters still to be read. -/
def rest : Parser (List Char) := fun cs => some (cs, cs)

/-- One character that passes a test. -/
def satisfying (test : Char → Bool) : Parser Char
  | c :: cs => if test c then some (c, cs) else none
  | [] => none

/-- One given character. -/
def char (c : Char) : Parser Unit := do
  let _ ← satisfying (· == c)

/-- The given characters in a row. -/
def exactly (word : List Char) : Parser Unit := fun cs =>
  if word.isPrefixOf cs then some ((), cs.drop word.length) else none

/-- The longest run of characters that pass a test. -/
def takeWhile (test : Char → Bool) : Parser (List Char) := fun cs =>
  some (cs.takeWhile test, cs.dropWhile test)

/-- The longest run of characters that pass a test, which is not empty. -/
def takeWhile1 (test : Char → Bool) : Parser (List Char) := do
  match ← takeWhile test with
  | [] => fail
  | cs => return cs

/-- A given number of characters that pass a test. -/
def count (test : Char → Bool) : Nat → Parser (List Char)
  | 0 => return []
  | n + 1 => do
    let c ← satisfying test
    return c :: (← count test n)

/-- Succeeds only where nothing is left. -/
def atEnd : Parser Unit
  | [] => some ((), [])
  | _ :: _ => none

/-- The first parser, or the second where the first fails. -/
def orElse (p q : Parser α) : Parser α := fun cs =>
  match p cs with
  | some r => some r
  | none => q cs

/-- What a parser reads, or nothing where it fails. -/
def maybe (p : Parser α) : Parser (Option α) := fun cs =>
  match p cs with
  | some (a, cs) => some (some a, cs)
  | none => some (none, cs)

/-- Read the same thing up to `limit` times, until it fails. -/
def upTo (p : Parser α) : Nat → Parser (List α)
  | 0 => return []
  | limit + 1 => fun cs =>
    match p cs with
    | none => some ([], cs)
    | some (a, cs) =>
      match upTo p limit cs with
      | some (l, cs) => some (a :: l, cs)
      | none => none

/-- Read the same thing until it fails.  Every reading takes at least one character, so
there are no more readings than characters. -/
def many (p : Parser α) : Parser (List α) := fun cs => upTo p cs.length cs

/-- Read the same thing at least once, with separators in between. -/
def separated1 (p : Parser α) (separator : Parser Unit) : Parser (List α) := do
  let a ← p
  return a :: (← many do separator; p)

/-- Read the same thing any number of times, with separators in between. -/
def separated (p : Parser α) (separator : Parser Unit) : Parser (List α) :=
  orElse (separated1 p separator) (return [])

/-- The value that a parser reads from a whole text. -/
def run? (p : Parser α) (cs : List Char) : Option α :=
  match p cs with
  | some (a, []) => some a
  | _ => none

end Parser

end TlsScan.Text
