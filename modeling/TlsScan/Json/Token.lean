import TlsScan.Json.Number

/-!
# The tokens of a JSON text

A text is read one character after the other, and falls into brackets, marks, quoted
strings and bare words.  Blanks between tokens leave no trace, so a value has the same
tokens however it is indented.

## Main Definitions

* `Json.Token` — a token.
* `Json.Lexer.step` — what one character does.
* `Json.tokens?` — the tokens of a text.
-/

namespace TlsScan.Json

/-- **A token of a JSON text.** -/
inductive Token where
  | arrayOpen | arrayClose | objectOpen | objectClose | comma | colon
  | null
  | bool (b : Bool)
  | number (l : Literal)
  /-- A quoted string, `none` if its escapes name half of a surrogate pair. -/
  | text (s : Option String)
  deriving DecidableEq, Repr

/-! ### Strings -/

/-- What stands inside quotes: a character, or a number that an escape gives and that is no
character by itself. -/
inductive Piece where
  | char (c : Char)
  | unit (n : Nat)
  deriving DecidableEq, Repr

/-- The piece that an escaped number stands for. -/
def Piece.ofEscape (n : Nat) : Piece :=
  if 0xd800 ≤ n ∧ n < 0xe000 then unit n else char (Char.ofNat n)

/-- The characters of the pieces, where a high and a low surrogate in a row make one
character and anything else fails. -/
def join? : List Piece → Option (List Char)
  | [] => some []
  | .char c :: ps => (join? ps).map (c :: ·)
  | .unit h :: .unit l :: ps =>
    if h < 0xdc00 ∧ 0xdc00 ≤ l then
      (join? ps).map (Char.ofNat (0x10000 + (h - 0xd800) * 0x400 + (l - 0xdc00)) :: ·)
    else none
  | .unit _ :: _ => none

/-- The character that a single letter after a backslash stands for. -/
def simpleEscape? : Char → Option Char
  | '"' => some '"'
  | '\\' => some '\\'
  | '/' => some '/'
  | 'b' => some '\x08'
  | 'f' => some '\x0c'
  | 'n' => some '\n'
  | 'r' => some '\r'
  | 't' => some '\t'
  | _ => none

/-! ### Words -/

/-- Whether a character can belong to a word. -/
def isWordChar (c : Char) : Bool :=
  c.isAlphanum || c = '+' || c = '-' || c = '.'

/-- The token that a bare word spells. -/
def wordToken? (word : List Char) : Option Token :=
  if word = ['n', 'u', 'l', 'l'] then some .null
  else if word = ['t', 'r', 'u', 'e'] then some (.bool true)
  else if word = ['f', 'a', 'l', 's', 'e'] then some (.bool false)
  else (Literal.parse? word).map .number

/-! ### Reading -/

namespace Lexer

/-- What is being read.  The characters of the token under way are kept last one first. -/
inductive Mode where
  /-- No token. -/
  | between
  | word (rev : List Char)
  | string (rev : List Piece)
  /-- After a backslash. -/
  | escape (rev : List Piece)
  /-- Inside a numeric escape with some digits to come. -/
  | hex (left value : Nat) (rev : List Piece)
  deriving DecidableEq, Repr

/-- A character outside of strings and words: what is read after it, and its token. -/
def start? (c : Char) : Option (Mode × Option Token) :=
  if c = ' ' ∨ c = '\n' ∨ c = '\t' ∨ c = '\r' then some (.between, none)
  else if c = '[' then some (.between, some .arrayOpen)
  else if c = ']' then some (.between, some .arrayClose)
  else if c = '\x7b' then some (.between, some .objectOpen)
  else if c = '\x7d' then some (.between, some .objectClose)
  else if c = ',' then some (.between, some .comma)
  else if c = ':' then some (.between, some .colon)
  else if c = '"' then some (.string [], none)
  else if isWordChar c then some (.word [c], none)
  else none

/-- The state of reading: what is being read, and the tokens so far, last one first. -/
structure State where
  mode : Mode
  rev : List Token
  deriving DecidableEq, Repr

/-- Go on outside of strings and words. -/
def begin? (rev : List Token) (c : Char) : Option State :=
  (start? c).map fun (mode, token) => ⟨mode, token.toList ++ rev⟩

/-- **What one character does.** -/
def step (s : State) (c : Char) : Option State :=
  match s.mode with
  | .between => begin? s.rev c
  | .word w =>
    if isWordChar c then some { s with mode := .word (c :: w) }
    else (wordToken? w.reverse).bind fun t => begin? (t :: s.rev) c
  | .string ps =>
    if c = '"' then some ⟨.between, .text ((join? ps.reverse).map String.ofList) :: s.rev⟩
    else if c = '\\' then some { s with mode := .escape ps }
    else if c.toNat < 0x20 then none
    else some { s with mode := .string (.char c :: ps) }
  | .escape ps =>
    if c = 'u' then some { s with mode := .hex 3 0 ps }
    else (simpleEscape? c).map fun d => { s with mode := .string (.char d :: ps) }
  | .hex left value ps =>
    (Text.digitValue? 16 c).map fun d =>
      match left with
      | 0 => { s with mode := .string (.ofEscape (value * 16 + d) :: ps) }
      | left + 1 => { s with mode := .hex left (value * 16 + d) ps }

/-- The tokens at the end of the text. -/
def finish? (s : State) : Option (List Token) :=
  match s.mode with
  | .between => some s.rev.reverse
  | .word w => (wordToken? w.reverse).map fun t => (t :: s.rev).reverse
  | _ => none

end Lexer

/-- **The tokens of a text**, `none` if some character belongs to no token. -/
def tokens? (cs : List Char) : Option (List Token) :=
  (cs.foldlM Lexer.step ⟨.between, []⟩).bind Lexer.finish?

end TlsScan.Json
