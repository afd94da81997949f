import TlsScan.Json.Number

/-!
# Writing JSON

## Main Definitions

* `Json.quoted` — a text between quotes.
* `Json.compact` — a value without any blanks.
* `Json.pretty` — a value with one item to a line, two blanks deeper at every level.
-/

namespace TlsScan.Json

/-- A hexadecimal digit in lower case. -/
def hexDigit (n : Nat) : Char := Nat.digitChar n

/-- One character inside quotes.  Quotes, backslashes and control characters are escaped,
everything else stands for itself. -/
def escaped (c : Char) : List Char :=
  if c = '"' then ['\\', '"']
  else if c = '\\' then ['\\', '\\']
  else if c = '\n' then ['\\', 'n']
  else if c = '\r' then ['\\', 'r']
  else if c = '\t' then ['\\', 't']
  else if c.toNat = 0x08 then ['\\', 'b']
  else if c.toNat = 0x0c then ['\\', 'f']
  else if c.toNat < 0x20 then
    ['\\', 'u', '0', '0', hexDigit (c.toNat / 16), hexDigit (c.toNat % 16)]
  else [c]

/-- **A text between quotes.** -/
def quoted (s : String) : List Char :=
  '"' :: s.toList.flatMap escaped ++ ['"']

/-- The characters of null, true and false. -/
def nullWord : List Char := ['n', 'u', 'l', 'l']

/-- The characters of a truth value. -/
def boolWord (b : Bool) : List Char :=
  if b then ['t', 'r', 'u', 'e'] else ['f', 'a', 'l', 's', 'e']

mutual

/-- The characters of a value, without blanks. -/
def compactChars : Json → List Char
  | null => nullWord
  | bool b => boolWord b
  | number n => n.text
  | text s => quoted s
  | array items => '[' :: compactItems items ++ [']']
  | object fields => '\x7b' :: compactFields fields ++ ['\x7d']

/-- Items with commas between them. -/
def compactItems : List Json → List Char
  | [] => []
  | [j] => compactChars j
  | j :: k :: l => compactChars j ++ ',' :: compactItems (k :: l)

/-- Fields with commas between them. -/
def compactFields : List (String × Json) → List Char
  | [] => []
  | [(k, v)] => quoted k ++ ':' :: compactChars v
  | (k, v) :: f :: l => quoted k ++ ':' :: compactChars v ++ ',' :: compactFields (f :: l)

end

/-- A new line at a depth. -/
def newLine (depth : Nat) : List Char := '\n' :: List.replicate (2 * depth) ' '

mutual

/-- The characters of a value whose line starts at a depth. -/
def prettyChars (depth : Nat) : Json → List Char
  | null => nullWord
  | bool b => boolWord b
  | number n => n.text
  | text s => quoted s
  | array [] => ['[', ']']
  | array (j :: l) =>
    '[' :: newLine (depth + 1) ++ prettyItems (depth + 1) (j :: l) ++ newLine depth ++ [']']
  | object [] => ['\x7b', '\x7d']
  | object (f :: l) =>
    '\x7b' :: newLine (depth + 1) ++ prettyFields (depth + 1) (f :: l) ++ newLine depth
      ++ ['\x7d']

/-- Items one to a line, with commas between them. -/
def prettyItems (depth : Nat) : List Json → List Char
  | [] => []
  | [j] => prettyChars depth j
  | j :: k :: l =>
    prettyChars depth j ++ ',' :: newLine depth ++ prettyItems depth (k :: l)

/-- Fields one to a line, with commas between them. -/
def prettyFields (depth : Nat) : List (String × Json) → List Char
  | [] => []
  | [(k, v)] => quoted k ++ ':' :: ' ' :: prettyChars depth v
  | (k, v) :: f :: l =>
    quoted k ++ ':' :: ' ' :: prettyChars depth v ++ ',' :: newLine depth
      ++ prettyFields depth (f :: l)

end

/-- **The compact text of a value.** -/
def compact (j : Json) : String := String.ofList (compactChars j)

/-- **The indented text of a value.** -/
def pretty (j : Json) : String := String.ofList (prettyChars 0 j)

end TlsScan.Json
