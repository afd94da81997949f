import TlsScan.Text.Number
import TlsScan.Text.Parser
import TlsScan.Timestamp
import TlsScan.Toml

/-!
# Reading TOML

## Main Definitions

* `Toml.value` — a value with a bounded number of containers inside each other.
* `Toml.line` — a line of a file.
* `Toml.parse?` — the entries of a file.

## Design Notes

The grammar is that of TOML 1.0.  Containers nest through `valueWith`, which is told how to
read what is inside; the depth that is left bounds the recursion.
-/

namespace TlsScan.Toml

open Text Text.Parser

/-! ### Blanks and comments -/

/-- A blank within a line. -/
def isSpace (c : Char) : Bool := c = ' ' || c = '\t'

/-- A character that may stand in a comment or a literal string. -/
def isPrintable (c : Char) : Bool := c = '\t' || (0x20 ≤ c.toNat && c.toNat ≠ 0x7f)

/-- Blanks within a line. -/
def spaces : Parser Unit := do
  let _ ← takeWhile isSpace

/-- The end of a line. -/
def newline : Parser Unit := orElse (char '\n') (exactly ['\r', '\n'])

/-- A comment up to the end of its line. -/
def comment : Parser Unit := do
  char '#'
  let _ ← takeWhile isPrintable

/-- What may follow at the end of a line. -/
def lineEnd : Parser Unit := do
  spaces
  let _ ← maybe comment
  orElse newline atEnd

/-- Blanks, comments and ends of lines, as they may stand inside an array. -/
def blankLines : Parser Unit := do
  let _ ← many <| orElse (do let _ ← takeWhile1 isSpace) <|
    orElse newline (do comment; newline)

/-! ### Strings -/

/-- A code point of `n` hexadecimal digits. -/
def codePoint (n : Nat) : Parser (List Char) := do
  let ds ← count (fun c => (digitValue? 16 c).isSome) n
  let v := ds.foldl (fun v c => v * 16 + (digitValue? 16 c).getD 0) 0
  if v.isValidChar then return [Char.ofNat v] else fail

/-- What stands behind a backslash. -/
def escape : Parser (List Char) := do
  match ← satisfying fun _ => true with
  | 'b' => return ['\x08']
  | 'f' => return ['\x0c']
  | 'n' => return ['\n']
  | 'r' => return ['\r']
  | 't' => return ['\t']
  | '"' => return ['"']
  | '\\' => return ['\\']
  | 'u' => codePoint 4
  | 'U' => codePoint 8
  | _ => fail

/-- A character of a string between double quotes. -/
def basicChar : Parser (List Char) :=
  orElse (do return [← satisfying fun c => isPrintable c && c ≠ '"' && c ≠ '\\'])
    (do char '\\'; escape)

/-- A character of a string between single quotes. -/
def literalChar : Parser (List Char) := do
  return [← satisfying fun c => isPrintable c && c ≠ '\'']

/-- A string on one line. -/
def oneLine (quote : Char) (item : Parser (List Char)) : Parser String := do
  char quote
  let parts ← many item
  char quote
  return String.ofList parts.flatten

/-- One or two quotes that do not end a string of several lines. -/
def fewQuotes (quote : Char) : Parser (List Char) := do
  let cs ← takeWhile1 (· == quote)
  if cs.length < 3 then return cs else fail

/-- A string of several lines, between three quotes.  A line break right behind the opening
quotes does not count, and up to two quotes may stand right before the closing ones. -/
def severalLines (quote : Char) (item : Parser (List Char)) : Parser String := do
  exactly [quote, quote, quote]
  let _ ← maybe newline
  let parts ← many <| orElse item <| orElse (do newline; return ['\n']) (fewQuotes quote)
  let quotes ← takeWhile (· == quote)
  if 3 ≤ quotes.length ∧ quotes.length ≤ 5 then
    return String.ofList (parts.flatten ++ quotes.drop 3)
  else fail

/-- A backslash at the end of a line, which joins it to the next text. -/
def joinedLines : Parser (List Char) := do
  char '\\'
  spaces
  newline
  let _ ← many (orElse (do let _ ← takeWhile1 isSpace) newline)
  return []

/-- A string in one of its four forms. -/
def stringText : Parser String :=
  orElse (severalLines '"' (orElse basicChar joinedLines)) <|
    orElse (oneLine '"' basicChar) <|
    orElse (severalLines '\'' literalChar) (oneLine '\'' literalChar)

/-! ### Numbers -/

/-- Digits with single underscores between them. -/
def digits (base : Nat) : Parser (List Nat) := do
  let digit := satisfying fun c => (digitValue? base c).isSome
  let first ← digit
  let further ← many (orElse digit (do char '_'; digit))
  return (first :: further).map fun c => (digitValue? base c).getD 0

/-- The number that digits write. -/
def digitsValue (base : Nat) (ds : List Nat) : Nat := ds.foldl (fun v d => v * base + d) 0

/-- Decimal digits without a leading zero. -/
def wholeDigits : Parser (List Nat) := do
  match ← rest with
  | '0' :: _ => char '0'; return [0]
  | _ => digits 10

/-- A sign, if there is one: whether it is a minus. -/
def sign : Parser Bool :=
  orElse (do char '-'; return true) (do let _ ← maybe (char '+'); return false)

/-- An integer of 64 bits with a sign. -/
def integerOf (negative : Bool) (n : Nat) : Parser Toml :=
  let v : Int := if negative then -(n : Int) else n
  if Int64.minValue.toInt ≤ v ∧ v ≤ Int64.maxValue.toInt then return .integer v else fail

/-- An integer in another base than ten. -/
def basedInteger : Parser Toml := do
  char '0'
  let base ← match ← satisfying fun _ => true with
    | 'x' => pure 16
    | 'o' => pure 8
    | 'b' => pure 2
    | _ => fail
  integerOf false (digitsValue base (← digits base))

/-- An integer. -/
def integerValue : Parser Toml :=
  orElse basedInteger do
    let negative ← sign
    integerOf negative (digitsValue 10 (← wholeDigits))

/-- Whether a positive decimal is so large that no double comes near: not below the middle
between the largest double and the power of two behind it. -/
def isTooLarge (ds : List Nat) (power : Int) : Bool :=
  let n := digitsValue 10 ds
  let magnitude : Int := (Nat.toDigits 10 n).length + power
  if n = 0 ∨ magnitude < 300 then false
  else if 310 < magnitude then true
  else (2 : Rat) ^ (1024 : Int) - (2 : Rat) ^ (970 : Int) ≤ (n : Rat) * (10 : Rat) ^ power

/-- The exponent of a float. -/
def exponent : Parser Int := do
  let _ ← satisfying fun c => c = 'e' || c = 'E'
  let negative ← sign
  let n := digitsValue 10 (← digits 10)
  return if negative then -(n : Int) else n

/-- A float in digits: there is a fraction, an exponent, or both. -/
def decimalFloat : Parser Toml := do
  let negative ← sign
  let whole ← wholeDigits
  let fraction ← maybe do char '.'; digits 10
  let power ← maybe exponent
  if fraction.isNone && power.isNone then fail
  else
    let fraction := fraction.getD []
    if !negative && isTooLarge (whole ++ fraction) (power.getD 0 - fraction.length) then fail
    else return .float

/-- An infinity, or no number. -/
def specialFloat : Parser Toml := do
  let _ ← sign
  orElse (exactly ['i', 'n', 'f']) (exactly ['n', 'a', 'n'])
  return .float

/-! ### Points in time -/

/-- A number of `n` digits within bounds. -/
def fixedNumber (n low high : Nat) : Parser Nat := do
  let ds ← count Char.isDigit n
  let v := ds.foldl (fun v c => v * 10 + (digitValue? 10 c).getD 0) 0
  if low ≤ v ∧ v ≤ high then return v else fail

/-- A date of the calendar. -/
def date : Parser Unit := do
  let year ← fixedNumber 4 0 9999
  char '-'
  let month ← fixedNumber 2 1 12
  char '-'
  let day ← fixedNumber 2 1 31
  if day ≤ daysInMonth year month then return () else fail

/-- A time of day. -/
def timeOfDay : Parser Unit := do
  let _ ← fixedNumber 2 0 23
  char ':'
  let _ ← fixedNumber 2 0 59
  char ':'
  let _ ← fixedNumber 2 0 60
  let _ ← maybe do
    char '.'
    takeWhile1 Char.isDigit

/-- An offset from universal time. -/
def zoneOffset : Parser Unit :=
  orElse (do let _ ← satisfying fun c => c = 'Z' || c = 'z') do
    let _ ← satisfying fun c => c = '+' || c = '-'
    let _ ← fixedNumber 2 0 23
    char ':'
    let _ ← fixedNumber 2 0 59

/-- A date, a time of day, or both with or without an offset. -/
def dateTimeValue : Parser Toml := do
  orElse
    (do
      date
      let _ ← maybe do
        let _ ← satisfying fun c => c = 'T' || c = 't' || c = ' '
        timeOfDay
        let _ ← maybe zoneOffset)
    timeOfDay
  return .dateTime

/-! ### Keys and values -/

/-- The greatest number of containers inside each other, and of parts of a key. -/
def depthLimit : Nat := 79

/-- One part of a key. -/
def keyPart : Parser String := do
  spaces
  let k ← match ← rest with
    | '"' :: _ => oneLine '"' basicChar
    | '\'' :: _ => oneLine '\'' literalChar
    | _ => do
      let cs ← takeWhile1 fun c => c.isAlphanum || c = '-' || c = '_'
      pure (String.ofList cs)
  spaces
  return k

/-- A dotted key. -/
def key : Parser Key := do
  let parts ← separated1 keyPart (char '.')
  match parts.reverse with
  | [] => fail
  | last :: path => if parts.length ≤ depthLimit then return ⟨path.reverse, last⟩ else fail

/-- An array, of values read by `inner`. -/
def arrayOf (inner : Parser Toml) : Parser Toml := do
  char '['
  let items ← separated (do blankLines; let v ← inner; blankLines; return v) (char ',')
  if !items.isEmpty then
    let _ ← maybe (char ',')
  blankLines
  char ']'
  return .array items

/-- A table between braces, with values read by `inner`. -/
def inlineTableOf (inner : Parser Toml) : Parser Toml := do
  char '\x7b'
  let pairs ← separated
    (do
      let k ← key
      char '='
      spaces
      let v ← inner
      spaces
      return (k, v))
    (char ',')
  spaces
  char '\x7d'
  match ofPairs? pairs with
  | some v => return v
  | none => fail

/-- A value, of which values inside it are read by `inner`. -/
def valueWith (inner : Parser Toml) : Parser Toml := do
  match ← rest with
  | '"' :: _ => return .string (← stringText)
  | '\'' :: _ => return .string (← stringText)
  | '[' :: _ => arrayOf inner
  | '\x7b' :: _ => inlineTableOf inner
  | 't' :: _ => exactly ['t', 'r', 'u', 'e']; return .boolean true
  | 'f' :: _ => exactly ['f', 'a', 'l', 's', 'e']; return .boolean false
  | _ => orElse dateTimeValue <| orElse decimalFloat <| orElse specialFloat integerValue

/-- **A value** with at most `depth` containers inside each other. -/
def value : Nat → Parser Toml
  | 0 => valueWith fail
  | depth + 1 => valueWith (value depth)

/-! ### Lines -/

/-- The header of a table or of one more table of an array. -/
def header : Parser Line :=
  orElse
    (do
      exactly ['[', '[']
      let k ← key
      exactly [']', ']']
      lineEnd
      return .element k)
    (do
      char '['
      let k ← key
      char ']'
      lineEnd
      return .table k)

/-- A key with its value. -/
def pair : Parser Line := do
  let k ← key
  char '='
  spaces
  let v ← value depthLimit
  lineEnd
  return .pair k v

/-- **A line of a file**, which may say nothing. -/
def line : Parser (Option Line) := do
  let l ← match ← rest with
    | '#' :: _ => do comment; orElse newline atEnd; pure none
    | '\n' :: _ => do newline; pure none
    | '\r' :: _ => do newline; pure none
    | '[' :: _ => some <$> header
    | _ => some <$> pair
  spaces
  return l

/-- The lines of a file, after a byte order mark that does not count. -/
def file : Parser (List Line) := do
  let _ ← maybe (char '\ufeff')
  spaces
  let lines ← many line
  return lines.filterMap id

/-- **The entries of a file**, `none` if it is not well formed. -/
def parse? (text : String) : Option (List (String × Toml)) :=
  (file.run? text.toList).bind ofLines?

end TlsScan.Toml
