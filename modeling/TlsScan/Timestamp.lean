import TlsScan.Text.Blank
import TlsScan.Text.Number

/-!
# Points in time

Calendar dates and times of day in universal time, read and written as in internet
timestamps.

## Main Definitions

* `Date` — a date of the proleptic Gregorian calendar, with its neighbours `next?` and
  `previous?`.
* `Timestamp` — a date, a minute of that day, a second and a fraction; the sixtieth second
  of a minute is a leap second.
* `Timestamp.text` — `2024-01-02T03:04:05.600Z`.
* `Timestamp.parse?` — reads what `text` writes and the looser forms that are in use:
  numbers with fewer digits, blanks around them, other separators and offsets.

## Design Notes

A timestamp keeps calendar fields and not a count of seconds, because the only arithmetic
that reading needs is an offset of less than a day.
-/

namespace TlsScan

/-! ### Dates -/

/-- Whether a year has a twenty-ninth of February. -/
def isLeapYear (year : Int) : Bool :=
  year % 4 == 0 && (year % 100 != 0 || year % 400 == 0)

/-- The number of days of a month. -/
def daysInMonth (year : Int) (month : Nat) : Nat :=
  if month = 2 then (if isLeapYear year then 29 else 28)
  else if month = 4 ∨ month = 6 ∨ month = 9 ∨ month = 11 then 30
  else 31

/-- The numbers name a day of the calendar, within the years that are supported. -/
def IsDate (year : Int) (month day : Nat) : Prop :=
  -262143 ≤ year ∧ year ≤ 262142 ∧ 1 ≤ month ∧ month ≤ 12 ∧
    1 ≤ day ∧ day ≤ daysInMonth year month

instance (year : Int) (month day : Nat) : Decidable (IsDate year month day) :=
  inferInstanceAs (Decidable (_ ∧ _))

/-- **A date of the Gregorian calendar.** -/
structure Date where
  year : Int
  month : Nat
  day : Nat
  isDate : IsDate year month day
  deriving DecidableEq, Repr

theorem isDate_epoch : IsDate 1970 1 1 := by decide

namespace Date

/-- The date of three numbers, if there is one. -/
def ofParts? (year : Int) (month day : Nat) : Option Date :=
  if h : IsDate year month day then some ⟨year, month, day, h⟩ else none

/-- The following day; the last day of the last year has none. -/
def next? (d : Date) : Option Date :=
  if d.day < daysInMonth d.year d.month then ofParts? d.year d.month (d.day + 1)
  else if d.month < 12 then ofParts? d.year (d.month + 1) 1
  else ofParts? (d.year + 1) 1 1

/-- The day before; the first day of the first year has none. -/
def previous? (d : Date) : Option Date :=
  if 1 < d.day then ofParts? d.year d.month (d.day - 1)
  else if 1 < d.month then ofParts? d.year (d.month - 1) (daysInMonth d.year (d.month - 1))
  else ofParts? (d.year - 1) 12 31

/-- A date is the date of its parts. -/
@[simp] theorem ofParts?_parts (d : Date) : ofParts? d.year d.month d.day = some d := by
  simp [ofParts?, d.isDate]

end Date

/-! ### Timestamps -/

/-- **A point in time**, in universal time. -/
structure Timestamp where
  /-- The calendar day. -/
  date : Date
  /-- Minutes since midnight. -/
  minute : Fin 1440
  /-- The second of the minute; the second sixty is a leap second. -/
  second : Fin 61
  /-- Nanoseconds beyond the second. -/
  nanos : Fin 1000000000
  deriving DecidableEq, Repr

namespace Timestamp

/-- Midnight at the start of the year 1970. -/
def epoch : Timestamp :=
  ⟨⟨1970, 1, 1, isDate_epoch⟩, ⟨0, by decide⟩, ⟨0, by decide⟩, ⟨0, by decide⟩⟩

instance : Inhabited Timestamp := ⟨epoch⟩

/-! ### Writing -/

/-- Years of four digits are written plainly, all others with a sign. -/
def yearText (year : Int) : List Char :=
  if 0 ≤ year ∧ year ≤ 9999 then Text.padded 4 year.natAbs
  else (if year < 0 then '-' else '+') :: Text.padded 4 year.natAbs

/-- The fraction in as few groups of three digits as it needs. -/
def fractionText (nanos : Nat) : List Char :=
  if nanos = 0 then []
  else if nanos % 1000000 = 0 then '.' :: Text.padded 3 (nanos / 1000000)
  else if nanos % 1000 = 0 then '.' :: Text.padded 6 (nanos / 1000)
  else '.' :: Text.padded 9 nanos

/-- **The written form**, always in universal time. -/
def text (t : Timestamp) : String :=
  String.ofList <|
    yearText t.date.year ++ '-' :: Text.padded 2 t.date.month
      ++ '-' :: Text.padded 2 t.date.day
      ++ 'T' :: Text.padded 2 (t.minute.val / 60)
      ++ ':' :: Text.padded 2 (t.minute.val % 60)
      ++ ':' :: Text.padded 2 t.second.val
      ++ fractionText t.nanos.val ++ ['Z']

/-! ### Reading -/

/-- At most `width` decimal digits at the start of a text, and what follows them. -/
def takeDigits (width : Nat) (cs : List Char) : List Char × List Char :=
  let ds := (cs.take width).takeWhile Char.isDigit
  (ds, cs.drop ds.length)

/-- The number that digits write. -/
def digitsValue (ds : List Char) : Nat :=
  ds.foldl (fun n c => n * 10 + (c.toNat - '0'.toNat)) 0

/-- A number of one to `width` digits at the start of a text. -/
def number? (width : Nat) (cs : List Char) : Option (Nat × List Char) :=
  match takeDigits width cs with
  | ([], _) => none
  | (ds, rest) => some (digitsValue ds, rest)

/-- A number after blanks. -/
def field? (width : Nat) (cs : List Char) : Option (Nat × List Char) :=
  number? width (Text.trimStart cs)

/-- The character `c` after blanks. -/
def mark? (c : Char) (cs : List Char) : Option (List Char) :=
  match Text.trimStart cs with
  | d :: rest => if d = c then some rest else none
  | [] => none

/-- A year after blanks: up to four digits, or a sign and any number of digits. -/
def year? (cs : List Char) : Option (Int × List Char) :=
  match Text.trimStart cs with
  | '-' :: cs => (number? cs.length cs).map fun (n, rest) => (-(n : Int), rest)
  | '+' :: cs => (number? cs.length cs).map fun (n, rest) => ((n : Int), rest)
  | cs => (number? 4 cs).map fun (n, rest) => ((n : Int), rest)

/-- A fraction after a point: nine digits count, further ones are skipped. -/
def fraction? (cs : List Char) : Option (Nat × List Char) :=
  match cs with
  | '.' :: cs =>
    match takeDigits 9 cs with
    | ([], _) => none
    | (ds, rest) =>
      some (digitsValue ds * Nat.pow 10 (9 - ds.length), rest.dropWhile Char.isDigit)
  | cs => some (0, cs)

/-- Two digits, the first of them at most `high`. -/
def pair? (high : Char) : List Char → Option (Nat × List Char)
  | a :: b :: rest =>
    if '0' ≤ a ∧ a ≤ high ∧ b.isDigit then some (digitsValue [a, b], rest) else none
  | _ => none

/-- An offset in minutes: a zone letter or name for none, or a sign, hours and minutes. -/
def offset? (cs : List Char) : Option (Int × List Char) :=
  match cs with
  | u :: t :: c :: rest =>
    if u.toLower = 'u' ∧ t.toLower = 't' ∧ c.toLower = 'c' then some (0, rest)
    else zone cs
  | cs => zone cs
where
  /-- Hours and minutes after the sign. -/
  amount (cs : List Char) : Option (Nat × List Char) := do
    let (hours, cs) ← pair? '9' cs
    let (minutes, cs) ← pair? '5' (cs.dropWhile fun c => c = ':' || Text.isBlank c)
    if hours < 24 then some (hours * 60 + minutes, cs) else none
  /-- A zone letter or a signed offset. -/
  zone : List Char → Option (Int × List Char)
    | 'Z' :: cs => some (0, cs)
    | 'z' :: cs => some (0, cs)
    | '+' :: cs => (amount cs).map fun (m, rest) => ((m : Int), rest)
    | '-' :: cs => (amount cs).map fun (m, rest) => (-(m : Int), rest)
    | '\u2212' :: cs => (amount cs).map fun (m, rest) => (-(m : Int), rest)
    | _ => none

/-- The point in universal time at which a clock `offset` minutes ahead shows a date and
a minute. -/
def ofLocal? (date : Date) (minute : Fin 1440) (offset : Int) (second : Fin 61)
    (nanos : Fin 1000000000) : Option Timestamp :=
  let m : Int := minute.val - offset
  if h : 0 ≤ m ∧ m < 1440 then some ⟨date, ⟨m.toNat, by omega⟩, second, nanos⟩
  else if h : -1440 ≤ m ∧ m < 0 then
    date.previous?.map fun d => ⟨d, ⟨(m + 1440).toNat, by omega⟩, second, nanos⟩
  else if h : 1440 ≤ m ∧ m < 2880 then
    date.next?.map fun d => ⟨d, ⟨(m - 1440).toNat, by omega⟩, second, nanos⟩
  else none

/-- Read a timestamp from the characters of a text. -/
def parseChars? (cs : List Char) : Option Timestamp := do
  let (year, cs) ← year? cs
  let cs ← mark? '-' cs
  let (month, cs) ← field? 2 cs
  let cs ← mark? '-' cs
  let (day, cs) ← field? 2 cs
  let date ← Date.ofParts? year month day
  let cs ← match cs with
    | 'T' :: cs => some cs
    | 't' :: cs => some cs
    | ' ' :: cs => some cs
    | _ => none
  let (hour, cs) ← field? 2 cs
  let cs ← mark? ':' cs
  let (minute, cs) ← field? 2 cs
  let cs ← mark? ':' cs
  let (second, cs) ← field? 2 cs
  let (nanos, cs) ← fraction? cs
  let (offset, cs) ← offset? (Text.trimStart cs)
  if h : hour < 24 ∧ minute < 60 ∧ second < 61 ∧ nanos < 1000000000 then
    if (Text.trimStart cs).isEmpty then
      ofLocal? date ⟨hour * 60 + minute, by omega⟩ offset ⟨second, h.2.2.1⟩ ⟨nanos, h.2.2.2⟩
    else none
  else none

/-- **Read a timestamp.**  `none` unless the whole text is one. -/
def parse? (text : String) : Option Timestamp := parseChars? text.toList

end Timestamp

end TlsScan
