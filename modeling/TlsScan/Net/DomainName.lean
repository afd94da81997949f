import TlsScan.Net.DomainName.Label
import TlsScan.Net.DomainName.Mapping
import TlsScan.Net.Punycode

/-!
# Domain names

The form in which a domain name appears in a URL: decoded, in lower case, and in ASCII.

## Main Definitions

* `Net.DomainName.decode?` — a name without percent signs that stand for bytes.
* `Net.DomainName.toAscii?` — the ASCII form of a name.

## Main Results

* `Net.DomainName.toAscii?_of_plain` — a name of lowercase letters, digits and such is its
  own ASCII form.
-/

namespace TlsScan.Net.DomainName

open Text

/-! ### Percent signs -/

/-- The byte that two hexadecimal digits write. -/
def hexByte? (c d : UInt8) : Option UInt8 := do
  let x ← digitValue? 16 (Char.ofNat c.toNat)
  let y ← digitValue? 16 (Char.ofNat d.toNat)
  return UInt8.ofNat (16 * x + y)

/-- Bytes in which a percent sign with two hexadecimal digits stands for a byte. -/
def decodeBytes : List UInt8 → List UInt8
  | [] => []
  | [b] => [b]
  | [b, c] => [b, c]
  | b :: c :: d :: rest =>
    if b = 0x25 then
      match hexByte? c d with
      | some x => x :: decodeBytes rest
      | none => b :: decodeBytes (c :: d :: rest)
    else b :: decodeBytes (c :: d :: rest)

/-- The text whose bytes are those of a name, decoded.  Bytes that are no text have none. -/
def decode? (cs : List Char) : Option (List Char) :=
  if cs.contains '%' then
    (String.fromUTF8? ⟨(decodeBytes (String.ofList cs).toUTF8.toList).toArray⟩).map
      String.toList
  else some cs

/-! ### Characters -/

/-- A character that no domain name in a URL has. -/
def isDenied (c : Char) : Bool :=
  c.toNat ≤ 0x20 || c = '\x7f' || c = '%' || c = '#' || c = '/' || c = ':' || c = '<'
    || c = '>' || c = '?' || c = '@' || c = '[' || c = '\\' || c = ']' || c = '^' || c = '|'

/-- Whether a character belongs to ASCII. -/
def isAscii (c : Char) : Bool := c.toNat < 0x80

/-! ### Labels -/

/-- What the ASCII form of a label with other characters starts with. -/
def marker : List Char := ['x', 'n', '-', '-']

/-- The most characters that a label may have to be written in ASCII, and to be read. -/
def lengthLimits : Nat × Nat := (1000, 2000)

/-- A label in the two forms: with all its characters, and in ASCII. -/
structure Label where
  text : List Char
  ascii : List Char

/-- Whether a label with other characters than those of ASCII is a good one. -/
def isGood (text : List Char) : Bool :=
  !startsWithMark text && joinersFit [] text && !text.any isDenied

/-- The label of a text that starts with the marker, without it. -/
def Label.ofMarked? (tail : List Char) : Option Label := do
  if tail.getLast? = some '-' || tail.isEmpty || lengthLimits.2 < tail.length then none
  else
    let text ← Punycode.decode? tail
    if text.all (fun c => isStable c && c ≠ '.') && Unicode.compose text = text && isGood text
    then some ⟨text, marker ++ tail⟩
    else none

/-- The label of a text in which every character stands for itself. -/
def Label.ofText? (text : List Char) : Option Label :=
  if marker.isPrefixOf text then ofMarked? (text.drop marker.length)
  else if text.all isAscii then
    if text.any isDenied then none else some ⟨text, text⟩
  else if isGood text && text.length ≤ lengthLimits.1 then
    some ⟨text, marker ++ Punycode.encode text⟩
  else none

/-! ### Names -/

/-- The pieces of a name with points between them. -/
def joined : List (List Char) → List Char
  | [] => []
  | [p] => p
  | p :: ps => p ++ '.' :: joined ps

/-- The ASCII form of a name with any characters. -/
def mappedForm? (cs : List Char) : Option (List Char) := do
  let mapped ← cs.mapM mapped?
  let labels ← (split '.' (Unicode.compose mapped.flatten)).mapM Label.ofText?
  let texts := labels.map Label.text
  if isBidirectional texts.flatten && !texts.all directionFits then none
  else some (joined (labels.map Label.ascii))

/-- Whether a name has only characters of ASCII and no label with the marker. -/
def isPlain (cs : List Char) : Bool :=
  cs.all isAscii && (split '.' cs).all fun p => !marker.isPrefixOf (p.map Char.toLower)

/-- **The ASCII form of a domain name.** -/
def toAscii? (cs : List Char) : Option (List Char) := do
  let cs ← decode? cs
  if isPlain cs then
    if cs.any isDenied then none else some (cs.map Char.toLower)
  else mappedForm? cs

/-- A name that is plain, in lower case and without denied characters is its own form. -/
theorem toAscii?_of_plain {cs : List Char} (hp : isPlain cs = true)
    (hd : ∀ c ∈ cs, isDenied c = false) (hl : ∀ c ∈ cs, c.toLower = c) :
    toAscii? cs = some cs := by
  have hn : '%' ∉ cs := fun h => by simpa [isDenied] using hd _ h
  have hm : cs.map Char.toLower = cs := by simpa using List.map_congr_left hl
  simpa [toAscii?, decode?, hn, hp, hm] using hd

end TlsScan.Net.DomainName
