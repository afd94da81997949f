import TlsScan.Unicode.Property
import TlsScan.Unicode.Composition

/-!
# Labels of domain names

The rules for the labels of a domain name, the parts between its points.

## Main Definitions

* `Net.DomainName.startsWithMark`, `Net.DomainName.joinersFit` — rules for single labels.
* `Net.DomainName.isBidirectional` — whether a name has letters that run from right to left.
* `Net.DomainName.directionFits` — the rule for the labels of such a name.
-/

namespace TlsScan.Net.DomainName

open Unicode

/-- Whether a label starts with a mark, which has nothing to stand on. -/
def startsWithMark : List Char → Bool
  | [] => false
  | c :: _ => isMark c

/-! ### Joiners -/

/-- Whether the character before, the last of those given last first, takes a joiner. -/
def followsVirama : List Char → Bool
  | [] => false
  | c :: _ => combiningClass c = 9

/-- The first way to join among characters that is not transparent. -/
def firstJoining (cs : List Char) : Joining :=
  match cs.dropWhile fun c => joining c = .transparent with
  | [] => .apart
  | c :: _ => joining c

/-- Whether letters before and behind would join if nothing stood between. -/
def wouldJoin (before behind : List Char) : Bool :=
  (firstJoining before = .left || firstJoining before = .bothSides)
    && (firstJoining behind = .right || firstJoining behind = .bothSides)

/-- Whether the joiners in a label stand where they make a difference.  `before` holds the
characters in front, last one first. -/
def joinersFit (before : List Char) : List Char → Bool
  | [] => true
  | c :: cs =>
    (if c = '\u200d' then followsVirama before
      else if c = '\u200c' then followsVirama before || wouldJoin before cs
      else true)
    && joinersFit (c :: before) cs

/-! ### Direction -/

/-- Whether a direction is from right to left. -/
def runsLeft (d : Direction) : Bool :=
  d = .rightToLeft || d = .arabicLetter || d = .arabicNumber

/-- **Whether a name has letters that run from right to left.** -/
def isBidirectional (cs : List Char) : Bool := cs.any fun c => runsLeft (direction c)

/-- The directions that may occur in labels of both kinds. -/
def isWeak (d : Direction) : Bool :=
  d = .europeanNumber || d = .europeanSeparator || d = .commonSeparator
    || d = .europeanTerminator || d = .otherNeutral || d = .boundaryNeutral || d = .mark

/-- The last direction of a label that is not of a mark. -/
def lastDirection (ds : List Direction) : Option Direction :=
  (ds.filter fun d => d ≠ .mark).getLast?

/-- The rule for a label that runs from left to right. -/
def leftToRightFits (ds : List Direction) : Bool :=
  ds.all (fun d => d = .leftToRight || isWeak d)
    && (match lastDirection ds with
      | some d => d = .leftToRight || d = .europeanNumber
      | none => false)

/-- The rule for a label that runs from right to left. -/
def rightToLeftFits (ds : List Direction) : Bool :=
  ds.all (fun d => runsLeft d || isWeak d)
    && (match lastDirection ds with
      | some d => runsLeft d || d = .europeanNumber
      | none => false)
    && !(ds.contains .europeanNumber && ds.contains .arabicNumber)

/-- **The rule for the labels of a name with letters that run from right to left.** -/
def directionFits (label : List Char) : Bool :=
  match label.map direction with
  | [] => true
  | .leftToRight :: ds => leftToRightFits (.leftToRight :: ds)
  | .rightToLeft :: ds => rightToLeftFits (.rightToLeft :: ds)
  | .arabicLetter :: ds => rightToLeftFits (.arabicLetter :: ds)
  | _ => false

end TlsScan.Net.DomainName
