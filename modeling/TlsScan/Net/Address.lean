import TlsScan.Text.Number
import TlsScan.Text.Split

/-!
# Internet addresses

Addresses of both versions of the internet protocol, read and written in their usual forms.

## Main Definitions

* `Net.Ipv4`, `Net.Ipv6`, `Net.IpAddress` — addresses.
* `Net.IpAddress.parse?`, `Net.IpAddress.text` — their forms.
* `Net.SocketAddress` — an address with a port.

## Design Notes

A text of version 6 is cut at its double colon, which stands for at least one group of
zeros, and both parts are lists of groups.
-/

namespace TlsScan.Net

open Text

/-! ### Version 4 -/

/-- **An address of version 4**: four bytes. -/
structure Ipv4 where
  a : UInt8
  b : UInt8
  c : UInt8
  d : UInt8
  deriving DecidableEq, Repr

namespace Ipv4

/-- Four decimal numbers with points between them. -/
def text (x : Ipv4) : List Char :=
  decimal x.a.toNat ++ '.' :: decimal x.b.toNat ++ '.' :: decimal x.c.toNat
    ++ '.' :: decimal x.d.toNat

/-- A byte in decimal, without leading zeros. -/
def byte? (cs : List Char) : Option UInt8 :=
  match cs with
  | ['0'] => some 0
  | '0' :: _ => none
  | '+' :: _ => none
  | cs =>
    match readBounded 255 cs with
    | .ok n => some (UInt8.ofNat n)
    | .error _ => none

/-- Read four bytes. -/
def parse? (cs : List Char) : Option Ipv4 := do
  match split '.' cs with
  | [a, b, c, d] => return ⟨← byte? a, ← byte? b, ← byte? c, ← byte? d⟩
  | _ => none

/-- The address of a number of 32 bits. -/
def ofNat (n : Nat) : Ipv4 :=
  ⟨.ofNat (n >>> 24), .ofNat (n >>> 16), .ofNat (n >>> 8), .ofNat n⟩

/-- The address as two groups of version 6. -/
def groups (x : Ipv4) : List UInt16 :=
  [.ofNat (x.a.toNat * 256 + x.b.toNat), .ofNat (x.c.toNat * 256 + x.d.toNat)]

end Ipv4

/-! ### Version 6 -/

/-- **An address of version 6**: eight groups of sixteen bits. -/
structure Ipv6 where
  groups : List UInt16
  length_eq : groups.length = 8
  deriving DecidableEq, Repr

namespace Ipv6

/-- The address of a list of groups, if there are eight. -/
def ofGroups? (l : List UInt16) : Option Ipv6 :=
  if h : l.length = 8 then some ⟨l, h⟩ else none

/-! #### Reading -/

/-- A group of one to four hexadecimal digits. -/
def group? (cs : List Char) : Option UInt16 :=
  if cs.isEmpty || 4 < cs.length then none
  else
    (cs.foldl (fun n c => n.bind fun n => (digitValue? 16 c).map fun d => n * 16 + d)
      (some 0)).map UInt16.ofNat

/-- Groups from pieces between colons, of which the last may be an address of version 4. -/
def groupsOf? (last4 : Bool) : List (List Char) → Option (List UInt16)
  | [] => some []
  | [p] =>
    match group? p with
    | some g => some [g]
    | none => if last4 then (Ipv4.parse? p).map Ipv4.groups else none
  | p :: ps => do return (← group? p) :: (← groupsOf? last4 ps)

/-- The groups of one side of a double colon, where there may be none. -/
def side? (last4 : Bool) (cs : List Char) : Option (List UInt16) :=
  if cs.isEmpty then some [] else groupsOf? last4 (split ':' cs)

/-- The parts of a text before and behind its first double colon. -/
def cut? : List Char → Option (List Char × List Char)
  | ':' :: ':' :: cs => some ([], cs)
  | c :: cs => (cut? cs).map fun (l, r) => (c :: l, r)
  | [] => none

/-- **Read an address of version 6.** -/
def parse? (cs : List Char) : Option Ipv6 :=
  match cut? cs with
  | none => (groupsOf? true (split ':' cs)).bind ofGroups?
  | some (l, r) => do
    let left ← side? false l
    let right ← side? true r
    if left.length + right.length ≤ 7 then
      ofGroups? (left ++ List.replicate (8 - left.length - right.length) 0 ++ right)
    else none

/-! #### Writing -/

/-- The length of the run of zeros at the start of a list. -/
def zeros (l : List UInt16) : Nat := (l.takeWhile (· == 0)).length

/-- The place and the length of the longest run of zeros, the first of several.  `place` is
the place of the list itself. -/
def longestZeros (place : Nat) : List UInt16 → Nat × Nat
  | [] => (place, 0)
  | g :: l =>
    let here := zeros (g :: l)
    let later := longestZeros (place + 1) l
    if later.2 ≤ here then (place, here) else later

/-- Groups in hexadecimal with colons between them. -/
def groupsText : List UInt16 → List Char
  | [] => []
  | [g] => Nat.toDigits 16 g.toNat
  | g :: l => Nat.toDigits 16 g.toNat ++ ':' :: groupsText l

/-- The shortest form in hexadecimal: the longest run of at least two zero groups is a
double colon. -/
def compressedText (x : Ipv6) : List Char :=
  let (place, length) := longestZeros 0 x.groups
  if 2 ≤ length then
    groupsText (x.groups.take place) ++ ':' :: ':' :: groupsText (x.groups.drop (place + length))
  else groupsText x.groups

/-- **The usual form**: the shortest one, where an address of version 4 that is mapped into
version 6 is written with points. -/
def text (x : Ipv6) : List Char :=
  match x.groups with
  | [0, 0, 0, 0, 0, 0xffff, g, h] =>
    [':', ':', 'f', 'f', 'f', 'f', ':'] ++ (Ipv4.ofNat (g.toNat * 65536 + h.toNat)).text
  | _ => x.compressedText

end Ipv6

/-! ### Both versions -/

/-- An internet address. -/
inductive IpAddress where
  | v4 (x : Ipv4)
  | v6 (x : Ipv6)
  deriving DecidableEq, Repr

namespace IpAddress

/-- Read an address of either version. -/
def parse? (cs : List Char) : Option IpAddress :=
  match Ipv4.parse? cs with
  | some x => some (v4 x)
  | none => (Ipv6.parse? cs).map v6

/-- The usual form of an address. -/
def text : IpAddress → String
  | v4 x => String.ofList x.text
  | v6 x => String.ofList x.text

end IpAddress

/-- **An address with a port.** -/
structure SocketAddress where
  ip : IpAddress
  port : UInt16
  deriving DecidableEq, Repr

namespace SocketAddress

/-- The address and the port with a colon between them; version 6 stands in brackets. -/
def text (s : SocketAddress) : String :=
  match s.ip with
  | .v4 _ => s.ip.text ++ ":" ++ toString s.port.toNat
  | .v6 _ => "[" ++ s.ip.text ++ "]:" ++ toString s.port.toNat

/-- A number up to a bound that is written with digits alone. -/
def digits? (bound : Nat) (cs : List Char) : Option Nat :=
  match cs with
  | '+' :: _ => none
  | cs =>
    match readBounded bound cs with
    | .ok n => some n
    | .error _ => none

/-- A port. -/
def port? (cs : List Char) : Option UInt16 := (digits? 65535 cs).map UInt16.ofNat

/-- An address of version 6, perhaps with the number of a zone, which does not count. -/
def zoned? (cs : List Char) : Option Ipv6 := do
  match cutFirst? '%' cs with
  | none => Ipv6.parse? cs
  | some (address, zone) =>
    let _ ← digits? (UInt32.size - 1) zone
    Ipv6.parse? address

/-- **Read an address with a port.** -/
def parse? (cs : List Char) : Option SocketAddress := do
  match cs with
  | '[' :: rest =>
    match cutFirst? ']' rest with
    | some (address, ':' :: digits) => return ⟨.v6 (← zoned? address), ← port? digits⟩
    | _ => none
  | cs =>
    match cutFirst? ':' cs with
    | some (address, digits) => return ⟨.v4 (← Ipv4.parse? address), ← port? digits⟩
    | none => none

end SocketAddress

end TlsScan.Net
