import TlsScan.Error
import TlsScan.Fault
import TlsScan.Net.Url
import TlsScan.Text.Blank

/-!
# Targets

What is scanned: a host, a port and the addresses of the host.

## Main Definitions

* `Net.Target` — a target, with its `label`.
* `Net.splitTarget` — the host and the port that a text names.
* `Net.Target.resolve` — the target that a text names, with its addresses.

## Design Notes

A text names a target as a URL, as a host in brackets, as a bare address or as a host with
a port, tried in this order.  How names are looked up is a parameter; a host that is an
address is never looked up.
-/

namespace TlsScan.Net

open Text

/-- **Why a text names no target.** -/
inductive TargetFault where
  | noText
  | url (fault : UrlFault)
  | noHost
  | openBracket
  /-- Something other than a port stands behind the brackets. -/
  | afterBrackets (text : List Char)
  | port (fault : NumberFault)
  deriving DecidableEq, Repr

/-- The fault with its context. -/
def TargetFault.fault : TargetFault → Fault
  | noText => ⟨"Empty target", []⟩
  | url f => ⟨f.message, []⟩
  | noHost => ⟨"No hostname in URL", []⟩
  | openBracket => ⟨"Unterminated IPv6 literal", []⟩
  | afterBrackets text => ⟨"Unexpected text after IPv6 literal: " ++ String.ofList text, []⟩
  | port f => ⟨"Invalid port number", [f.message]⟩

/-- The port used when none is named. -/
def defaultPort : UInt16 := 443

/-- Read a port. -/
def readPort (cs : List Char) : Except NumberFault UInt16 :=
  (readBounded 65535 cs).map UInt16.ofNat

/-- The port that a text names. -/
def namedPort (cs : List Char) : Except TargetFault UInt16 :=
  match readPort cs with
  | .ok port => .ok port
  | .error f => .error (.port f)

/-! ### The forms of a target -/

/-- The host and the port of a URL. -/
def splitUrl (cs : List Char) : Except TargetFault (List Char × UInt16) :=
  match Url.parse cs with
  | .error f => .error (.url f)
  | .ok url =>
    match url.host with
    | none => .error .noHost
    | some host =>
      let name := (host.text.toList.dropWhile (· = '[')).reverse.dropWhile (· = ']')
      .ok (name.reverse, url.port.getD defaultPort)

/-- A host in brackets, behind the opening one. -/
def splitBracketed (cs : List Char) : Except TargetFault (List Char × UInt16) :=
  match cutFirst? ']' cs with
  | none => .error .openBracket
  | some (host, []) => .ok (host, defaultPort)
  | some (host, ':' :: port) => do return (host, ← namedPort port)
  | some (_, tail) => .error (.afterBrackets tail)

/-- A host with a port behind its last colon, or without a port. -/
def splitPlain (cs : List Char) : Except TargetFault (List Char × UInt16) :=
  match cutLast? ':' cs with
  | some (host, port) => do return (host, ← namedPort port)
  | none => .ok (cs, defaultPort)

/-- **The host and the port that a text names.** -/
def splitTarget (text : List Char) : Except TargetFault (List Char × UInt16) :=
  match trim text with
  | [] => .error .noText
  | cs =>
    if contains [':', '/', '/'] cs then splitUrl cs
    else
      match cs with
      | '[' :: rest => splitBracketed rest
      | cs => if (IpAddress.parse? cs).isSome then .ok (cs, defaultPort) else splitPlain cs

/-! ### Targets -/

/-- **What is scanned.** -/
structure Target where
  hostname : String
  port : UInt16
  /-- The addresses of the host, the preferred one first. -/
  addresses : List IpAddress
  deriving DecidableEq, Repr

/-- What is known about the addresses of names. -/
abbrev Lookup := String → Except Fault (List IpAddress)

namespace Target

/-- The target of a known address. -/
def ofAddress (s : SocketAddress) : Target := ⟨s.ip.text, s.port, [s.ip]⟩

/-- The host and the port with a colon between them; a host with colons stands in
brackets. -/
def label (t : Target) : String :=
  if t.hostname.toList.contains ':' then "[" ++ t.hostname ++ "]:" ++ toString t.port.toNat
  else t.hostname ++ ":" ++ toString t.port.toNat

/-- The addresses of the host, each with the port. -/
def socketAddresses (t : Target) : List SocketAddress := t.addresses.map fun ip => ⟨ip, t.port⟩

/-- The preferred address. -/
def primary? (t : Target) : Option IpAddress := t.addresses.head?

/-- The addresses of a host. -/
def addressesOf (lookup : Lookup) (host : List Char) : Except Fault (List IpAddress) :=
  match IpAddress.parse? host with
  | some ip => .ok [ip]
  | none =>
    match lookup (String.ofList host) with
    | .error f => .error f
    | .ok [] => .error ⟨"No IP addresses found for " ++ String.ofList host, []⟩
    | .ok l => .ok l

/-- The target that a text names. -/
def parse (lookup : Lookup) (text : String) : Except Fault Target :=
  match splitTarget text.toList with
  | .error f => .error f.fault
  | .ok (host, port) =>
    (addressesOf lookup host).map fun l => ⟨String.ofList host, port, l⟩

/-- **The target that a text names**, or what keeps a scan of it from starting. -/
def resolve (lookup : Lookup) (text : String) : Except ScanError Target :=
  match parse lookup text with
  | .error f => .error (.setupFailed text f.message)
  | .ok t => .ok t

end Target

end TlsScan.Net
