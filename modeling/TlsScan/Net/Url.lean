import TlsScan.Net.Address
import TlsScan.Net.DomainName

/-!
# URLs

The host and the port of an absolute URL, by the rules of the URL standard.

## Main Definitions

* `Net.UrlFault` — why a text is no URL.
* `Net.Url` — scheme, host and port of a URL.
* `Net.Url.parse` — reads them.

## Design Notes

Tabs and line breaks inside a URL do not count, so they are dropped before anything else.
Nothing behind the host and the port can be wrong, so it is not read, but for a drive
letter in a file URL, which undoes its host.
-/

namespace TlsScan.Net

open Text

/-- **Why a text is no URL.** -/
inductive UrlFault where
  | emptyHost
  | invalidDomainName
  | invalidPort
  | invalidIpv4
  | invalidIpv6
  | invalidHostCharacter
  | noScheme
  deriving DecidableEq, Repr

/-- The wording of a fault. -/
def UrlFault.message : UrlFault → String
  | emptyHost => "empty host"
  | invalidDomainName => "invalid international domain name"
  | invalidPort => "invalid port number"
  | invalidIpv4 => "invalid IPv4 address"
  | invalidIpv6 => "invalid IPv6 address"
  | invalidHostCharacter => "invalid domain character"
  | noScheme => "relative URL without a base"

namespace Url

/-! ### Schemes -/

/-- How the rest of a URL is read. -/
inductive Kind where
  /-- The scheme of files. -/
  | file
  /-- A scheme of the web, with its default port. -/
  | web (defaultPort : UInt16)
  /-- Any other scheme. -/
  | other
  deriving DecidableEq, Repr

/-- The kind of a scheme in lower case. -/
def kindOf (scheme : String) : Kind :=
  match scheme with
  | "file" => .file
  | "http" => .web 80
  | "ws" => .web 80
  | "https" => .web 443
  | "wss" => .web 443
  | "ftp" => .web 21
  | _ => .other

/-- Whether a backslash counts as a slash. -/
def Kind.isSpecial : Kind → Bool
  | other => false
  | _ => true

/-- A character of a scheme behind its first letter. -/
def isSchemeChar (c : Char) : Bool := c.isAlphanum || c = '+' || c = '-' || c = '.'

/-- The scheme in lower case, and what follows its colon. -/
def scheme? (cs : List Char) : Option (String × List Char) :=
  match cs with
  | c :: _ =>
    if c.isAlpha then
      match cs.dropWhile isSchemeChar with
      | ':' :: rest =>
        some (String.ofList ((cs.takeWhile isSchemeChar).map Char.toLower), rest)
      | _ => none
    else none
  | [] => none

/-- Whether a character ends the part of a URL that names the host. -/
def endsAuthority (k : Kind) (c : Char) : Bool :=
  c = '/' || c = '?' || c = '#' || (k.isSpecial && c = '\\')

/-! ### Hosts -/

/-- A host. -/
inductive Host where
  | domain (name : String)
  | v4 (x : Ipv4)
  | v6 (x : Ipv6)
  deriving DecidableEq, Repr

/-- The text of a host, version 6 without brackets. -/
def Host.text : Host → String
  | domain name => name
  | v4 x => String.ofList x.text
  | v6 x => String.ofList x.compressedText

/-- A part of an address of version 4: decimal, octal behind a zero, hexadecimal behind
`0x`.  Outside `none` it is no number; inside `none` it is too large. -/
def ipv4Number? (cs : List Char) : Option (Option Nat) :=
  let (base, ds) := match cs with
    | '0' :: 'x' :: ds => (16, ds)
    | '0' :: 'X' :: ds => (16, ds)
    | '0' :: d :: ds => (8, d :: ds)
    | ds => (10, ds)
  if cs.isEmpty then none
  else if ds.all fun c => (digitValue? base c).isSome then
    let v := ds.foldl (fun v c => v * base + (digitValue? base c).getD 0) 0
    some (if v < UInt32.size then some v else none)
  else none

/-- The parts of a domain between points, without an empty last one. -/
def ipv4Parts (cs : List Char) : List (List Char) :=
  match (split '.' cs).reverse with
  | [] :: ps => ps.reverse
  | ps => ps.reverse

/-- Whether the last part of a domain is a number, so that it has to be an address. -/
def endsInNumber (cs : List Char) : Bool :=
  match (ipv4Parts cs).getLast? with
  | some p => (!p.isEmpty && p.all Char.isDigit) || (ipv4Number? p).isSome
  | none => false

/-- An address of version 4 of one to four numbers, of which the last fills what the
others leave. -/
def ipv4? (cs : List Char) : Option Ipv4 := do
  let parts := ipv4Parts cs
  if 4 < parts.length then none
  else
    let numbers ← parts.mapM fun p => (ipv4Number? p).bind id
    match numbers.reverse with
    | [] => none
    | last :: front =>
      if last < Nat.pow 256 (4 - front.length) ∧ front.all (· ≤ 255) then
        let high := front.reverse.foldl (fun v n => v * 256 + n) 0
        some (.ofNat (high * Nat.pow 256 (4 - front.length) + last))
      else none

/-- A host in brackets. -/
def bracketed (cs : List Char) : Except UrlFault Host :=
  match cs.getLast? with
  | some ']' =>
    match Ipv6.parse? cs.dropLast with
    | some x => .ok (.v6 x)
    | none => .error .invalidIpv6
  | _ => .error .invalidIpv6

/-- A host of a scheme of the web or of files: an address, or a domain name. -/
def specialHost (cs : List Char) : Except UrlFault Host :=
  match cs with
  | '[' :: rest => bracketed rest
  | cs =>
    match DomainName.toAscii? cs with
    | none => .error .invalidDomainName
    | some [] => .error .emptyHost
    | some name =>
      if endsInNumber name then
        match ipv4? name with
        | some x => .ok (.v4 x)
        | none => .error .invalidIpv4
      else .ok (.domain (String.ofList name))

/-- A character that no host has. -/
def isForbidden (c : Char) : Bool :=
  c = '\x00' || c = '\t' || c = '\n' || c = '\r' || c = ' ' || c = '#' || c = '/' || c = ':'
    || c = '<' || c = '>' || c = '?' || c = '@' || c = '[' || c = '\\' || c = ']' || c = '^'
    || c = '|'

/-- A byte behind a percent sign. -/
def percentEncoded (b : UInt8) : List Char :=
  let digit (n : Nat) : Char := (Nat.digitChar n).toUpper
  ['%', digit (b.toNat / 16), digit (b.toNat % 16)]

/-- A character of a host of any other scheme: control characters and all that are not
ASCII are written as their bytes. -/
def encodeChar (c : Char) : List Char :=
  if 0x20 ≤ c.toNat ∧ c.toNat < 0x7f then [c]
  else (String.singleton c).toUTF8.toList.flatMap percentEncoded

/-- A host of any other scheme. -/
def otherHost (cs : List Char) : Except UrlFault Host :=
  match cs with
  | '[' :: rest => bracketed rest
  | cs =>
    if cs.any isForbidden then .error .invalidHostCharacter
    else .ok (.domain (String.ofList (cs.flatMap encodeChar)))

/-! ### Authorities -/

/-- The characters of the host, and what follows: a colon ends it outside of brackets. -/
def takeHost (k : Kind) (inBrackets : Bool) : List Char → List Char × List Char
  | [] => ([], [])
  | c :: cs =>
    if (c = ':' && !inBrackets) || endsAuthority k c then ([], c :: cs)
    else
      let inside := if c = '[' then true else if c = ']' then false else inBrackets
      let (host, rest) := takeHost k inside cs
      (c :: host, rest)

/-- The characters behind the last at sign of the authority, with those before it. -/
def userInfo? (k : Kind) (cs : List Char) : Option (List Char × List Char) :=
  let authority := cs.takeWhile fun c => !endsAuthority k c
  (cutLast? '@' authority).map fun (user, host) => (user, host ++ cs.drop authority.length)

/-- The port that digits write: none without digits, and none if it is the default one. -/
def portOf (k : Kind) (cs : List Char) : Except UrlFault (Option UInt16) :=
  let digits := cs.takeWhile Char.isDigit
  let value := digits.foldl (fun v c => v * 10 + (digitValue? 10 c).getD 0) 0
  let ended := match cs.drop digits.length with
    | [] => true
    | c :: _ => c = '/' || c = '\\' || c = '?' || c = '#'
  if 65535 < value || !ended then .error .invalidPort
  else
    let port := UInt16.ofNat value
    .ok (if digits.isEmpty || k = .web port then none else some port)

/-- The host and the port behind the user. -/
def hostAndPort (k : Kind) (cs : List Char) :
    Except UrlFault (Host × Option UInt16) := do
  let (text, rest) := takeHost k false cs
  if k.isSpecial && text.isEmpty then .error .emptyHost
  else
    let host ← if k.isSpecial then specialHost text else otherHost text
    match rest with
    | ':' :: digits =>
      if host = .domain "" then .error .emptyHost
      else return (host, ← portOf k digits)
    | _ => return (host, none)

/-- Whether a user names something: a colon alone does not. -/
def namesUser (user : List Char) : Bool :=
  !user.isEmpty && user ≠ [':']

/-- The host and the port behind two slashes; an empty host is none. -/
def authority (k : Kind) (cs : List Char) :
    Except UrlFault (Option Host × Option UInt16) :=
  match userInfo? k cs with
  | none => do
    let (host, port) ← hostAndPort k cs
    return (if host = .domain "" then none else some host, port)
  | some (user, rest) =>
    let endsAtOnce := match rest with
      | c :: _ => endsAuthority k c
      | [] => false
    if user.isEmpty && endsAtOnce then .error .emptyHost
    else do
      let (host, port) ← hostAndPort k rest
      if host = .domain "" then
        if namesUser user then .error .emptyHost else return (none, port)
      else return (some host, port)

/-! ### Files -/

/-- A letter and a colon or a bar. -/
def isDriveLetter : List Char → Bool
  | [c, d] => c.isAlpha && (d = ':' || d = '|')
  | _ => false

/-- Whether a path segment stands for the directory itself. -/
def isSingleDot (cs : List Char) : Bool :=
  cs = ['.'] || cs = ['%', '2', 'e'] || cs = ['%', '2', 'E']

/-- Whether a path segment stands for the directory above. -/
def isDoubleDot (cs : List Char) : Bool :=
  match cs with
  | '.' :: rest => isSingleDot rest
  | '%' :: '2' :: e :: rest => (e = 'e' || e = 'E') && isSingleDot rest
  | _ => false

/-- Whether the first segment of a path is a drive letter, once segments for directories
have been carried out.  `depth` segments come before. -/
def startsWithDrive (depth : Nat) : List (List Char) → Bool
  | [] => false
  | s :: rest =>
    if isDoubleDot s then startsWithDrive (depth - 1) rest
    else if isSingleDot s then startsWithDrive depth rest
    else if depth = 0 && isDriveLetter s then true
    else startsWithDrive (depth + 1) rest

/-- The segments of a path. -/
def segments (cs : List Char) : List (List Char) :=
  let path := cs.takeWhile fun c => c ≠ '?' && c ≠ '#'
  split '/' (path.map fun c => if c = '\\' then '/' else c)

/-- The host of a file URL behind two slashes.  The local host is none, and so is any host
of a path on a drive. -/
def fileHost (cs : List Char) : Except UrlFault (Option Host) := do
  let text := cs.takeWhile fun c => !endsAuthority .file c
  if text.isEmpty || isDriveLetter text then return none
  else
    let host ← specialHost text
    if host = .domain "localhost" then return none
    else
      match segments (cs.drop text.length) with
      | _ :: path => return if startsWithDrive 0 path then none else some host
      | [] => return some host

/-! ### URLs -/

/-- Whether a character is a slash for a special scheme. -/
def isSlash (c : Char) : Bool := c = '/' || c = '\\'

/-- A control character or a space. -/
def isControlOrSpace (c : Char) : Bool := c.toNat ≤ 0x20

/-- The characters that count: ends are trimmed, tabs and line breaks dropped. -/
def clean (cs : List Char) : List Char :=
  let cs := cs.dropWhile isControlOrSpace
  let cs := (cs.reverse.dropWhile isControlOrSpace).reverse
  cs.filter fun c => c ≠ '\t' && c ≠ '\n' && c ≠ '\r'

end Url

/-- **What a URL says about where to connect.** -/
structure Url where
  scheme : String
  host : Option Url.Host
  /-- The port, unless it is the default one of the scheme. -/
  port : Option UInt16
  deriving DecidableEq, Repr

namespace Url

/-- **Read a URL.** -/
def parse (cs : List Char) : Except UrlFault Url :=
  match scheme? (clean cs) with
  | none => .error .noScheme
  | some (scheme, rest) =>
    match kindOf scheme with
    | .file =>
      match rest with
      | c :: d :: rest =>
        if isSlash c && isSlash d then do return ⟨scheme, ← fileHost rest, none⟩
        else .ok ⟨scheme, none, none⟩
      | _ => .ok ⟨scheme, none, none⟩
    | .web port => do
      let (host, port) ← authority (.web port) (rest.dropWhile isSlash)
      return ⟨scheme, host, port⟩
    | .other =>
      match rest with
      | '/' :: '/' :: rest => do
        let (host, port) ← authority .other rest
        return ⟨scheme, host, port⟩
      | _ => .ok ⟨scheme, none, none⟩

end Url

end TlsScan.Net
