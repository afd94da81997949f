import TlsScan.Vocabulary

/-!
# Protocol versions, extensions and thoroughness

The closed lists of protocol facts that a scan talks about, with their names on the wire
and on the screen.

## Main Definitions

* `ProtocolVersion` — SSL, TLS and DTLS versions, with `wireValue`, `name` and `parse?`.
* `Extension` — the tracked TLS extensions, with their code points.
* `Thoroughness` — how exhaustive a scan is, from `quick` to `all`.
-/

namespace TlsScan

/-! ### Protocol versions -/

/-- A protocol version that a target may support. -/
inductive ProtocolVersion where
  | ssl2 | ssl3 | tls10 | tls11 | tls12 | tls13 | dtls10 | dtls12
  deriving DecidableEq, Repr, Inhabited

namespace ProtocolVersion

instance : Vocabulary ProtocolVersion where
  values := [ssl2, ssl3, tls10, tls11, tls12, tls13, dtls10, dtls12]
  word
    | ssl2 => "SSLv2" | ssl3 => "SSLv3"
    | tls10 => "TLS10" | tls11 => "TLS11" | tls12 => "TLS12" | tls13 => "TLS13"
    | dtls10 => "DTLS10" | dtls12 => "DTLS12"
  complete a := by cases a <;> decide
  distinct := by decide

/-- The version as it is written in a handshake. -/
def wireValue : ProtocolVersion → UInt16
  | ssl2 => 0x0002 | ssl3 => 0x0300
  | tls10 => 0x0301 | tls11 => 0x0302 | tls12 => 0x0303 | tls13 => 0x0304
  | dtls10 => 0xfeff | dtls12 => 0xfefd

/-- The name shown to people. -/
def name : ProtocolVersion → String
  | ssl2 => "SSLv2" | ssl3 => "SSLv3"
  | tls10 => "TLS 1.0" | tls11 => "TLS 1.1" | tls12 => "TLS 1.2" | tls13 => "TLS 1.3"
  | dtls10 => "DTLS 1.0" | dtls12 => "DTLS 1.2"

/-- One of the two SSL versions. -/
def isSsl (v : ProtocolVersion) : Bool := v = ssl2 || v = ssl3

/-- TLS 1.3. -/
def isTls13 (v : ProtocolVersion) : Bool := v = tls13

/-- One of the two datagram versions. -/
def isDtls (v : ProtocolVersion) : Bool := v = dtls10 || v = dtls12

/-- The versions that run over a stream, oldest first. -/
def stream : List ProtocolVersion := [ssl2, ssl3, tls10, tls11, tls12, tls13]

/-- The spellings under which a version is recognised: its name, the `v` form that tools
print, and `TLSv1` for TLS 1.0. -/
def spellings : ProtocolVersion → List String
  | ssl2 => ["SSLv2", "SSL 2.0"]
  | ssl3 => ["SSLv3", "SSL 3.0"]
  | tls10 => ["TLS 1.0", "TLSv1.0", "TLSv1"]
  | tls11 => ["TLS 1.1", "TLSv1.1"]
  | tls12 => ["TLS 1.2", "TLSv1.2"]
  | tls13 => ["TLS 1.3", "TLSv1.3"]
  | dtls10 => ["DTLS 1.0", "DTLSv1.0"]
  | dtls12 => ["DTLS 1.2", "DTLSv1.2"]

/-- The version that a text spells, compared letter by letter. -/
def parse? (text : String) : Option ProtocolVersion :=
  (Vocabulary.values : List ProtocolVersion).find? fun v => v.spellings.contains text

/-- What is said of a text that spells no version. -/
def unknownMessage (text : String) : String := "Unknown protocol version: " ++ text

/-- Every name is one of the recognised spellings, and spells its own version. -/
@[simp] theorem parse?_name (v : ProtocolVersion) : parse? v.name = some v := by
  cases v <;> decide

end ProtocolVersion

/-! ### Extensions -/

/-- A four-digit lower-case hexadecimal number. -/
def hex4 (n : UInt16) : String :=
  let digits := Nat.toDigits 16 n.toNat
  String.ofList (List.replicate (4 - digits.length) '0' ++ digits)

/-- A TLS extension that reports keep track of. -/
inductive Extension where
  | serverNameIndication | maxFragmentLength | statusRequest | supportedGroups
  | ecPointFormats | signatureAlgorithms | heartbeat | alpn
  | signedCertificateTimestamp | encryptThenMac | extendedMasterSecret | sessionTicket
  | preSharedKey | earlyData | supportedVersions | cookie | pskKeyExchangeModes
  | keyShare | renegotiationInfo
  deriving DecidableEq, Repr, Inhabited

namespace Extension

instance : Vocabulary Extension where
  values :=
    [serverNameIndication, maxFragmentLength, statusRequest, supportedGroups,
     ecPointFormats, signatureAlgorithms, heartbeat, alpn,
     signedCertificateTimestamp, encryptThenMac, extendedMasterSecret, sessionTicket,
     preSharedKey, earlyData, supportedVersions, cookie, pskKeyExchangeModes,
     keyShare, renegotiationInfo]
  word
    | serverNameIndication => "ServerNameIndication"
    | maxFragmentLength => "MaxFragmentLength"
    | statusRequest => "StatusRequest"
    | supportedGroups => "SupportedGroups"
    | ecPointFormats => "EcPointFormats"
    | signatureAlgorithms => "SignatureAlgorithms"
    | heartbeat => "Heartbeat"
    | alpn => "Alpn"
    | signedCertificateTimestamp => "SignedCertificateTimestamp"
    | encryptThenMac => "EncryptThenMac"
    | extendedMasterSecret => "ExtendedMasterSecret"
    | sessionTicket => "SessionTicket"
    | preSharedKey => "PreSharedKey"
    | earlyData => "EarlyData"
    | supportedVersions => "SupportedVersions"
    | cookie => "Cookie"
    | pskKeyExchangeModes => "PskKeyExchangeModes"
    | keyShare => "KeyShare"
    | renegotiationInfo => "RenegotiationInfo"
  complete a := by cases a <;> decide
  distinct := by decide

/-- The code point registered for an extension. -/
def code : Extension → UInt16
  | serverNameIndication => 0x0000
  | maxFragmentLength => 0x0001
  | statusRequest => 0x0005
  | supportedGroups => 0x000a
  | ecPointFormats => 0x000b
  | signatureAlgorithms => 0x000d
  | heartbeat => 0x000f
  | alpn => 0x0010
  | signedCertificateTimestamp => 0x0012
  | encryptThenMac => 0x0016
  | extendedMasterSecret => 0x0017
  | sessionTicket => 0x0023
  | preSharedKey => 0x0029
  | earlyData => 0x002a
  | supportedVersions => 0x002b
  | cookie => 0x002c
  | pskKeyExchangeModes => 0x002d
  | keyShare => 0x0033
  | renegotiationInfo => 0xff01

/-- The extension with a code point. -/
def ofCode? (code : UInt16) : Option Extension :=
  (Vocabulary.values : List Extension).find? fun e => e.code == code

/-- The name shown to people, with the code point behind it. -/
def display (e : Extension) : String :=
  Vocabulary.word e ++ " (0x" ++ hex4 e.code ++ ")"

/-- No two extensions share a code point. -/
@[simp] theorem ofCode?_code (e : Extension) : ofCode? e.code = some e := by
  cases e <;> decide

end Extension

/-! ### Thoroughness -/

/-- How exhaustive a scan is, from the fastest to the slowest. -/
inductive Thoroughness where
  | quick | normal | detailed | all
  deriving DecidableEq, Repr

namespace Thoroughness

instance : Vocabulary Thoroughness where
  values := [quick, normal, detailed, all]
  word
    | quick => "quick" | normal => "normal" | detailed => "detailed" | all => "all"
  complete a := by cases a <;> decide
  distinct := by decide

instance : Inhabited Thoroughness := ⟨normal⟩

/-- `a` is at least as thorough as `b`. -/
def atLeast (a b : Thoroughness) : Bool :=
  Vocabulary.rank b ≤ Vocabulary.rank a

end Thoroughness

end TlsScan
