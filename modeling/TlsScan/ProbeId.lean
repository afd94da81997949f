import TlsScan.Vocabulary

/-!
# Probe identities

Every unit of scan work has an identity, under which its result is filed.

## Main Definitions

* `ProbeId` — the identities.
* `FactSet` — the two sets of supported values that results may add to.
-/

namespace TlsScan

/-- The identity of a probe. -/
inductive ProbeId where
  | protocolVersion | cipherSuite | cipherSuiteOrder | extensions | certificate
  | compression | namedGroups | signatureAndHash | resumption | sessionTicket
  | renegotiation | alpn | earlyData | helloRetryRequest | connectionClosing
  | commonBugs | dtlsBugs | heartbleed | paddingOracle | bleichenbacher | poodle
  | tlsPoodle | invalidCurve | drown
  deriving DecidableEq, Repr, Inhabited

namespace ProbeId

instance : Vocabulary ProbeId where
  values :=
    [protocolVersion, cipherSuite, cipherSuiteOrder, extensions, certificate,
     compression, namedGroups, signatureAndHash, resumption, sessionTicket,
     renegotiation, alpn, earlyData, helloRetryRequest, connectionClosing,
     commonBugs, dtlsBugs, heartbleed, paddingOracle, bleichenbacher, poodle,
     tlsPoodle, invalidCurve, drown]
  word
    | protocolVersion => "ProtocolVersion"
    | cipherSuite => "CipherSuite"
    | cipherSuiteOrder => "CipherSuiteOrder"
    | extensions => "Extensions"
    | certificate => "Certificate"
    | compression => "Compression"
    | namedGroups => "NamedGroups"
    | signatureAndHash => "SignatureAndHash"
    | resumption => "Resumption"
    | sessionTicket => "SessionTicket"
    | renegotiation => "Renegotiation"
    | alpn => "Alpn"
    | earlyData => "EarlyData"
    | helloRetryRequest => "HelloRetryRequest"
    | connectionClosing => "ConnectionClosing"
    | commonBugs => "CommonBugs"
    | dtlsBugs => "DtlsBugs"
    | heartbleed => "Heartbleed"
    | paddingOracle => "PaddingOracle"
    | bleichenbacher => "Bleichenbacher"
    | poodle => "Poodle"
    | tlsPoodle => "TlsPoodle"
    | invalidCurve => "InvalidCurve"
    | drown => "Drown"
  complete a := by cases a <;> decide
  distinct := by decide

/-- The name shown in messages. -/
def name (p : ProbeId) : String := Vocabulary.word p

end ProbeId

/-- A set of supported values that a result can add to besides its properties. -/
inductive FactSet where
  | versions | extensions
  deriving DecidableEq, Repr, Inhabited

namespace FactSet

instance : Vocabulary FactSet where
  values := [versions, extensions]
  word
    | versions => "Versions"
    | extensions => "Extensions"
  complete a := by cases a <;> decide
  distinct := by decide

/-- The name shown in messages. -/
def name : FactSet → String
  | versions => "protocol versions"
  | extensions => "extensions"

end FactSet

end TlsScan
