import TlsScan.Vocabulary

/-!
# Properties and findings

A property is a fact about the target that probes write and requirements read; a finding
is the value it was found to have.

## Main Definitions

* `Finding` — the outcome of testing one property, conclusive or a failure marker.
* `Property` — the properties of a target.
-/

namespace TlsScan

/-- **The outcome of testing one property.**  The first three are conclusive; the others
say that, and why, nothing was established. -/
inductive Finding where
  | holds | fails | partially
  | uncertain | notTestedYet | couldNotTest | cannotBeTested | errorDuringTest | timeout
  deriving DecidableEq, Repr, Inhabited

namespace Finding

instance : Vocabulary Finding where
  values :=
    [holds, fails, partially, uncertain, notTestedYet, couldNotTest, cannotBeTested,
     errorDuringTest, timeout]
  word
    | holds => "TRUE"
    | fails => "FALSE"
    | partially => "PARTIALLY"
    | uncertain => "UNCERTAIN"
    | notTestedYet => "NOT_TESTED_YET"
    | couldNotTest => "COULD_NOT_TEST"
    | cannotBeTested => "CANNOT_BE_TESTED"
    | errorDuringTest => "ERROR_DURING_TEST"
    | timeout => "TIMEOUT"
  complete a := by cases a <;> decide
  distinct := by decide

/-- A yes is `holds`, a no is `fails`. -/
def ofBool (b : Bool) : Finding := if b then holds else fails

/-- A definite finding rather than a failure marker. -/
def isConclusive : Finding → Bool
  | holds | fails | partially => true
  | _ => false

/-- The finding that stays when one is offered after another: a conclusive finding is never
replaced by a failure marker. -/
def settledAfter (offered : Finding) : Option Finding → Finding
  | some current =>
    if current.isConclusive && !offered.isConclusive then current else offered
  | none => offered

end Finding

/-- A property of the target. -/
inductive Property where
  | supportsRsa | supportsDh | supportsEcdh | supportsBlockCiphers
  | supportsSessionIdResumption | supportsSessionTicketResumption
  | supportsTls13SessionTickets | supportsTls13PskDhe | supportsTls13Psk
  | supportsTls13ZeroRtt | supportsTls13PskExchangeModes
  | supportsDtlsCookieExchangeInSessionIdResumption
  | supportsDtlsCookieExchangeInSessionTicketResumption
  | supportsHeartbeat | acceptsUnencryptedFinished | acceptsUnencryptedAppData
  | hasEarlyFinishedBug | respectsSignatureAlgorithmsExtension
  | vulnerableToBleichenbacher | vulnerableToPaddingOracle | vulnerableToPoodle
  | vulnerableToTlsPoodle | vulnerableToHeartbleed
  deriving DecidableEq, Repr, Inhabited

namespace Property

instance : Vocabulary Property where
  values :=
    [supportsRsa, supportsDh, supportsEcdh, supportsBlockCiphers,
     supportsSessionIdResumption, supportsSessionTicketResumption,
     supportsTls13SessionTickets, supportsTls13PskDhe, supportsTls13Psk,
     supportsTls13ZeroRtt, supportsTls13PskExchangeModes,
     supportsDtlsCookieExchangeInSessionIdResumption,
     supportsDtlsCookieExchangeInSessionTicketResumption,
     supportsHeartbeat, acceptsUnencryptedFinished, acceptsUnencryptedAppData,
     hasEarlyFinishedBug, respectsSignatureAlgorithmsExtension,
     vulnerableToBleichenbacher, vulnerableToPaddingOracle, vulnerableToPoodle,
     vulnerableToTlsPoodle, vulnerableToHeartbleed]
  word
    | supportsRsa => "SUPPORTS_RSA"
    | supportsDh => "SUPPORTS_DH"
    | supportsEcdh => "SUPPORTS_ECDH"
    | supportsBlockCiphers => "SUPPORTS_BLOCK_CIPHERS"
    | supportsSessionIdResumption => "SUPPORTS_SESSION_ID_RESUMPTION"
    | supportsSessionTicketResumption => "SUPPORTS_SESSION_TICKET_RESUMPTION"
    | supportsTls13SessionTickets => "SUPPORTS_TLS13_SESSION_TICKETS"
    | supportsTls13PskDhe => "SUPPORTS_TLS13_PSK_DHE"
    | supportsTls13Psk => "SUPPORTS_TLS13_PSK"
    | supportsTls13ZeroRtt => "SUPPORTS_TLS13_ZERO_RTT"
    | supportsTls13PskExchangeModes => "SUPPORTS_TLS13_PSK_EXCHANGE_MODES"
    | supportsDtlsCookieExchangeInSessionIdResumption =>
      "SUPPORTS_DTLS_COOKIE_EXCHANGE_IN_SESSION_ID_RESUMPTION"
    | supportsDtlsCookieExchangeInSessionTicketResumption =>
      "SUPPORTS_DTLS_COOKIE_EXCHANGE_IN_SESSION_TICKET_RESUMPTION"
    | supportsHeartbeat => "SUPPORTS_HEARTBEAT"
    | acceptsUnencryptedFinished => "ACCEPTS_UNENCRYPTED_FINISHED"
    | acceptsUnencryptedAppData => "ACCEPTS_UNENCRYPTED_APP_DATA"
    | hasEarlyFinishedBug => "HAS_EARLY_FINISHED_BUG"
    | respectsSignatureAlgorithmsExtension => "RESPECTS_SIGNATURE_ALGORITHMS_EXTENSION"
    | vulnerableToBleichenbacher => "VULNERABLE_TO_BLEICHENBACHER"
    | vulnerableToPaddingOracle => "VULNERABLE_TO_PADDING_ORACLE"
    | vulnerableToPoodle => "VULNERABLE_TO_POODLE"
    | vulnerableToTlsPoodle => "VULNERABLE_TO_TLS_POODLE"
    | vulnerableToHeartbleed => "VULNERABLE_TO_HEARTBLEED"
  complete a := by cases a <;> decide
  distinct := by decide

/-- The name shown in messages. -/
def name : Property → String
  | supportsRsa => "SupportsRsa"
  | supportsDh => "SupportsDh"
  | supportsEcdh => "SupportsEcdh"
  | supportsBlockCiphers => "SupportsBlockCiphers"
  | supportsSessionIdResumption => "SupportsSessionIdResumption"
  | supportsSessionTicketResumption => "SupportsSessionTicketResumption"
  | supportsTls13SessionTickets => "SupportsTls13SessionTickets"
  | supportsTls13PskDhe => "SupportsTls13PskDhe"
  | supportsTls13Psk => "SupportsTls13Psk"
  | supportsTls13ZeroRtt => "SupportsTls13ZeroRtt"
  | supportsTls13PskExchangeModes => "SupportsTls13PskExchangeModes"
  | supportsDtlsCookieExchangeInSessionIdResumption =>
    "SupportsDtlsCookieExchangeInSessionIdResumption"
  | supportsDtlsCookieExchangeInSessionTicketResumption =>
    "SupportsDtlsCookieExchangeInSessionTicketResumption"
  | supportsHeartbeat => "SupportsHeartbeat"
  | acceptsUnencryptedFinished => "AcceptsUnencryptedFinished"
  | acceptsUnencryptedAppData => "AcceptsUnencryptedAppData"
  | hasEarlyFinishedBug => "HasEarlyFinishedBug"
  | respectsSignatureAlgorithmsExtension => "RespectsSignatureAlgorithmsExtension"
  | vulnerableToBleichenbacher => "VulnerableToBleichenbacher"
  | vulnerableToPaddingOracle => "VulnerableToPaddingOracle"
  | vulnerableToPoodle => "VulnerableToPoodle"
  | vulnerableToTlsPoodle => "VulnerableToTlsPoodle"
  | vulnerableToHeartbleed => "VulnerableToHeartbleed"

end Property

end TlsScan
