import TlsScan.Engine
import TlsScan.Json.Codec

/-!
# Engine values in JSON

The written forms of plans, settings and outcomes.
-/

namespace TlsScan

open Json

/-- Seconds and nanoseconds.  Nanoseconds beyond a second are carried over; fields of other
names are refused. -/
instance : Codec Duration where
  encode d :=
    .object [("secs", Codec.encode d.seconds), ("nanos", .ofNat d.nanos.val)]
  decode? d := do
    let known := match d with
      | .object fields => fields.all fun f => f.1 = some "secs" || f.1 = some "nanos"
      | _ => true
    if known then
      match ← d.record? ["secs", "nanos"] 2 with
      | [some secs, some nanos] =>
        Duration.ofParts? (← secs.natural? (UInt64.size - 1)) (← nanos.natural? (UInt32.size - 1))
      | _ => none
    else none

namespace Engine

instance : Codec Step where
  encode
    | .send kind => .object [("Send", Codec.encode kind)]
    | .receive kind => .object [("Receive", Codec.encode kind)]
    | .receiveAny => .text "ReceiveAny"
    | .resetConnection => .text "ResetConnection"
  decode? d := do
    match ← d.variant? with
    | ("Send", some kind) => return .send (← Codec.decode? kind)
    | ("Receive", some kind) => return .receive (← Codec.decode? kind)
    | _ =>
      match ← d.plainVariant? with
      | "ReceiveAny" => some .receiveAny
      | "ResetConnection" => some .resetConnection
      | _ => none

instance : Codec Plan where
  encode p := .object [("steps", Codec.encode p.steps)]
  decode? d := do
    match ← d.record? ["steps"] 1 with
    | [steps] => return ⟨← required? steps⟩
    | _ => none

instance : Codec Settings where
  encode s :=
    .object
      [("version", Codec.encode s.version), ("cipher_suite", Codec.encode s.cipherSuite),
       ("sni_name", Codec.encode s.serverName),
       ("additional_timeout", Codec.encode s.additionalTimeout),
       ("increasing_timeout", Codec.encode s.increasingTimeout)]
  decode? d := do
    match ← d.record? ["version", "cipher_suite", "sni_name", "additional_timeout",
        "increasing_timeout"] 5 with
    | [version, cipherSuite, serverName, additionalTimeout, increasingTimeout] =>
      return ⟨← required? version, ← optional? cipherSuite, ← optional? serverName,
        ← required? additionalTimeout, ← required? increasingTimeout⟩
    | _ => none

instance : Codec Message where
  encode m := .object [("kind", Codec.encode m.kind), ("detail", Codec.encode m.detail)]
  decode? d := do
    match ← d.record? ["kind", "detail"] 2 with
    | [kind, detail] => return ⟨← required? kind, ← optional? detail⟩
    | _ => none

instance : Codec Outcome where
  encode o :=
    .object
      [("executed_steps", Codec.encode o.executedSteps),
       ("received", Codec.encode o.received),
       ("socket_state", Codec.encode o.socketState)]
  decode? d := do
    match ← d.record? ["executed_steps", "received", "socket_state"] 3 with
    | [executedSteps, received, socketState] =>
      return ⟨← required? executedSteps, ← required? received, ← required? socketState⟩
    | _ => none

end Engine

end TlsScan
