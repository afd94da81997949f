import TlsScan.Config.Json
import TlsScan.Leak.Fingerprint
import TlsScan.Proofs.Json.Lawful

/-!
# The types that go over the wire

Plans, settings and outcomes, what is made of outcomes, and configurations are all read back
from their texts.

## Main Results

* `Duration.ofParts?_parts` — a span of time is made of its seconds and nanoseconds.
* `wire_types_round_trip` — all of these types are lawful, so that no two values of one of
  them have the same text.
-/

namespace TlsScan

open Json

/-- Nanoseconds below a second are not carried over. -/
theorem Duration.ofParts?_parts (d : Duration) :
    ofParts? d.seconds.toNat d.nanos.val = some d := by
  have hcarry : d.nanos.val / nanosPerSecond = 0 := Nat.div_eq_of_lt d.nanos.isLt
  have hrest : d.nanos.val % nanosPerSecond = d.nanos.val := Nat.mod_eq_of_lt d.nanos.isLt
  have htotal : d.seconds.toNat + d.nanos.val / nanosPerSecond < UInt64.size := by
    rw [hcarry]
    exact d.seconds.toNat_lt
  unfold ofParts?
  rw [dif_pos htotal]
  simp [hcarry, hrest]

instance : Lawful Duration where
  wholeNumbers _ := ⟨trivial, trivial, trivial⟩
  decode?_encode d := by
    have hsecs : (Document.ofJson (ofNat d.seconds.toNat)).natural? (UInt64.size - 1)
        = some d.seconds.toNat :=
      natural?_ofNat (Nat.le_pred_of_lt d.seconds.toNat_lt) (by decide)
    have hnanos : (Document.ofJson (ofNat d.nanos.val)).natural? (UInt32.size - 1)
        = some d.nanos.val := by
      refine natural?_ofNat ?_ (by decide)
      have hsize : nanosPerSecond < UInt32.size := by decide
      exact Nat.le_pred_of_lt (Nat.lt_trans d.nanos.isLt hsize)
    show (if (Document.ofJsonFields
          [("secs", ofNat d.seconds.toNat), ("nanos", ofNat d.nanos.val)]).all
          (fun f => f.1 = some "secs" || f.1 = some "nanos") = true then
        Document.record? _ _ (Document.ofJson
          (.object [("secs", ofNat d.seconds.toNat), ("nanos", ofNat d.nanos.val)])) >>= _
      else none) = _
    rw [if_pos (by simp [Document.ofJsonFields])]
    refine record?_ofJson_bind (by simp) ?_
    show ((Document.ofJson (ofNat d.seconds.toNat)).natural? (UInt64.size - 1) >>= fun secs =>
      (Document.ofJson (ofNat d.nanos.val)).natural? (UInt32.size - 1) >>= fun nanos =>
        Duration.ofParts? secs nanos) = _
    rw [hsecs, hnanos]
    exact Duration.ofParts?_parts d

namespace Engine

instance : Lawful Step where
  wholeNumbers s := by
    cases s with
    | send k => exact ⟨trivial, trivial⟩
    | receive k => exact ⟨trivial, trivial⟩
    | receiveAny => trivial
    | resetConnection => trivial
  decode?_encode s := by
    cases s with
    | send k =>
        show (Codec.decode? (Document.ofJson (Codec.encode k)) >>= _) = _
        rw [decode?_encode]
        rfl
    | receive k =>
        show (Codec.decode? (Document.ofJson (Codec.encode k)) >>= _) = _
        rw [decode?_encode]
        rfl
    | receiveAny => rfl
    | resetConnection => rfl

instance : Lawful Plan where
  wholeNumbers p := ⟨wholeNumbers p.steps, trivial⟩
  decode?_encode p := record?_ofJson_bind (by simp) (by simp [List.lookup_cons])

instance : Lawful Settings where
  wholeNumbers s := ⟨wholeNumbers s.version, wholeNumbers s.cipherSuite,
    wholeNumbers s.serverName, wholeNumbers s.additionalTimeout,
    wholeNumbers s.increasingTimeout, trivial⟩
  decode?_encode s := record?_ofJson_bind (by simp) (by simp [List.lookup_cons])

instance : Lawful Message where
  wholeNumbers m := ⟨wholeNumbers m.kind, wholeNumbers m.detail, trivial⟩
  decode?_encode m := record?_ofJson_bind (by simp) (by simp [List.lookup_cons])

instance : Lawful Outcome where
  wholeNumbers o := ⟨wholeNumbers o.executedSteps, wholeNumbers o.received,
    wholeNumbers o.socketState, trivial⟩
  decode?_encode o := record?_ofJson_bind (by simp) (by simp [List.lookup_cons])

end Engine

namespace Leak

instance : Lawful Fingerprint where
  wholeNumbers f := by
    cases f with
    | observed received socketState =>
        exact ⟨⟨wholeNumbers received, wholeNumbers socketState, trivial⟩, trivial⟩
    | unavailable => trivial
  decode?_encode f := by
    cases f with
    | observed received socketState =>
        show (Document.variant? (Document.ofJson (.object [("Observed", .object
          [("received", Codec.encode received), ("socket_state", Codec.encode socketState)])]))
          >>= _) = _
        rw [variant?_ofJson]
        simp only [Option.bind_eq_bind, Option.bind_some]
        exact record?_ofJson_bind (by simp) (by simp [List.lookup_cons])
    | unavailable => rfl

instance : Lawful Observation where
  wholeNumbers o := ⟨wholeNumbers o.vector, wholeNumbers o.fingerprint, trivial⟩
  decode?_encode o := record?_ofJson_bind (by simp) (by simp [List.lookup_cons])

end Leak

instance : Lawful Config where
  wholeNumbers c := ⟨wholeNumbers c.threads, wholeNumbers c.thoroughness,
    wholeNumbers c.watchdogMillis, wholeNumbers c.forceJoinMillis,
    wholeNumbers c.connectMillis, wholeNumbers c.checkReachability, trivial⟩
  decode?_encode c := record?_ofJson_bind (by simp) (by simp [List.lookup_cons])

/-- **The types that go over the wire round-trip.**  Every plan, settings, outcome, message,
fingerprint, observation and configuration is read back from its compact text, and two
different values of one type never have the same text. -/
theorem wire_types_round_trip :
    RoundTrips Engine.Plan ∧ RoundTrips Engine.Settings ∧ RoundTrips Engine.Outcome
      ∧ RoundTrips Engine.Message ∧ RoundTrips Leak.Fingerprint
      ∧ RoundTrips Leak.Observation ∧ RoundTrips Config :=
  ⟨Lawful.roundTrips _, Lawful.roundTrips _, Lawful.roundTrips _, Lawful.roundTrips _,
    Lawful.roundTrips _, Lawful.roundTrips _, Lawful.roundTrips _⟩

end TlsScan
