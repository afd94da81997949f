import TlsScan.Engine.Json

/-!
# Fingerprints

What a target's reaction to one request looks like, and the order in which reactions are
listed.

## Main Definitions

* `Leak.Fingerprint` — the visible reaction to one request, with its order.
* `Leak.Observation` — the reaction to one named request.

## Design Notes

The order is put together from those of the parts: of two lists the shorter one comes first
if the other one goes on from it, and named values come in the order in which they are
declared.  Fingerprints that come at the same place are equal, so that a map can have them
as its keys.
-/

namespace TlsScan.Leak

open Json Engine Std

/-- **The visible reaction to one request.** -/
inductive Fingerprint where
  /-- The messages received, and the state of the connection after them. -/
  | observed (received : List Message) (socketState : SocketState)
  /-- The engine could not complete the request. -/
  | unavailable
  deriving DecidableEq, Repr

namespace Fingerprint

/-- What is visible of an outcome: how many steps took place is not. -/
def ofOutcome (o : Outcome) : Fingerprint := observed o.received o.socketState

/-- The messages between square brackets and the state of the connection. -/
def text : Fingerprint → String
  | observed received socketState =>
    "[" ++ ",".intercalate (received.map Message.text) ++ "] " ++ Vocabulary.word socketState
  | unavailable => "unavailable"

/-! ### Order -/

/-- Messages are ordered by their kinds, and then by their details, of which none is the
first. -/
instance : Ord Message :=
  ⟨compareLex (compareOn fun m => Vocabulary.rank m.kind) (compareOn Message.detail)⟩

instance : TransOrd Message := inferInstanceAs (TransCmp (compareLex _ _))

instance : LawfulEqOrd Message where
  eq_of_compare {m n} h := by
    obtain ⟨hkind, hdetail⟩ := compareLex_eq_eq.mp h
    have hkind := Vocabulary.rank_injective (LawfulEqOrd.eq_of_compare hkind)
    have hdetail : m.detail = n.detail := LawfulEqOrd.eq_of_compare hdetail
    cases m
    cases n
    cases hkind
    cases hdetail
    rfl

/-- Answers are ordered by their messages, and then by the state of the connection. -/
def compareAnswers : List Message × SocketState → List Message × SocketState → Ordering :=
  compareLex (compareOn Prod.fst) (compareOn fun a => Vocabulary.rank a.2)

instance transCmp_compareAnswers : TransCmp compareAnswers :=
  inferInstanceAs (TransCmp (compareLex _ _))

theorem eq_of_compareAnswers {a b : List Message × SocketState}
    (h : compareAnswers a b = .eq) : a = b := by
  obtain ⟨hmessages, hstate⟩ := compareLex_eq_eq.mp h
  exact Prod.ext (LawfulEqOrd.eq_of_compare hmessages)
    (Vocabulary.rank_injective (LawfulEqOrd.eq_of_compare hstate))

/-- **The order of fingerprints**: answers by their own order, with the missing reaction
last. -/
instance : Ord Fingerprint where
  compare
    | observed l s, observed m t => compareAnswers (l, s) (m, t)
    | observed .., unavailable => .lt
    | unavailable, observed .. => .gt
    | unavailable, unavailable => .eq

instance : TransOrd Fingerprint where
  eq_swap {f g} := by
    cases f with
    | unavailable => cases g <;> rfl
    | observed l s =>
        cases g with
        | unavailable => rfl
        | observed m t => exact transCmp_compareAnswers.eq_swap
  isLE_trans {f g h} hfg hgh := by
    match f, g, h with
    | _, unavailable, observed .. => exact absurd hgh Bool.false_ne_true
    | unavailable, observed .., _ => exact absurd hfg Bool.false_ne_true
    | unavailable, _, unavailable => rfl
    | observed .., _, unavailable => rfl
    | observed .., observed .., observed .. =>
        exact transCmp_compareAnswers.isLE_trans hfg hgh

instance : LawfulEqOrd Fingerprint where
  eq_of_compare {f g} h := by
    match f, g with
    | unavailable, unavailable => rfl
    | unavailable, observed .. => cases h
    | observed .., unavailable => cases h
    | observed .., observed .. =>
        cases eq_of_compareAnswers h
        rfl

/-! ### JSON -/

instance : Codec Fingerprint where
  encode
    | observed received socketState =>
      .object [("Observed", .object
        [("received", Codec.encode received), ("socket_state", Codec.encode socketState)])]
    | unavailable => .text "Unavailable"
  decode? d := do
    match ← d.variant? with
    | ("Observed", some body) =>
      match ← body.record? ["received", "socket_state"] 2 with
      | [received, socketState] =>
        return .observed (← required? received) (← required? socketState)
      | _ => none
    | _ =>
      match ← d.plainVariant? with
      | "Unavailable" => some .unavailable
      | _ => none

end Fingerprint

/-- **The reaction to one named request.** -/
structure Observation where
  /-- The name of the request. -/
  vector : String
  fingerprint : Fingerprint
  deriving DecidableEq, Repr

instance : Codec Observation where
  encode o :=
    .object [("vector", Codec.encode o.vector), ("fingerprint", Codec.encode o.fingerprint)]
  decode? d := do
    match ← d.record? ["vector", "fingerprint"] 2 with
    | [vector, fingerprint] => return ⟨← required? vector, ← required? fingerprint⟩
    | _ => none

end TlsScan.Leak
