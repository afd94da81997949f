import TlsScan.Json.Token
import TlsScan.Proofs.Text.Decimal

/-!
# Whole numbers in JSON

A whole number is written as a word, the word spells a literal, and the literal has the
number as its value if it fits 64 bits.

## Main Definitions

* `Json.Literal.ofInt` — the literal of a whole number.
* `Json.Fits` — the whole numbers that fit 64 bits, with or without a sign.

## Main Results

* `Json.Literal.parse?_text` — the text of a whole number spells its literal.
* `Json.Literal.value?_ofInt`, `Json.Literal.natural?_ofInt` — the literal gives the number
  back.
-/

namespace TlsScan.Json

/-- **Whole numbers that fit 64 bits**, with or without a sign. -/
def Fits (n : Int) : Prop := -(UInt64.size / 2 : Nat) ≤ n ∧ n < UInt64.size

namespace Literal

/-- **The literal of a whole number**: a sign and digits. -/
def ofInt (n : Int) : Literal where
  negative := n < 0
  whole := (Text.decimal n.natAbs).map Text.digitOf
  fraction := none
  exponent := none

/-! ## Reading of literals -/

theorem takeDigits_of_isDigit {cs : List Char} (h : ∀ c ∈ cs, c.isDigit = true) :
    takeDigits cs = (cs.map Text.digitOf, []) := by
  induction cs with
  | nil => rfl
  | cons c cs ih =>
      obtain ⟨hc, hcs⟩ := List.forall_mem_cons.mp h
      rw [takeDigits, Text.digitValue?_of_isDigit hc, ih hcs]
      rfl

theorem takeDigits_decimal (n : Nat) :
    takeDigits (Text.decimal n) = ((Text.decimal n).map Text.digitOf, []) :=
  takeDigits_of_isDigit fun _ => Text.isDigit_of_mem_decimal

/-- The digits of a number begin with one that is no sign. -/
theorem exists_digit (n : Nat) :
    ∃ c cs, Text.decimal n = c :: cs ∧ c.isDigit = true ∧ c ≠ '-' := by
  cases h : Text.decimal n with
  | nil => exact absurd h Nat.toDigits_ne_nil
  | cons c cs =>
      have hc : c.isDigit = true := Text.isDigit_of_mem_decimal (h ▸ List.mem_cons_self)
      refine ⟨c, cs, rfl, hc, ?_⟩
      rintro rfl
      cases hc

/-- Digits after a sign are a literal, as they have no leading zero. -/
theorem parse?_decimal (n : Nat) (negative : Bool) :
    (match takeDigits (Text.decimal n) with
      | ([], _) => none
      | (0 :: _ :: _, _) => none
      | (whole, rest) => (tail? rest).map fun (fraction, exponent) =>
          Literal.mk negative whole fraction exponent)
      = some ⟨negative, (Text.decimal n).map Text.digitOf, none, none⟩ := by
  rw [takeDigits_decimal]
  by_cases hn : n = 0
  · subst hn
    rfl
  · obtain ⟨c, cs, hcs, hc⟩ := Text.decimal_eq_cons hn
    obtain ⟨d, hd⟩ := Nat.exists_eq_succ_of_ne_zero hc
    rw [hcs, List.map_cons, hd]
    rfl

theorem text_whole (n : Int) : Number.text (.whole n)
    = if n < 0 then '-' :: Text.decimal n.natAbs else Text.decimal n.natAbs := rfl

/-- **The text of a whole number spells its literal.** -/
theorem parse?_text (n : Int) : parse? (Number.text (.whole n)) = some (ofInt n) := by
  rw [text_whole]
  by_cases hn : n < 0
  · rw [if_pos hn]
    have hneg : decide (n < 0) = true := decide_eq_true hn
    rw [ofInt, hneg]
    exact parse?_decimal n.natAbs true
  · rw [if_neg hn]
    have hneg : decide (n < 0) = false := decide_eq_false hn
    rw [ofInt, hneg, ← parse?_decimal n.natAbs false]
    obtain ⟨c, cs, hcs, -, hc⟩ := exists_digit n.natAbs
    have hsign : ∀ ds, c :: cs = '-' :: ds → False := fun _ h => hc (List.cons.inj h).1
    rw [hcs]
    unfold parse?
    split
    next _ _ heq =>
        split at heq
        · next h => exact (hsign _ h).elim
        · cases heq
          rfl

/-! ## Values of literals -/

theorem leading_of_worth_lt {n : Nat} {cs : List Char}
    (h : Text.worth n cs < UInt64.size) :
    leading n (cs.map Text.digitOf) = (Text.worth n cs, 0) := by
  induction cs generalizing n with
  | nil => rfl
  | cons c cs ih =>
      have hlt : n * 10 + Text.digitOf c < UInt64.size :=
        Nat.lt_of_le_of_lt (show _ ≤ Text.worth (n * 10 + Text.digitOf c) cs from Text.le_worth) h
      rw [List.map_cons, leading, extend?, if_pos hlt]
      exact ih h

/-- **The literal of a number that fits gives it back.** -/
theorem whole?_ofInt {n : Int} (h : Fits n) : (ofInt n).whole? = some n := by
  obtain ⟨hlow, hhigh⟩ := h
  have hsize : UInt64.size / 2 ≤ UInt64.size := Nat.div_le_self ..
  have habs : n.natAbs < UInt64.size := by
    have : 0 < UInt64.size / 2 := by decide
    have : UInt64.size / 2 < UInt64.size := by decide
    omega
  have hleading : leading 0 (ofInt n).whole = (n.natAbs, 0) := by
    have hfits : Text.worth 0 (Text.decimal n.natAbs) < UInt64.size := by
      rwa [Text.worth_decimal]
    have hdigits := leading_of_worth_lt hfits
    rwa [Text.worth_decimal] at hdigits
  have hwhole : (ofInt n).whole? = if n < 0 then
      (if 0 < n.natAbs ∧ n.natAbs ≤ UInt64.size / 2 then some (-(n.natAbs : Int)) else none)
      else some (n.natAbs : Int) := by
    unfold whole?
    rw [hleading]
    simp [ofInt]
  rw [hwhole]
  by_cases hn : n < 0
  · have hrange : 0 < n.natAbs ∧ n.natAbs ≤ UInt64.size / 2 := by omega
    rw [if_pos hn, if_pos hrange]
    congr 1
    omega
  · rw [if_neg hn]
    congr 1
    omega

theorem value?_ofInt {n : Int} (h : Fits n) : (ofInt n).value? = some (.whole n) := by
  rw [value?, whole?_ofInt h]

/-- It does so too where a natural number is wanted. -/
theorem natural?_ofInt {n bound : Nat} (hn : n ≤ bound) (hbound : bound < UInt64.size) :
    (ofInt n).natural? bound = some n := by
  have hfits : Fits n := ⟨by omega, by omega⟩
  have hrange : 0 ≤ (n : Int) ∧ (n : Int).toNat ≤ bound := ⟨by omega, by simpa using hn⟩
  rw [natural?, whole?_ofInt hfits]
  dsimp only
  rw [if_pos hrange, Int.toNat_natCast]

end Literal

/-! ## Words -/

theorem isWordChar_of_isDigit {c : Char} (h : c.isDigit = true) : isWordChar c = true := by
  simp [isWordChar, Char.isAlphanum, h]

/-- The text of a whole number is a word. -/
theorem isWordChar_of_mem_text {n : Int} {c : Char} (h : c ∈ Number.text (.whole n)) :
    isWordChar c = true := by
  rw [Literal.text_whole] at h
  split at h
  · rcases List.mem_cons.mp h with rfl | h
    · rfl
    · exact isWordChar_of_isDigit (Text.isDigit_of_mem_decimal h)
  · exact isWordChar_of_isDigit (Text.isDigit_of_mem_decimal h)

/-- As a word it is read as its literal. -/
theorem wordToken?_text (n : Int) :
    wordToken? (Number.text (.whole n)) = some (.number (.ofInt n)) := by
  -- It begins with a sign or a digit, and the other words with a letter.
  obtain ⟨c, cs, hcs, hc⟩ : ∃ c cs, Number.text (.whole n) = c :: cs
      ∧ c ≠ 'n' ∧ c ≠ 't' ∧ c ≠ 'f' := by
    obtain ⟨c, cs, hcs, hdigit, -⟩ := Literal.exists_digit n.natAbs
    rw [Literal.text_whole]
    split
    · exact ⟨'-', _, rfl, by decide⟩
    · refine ⟨c, cs, hcs, ?_⟩
      refine ⟨?_, ?_, ?_⟩ <;> (rintro rfl; cases hdigit)
  unfold wordToken?
  rw [Literal.parse?_text, hcs]
  rw [if_neg (fun h => hc.1 (List.cons.inj h).1), if_neg (fun h => hc.2.1 (List.cons.inj h).1),
    if_neg (fun h => hc.2.2 (List.cons.inj h).1)]
  rfl

end TlsScan.Json
