import TlsScan.Text.Number

/-!
# Decimal digits

The digits that `decimal` and `padded` write are digits, there are as many as there should
be, and they are worth the number that was written.

## Main Results

* `Text.digitValue?_of_isDigit` — a digit is read as what it is worth.
* `Text.worth_decimal`, `Text.worth_padded` — what is written is worth the number.
* `Text.length_padded` — a number that fits its width is padded to exactly that width.
* `Text.decimal_eq_cons` — there is no leading zero.
* `Text.readBounded_decimal` — a number up to the bound is read back.
-/

namespace TlsScan.Text

/-- What a digit is worth. -/
def digitOf (c : Char) : Nat := c.toNat - '0'.toNat

/-- **What digits are worth**, behind a number that was read before them. -/
def worth (n : Nat) (cs : List Char) : Nat := cs.foldl (fun n c => n * 10 + digitOf c) n

section
variable {n w : Nat} {c : Char} {cs ds : List Char}

theorem worth_append : worth n (cs ++ ds) = worth (worth n cs) ds := List.foldl_append ..

theorem le_worth : n ≤ worth n cs := by
  induction cs generalizing n with
  | nil => exact Nat.le_refl n
  | cons c cs ih =>
      have h : n * 10 + digitOf c ≤ worth n (c :: cs) := ih
      omega

theorem isDigit_iff : c.isDigit = true ↔ '0'.toNat ≤ c.toNat ∧ c.toNat ≤ '9'.toNat := by
  simp only [Char.isDigit, Bool.and_eq_true, decide_eq_true_eq, ge_iff_le,
    UInt32.le_iff_toNat_le]
  rfl

/-- **A digit is read as what it is worth.** -/
theorem digitValue?_of_isDigit (h : c.isDigit = true) :
    digitValue? 10 c = some (digitOf c) := by
  have hrange := isDigit_iff.mp h
  have hle : '0' ≤ c ∧ c ≤ '9' := by
    simp only [Char.le_def, UInt32.le_iff_toNat_le]
    exact hrange
  have hlt : c.toNat - '0'.toNat < 10 := by
    have : '9'.toNat = '0'.toNat + 9 := rfl
    omega
  unfold digitValue?
  rw [if_pos hle, if_pos hlt]
  rfl

/-- **A digit of any base up to sixteen is read back.** -/
theorem digitValue?_digitChar (h : n < 16) : digitValue? 16 n.digitChar = some n := by
  have hall : ∀ n : Fin 16, digitValue? 16 (n : Nat).digitChar = some n.val := by decide
  exact hall ⟨n, h⟩

theorem digitOf_digitChar (h : n < 10) : digitOf n.digitChar = n :=
  Nat.toNat_digitChar_sub_48_of_lt_ten h

/-! ## Digits without padding -/

theorem decimal_of_lt (h : n < 10) : decimal n = [n.digitChar] := Nat.toDigits_of_lt_base h

theorem decimal_of_le (h : 10 ≤ n) : decimal n = decimal (n / 10) ++ [(n % 10).digitChar] :=
  Nat.toDigits_of_base_le (by decide) h

theorem isDigit_of_mem_decimal (h : c ∈ decimal n) : c.isDigit = true :=
  Nat.isDigit_of_mem_toDigits (by decide) (by decide) h

/-- **The digits of a number are worth the number.** -/
theorem worth_decimal : worth 0 (decimal n) = n := by
  induction n using Nat.strongRecOn with
  | ind n ih =>
      by_cases h : n < 10
      · rw [decimal_of_lt h]
        show 0 * 10 + digitOf n.digitChar = n
        rw [digitOf_digitChar h]
        omega
      · rw [decimal_of_le (by omega), worth_append, ih (n / 10) (by omega)]
        show n / 10 * 10 + digitOf (n % 10).digitChar = n
        rw [digitOf_digitChar (by omega)]
        omega

/-- **There is no leading zero**, except in the digits of zero. -/
theorem decimal_eq_cons (h : n ≠ 0) : ∃ c cs, decimal n = c :: cs ∧ digitOf c ≠ 0 := by
  induction n using Nat.strongRecOn with
  | ind n ih =>
      by_cases hn : n < 10
      · refine ⟨n.digitChar, [], decimal_of_lt hn, ?_⟩
        rwa [digitOf_digitChar hn]
      · obtain ⟨c, cs, hcs, hc⟩ := ih (n / 10) (by omega) (by omega)
        refine ⟨c, cs ++ [(n % 10).digitChar], ?_, hc⟩
        rw [decimal_of_le (by omega), hcs, List.cons_append]

theorem decimal_ne_nil (n : Nat) : decimal n ≠ [] := Nat.toDigits_ne_nil

/-- A character that is no digit is not among the digits of a number. -/
theorem not_mem_decimal (h : c.isDigit = false) : c ∉ decimal n := by
  intro hc
  rw [isDigit_of_mem_decimal hc] at h
  exact nomatch h

/-! ## Digits with padding -/

theorem isDigit_of_mem_padded (h : c ∈ padded w n) : c.isDigit = true := by
  rcases List.mem_append.mp h with h | h
  · rw [List.eq_of_mem_replicate h]
    rfl
  · exact isDigit_of_mem_decimal h

/-- There is always a first digit. -/
theorem padded_eq_cons (w n : Nat) : ∃ c cs, padded w n = c :: cs ∧ c.isDigit = true := by
  cases h : padded w n with
  | nil => exact absurd (List.append_eq_nil_iff.mp h).2 Nat.toDigits_ne_nil
  | cons c cs => exact ⟨c, cs, rfl, isDigit_of_mem_padded (h ▸ List.mem_cons_self)⟩

/-- **Padding changes nothing of what digits are worth.** -/
theorem worth_padded : worth 0 (padded w n) = n := by
  have hzeros : ∀ k, worth 0 (List.replicate k '0') = 0 := by
    intro k
    induction k with
    | zero => rfl
    | succ k ih => exact ih
  rw [padded, worth_append, hzeros, worth_decimal]

/-- **A number that fits its width is padded to exactly that width.** -/
theorem length_padded (hw : w ≠ 0) (h : n < Nat.pow 10 w) : (padded w n).length = w := by
  have hle : (decimal n).length ≤ w :=
    (Nat.length_toDigits_le_iff (by decide) (Nat.pos_of_ne_zero hw)).mpr h
  rw [padded, List.length_append, List.length_replicate]
  omega

/-! ## Reading -/

/-- **Digits are read as what they are worth**, up to the bound. -/
theorem readDigits_of_isDigit {bound : Nat} (hcs : ∀ c ∈ cs, c.isDigit = true)
    (h : worth n cs ≤ bound) : readDigits bound n cs = .ok (worth n cs) := by
  induction cs generalizing n with
  | nil => rfl
  | cons c cs ih =>
      have hle : n * 10 + digitOf c ≤ bound := Nat.le_trans le_worth h
      rw [readDigits, digitValue?_of_isDigit (hcs c List.mem_cons_self)]
      exact (if_pos hle).trans (ih (fun d hd => hcs d (List.mem_cons_of_mem _ hd)) h)

/-- Text that starts with a digit has no sign. -/
theorem readBounded_cons {bound : Nat} (hc : c ≠ '+') :
    readBounded bound (c :: cs) = readDigits bound 0 (c :: cs) := by
  unfold readBounded
  split <;> simp_all

/-- **A number up to the bound is read back.** -/
theorem readBounded_decimal {bound : Nat} (h : n ≤ bound) :
    readBounded bound (decimal n) = .ok n := by
  obtain ⟨c, cs, hcs⟩ := List.exists_cons_of_ne_nil (decimal_ne_nil n)
  have hdigits : ∀ d ∈ c :: cs, d.isDigit = true := by
    rw [← hcs]
    intro d hd
    exact isDigit_of_mem_decimal hd
  have hworth : worth 0 (c :: cs) = n := hcs ▸ worth_decimal
  have hsign : c ≠ '+' := by
    rintro rfl
    exact Bool.noConfusion (hdigits _ List.mem_cons_self)
  rw [hcs, readBounded_cons hsign, readDigits_of_isDigit hdigits (hworth.symm ▸ h), hworth]

/-- A character that is no digit cannot be read. -/
theorem readDigits_ne_ok {bound m : Nat} (hc : c ∈ cs) (h : digitValue? 10 c = none) :
    readDigits bound n cs ≠ .ok m := by
  induction cs generalizing n with
  | nil => exact absurd hc List.not_mem_nil
  | cons d cs ih =>
      rw [readDigits]
      rcases List.mem_cons.mp hc with rfl | hcs
      · rw [h]
        simp
      · split
        · simp
        · split
          · exact ih hcs
          · simp

end

end TlsScan.Text
