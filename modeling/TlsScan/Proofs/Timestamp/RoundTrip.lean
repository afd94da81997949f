import TlsScan.Proofs.Text.Decimal
import TlsScan.Proofs.Text.Pieces
import TlsScan.Timestamp

/-!
# Timestamps are read back

Each part of a written timestamp is a number of as many digits as its place has, and the
character after it is no digit, so reading takes exactly these digits.

## Main Results

* `Timestamp.year?_yearText`, `Timestamp.field?_padded`, `Timestamp.fraction?_fractionText` —
  the parts are read back.
* `Timestamp.parse?_text` — and so is a timestamp: of every year, and in a leap second too.
-/

namespace TlsScan

/-! ## Digits and blanks -/

namespace Text

theorem isBlank_of_isDigit {c : Char} (h : c.isDigit = true) : isBlank c = false := by
  have hrange := isDigit_iff.mp h
  have hlow : '0'.toNat = 48 := rfl
  have hhigh : '9'.toNat = 57 := rfl
  exact isBlank_of_visible (by omega)

/-- There is nothing to drop before a character that is not blank. -/
theorem trimStart_cons {c : Char} {cs : List Char} (h : isBlank c = false) :
    trimStart (c :: cs) = c :: cs := by
  rw [trimStart, List.dropWhile_cons, h]
  rfl

theorem trimStart_padded (w n : Nat) (rest : List Char) :
    trimStart (padded w n ++ rest) = padded w n ++ rest := by
  obtain ⟨c, cs, hcs, hc⟩ := padded_eq_cons w n
  rw [hcs, List.cons_append, trimStart_cons (isBlank_of_isDigit hc)]

end Text

namespace Timestamp

open Text

section
variable {width w n : Nat} {c : Char} {ds rest : List Char}

/-- **Reading stops where the digits end**, if they fit the place. -/
theorem takeDigits_append (hds : ∀ d ∈ ds, d.isDigit = true) (hlen : ds.length ≤ width)
    (hc : c.isDigit = false) : takeDigits width (ds ++ c :: rest) = (ds, c :: rest) := by
  have hstop : ∀ k, ((c :: rest).take k).takeWhile Char.isDigit = [] := by
    intro k
    cases k with
    | zero => rfl
    | succ k => rw [List.take_succ_cons, List.takeWhile_cons, hc]; rfl
  have htake : ((ds ++ c :: rest).take width).takeWhile Char.isDigit = ds := by
    rw [List.take_append, List.take_of_length_le hlen, List.takeWhile_append_of_pos hds, hstop,
      List.append_nil]
  simp only [takeDigits, htake, List.drop_left]

/-- **A number is read back**, if what follows does not continue it. -/
theorem number?_padded (hlen : (padded w n).length ≤ width) (hc : c.isDigit = false) :
    number? width (padded w n ++ c :: rest) = some (n, c :: rest) := by
  have hvalue : digitsValue (padded w n) = n := worth_padded
  obtain ⟨d, ds, hds, -⟩ := padded_eq_cons w n
  rw [number?, takeDigits_append (fun _ => isDigit_of_mem_padded) hlen hc]
  rw [hds] at hvalue ⊢
  exact congrArg (fun m => some (m, c :: rest)) hvalue

/-! ## The parts of a timestamp -/

theorem field?_padded (hn : n < 100) (hc : c.isDigit = false) :
    field? 2 (padded 2 n ++ c :: rest) = some (n, c :: rest) := by
  rw [field?, trimStart_padded,
    number?_padded (Nat.le_of_eq (length_padded (by decide) hn)) hc]

theorem mark?_cons (hc : isBlank c = false) : mark? c (c :: rest) = some rest := by
  rw [mark?, trimStart_cons hc]
  exact if_pos rfl

/-- A year of four digits is read without a sign, and any other with its sign. -/
theorem year?_yearText (year : Int) (hc : c.isDigit = false) :
    year? (yearText year ++ c :: rest) = some (year, c :: rest) := by
  have hfits : (padded 4 year.natAbs).length
      ≤ (padded 4 year.natAbs ++ c :: rest).length := by
    rw [List.length_append]
    exact Nat.le_add_right ..
  unfold yearText
  by_cases hplain : 0 ≤ year ∧ year ≤ 9999
  · have hlen : (padded 4 year.natAbs).length ≤ 4 :=
      Nat.le_of_eq (length_padded (by decide) (show _ < 10000 by omega))
    have hnumber : number? 4 (padded 4 year.natAbs ++ c :: rest)
        = some (year.natAbs, c :: rest) := number?_padded hlen hc
    obtain ⟨d, ds, hds, hdigit⟩ := padded_eq_cons 4 year.natAbs
    have hyear : (year.natAbs : Int) = year := Int.natAbs_of_nonneg hplain.1
    rw [if_pos hplain, year?, trimStart_padded]
    rw [hds, List.cons_append] at hnumber ⊢
    split
    · next h =>
        cases (List.cons.inj h).1
        cases hdigit
    · next h =>
        cases (List.cons.inj h).1
        cases hdigit
    · simp only [hnumber, Option.map_some, hyear]
  · by_cases hneg : year < 0
    · rw [if_neg hplain, if_pos hneg, List.cons_append, year?, trimStart_cons rfl]
      have hyear : -(year.natAbs : Int) = year := by omega
      simp only [number?_padded hfits hc, Option.map_some, hyear]
    · rw [if_neg hplain, if_neg hneg, List.cons_append, year?, trimStart_cons rfl]
      have hyear : (year.natAbs : Int) = year := by omega
      simp only [number?_padded hfits hc, Option.map_some, hyear]

/-- Digits behind a point count as so many places of nine. -/
theorem fraction?_padded (hw : w ≠ 0) (hle : w ≤ 9) (hn : n < Nat.pow 10 w) :
    fraction? ('.' :: padded w n ++ ['Z']) = some (n * Nat.pow 10 (9 - w), ['Z']) := by
  have hvalue : digitsValue (padded w n) = n := worth_padded
  have hlen := length_padded hw hn
  obtain ⟨d, ds, hds, -⟩ := padded_eq_cons w n
  rw [List.cons_append, fraction?,
    takeDigits_append (fun _ => isDigit_of_mem_padded) (Nat.le_trans (Nat.le_of_eq hlen) hle) rfl]
  rw [hds] at hvalue hlen ⊢
  simp only [hvalue, hlen]
  rfl

/-- However few digits a fraction needs, it is read back. -/
theorem fraction?_fractionText (hn : n < 1000000000) :
    fraction? (fractionText n ++ ['Z']) = some (n, ['Z']) := by
  unfold fractionText
  by_cases hzero : n = 0
  · rw [if_pos hzero, hzero]
    rfl
  by_cases hmilli : n % 1000000 = 0
  · have hn' : n / 1000000 * 1000000 = n := by omega
    rw [if_neg hzero, if_pos hmilli,
      fraction?_padded (by decide) (by decide) (show _ < 1000 by omega)]
    exact congrArg (fun m => some (m, ['Z'])) hn'
  by_cases hmicro : n % 1000 = 0
  · have hn' : n / 1000 * 1000 = n := by omega
    rw [if_neg hzero, if_neg hmilli, if_pos hmicro,
      fraction?_padded (by decide) (by decide) (show _ < 1000000 by omega)]
    exact congrArg (fun m => some (m, ['Z'])) hn'
  · rw [if_neg hzero, if_neg hmilli, if_neg hmicro,
      fraction?_padded (by decide) (by decide) hn]
    exact congrArg (fun m => some (m, ['Z'])) (Nat.mul_one n)

/-- The point of a fraction, or the zone letter, ends the seconds. -/
theorem field?_second (nanos : Nat) (hn : n < 61) :
    field? 2 (padded 2 n ++ (fractionText nanos ++ ['Z']))
      = some (n, fractionText nanos ++ ['Z']) := by
  have hend : ∃ c rest, fractionText nanos ++ ['Z'] = c :: rest ∧ c.isDigit = false := by
    unfold fractionText
    split
    · exact ⟨'Z', [], rfl, rfl⟩
    · split
      · exact ⟨'.', _, rfl, rfl⟩
      · split <;> exact ⟨'.', _, rfl, rfl⟩
  obtain ⟨c, rest, hrest, hc⟩ := hend
  rw [hrest, field?_padded (by omega) hc]

end

/-! ## Timestamps -/

/-- Without an offset a clock shows universal time. -/
theorem ofLocal?_zero (t : Timestamp) :
    ofLocal? t.date t.minute 0 t.second t.nanos = some t := by
  have hrange : 0 ≤ (t.minute.val : Int) - 0 ∧ (t.minute.val : Int) - 0 < 1440 := by omega
  simp only [ofLocal?, dif_pos hrange]
  simp

/-- **A timestamp is read back from its text**: of every year, and in a leap second too. -/
theorem parse?_text (t : Timestamp) : parse? t.text = some t := by
  obtain ⟨-, -, -, hmonth, -, hday⟩ := t.date.isDate
  have hlast : daysInMonth t.date.year t.date.month ≤ 31 := by
    unfold daysInMonth
    split <;> split <;> decide
  have hclock := t.minute.isLt
  have hsecond := t.second.isLt
  have hnanos := t.nanos.isLt
  -- What each step of reading takes from the text, whatever is behind it.
  have hyears : ∀ r, year? (yearText t.date.year ++ '-' :: r) = some (t.date.year, '-' :: r) :=
    fun _ => year?_yearText _ rfl
  have hmonths : ∀ r, field? 2 (padded 2 t.date.month ++ '-' :: r)
      = some (t.date.month, '-' :: r) := fun _ => field?_padded (by omega) rfl
  have hdays : ∀ r, field? 2 (padded 2 t.date.day ++ 'T' :: r)
      = some (t.date.day, 'T' :: r) := fun _ => field?_padded (by omega) rfl
  have hhours : ∀ r, field? 2 (padded 2 (t.minute.val / 60) ++ ':' :: r)
      = some (t.minute.val / 60, ':' :: r) := fun _ => field?_padded (by omega) rfl
  have hminutes : ∀ r, field? 2 (padded 2 (t.minute.val % 60) ++ ':' :: r)
      = some (t.minute.val % 60, ':' :: r) := fun _ => field?_padded (by omega) rfl
  have hdash : ∀ r, mark? '-' ('-' :: r) = some r := fun _ => mark?_cons rfl
  have hcolon : ∀ r, mark? ':' (':' :: r) = some r := fun _ => mark?_cons rfl
  have hzone : offset? (trimStart ['Z']) = some (0, []) := rfl
  have hend : (trimStart []).isEmpty = true := rfl
  have hrange : t.minute.val / 60 < 24 ∧ t.minute.val % 60 < 60 ∧ t.second.val < 61
      ∧ t.nanos.val < 1000000000 := by omega
  have hminute : t.minute.val / 60 * 60 + t.minute.val % 60 = t.minute.val := by omega
  rw [parse?, text, String.toList_ofList]
  simp only [List.append_assoc, List.cons_append]
  -- One line for each step, that for the separator of date and time among them.
  refine Option.bind_eq_some_iff.mpr ⟨_, hyears _, ?_⟩
  refine Option.bind_eq_some_iff.mpr ⟨_, hdash _, ?_⟩
  refine Option.bind_eq_some_iff.mpr ⟨_, hmonths _, ?_⟩
  refine Option.bind_eq_some_iff.mpr ⟨_, hdash _, ?_⟩
  refine Option.bind_eq_some_iff.mpr ⟨_, hdays _, ?_⟩
  refine Option.bind_eq_some_iff.mpr ⟨_, Date.ofParts?_parts _, ?_⟩
  refine Option.bind_eq_some_iff.mpr ⟨_, rfl, ?_⟩
  refine Option.bind_eq_some_iff.mpr ⟨_, hhours _, ?_⟩
  refine Option.bind_eq_some_iff.mpr ⟨_, hcolon _, ?_⟩
  refine Option.bind_eq_some_iff.mpr ⟨_, hminutes _, ?_⟩
  refine Option.bind_eq_some_iff.mpr ⟨_, hcolon _, ?_⟩
  refine Option.bind_eq_some_iff.mpr ⟨_, field?_second _ hsecond, ?_⟩
  refine Option.bind_eq_some_iff.mpr ⟨_, fraction?_fractionText hnanos, ?_⟩
  refine Option.bind_eq_some_iff.mpr ⟨_, hzone, ?_⟩
  refine (dif_pos hrange).trans ((if_pos hend).trans ?_)
  simp only [hminute]
  exact ofLocal?_zero t

end Timestamp

end TlsScan
