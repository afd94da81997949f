import Mathlib.Data.List.TakeWhile
import TlsScan.Net.Address
import TlsScan.Proofs.Text.Decimal
import TlsScan.Proofs.Text.Pieces

/-!
# Addresses are read back

An address of version 6 is written as groups with colons between them, of which the longest
run of zeros is left out.  No group is empty, so the double colon is where the run was, and
as there are eight groups in all, its length is known too.

## Main Definitions

* `Net.isAddressChar` — the characters that addresses are written with.

## Main Results

* `Net.Ipv4.parse?_text`, `Net.Ipv6.parse?_text` — addresses of either version are read back.
* `Net.IpAddress.parse?_text` — neither version is taken for the other one.
* `Net.IpAddress.isAddressChar_of_mem_text` — what stands in the text of an address.
-/

namespace TlsScan.Net

open Text

/-! ## Digits -/

section
variable {n b : Nat} {c : Char} {cs : List Char}

/-- What is written in a base are the digits of the base. -/
theorem exists_digitChar_of_mem (hb : 1 < b) (h : c ∈ Nat.toDigits b n) :
    ∃ d < b, c = d.digitChar := by
  induction n using Nat.strongRecOn with
  | ind n ih =>
      by_cases hn : n < b
      · rw [Nat.toDigits_of_lt_base hn] at h
        exact ⟨n, hn, List.mem_singleton.mp h⟩
      · rw [Nat.toDigits_of_base_le hb (Nat.le_of_not_lt hn)] at h
        rcases List.mem_append.mp h with h | h
        · exact ih _ (Nat.div_lt_self (by omega) hb) h
        · exact ⟨n % b, Nat.mod_lt _ (by omega), List.mem_singleton.mp h⟩

/-- **The characters of addresses**: hexadecimal digits, colons and points. -/
def isAddressChar (c : Char) : Bool := (digitValue? 16 c).isSome || c = ':' || c = '.'

/-- Digits of a base up to sixteen are among them. -/
theorem isAddressChar_of_mem_toDigits (hb : 1 < b) (hle : b ≤ 16)
    (h : c ∈ Nat.toDigits b n) : isAddressChar c = true := by
  obtain ⟨d, hd, rfl⟩ := exists_digitChar_of_mem hb h
  rw [isAddressChar, digitValue?_digitChar (Nat.lt_of_lt_of_le hd hle)]
  rfl

end

/-! ## Version 4 -/

namespace Ipv4

variable {c : Char} {cs : List Char}

theorem byte?_cons (h0 : c ≠ '0') (hsign : c ≠ '+') :
    byte? (c :: cs) = match readBounded 255 (c :: cs) with
      | .ok n => some (UInt8.ofNat n)
      | .error _ => none := by
  unfold byte?
  split
  · simp_all
  · simp_all
  · simp_all
  · rfl

/-- **A byte is read back.** -/
theorem byte?_decimal (b : UInt8) : byte? (decimal b.toNat) = some b := by
  by_cases hb : b.toNat = 0
  · rw [hb, show b = 0 from UInt8.toNat_inj.mp hb]
    rfl
  · obtain ⟨c, cs, hcs, hc⟩ := decimal_eq_cons hb
    have hread : readBounded 255 (decimal b.toNat) = .ok b.toNat :=
      readBounded_decimal (Nat.le_of_lt_succ b.toNat_lt)
    have hdigit : c.isDigit = true := isDigit_of_mem_decimal (hcs ▸ List.mem_cons_self)
    rw [hcs] at hread ⊢
    rw [byte?_cons (by rintro rfl; exact hc rfl) (by rintro rfl; exact nomatch hdigit), hread]
    exact congrArg some (UInt8.ofNat_toNat)

/-- **An address of version 4 is read back.** -/
theorem parse?_text (x : Ipv4) : parse? x.text = some x := by
  have hpoint : ∀ n, '.' ∉ decimal n := fun n => not_mem_decimal rfl
  have hsplit : split '.' x.text
      = [decimal x.a.toNat, decimal x.b.toNat, decimal x.c.toNat, decimal x.d.toNat] := by
    rw [text, List.append_assoc, List.append_assoc, List.cons_append, List.cons_append,
      split_append_cons (hpoint _), split_append_cons (hpoint _), split_append_cons (hpoint _),
      split_of_not_mem (hpoint _)]
  rw [parse?, hsplit]
  simp only [byte?_decimal]
  rfl

/-- A piece with a character that is no digit is no byte. -/
theorem byte?_of_mem (hc : c ∈ cs) (h : digitValue? 10 c = none) : byte? cs = none := by
  unfold byte?
  split
  · exact absurd (List.mem_singleton.mp hc) (by rintro rfl; exact nomatch h)
  · rfl
  · rfl
  · rename_i hsign
    split
    · rename_i n hread
      cases cs with
      | nil => exact absurd hc List.not_mem_nil
      | cons d ds =>
          rw [readBounded_cons (fun hd => hsign ds (by rw [hd]))] at hread
          exact absurd hread (readDigits_ne_ok hc h)
    · rfl

/-- A text with a character that is neither a digit nor a point is no address. -/
theorem parse?_of_mem (hc : c ∈ cs) (h : digitValue? 10 c = none) (hpoint : c ≠ '.') :
    parse? cs = none := by
  obtain ⟨p, hp, hmem⟩ := exists_mem_split hc hpoint
  have hnone := byte?_of_mem hmem h
  unfold parse?
  split
  · rename_i p₁ p₂ p₃ p₄ hsplit
    rw [hsplit] at hp
    simp only [List.mem_cons, List.not_mem_nil, or_false] at hp
    rcases hp with rfl | rfl | rfl | rfl <;> simp [hnone]
  · rfl

theorem isAddressChar_of_mem_text {x : Ipv4} (h : c ∈ x.text) : isAddressChar c = true := by
  have hdigit : ∀ n, c ∈ decimal n → isAddressChar c = true := fun n =>
    isAddressChar_of_mem_toDigits (by decide) (by decide)
  simp only [text, List.mem_append, List.mem_cons] at h
  rcases h with ((h | rfl | h) | rfl | h) | rfl | h
  all_goals first | exact hdigit _ h | rfl

theorem colon_not_mem_text (x : Ipv4) : ':' ∉ x.text := by
  have hcolon : ∀ n, ':' ∉ decimal n := fun n => not_mem_decimal rfl
  simp [text, hcolon]

/-- Two groups of version 6 make an address, and it makes them. -/
theorem groups_ofNat (g h : UInt16) : (ofNat (g.toNat * 65536 + h.toNat)).groups = [g, h] := by
  have hg := g.toNat_lt
  have hh := h.toNat_lt
  have hhigh : (g.toNat * 65536 + h.toNat) >>> 24 % 256 * 256
      + (g.toNat * 65536 + h.toNat) >>> 16 % 256 = g.toNat := by
    simp only [Nat.shiftRight_eq_div_pow, Nat.reducePow]
    omega
  have hlow : (g.toNat * 65536 + h.toNat) >>> 8 % 256 * 256
      + (g.toNat * 65536 + h.toNat) % 256 = h.toNat := by
    rw [Nat.shiftRight_eq_div_pow, Nat.mul_comm, Nat.add_comm]
    exact Nat.mod_mul.symm.trans (Nat.mul_add_mod_of_lt hh)
  have hbyte : ∀ n, (UInt8.ofNat n).toNat = n % 256 := fun n => UInt8.toNat_ofNat'
  rw [groups, ofNat, hbyte, hbyte, hbyte, hbyte, hhigh, hlow, UInt16.ofNat_toNat,
    UInt16.ofNat_toNat]

end Ipv4

/-! ## Version 6 -/

namespace Ipv6

variable {c : Char} {cs : List Char} {last4 : Bool}

/-! ### Groups -/

/-- The value of hexadecimal digits after one more, as `group?` computes it. -/
def readHex (n : Option Nat) (c : Char) : Option Nat :=
  n.bind fun n => (digitValue? 16 c).map fun d => n * 16 + d

theorem foldl_readHex_toDigits (n : Nat) :
    (Nat.toDigits 16 n).foldl readHex (some 0) = some n := by
  induction n using Nat.strongRecOn with
  | ind n ih =>
      by_cases hn : n < 16
      · rw [Nat.toDigits_of_lt_base hn, List.foldl_cons, List.foldl_nil, readHex,
          Option.bind_some, digitValue?_digitChar hn]
        exact congrArg some (Nat.zero_add n)
      · rw [Nat.toDigits_of_base_le (by decide) (Nat.le_of_not_lt hn), List.foldl_append,
          ih _ (by omega), List.foldl_cons, List.foldl_nil, readHex, Option.bind_some,
          digitValue?_digitChar (Nat.mod_lt _ (by decide))]
        exact congrArg some (Nat.div_add_mod' n 16)

/-- A character that is no digit spoils the value. -/
theorem foldl_readHex_of_mem {n : Option Nat} (hc : c ∈ cs) (h : digitValue? 16 c = none) :
    cs.foldl readHex n = none := by
  have hnone : ∀ l : List Char, l.foldl readHex none = none := by
    intro l
    induction l with
    | nil => rfl
    | cons d l ih => exact ih
  induction cs generalizing n with
  | nil => exact absurd hc List.not_mem_nil
  | cons d cs ih =>
      rcases List.mem_cons.mp hc with rfl | hc
      · rw [List.foldl_cons, readHex, h]
        simpa using hnone cs
      · exact ih hc

/-- **A group is read back.** -/
theorem group?_toDigits (g : UInt16) : group? (Nat.toDigits 16 g.toNat) = some g := by
  have hlength : (Nat.toDigits 16 g.toNat).length ≤ 4 :=
    (Nat.length_toDigits_le_iff (by decide) (by decide)).mpr g.toNat_lt
  have hsize : ((Nat.toDigits 16 g.toNat).isEmpty
      || decide (4 < (Nat.toDigits 16 g.toNat).length)) = false := by
    rw [List.isEmpty_eq_false_iff.mpr Nat.toDigits_ne_nil, Bool.false_or]
    exact decide_eq_false (Nat.not_lt.mpr hlength)
  have hvalue := foldl_readHex_toDigits g.toNat
  unfold readHex at hvalue
  rw [group?, hsize, hvalue]
  exact congrArg some UInt16.ofNat_toNat

theorem group?_of_mem (hc : c ∈ cs) (h : digitValue? 16 c = none) : group? cs = none := by
  have hnone := foldl_readHex_of_mem (n := some 0) hc h
  unfold readHex at hnone
  unfold group?
  split
  · rfl
  · rw [hnone]
    rfl

/-! ### Groups with colons between them -/

/-- The groups of a list in hexadecimal. -/
def pieces (l : List UInt16) : List (List Char) := l.map fun g => Nat.toDigits 16 g.toNat

/-- No digit is a colon. -/
theorem colon_not_mem_toDigits (n : Nat) : ':' ∉ Nat.toDigits 16 n := by
  intro h
  obtain ⟨d, hd, heq⟩ := exists_digitChar_of_mem (by decide) h
  have hvalue := digitValue?_digitChar hd
  rw [← heq] at hvalue
  exact nomatch hvalue

/-- Every list of groups is read back, -/
theorem groupsOf?_pieces (l : List UInt16) : groupsOf? last4 (pieces l) = some l := by
  induction l with
  | nil => rfl
  | cons g l ih =>
      cases l with
      | nil => simp only [pieces, List.map_cons, List.map_nil, groupsOf?, group?_toDigits]
      | cons h l =>
          show (group? (Nat.toDigits 16 g.toNat)).bind
            (fun g => (groupsOf? last4 (pieces (h :: l))).bind fun l => some (g :: l)) = _
          rw [group?_toDigits, ih]
          rfl

/-- and colons between groups are where the groups are cut. -/
theorem split_groupsText {l : List UInt16} (hl : l ≠ []) :
    split ':' (groupsText l) = pieces l := by
  induction l with
  | nil => exact absurd rfl hl
  | cons g l ih =>
      cases l with
      | nil => exact split_of_not_mem (colon_not_mem_toDigits _)
      | cons h l =>
          rw [groupsText, split_append_cons (colon_not_mem_toDigits _), ih (List.cons_ne_nil _ _)]
          · rfl
          · exact List.cons_ne_nil _ _

/-- A text of groups starts with a digit. -/
theorem groupsText_cons (g : UInt16) (l : List UInt16) :
    ∃ c cs, groupsText (g :: l) = c :: cs ∧ c ≠ ':' := by
  obtain ⟨c, cs, hcs⟩ := List.exists_cons_of_ne_nil
    (Nat.toDigits_ne_nil (b := 16) (n := g.toNat))
  have hc : c ≠ ':' := by
    rintro rfl
    exact colon_not_mem_toDigits g.toNat (hcs ▸ List.mem_cons_self)
  cases l with
  | nil => exact ⟨c, cs, hcs, hc⟩
  | cons h l => exact ⟨c, cs ++ ':' :: groupsText (h :: l), by simp [groupsText, hcs], hc⟩

/-- **One side of a double colon is read back.** -/
theorem side?_groupsText (l : List UInt16) : side? last4 (groupsText l) = some l := by
  cases l with
  | nil => rfl
  | cons g l =>
      obtain ⟨c, cs, hcs, -⟩ := groupsText_cons g l
      rw [side?, hcs]
      show groupsOf? last4 (split ':' (c :: cs)) = _
      rw [← hcs, split_groupsText (List.cons_ne_nil _ _), groupsOf?_pieces]

/-! ### The double colon -/

theorem cut?_cons (h : c ≠ ':') :
    cut? (c :: cs) = (cut? cs).map fun x => (c :: x.1, x.2) := by
  rw [cut?]
  intro ds hds
  exact absurd hds h

/-- There is no double colon in what has no colon, -/
theorem cut?_append {l : List Char} (h : ':' ∉ l) :
    cut? (l ++ cs) = (cut? cs).map fun x => (l ++ x.1, x.2) := by
  induction l with
  | nil => simp
  | cons d l ih =>
      obtain ⟨hd, hl⟩ := not_or.mp (List.mem_cons.not.mp h)
      rw [List.cons_append, cut?_cons (Ne.symm hd), ih hl, Option.map_map]
      rfl

/-- nor where a colon is followed by something else, -/
theorem cut?_colon_cons (h : c ≠ ':') :
    cut? (':' :: c :: cs) = (cut? (c :: cs)).map fun x => (':' :: x.1, x.2) := by
  rw [cut?]
  intro ds _ hds
  exact h (List.cons.inj hds).1

/-- **and so none among groups.** -/
theorem cut?_groupsText (l : List UInt16) :
    cut? (groupsText l ++ cs) = (cut? cs).map fun x => (groupsText l ++ x.1, x.2) := by
  induction l with
  | nil => simp [groupsText]
  | cons g l ih =>
      cases l with
      | nil => exact cut?_append (colon_not_mem_toDigits _)
      | cons h l =>
          obtain ⟨c, ds, hcs, hc⟩ := groupsText_cons h l
          rw [groupsText, List.append_assoc, cut?_append (colon_not_mem_toDigits _),
            List.cons_append]
          · rw [hcs, List.cons_append, cut?_colon_cons hc, ← List.cons_append, ← hcs, ih,
              Option.map_map, Option.map_map]
            simp [Function.comp_def]
          · exact List.cons_ne_nil _ _

/-! ### The longest run of zeros -/

/-- A list starts with its run of zeros. -/
theorem zeros_append (l : List UInt16) :
    List.replicate (zeros l) 0 ++ l.dropWhile (· == 0) = l := by
  have hzero : l.takeWhile (· == 0) = List.replicate (zeros l) 0 := by
    refine List.eq_replicate_iff.mpr ⟨rfl, fun g hg => ?_⟩
    exact eq_of_beq (List.mem_takeWhile_imp (p := (· == 0)) hg)
  rw [← hzero, List.takeWhile_append_dropWhile]

/-- **The longest run of zeros is one**: there are zeros where it is said to be. -/
theorem longestZeros_spec (place : Nat) (l : List UInt16) :
    ∃ a b, l = a ++ List.replicate (longestZeros place l).2 0 ++ b
      ∧ (longestZeros place l).1 = place + a.length := by
  induction l generalizing place with
  | nil => exact ⟨[], [], rfl, rfl⟩
  | cons g l ih =>
      rw [longestZeros]
      split
      · exact ⟨[], (g :: l).dropWhile (· == 0), (zeros_append _).symm, rfl⟩
      · obtain ⟨a, b, hl, hplace⟩ := ih (place + 1)
        refine ⟨g :: a, b, ?_, ?_⟩
        · rw [List.cons_append, List.cons_append, ← hl]
        · rw [hplace, List.length_cons]
          omega

/-! ### Addresses -/

theorem ofGroups?_groups (x : Ipv6) : ofGroups? x.groups = some x := dif_pos x.length_eq

theorem compressedText_eq (x : Ipv6) :
    x.compressedText = if 2 ≤ (longestZeros 0 x.groups).2 then
        groupsText (x.groups.take (longestZeros 0 x.groups).1) ++ ':' :: ':' ::
          groupsText (x.groups.drop
            ((longestZeros 0 x.groups).1 + (longestZeros 0 x.groups).2))
      else groupsText x.groups := rfl

/-- **The shortest form is read back.** -/
theorem parse?_compressedText (x : Ipv6) : parse? x.compressedText = some x := by
  obtain ⟨a, b, hx, hplace⟩ := longestZeros_spec 0 x.groups
  rw [compressedText_eq, hplace, Nat.zero_add]
  generalize (longestZeros 0 x.groups).2 = length at hx ⊢
  split
  · -- What stands before and behind the run is written, and eight groups give its length.
    have hleft : x.groups.take a.length = a := by
      rw [hx, List.append_assoc, List.take_left]
    have hright : x.groups.drop (a.length + length) = b := by
      have hlen : a.length + length = (a ++ List.replicate length (0 : UInt16)).length := by
        simp
      rw [hx, hlen, List.drop_left]
    have hcount : a.length + length + b.length = 8 := by
      have := congrArg List.length hx
      simp only [x.length_eq, List.length_append, List.length_replicate] at this
      exact this.symm
    have hcut : cut? (groupsText a ++ ':' :: ':' :: groupsText b)
        = some (groupsText a, groupsText b) := by
      rw [cut?_groupsText, cut?]
      simp
    have hzeros : 8 - a.length - b.length = length := by omega
    have hsize : a.length + b.length ≤ 7 := by omega
    rw [hleft, hright, parse?, hcut]
    simp only [side?_groupsText, Option.bind_eq_bind, Option.bind_some, if_pos hsize, hzeros]
    rw [← hx, ofGroups?_groups]
  · have hcut : cut? (groupsText x.groups) = none := by
      rw [← List.append_nil (groupsText x.groups), cut?_groupsText]
      rfl
    have hne : x.groups ≠ [] := by
      intro h
      have := x.length_eq
      rw [h] at this
      exact nomatch this
    rw [parse?, hcut]
    show (groupsOf? true (split ':' (groupsText x.groups))).bind ofGroups? = some x
    rw [split_groupsText hne, groupsOf?_pieces, Option.bind_some, ofGroups?_groups]

/-- An address of version 4 behind the marker of mapped ones is read as its two groups. -/
theorem side?_mapped (y : Ipv4) :
    side? true ('f' :: 'f' :: 'f' :: 'f' :: ':' :: y.text) = some (0xffff :: y.groups) := by
  have hmarker : ':' ∉ ['f', 'f', 'f', 'f'] := by decide
  have hsplit : split ':' ('f' :: 'f' :: 'f' :: 'f' :: ':' :: y.text)
      = [['f', 'f', 'f', 'f'], y.text] := by
    rw [← split_of_not_mem y.colon_not_mem_text]
    exact split_append_cons hmarker
  have hfirst : group? ['f', 'f', 'f', 'f'] = some 0xffff := rfl
  have hsecond : group? y.text = none := by
    refine group?_of_mem (c := '.') ?_ rfl
    simp [Ipv4.text]
  rw [side?, hsplit]
  simp [groupsOf?, hfirst, hsecond, y.parse?_text]

/-- A mapped address of version 4 is five groups of zeros, the marker and its own groups. -/
theorem parse?_mapped (y : Ipv4) :
    parse? ([':', ':', 'f', 'f', 'f', 'f', ':'] ++ y.text)
      = ofGroups? (List.replicate 5 0 ++ 0xffff :: y.groups) := by
  have hcut : cut? ([':', ':', 'f', 'f', 'f', 'f', ':'] ++ y.text)
      = some ([], 'f' :: 'f' :: 'f' :: 'f' :: ':' :: y.text) := by
    rw [List.cons_append, List.cons_append, cut?]
    rfl
  have hleft : side? false [] = some [] := rfl
  have hsize : (0xffff :: y.groups).length = 3 := rfl
  rw [parse?, hcut]
  simp only [hleft, side?_mapped, hsize, Option.bind_eq_bind, Option.bind_some,
    List.length_nil, Nat.reduceLeDiff, if_true, Nat.reduceSub, List.nil_append]

/-- **An address of version 6 is read back.** -/
theorem parse?_text (x : Ipv6) : parse? x.text = some x := by
  unfold text
  split
  · rename_i g h hx
    rw [parse?_mapped, Ipv4.groups_ofNat]
    have hgroups : List.replicate 5 0 ++ 0xffff :: [g, h] = x.groups := hx.symm
    rw [hgroups, ofGroups?_groups]
  · exact parse?_compressedText x

/-! ### Characters -/

theorem isAddressChar_of_mem_groupsText {l : List UInt16} (h : c ∈ groupsText l) :
    isAddressChar c = true := by
  have hdigit : ∀ n, c ∈ Nat.toDigits 16 n → isAddressChar c = true := fun n =>
    isAddressChar_of_mem_toDigits (by decide) (by decide)
  induction l with
  | nil => exact absurd h List.not_mem_nil
  | cons g l ih =>
      cases l with
      | nil => exact hdigit _ h
      | cons g' l =>
          have h : c ∈ Nat.toDigits 16 g.toNat ++ ':' :: groupsText (g' :: l) := h
          rcases List.mem_append.mp h with h | h
          · exact hdigit _ h
          · rcases List.mem_cons.mp h with rfl | h
            · rfl
            · exact ih h

theorem isAddressChar_of_mem_text {x : Ipv6} (h : c ∈ x.text) : isAddressChar c = true := by
  unfold text at h
  split at h
  · rcases List.mem_append.mp h with h | h
    · have hmarker : ∀ c ∈ [':', ':', 'f', 'f', 'f', 'f', ':'], isAddressChar c = true :=
        List.all_eq_true.mp (by decide)
      exact hmarker c h
    · exact Ipv4.isAddressChar_of_mem_text h
  · rw [compressedText_eq] at h
    split at h
    · simp only [List.mem_append, List.mem_cons] at h
      rcases h with h | rfl | rfl | h
      · exact isAddressChar_of_mem_groupsText h
      · rfl
      · rfl
      · exact isAddressChar_of_mem_groupsText h
    · exact isAddressChar_of_mem_groupsText h

/-- There is always a colon, as there are eight groups. -/
theorem colon_mem_text (x : Ipv6) : ':' ∈ x.text := by
  unfold text
  split
  · exact List.mem_append_left _ List.mem_cons_self
  · rw [compressedText_eq]
    split
    · simp
    · obtain ⟨groups, hlength⟩ := x
      match groups, hlength with
      | g :: h :: l, _ =>
          show ':' ∈ Nat.toDigits 16 g.toNat ++ ':' :: groupsText (h :: l)
          simp

end Ipv6

/-! ## Both versions -/

namespace IpAddress

/-- **Every address is read back**, as one of its own version. -/
theorem parse?_text (x : IpAddress) : parse? x.text.toList = some x := by
  cases x with
  | v4 x =>
      rw [text, String.toList_ofList, parse?, Ipv4.parse?_text]
  | v6 x =>
      have hv4 : Ipv4.parse? x.text = none :=
        Ipv4.parse?_of_mem x.colon_mem_text rfl (by decide)
      rw [text, String.toList_ofList, parse?, hv4, Ipv6.parse?_text]
      rfl

theorem isAddressChar_of_mem_text {x : IpAddress} {c : Char} (h : c ∈ x.text.toList) :
    isAddressChar c = true := by
  cases x with
  | v4 x =>
      rw [text, String.toList_ofList] at h
      exact Ipv4.isAddressChar_of_mem_text h
  | v6 x =>
      rw [text, String.toList_ofList] at h
      exact Ipv6.isAddressChar_of_mem_text h

end IpAddress

end TlsScan.Net
