import Mathlib.Data.List.Infix
import TlsScan.Text.Blank
import TlsScan.Text.Split

/-!
# Texts that were put together

What cutting makes of a text that was put together from pieces: a cut at a separator that
the pieces do not have gives the pieces back.

## Main Results

* `Text.split_append_cons`, `Text.split_of_not_mem` — the pieces of a text.
* `Text.cutFirst?_append_cons`, `Text.cutLast?_append_cons` — the two sides of a separator.
* `Text.contains_iff` — a text contains its infixes.
* `Text.trim_of_visible` — there is nothing to trim where nothing is white space.
-/

namespace TlsScan.Text

variable {separator c : Char} {p l r cs part : List Char}

/-! ## Splitting -/

theorem split_ne_nil (separator : Char) (cs : List Char) : split separator cs ≠ [] := by
  cases cs with
  | nil => exact List.cons_ne_nil _ _
  | cons c cs =>
      rw [split]
      split
      · exact List.cons_ne_nil _ _
      · split <;> exact List.cons_ne_nil _ _

/-- A character that is no separator goes to the first piece. -/
theorem split_cons (h : c ≠ separator) :
    split separator (c :: cs) = (split separator cs).modifyHead (c :: ·) := by
  rw [split, if_neg h]
  cases hs : split separator cs with
  | nil => exact absurd hs (split_ne_nil _ _)
  | cons p ps => rfl

/-- A text without separators is one piece. -/
theorem split_of_not_mem (h : separator ∉ p) : split separator p = [p] := by
  induction p with
  | nil => rfl
  | cons c p ih =>
      obtain ⟨hc, hp⟩ := not_or.mp (List.mem_cons.not.mp h)
      rw [split_cons (Ne.symm hc), ih hp]
      rfl

/-- **What stands before the first separator is the first piece.** -/
theorem split_append_cons (h : separator ∉ p) :
    split separator (p ++ separator :: cs) = p :: split separator cs := by
  induction p with
  | nil => rw [List.nil_append, split, if_pos rfl]
  | cons c p ih =>
      obtain ⟨hc, hp⟩ := not_or.mp (List.mem_cons.not.mp h)
      rw [List.cons_append, split_cons (Ne.symm hc), ih hp]
      rfl

/-- Every other character is in some piece. -/
theorem exists_mem_split (hc : c ∈ cs) (h : c ≠ separator) :
    ∃ p ∈ split separator cs, c ∈ p := by
  induction cs with
  | nil => exact absurd hc List.not_mem_nil
  | cons d cs ih =>
      by_cases hd : d = separator
      · have hcs : c ∈ cs := (List.mem_cons.mp hc).resolve_left fun heq => h (heq.trans hd)
        obtain ⟨p, hp, hmem⟩ := ih hcs
        rw [split, if_pos hd]
        exact ⟨p, List.mem_cons_of_mem _ hp, hmem⟩
      · rw [split_cons hd]
        cases hs : split separator cs with
        | nil => exact absurd hs (split_ne_nil _ _)
        | cons q qs =>
            rcases List.mem_cons.mp hc with rfl | hcs
            · exact ⟨c :: q, List.mem_cons_self, List.mem_cons_self⟩
            · obtain ⟨p, hp, hmem⟩ := ih hcs
              rw [hs] at hp
              rcases List.mem_cons.mp hp with rfl | hp
              · exact ⟨d :: p, List.mem_cons_self, List.mem_cons_of_mem _ hmem⟩
              · exact ⟨p, List.mem_cons_of_mem _ hp, hmem⟩

/-! ## Cutting once -/

/-- **The first separator is the one that has none before it.** -/
theorem cutFirst?_append_cons (h : separator ∉ l) :
    cutFirst? separator (l ++ separator :: r) = some (l, r) := by
  induction l with
  | nil => exact if_pos rfl
  | cons c l ih =>
      obtain ⟨hc, hl⟩ := not_or.mp (List.mem_cons.not.mp h)
      rw [List.cons_append, cutFirst?, if_neg (Ne.symm hc), ih hl]
      rfl

theorem cutLast?_of_not_mem (h : separator ∉ cs) : cutLast? separator cs = none := by
  induction cs with
  | nil => rfl
  | cons c cs ih =>
      obtain ⟨hc, hcs⟩ := not_or.mp (List.mem_cons.not.mp h)
      rw [cutLast?, ih hcs]
      exact if_neg (Ne.symm hc)

/-- **The last separator is the one that has none behind it.** -/
theorem cutLast?_append_cons (h : separator ∉ r) :
    cutLast? separator (l ++ separator :: r) = some (l, r) := by
  induction l with
  | nil =>
      rw [List.nil_append, cutLast?, cutLast?_of_not_mem h]
      exact if_pos rfl
  | cons c l ih => rw [List.cons_append, cutLast?, ih]

/-! ## Parts -/

/-- **A text contains its infixes.** -/
theorem contains_iff : contains part cs = true ↔ part <:+: cs := by
  induction cs with
  | nil => rw [contains, List.isEmpty_iff, List.infix_nil]
  | cons c cs ih =>
      rw [contains, Bool.or_eq_true, List.isPrefixOf_iff_prefix, ih, List.infix_cons_iff]

/-- A character that a part does not have keeps it on one of its two sides. -/
theorem infix_append_cons_iff (hc : c ∉ part) :
    part <:+: l ++ c :: r ↔ part <:+: l ∨ part <:+: r := by
  constructor
  · rintro ⟨s, t, h⟩
    rw [List.append_assoc] at h
    rcases List.append_eq_append_iff.mp h with ⟨u, hl, hr⟩ | ⟨u, -, hr⟩
    · -- The part begins before the character, so it ends there too.
      rcases List.append_eq_append_iff.mp hr with ⟨v, hu, -⟩ | ⟨v, hpart, hv⟩
      · exact Or.inl ⟨s, v, by rw [hl, hu, List.append_assoc]⟩
      · cases v with
        | nil => exact Or.inl ⟨s, [], by rw [hl, hpart, List.append_nil, List.append_nil]⟩
        | cons d v =>
            obtain ⟨rfl, -⟩ := List.cons.inj hv
            exact absurd (by simp [hpart]) hc
    · cases u with
      | nil =>
          cases part with
          | nil => exact Or.inl List.nil_infix
          | cons d part =>
              obtain ⟨rfl, -⟩ := List.cons.inj hr
              exact absurd List.mem_cons_self hc
      | cons d u =>
          obtain ⟨-, hr⟩ := List.cons.inj hr
          exact Or.inr ⟨u, t, (List.append_assoc ..).trans hr.symm⟩
  · rintro (h | h)
    · exact h.trans (List.prefix_append ..).isInfix
    · exact h.trans ((List.suffix_cons ..).trans (List.suffix_append ..)).isInfix

/-- Nothing is dropped from a text whose first character stays. -/
theorem dropWhile_of_head {p : Char → Bool} (h : ∀ c ∈ cs.head?, p c = false) :
    cs.dropWhile p = cs := by
  cases cs with
  | nil => rfl
  | cons c cs => exact List.dropWhile_cons_of_neg (Bool.eq_false_iff.mp (h c rfl))

/-! ## White space -/

/-- **The characters of ASCII that can be seen** are no white space. -/
theorem isBlank_of_visible (h : 0x20 < c.toNat ∧ c.toNat < 0x7f) : isBlank c = false := by
  simp only [isBlank, blankRanges, List.any_cons, List.any_nil, Bool.or_false,
    Bool.or_eq_false_iff, Bool.and_eq_false_iff, decide_eq_false_iff_not]
  omega

theorem trim_of_visible (h : ∀ c ∈ cs, 0x20 < c.toNat ∧ c.toNat < 0x7f) : trim cs = cs := by
  refine trim_eq_self (fun c hc => ?_) (fun c hc => ?_)
  · exact isBlank_of_visible (h c (List.mem_of_mem_head? hc))
  · exact isBlank_of_visible (h c (List.mem_of_mem_getLast? hc))

end TlsScan.Text
