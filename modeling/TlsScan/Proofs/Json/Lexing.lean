import TlsScan.Json.Printer
import TlsScan.Proofs.Json.Number

/-!
# From characters to tokens

What the printers write for brackets, marks, words and texts is read back by the lexer as
the tokens that were meant.

A word is the one kind of token that does not end with a character of its own.  So a text is
followed by another one as long as the lexer has settled all its tokens up to a word that may
still be under way, and the next character is none that could belong to that word.

## Main Definitions

* `Json.Lexer.Settled` — a state in which some tokens have been read.
* `Json.Lexer.Spells` — characters that are read as some tokens.

## Main Results

* `Json.Lexer.Spells.append`, `Json.Lexer.Spells.mark`, `Json.Lexer.Spells.blanks` — texts
  can be put together.
* `Json.Lexer.spells_word`, `Json.Lexer.spells_quoted` — words and quoted texts are read as
  what they stand for.
-/

namespace TlsScan.Json

namespace Lexer

variable {s : State} {rev ts us : List Token} {t : Token} {c : Char} {cs ds : List Char}

/-! ## Tokens that have been read -/

/-- **Some tokens have been read**, the last one of which may be a word under way. -/
inductive Settled : State → List Token → Prop
  | between (rev : List Token) : Settled ⟨.between, rev⟩ rev
  | word {w : List Char} {t : Token} (rev : List Token)
      (h : wordToken? w.reverse = some t) : Settled ⟨.word w, rev⟩ (t :: rev)

/-- A character that cannot belong to a word is read as if no word were under way. -/
theorem Settled.step (h : Settled s rev) (hc : isWordChar c = false) :
    step s c = begin? rev c := by
  cases h with
  | between => rfl
  | word rev h =>
      show (if isWordChar c then _ else _) = _
      rw [hc, if_neg Bool.false_ne_true, h]
      rfl

theorem Settled.finish? (h : Settled s rev) : finish? s = some rev.reverse := by
  cases h with
  | between => rfl
  | word rev h =>
      show (wordToken? _).map _ = _
      rw [h]
      rfl

/-- **Characters are read as some tokens**, whatever was read before them. -/
def Spells (cs : List Char) (ts : List Token) : Prop :=
  ∀ rev, ∃ s, cs.foldlM step ⟨.between, rev⟩ = some s ∧ Settled s (ts.reverse ++ rev)

theorem Spells.tokens? (h : Spells cs ts) : tokens? cs = some ts := by
  obtain ⟨s, hs, hsettled⟩ := h []
  rw [Json.tokens?, hs]
  show Lexer.finish? s = _
  rw [hsettled.finish?, List.append_nil, List.reverse_reverse]

theorem spells_nil : Spells [] [] := fun rev => ⟨_, rfl, .between rev⟩

/-- A text is followed by another one that does not go on with its last word. -/
theorem Spells.append (h : Spells cs ts) (h' : Spells (c :: ds) us)
    (hc : isWordChar c = false) : Spells (cs ++ c :: ds) (ts ++ us) := by
  intro rev
  obtain ⟨s, hs, hsettled⟩ := h rev
  obtain ⟨s', hs', hsettled'⟩ := h' (ts.reverse ++ rev)
  refine ⟨s', ?_, by rwa [List.reverse_append, List.append_assoc]⟩
  rw [← hs', List.foldlM_append, hs, List.foldlM_cons]
  show (step s c >>= _) = _
  rw [hsettled.step hc]
  rfl

/-- A bracket, a mark or a blank stands for itself. -/
theorem Spells.mark (c : Char) (token : Option Token)
    (hc : start? c = some (.between, token)) (h : Spells cs ts) :
    Spells (c :: cs) (token.toList ++ ts) := by
  intro rev
  obtain ⟨s, hs, hsettled⟩ := h (token.toList ++ rev)
  refine ⟨s, ?_, ?_⟩
  · rw [List.foldlM_cons]
    show (begin? rev c >>= _) = _
    rw [begin?, hc]
    exact hs
  · cases token with
    | none => exact hsettled
    | some t => simpa using hsettled

/-- Blanks are skipped. -/
theorem Spells.blanks (h : Spells cs ts) (n : Nat) : Spells (newLine n ++ cs) ts := by
  have hspaces : ∀ n, Spells (List.replicate n ' ' ++ cs) ts := by
    intro n
    induction n with
    | zero => exact h
    | succ n ih => exact Spells.mark ' ' none rfl ih
  exact Spells.mark '\n' none rfl (hspaces (2 * n))

/-! ## Words -/

theorem start?_of_isWordChar (h : isWordChar c = true) :
    start? c = some (.word [c], none) := by
  have hne : ∀ d, isWordChar d = false → c ≠ d := by
    rintro d hd rfl
    rw [hd] at h
    cases h
  unfold start?
  simp only [hne ' ' rfl, hne '\n' rfl, hne '\t' rfl, hne '\r' rfl, hne '[' rfl, hne ']' rfl,
    hne '\x7b' rfl, hne '\x7d' rfl, hne ',' rfl, hne ':' rfl, hne '"' rfl, h, or_self,
    if_false, if_true]

theorem foldlM_word {w : List Char} (h : ∀ c ∈ cs, isWordChar c = true) :
    cs.foldlM step ⟨.word w, rev⟩ = some ⟨.word (cs.reverse ++ w), rev⟩ := by
  induction cs generalizing w with
  | nil => rfl
  | cons c cs ih =>
      obtain ⟨hc, hcs⟩ := List.forall_mem_cons.mp h
      have hstep : step ⟨.word w, rev⟩ c = some ⟨.word (c :: w), rev⟩ := if_pos hc
      rw [List.foldlM_cons, hstep]
      show cs.foldlM step _ = _
      rw [ih hcs, List.reverse_cons, List.append_assoc]
      rfl

/-- **A word is read as what it spells.** -/
theorem spells_word {w : List Char} (hw : ∀ c ∈ w, isWordChar c = true)
    (h : wordToken? w = some t) : Spells w [t] := by
  intro rev
  cases w with
  | nil => cases h
  | cons c w =>
      obtain ⟨hc, hcs⟩ := List.forall_mem_cons.mp hw
      refine ⟨⟨.word (w.reverse ++ [c]), rev⟩, ?_, .word rev ?_⟩
      · rw [List.foldlM_cons]
        show (begin? rev c >>= _) = _
        rw [begin?, start?_of_isWordChar hc]
        exact foldlM_word hcs
      · simpa using h

/-! ## Texts -/

/-- **What is written for a character inside quotes is read as the character.** -/
theorem foldlM_escaped (c : Char) (ps : List Piece) (rev : List Token) :
    (escaped c).foldlM step ⟨.string ps, rev⟩ = some ⟨.string (.char c :: ps), rev⟩ := by
  unfold escaped
  split
  · subst c; rfl
  split
  · subst c; rfl
  split
  · subst c; rfl
  split
  · subst c; rfl
  split
  · subst c; rfl
  split
  · rename_i h
    obtain rfl : c = '\x08' := Char.toNat_inj.mp h
    rfl
  split
  · rename_i h
    obtain rfl : c = '\x0c' := Char.toNat_inj.mp h
    rfl
  split
  · -- The number is spelled out with two digits that are not zero in general.
    rename_i h
    have hescape : Piece.ofEscape (c.toNat / 16 * 16 + c.toNat % 16) = .char c := by
      rw [Nat.div_add_mod' c.toNat 16, Piece.ofEscape, if_neg (by omega), Char.ofNat_toNat]
    have hhigh : Text.digitValue? 16 (hexDigit (c.toNat / 16)) = some (c.toNat / 16) :=
      Text.digitValue?_digitChar (by omega)
    have hlow : Text.digitValue? 16 (hexDigit (c.toNat % 16)) = some (c.toNat % 16) :=
      Text.digitValue?_digitChar (by omega)
    have hsteps : ['\\', 'u', '0', '0', hexDigit (c.toNat / 16), hexDigit (c.toNat % 16)].foldlM
        step ⟨.string ps, rev⟩
        = [hexDigit (c.toNat / 16), hexDigit (c.toNat % 16)].foldlM step
          ⟨.hex 1 0 ps, rev⟩ := rfl
    rw [hsteps]
    simp only [List.foldlM_cons, List.foldlM_nil, step, hhigh, hlow, Option.map_some,
      Option.bind_eq_bind, Option.bind_some, Nat.zero_mul, Nat.zero_add, hescape]
    rfl
  · rename_i hquote hslash _ _ _ _ _ hcontrol
    have hstep : step ⟨.string ps, rev⟩ c = some ⟨.string (.char c :: ps), rev⟩ := by
      show (if c = '"' then _ else _) = _
      rw [if_neg hquote, if_neg hslash, if_neg hcontrol]
    rw [List.foldlM_cons, hstep]
    rfl

theorem foldlM_flatMap_escaped (cs : List Char) (ps : List Piece) (rev : List Token) :
    (cs.flatMap escaped).foldlM step ⟨.string ps, rev⟩
      = some ⟨.string ((cs.map .char).reverse ++ ps), rev⟩ := by
  induction cs generalizing ps with
  | nil => rfl
  | cons c cs ih =>
      rw [List.flatMap_cons, List.foldlM_append, foldlM_escaped]
      show (cs.flatMap escaped).foldlM step _ = _
      rw [ih, List.map_cons, List.reverse_cons, List.append_assoc]
      rfl

theorem join?_map_char (cs : List Char) : join? (cs.map .char) = some cs := by
  induction cs with
  | nil => rfl
  | cons c cs ih => rw [List.map_cons, join?, ih]; rfl

/-- **What stands between quotes is read as the text.** -/
theorem spells_quoted (s : String) : Spells (quoted s) [.text (some s)] := by
  intro rev
  refine ⟨⟨.between, .text (some s) :: rev⟩, ?_, .between _⟩
  have hopen : step ⟨.between, rev⟩ '"' = some ⟨.string [], rev⟩ := rfl
  have hclose : ∀ ps, step ⟨.string ps, rev⟩ '"'
      = some ⟨.between, .text ((join? ps.reverse).map String.ofList) :: rev⟩ := fun _ => rfl
  rw [quoted, List.cons_append, List.foldlM_cons, hopen]
  show (s.toList.flatMap escaped ++ ['"']).foldlM step _ = _
  rw [List.foldlM_append, foldlM_flatMap_escaped, Option.bind_eq_bind, Option.bind_some,
    List.foldlM_cons, hclose, List.append_nil, List.reverse_reverse, join?_map_char,
    Option.map_some, String.ofList_toList]
  rfl

end Lexer

end TlsScan.Json
