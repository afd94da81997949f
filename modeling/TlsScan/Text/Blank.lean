/-!
# White space

The white space of the Unicode standard, and its removal at the ends of a text.
-/

namespace TlsScan.Text

/-- The code points with the White_Space property, as ranges. -/
def blankRanges : List (Nat × Nat) :=
  [(0x09, 0x0d), (0x20, 0x20), (0x85, 0x85), (0xa0, 0xa0), (0x1680, 0x1680),
   (0x2000, 0x200a), (0x2028, 0x2029), (0x202f, 0x202f), (0x205f, 0x205f), (0x3000, 0x3000)]

/-- Whether a character is white space. -/
def isBlank (c : Char) : Bool :=
  blankRanges.any fun r => r.1 ≤ c.toNat && c.toNat ≤ r.2

/-- A text without white space at its start. -/
def trimStart (cs : List Char) : List Char := cs.dropWhile isBlank

/-- A text without white space at its ends. -/
def trim (cs : List Char) : List Char :=
  (trimStart (trimStart cs).reverse).reverse

/-- A text that neither starts nor ends with white space is left alone. -/
theorem trim_eq_self {cs : List Char} (hs : ∀ c ∈ cs.head?, isBlank c = false)
    (he : ∀ c ∈ cs.getLast?, isBlank c = false) : trim cs = cs := by
  have drop {l : List Char} (h : ∀ c ∈ l.head?, isBlank c = false) : trimStart l = l := by
    cases l with
    | nil => rfl
    | cons c l => simp [trimStart, h c rfl]
  rw [trim, drop hs, drop (by simpa using he), List.reverse_reverse]

end TlsScan.Text
