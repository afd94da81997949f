import TlsScan.Proofs.Net.Labels

/-!
# Named ports

A target may name its port as a host with a port and as a URL.  Both are read back, but a
URL does not have a port that is the default one of its scheme.  When that port is not the
one that is used where none is named, the URL and the host with a port differ.

## Main Definitions

* `Net.PortUrl` — URLs that name a port, of the plainest kind.
* `Net.hiddenPorts` — the schemes with another default port than that of a target.

## Main Results

* `Net.PortUrl.splitTarget_text` — the host and the port of such a URL.
* `Net.PortUrl.named_port_used_iff` — the port that is named is used unless it is hidden.
-/

namespace TlsScan.Net

open Text

/-! ## Characters -/

/-- The characters of a host whose labels are made of lowercase letters. -/
def hostChars : List Char := '.' :: (List.range 26).map fun n => Char.ofNat ('a'.toNat + n)

section
variable {c : Char} {cs host path digits rest scheme : List Char} {k : Url.Kind}
variable {labels : List (List Char)}

theorem isLower_iff : c.isLower = true ↔ 'a'.toNat ≤ c.toNat ∧ c.toNat ≤ 'z'.toNat := by
  show (decide ('a'.val ≤ c.val) && decide (c.val ≤ 'z'.val)) = true ↔ _
  rw [Bool.and_eq_true, decide_eq_true_iff, decide_eq_true_iff, UInt32.le_iff_toNat_le,
    UInt32.le_iff_toNat_le]
  rfl

theorem isUpper_iff : c.isUpper = true ↔ 'A'.toNat ≤ c.toNat ∧ c.toNat ≤ 'Z'.toNat := by
  show decide ('A'.val ≤ c.val ∧ c.val ≤ 'Z'.val) = true ↔ _
  rw [decide_eq_true_iff, UInt32.le_iff_toNat_le, UInt32.le_iff_toNat_le]
  rfl

theorem mem_hostChars (h : c.isLower = true) : c ∈ hostChars := by
  have hrange := isLower_iff.mp h
  have hlast : 'z'.toNat = 'a'.toNat + 25 := rfl
  have hplace : 'a'.toNat + (c.toNat - 'a'.toNat) = c.toNat := Nat.add_sub_cancel' hrange.1
  refine List.mem_cons_of_mem _ (List.mem_map.mpr ⟨c.toNat - 'a'.toNat, ?_, ?_⟩)
  · exact List.mem_range.mpr (by omega)
  · rw [hplace, Char.ofNat_toNat]

/-- **A character that stands for itself** in the host of every URL. -/
structure IsPlainChar (c : Char) : Prop where
  visible : 0x20 < c.toNat ∧ c.toNat < 0x7f
  isAscii : DomainName.isAscii c = true
  isDenied : DomainName.isDenied c = false
  isForbidden : Url.isForbidden c = false
  toLower : c.toLower = c
  encodeChar : Url.encodeChar c = [c]
  isDigit : c.isDigit = false
  digitValue? : digitValue? 10 c = none

theorem isPlainChar_of_mem (h : c ∈ hostChars) : IsPlainChar c := by
  have hall : (hostChars.all fun c => (0x20 < c.toNat ∧ c.toNat < 0x7f)
      ∧ DomainName.isAscii c = true ∧ DomainName.isDenied c = false
      ∧ Url.isForbidden c = false ∧ c.toLower = c ∧ Url.encodeChar c = [c]
      ∧ c.isDigit = false ∧ Text.digitValue? 10 c = none) = true := by
    decide
  obtain ⟨h₁, h₂, h₃, h₄, h₅, h₆, h₇, h₈⟩ := of_decide_eq_true (List.all_eq_true.mp hall c h)
  exact ⟨h₁, h₂, h₃, h₄, h₅, h₆, h₇, h₈⟩

theorem isPlainChar_of_isLower (h : c.isLower = true) : IsPlainChar c :=
  isPlainChar_of_mem (mem_hostChars h)

/-- Letters and digits can be seen. -/
theorem visible_of_isAlphanum (h : c.isAlphanum = true) : 0x20 < c.toNat ∧ c.toNat < 0x7f := by
  have hbounds : '0'.toNat = 48 ∧ '9'.toNat = 57 ∧ 'A'.toNat = 65 ∧ 'Z'.toNat = 90
    ∧ 'a'.toNat = 97 ∧ 'z'.toNat = 122 := by decide
  rcases Bool.or_eq_true_iff.mp h with hletter | hdigit
  · rcases Bool.or_eq_true_iff.mp hletter with hupper | hlower
    · have hrange := isUpper_iff.mp hupper
      omega
    · have hrange := isLower_iff.mp hlower
      omega
  · have hrange := isDigit_iff.mp hdigit
    omega

/-! ## Parts of URLs -/

/-- Nothing is dropped from a text in which every character can be seen. -/
theorem Url.clean_of_visible (h : ∀ c ∈ cs, 0x20 < c.toNat) : Url.clean cs = cs := by
  have hcontrol : ∀ c ∈ cs, Url.isControlOrSpace c = false := by
    intro c hc
    exact decide_eq_false (Nat.not_le.mpr (h c hc))
  have hkept : ∀ c ∈ cs, (c ≠ '\t' && c ≠ '\n' && c ≠ '\r') = true := by
    intro c hc
    have hvisible := h c hc
    have hne : ∀ d : Char, d.toNat ≤ 0x20 → decide (c ≠ d) = true := by
      rintro d hd
      refine decide_eq_true ?_
      rintro rfl
      omega
    rw [hne _ (by decide), hne _ (by decide), hne _ (by decide)]
    rfl
  show ((cs.dropWhile Url.isControlOrSpace).reverse.dropWhile _).reverse.filter _ = cs
  rw [dropWhile_of_head fun c hc => hcontrol c (List.mem_of_mem_head? hc),
    dropWhile_of_head fun c hc => hcontrol c (List.mem_reverse.mp (List.mem_of_mem_head? hc)),
    List.reverse_reverse]
  exact List.filter_eq_self.mpr hkept

/-- **A scheme stands before its colon.** -/
theorem Url.scheme?_append_cons (hstart : ∀ c ∈ scheme.head?, c.isAlpha = true)
    (hne : scheme ≠ []) (hchars : ∀ c ∈ scheme, c.isAlphanum = true) :
    Url.scheme? (scheme ++ ':' :: rest)
      = some (String.ofList (scheme.map Char.toLower), rest) := by
  have hscheme : ∀ c ∈ scheme, Url.isSchemeChar c = true := by
    intro c hc
    simp [Url.isSchemeChar, hchars c hc]
  have hcolon : Url.isSchemeChar ':' = false := by decide
  have hdrop : (scheme ++ ':' :: rest).dropWhile Url.isSchemeChar = ':' :: rest := by
    rw [List.dropWhile_append_of_pos hscheme]
    exact dropWhile_of_head fun c hc => Option.some.inj hc ▸ hcolon
  have htake : (scheme ++ ':' :: rest).takeWhile Url.isSchemeChar = scheme := by
    rw [List.takeWhile_append_of_pos hscheme,
      List.takeWhile_cons_of_neg (Bool.eq_false_iff.mp hcolon), List.append_nil]
  cases scheme with
  | nil => exact absurd rfl hne
  | cons c cs =>
      rw [List.cons_append] at hdrop htake ⊢
      show (if c.isAlpha then _ else _) = _
      rw [if_pos (hstart c rfl), hdrop, htake]
      rfl

/-- The default ports of schemes, but for the one that a target has anyway.  A URL with
such a port reads as one without a port. -/
def hiddenPorts : List (String × UInt16) := [("http", 80), ("ws", 80), ("ftp", 21)]

/-- The hidden ports are the default ports but for that of a target. -/
theorem mem_hiddenPorts {s : String} {port : UInt16} :
    (s, port) ∈ hiddenPorts ↔ Url.kindOf s = .web port ∧ port ≠ defaultPort := by
  constructor
  · intro h
    simp only [hiddenPorts, List.mem_cons, List.not_mem_nil, Prod.mk.injEq, or_false] at h
    rcases h with ⟨rfl, rfl⟩ | ⟨rfl, rfl⟩ | ⟨rfl, rfl⟩
    all_goals exact ⟨rfl, by decide⟩
  · rintro ⟨hkind, hne⟩
    unfold Url.kindOf at hkind
    split at hkind
    · exact nomatch hkind
    · cases hkind
      decide
    · cases hkind
      decide
    · cases hkind
      exact absurd rfl hne
    · cases hkind
      exact absurd rfl hne
    · cases hkind
      decide
    · exact nomatch hkind

theorem Url.eq_file_of_kindOf {s : String} (h : Url.kindOf s = .file) : s = "file" := by
  unfold Url.kindOf at h
  split at h
  · rfl
  all_goals exact nomatch h

/-- Without an at sign nobody is named. -/
theorem Url.userInfo?_of_not_mem (h : '@' ∉ cs) : Url.userInfo? k cs = none := by
  have hauthority : '@' ∉ cs.takeWhile fun c => !Url.endsAuthority k c :=
    fun hmem => h (List.IsPrefix.subset (List.takeWhile_prefix _) hmem)
  rw [userInfo?, cutLast?_of_not_mem hauthority]
  rfl

/-- **A host stands before its colon.** -/
theorem Url.takeHost_append_cons (h : ∀ c ∈ host, DomainName.isDenied c = false) :
    Url.takeHost k false (host ++ ':' :: rest) = (host, ':' :: rest) := by
  induction host with
  | nil => rfl
  | cons c host ih =>
      have hc := h c List.mem_cons_self
      simp only [DomainName.isDenied, Bool.or_eq_false_iff, decide_eq_false_iff_not] at hc
      have hends : Url.endsAuthority k c = false := by
        simp [Url.endsAuthority, hc]
      have hbrackets : (if c = '[' then true else if c = ']' then false else false) = false := by
        rw [if_neg (by simp [hc]), ite_self]
      rw [List.cons_append, takeHost, hends, if_neg (by simp [hc])]
      simp only [hbrackets, ih fun d hd => h d (List.mem_cons_of_mem _ hd)]

/-- **A port stands before the path**, and the default port of the scheme is none. -/
theorem Url.portOf_decimal_append (port : UInt16) (hpath : ∀ c ∈ path.head?, c = '/') :
    Url.portOf k (decimal port.toNat ++ path)
      = .ok (if k = .web port then none else some port) := by
  have hdigits : ∀ c ∈ decimal port.toNat, c.isDigit = true := fun c => isDigit_of_mem_decimal
  have htake : (decimal port.toNat ++ path).takeWhile Char.isDigit = decimal port.toNat := by
    rw [List.takeWhile_append_of_pos hdigits]
    cases path with
    | nil => exact List.append_nil _
    | cons c path =>
        rw [hpath c rfl]
        exact List.append_nil _
  have hworth : (decimal port.toNat).foldl
      (fun v c => v * 10 + (digitValue? 10 c).getD 0) 0 = port.toNat := by
    refine Eq.trans (List.foldl_ext _ _ _ fun v c hc => ?_) worth_decimal
    rw [digitValue?_of_isDigit (hdigits c hc)]
    rfl
  have hle : ¬ 65535 < port.toNat := Nat.not_lt.mpr (Nat.le_of_lt_succ port.toNat_lt)
  have hne : (decimal port.toNat).isEmpty = false :=
    Bool.eq_false_iff.mpr (List.isEmpty_iff.not.mpr (decimal_ne_nil _))
  unfold portOf
  simp only [htake, List.drop_left, hworth, hne, hle, UInt16.ofNat_toNat, Bool.false_or,
    decide_false, decide_eq_true_eq]
  cases path with
  | nil => rfl
  | cons c path =>
      rw [hpath c rfl]
      rfl

/-! ## Names of hosts -/

/-- A label of lowercase letters. -/
structure IsLetters (p : List Char) : Prop where
  ne_nil : p ≠ []
  isLower : ∀ c ∈ p, c.isLower = true

theorem IsLetters.not_mem (h : IsLetters cs) (hc : c.isLower = false) : c ∉ cs := by
  intro hmem
  rw [h.isLower c hmem] at hc
  exact nomatch hc

/-- A label of letters does not stand for one with other characters. -/
theorem IsLetters.no_marker (h : IsLetters cs) :
    (!DomainName.marker.isPrefixOf (cs.map Char.toLower)) = true := by
  have hlower : cs.map Char.toLower = cs := by
    rw [List.map_congr_left fun c hc => (isPlainChar_of_isLower (h.isLower c hc)).toLower]
    exact List.map_id' _
  rw [hlower, Bool.not_eq_true', Bool.eq_false_iff, ne_eq, List.isPrefixOf_iff_prefix]
  intro hmarker
  exact h.not_mem (show '-'.isLower = false from rfl) (hmarker.subset (by decide))

theorem IsLetters.all_isDigit (h : IsLetters cs) : cs.all Char.isDigit = false := by
  obtain ⟨c, tail, rfl⟩ := List.exists_cons_of_ne_nil h.ne_nil
  rw [List.all_cons, (isPlainChar_of_isLower (h.isLower c List.mem_cons_self)).isDigit]
  rfl

/-- **A label of letters is no number**: a letter is no digit, and only a zero can make it
one. -/
theorem IsLetters.ipv4Number? (h : IsLetters cs) : Url.ipv4Number? cs = none := by
  have hzero : '0' ∉ cs := h.not_mem rfl
  obtain ⟨c, tail, rfl⟩ := List.exists_cons_of_ne_nil h.ne_nil
  have hall : ((c :: tail).all fun c => (digitValue? 10 c).isSome) = false := by
    rw [List.all_cons, (isPlainChar_of_isLower (h.isLower c List.mem_cons_self)).digitValue?]
    rfl
  unfold Url.ipv4Number?
  split
  next base ds heq =>
  split at heq
  · next hcs => exact absurd (hcs ▸ List.mem_cons_self) hzero
  · next hcs => exact absurd (hcs ▸ List.mem_cons_self) hzero
  · next hcs => exact absurd (hcs ▸ List.mem_cons_self) hzero
  · obtain ⟨rfl, rfl⟩ := Prod.mk.inj heq
    rw [hall]
    rfl

theorem joined_cons {p : List Char} (h : labels ≠ []) :
    DomainName.joined (p :: labels) = p ++ '.' :: DomainName.joined labels := by
  cases labels with
  | nil => exact absurd rfl h
  | cons q qs => rfl

theorem mem_joined (h : c ∈ DomainName.joined labels) : c = '.' ∨ ∃ p ∈ labels, c ∈ p := by
  induction labels using DomainName.joined.induct with
  | case1 => exact absurd h List.not_mem_nil
  | case2 p => exact Or.inr ⟨p, List.mem_singleton_self p, h⟩
  | case3 p ps hps ih =>
      rw [joined_cons hps] at h
      rcases List.mem_append.mp h with h | h
      · exact Or.inr ⟨p, List.mem_cons_self, h⟩
      · rcases List.mem_cons.mp h with h | h
        · exact Or.inl h
        · exact (ih h).imp_right fun ⟨q, hq, hc⟩ => ⟨q, List.mem_cons_of_mem _ hq, hc⟩

/-- **A name is split into its labels.** -/
theorem split_joined (hne : labels ≠ []) (h : ∀ p ∈ labels, '.' ∉ p) :
    split '.' (DomainName.joined labels) = labels := by
  induction labels using DomainName.joined.induct with
  | case1 => exact absurd rfl hne
  | case2 p => exact split_of_not_mem (h p (List.mem_singleton_self p))
  | case3 p ps hps ih =>
      rw [joined_cons hps, split_append_cons (h p List.mem_cons_self),
        ih hps fun q hq => h q (List.mem_cons_of_mem _ hq)]

end

/-! ## URLs that name a port -/

/-- **A URL that names a port**, of the plainest kind: a scheme of letters and digits, a
host of labels of lowercase letters, and a path of letters or none. -/
structure PortUrl where
  scheme : List Char
  labels : List (List Char)
  port : UInt16
  path : List Char
  scheme_ne_nil : scheme ≠ []
  scheme_start : ∀ c ∈ scheme.head?, c.isAlpha = true
  scheme_chars : ∀ c ∈ scheme, c.isAlphanum = true
  scheme_ne_file : String.ofList (scheme.map Char.toLower) ≠ "file"
  labels_ne_nil : labels ≠ []
  isLetters : ∀ p ∈ labels, IsLetters p
  path_form : path = [] ∨ ∃ letters, path = '/' :: letters ∧ ∀ c ∈ letters, c.isAlpha = true

namespace PortUrl

/-- The scheme in lower case. -/
def schemeName (u : PortUrl) : String := String.ofList (u.scheme.map Char.toLower)

/-- The host. -/
def host (u : PortUrl) : List Char := DomainName.joined u.labels

/-- The URL. -/
def text (u : PortUrl) : List Char :=
  u.scheme ++ ':' :: '/' :: '/' :: (u.host ++ ':' :: (decimal u.port.toNat ++ u.path))

/-- The host with its port. -/
def plainText (u : PortUrl) : List Char := u.host ++ ':' :: decimal u.port.toNat

variable (u : PortUrl) {c : Char} {k : Url.Kind}

/-! ### Characters -/

theorem isPlainChar_of_mem_host (h : c ∈ u.host) : IsPlainChar c := by
  obtain rfl | ⟨p, hp, hc⟩ := mem_joined h
  · exact isPlainChar_of_mem List.mem_cons_self
  · exact isPlainChar_of_isLower ((u.isLetters p hp).isLower c hc)

/-- No character of a host has a meaning in a URL. -/
theorem not_mem_host (h : DomainName.isDenied c = true) : c ∉ u.host := by
  intro hc
  rw [(u.isPlainChar_of_mem_host hc).isDenied] at h
  exact nomatch h

/-- The pieces of the host are its labels. -/
theorem split_host : split '.' u.host = u.labels :=
  split_joined u.labels_ne_nil fun p hp => (u.isLetters p hp).not_mem rfl

theorem host_ne_nil : u.host ≠ [] := by
  intro hnil
  have hlabels : u.labels = [[]] := by rw [← u.split_host, hnil]; rfl
  exact (u.isLetters [] (hlabels ▸ List.mem_singleton_self [])).ne_nil rfl

theorem domain_ne_empty : Url.Host.domain (String.ofList u.host) ≠ .domain "" :=
  fun h => u.host_ne_nil (String.ofList_injective (Url.Host.domain.inj h))

/-- A character of the URL stands in a part of it, or between two. -/
theorem mem_text (h : c ∈ u.text) : c ∈ u.host ∨ c.isAlphanum = true ∨ c ∈ [':', '/'] := by
  have hpath : c ∈ u.path → c.isAlphanum = true ∨ c ∈ [':', '/'] := by
    intro hc
    obtain hnil | ⟨letters, hletters, hall⟩ := u.path_form
    · exact absurd (hnil ▸ hc) List.not_mem_nil
    · rcases List.mem_cons.mp (hletters ▸ hc) with rfl | hc
      · exact Or.inr (by decide)
      · exact Or.inl (by rw [Char.isAlphanum, hall c hc]; rfl)
  have hport : c ∈ decimal u.port.toNat → c.isAlphanum = true := fun hc => by
    rw [Char.isAlphanum, isDigit_of_mem_decimal hc, Bool.or_true]
  simp only [text, List.mem_append, List.mem_cons] at h
  rcases h with h | rfl | rfl | rfl | h | rfl | h | h
  · exact Or.inr (Or.inl (u.scheme_chars c h))
  · exact Or.inr (Or.inr (by decide))
  · exact Or.inr (Or.inr (by decide))
  · exact Or.inr (Or.inr (by decide))
  · exact Or.inl h
  · exact Or.inr (Or.inr (by decide))
  · exact Or.inr (Or.inl (hport h))
  · exact Or.inr (hpath h)

theorem visible_of_mem_text (h : c ∈ u.text) : 0x20 < c.toNat ∧ c.toNat < 0x7f := by
  rcases u.mem_text h with h | h | h
  · exact (u.isPlainChar_of_mem_host h).visible
  · exact visible_of_isAlphanum h
  · rcases List.mem_cons.mp h with rfl | h
    · decide
    · rw [List.mem_singleton.mp h]
      decide

/-- Nobody is named in the URL. -/
theorem not_mem_text : '@' ∉ u.text := by
  intro h
  rcases u.mem_text h with h | h | h
  · exact u.not_mem_host (by decide) h
  · exact absurd h (by decide)
  · exact absurd h (by decide)

/-! ### The host -/

/-- The last label is no number. -/
theorem endsInNumber_host : Url.endsInNumber u.host = false := by
  have hparts : Url.ipv4Parts u.host = u.labels := by
    unfold Url.ipv4Parts
    rw [u.split_host]
    split
    · next ps h =>
        have hnil : [] ∈ u.labels := List.mem_reverse.mp (h ▸ List.mem_cons_self)
        exact absurd rfl (u.isLetters [] hnil).ne_nil
    · exact List.reverse_reverse _
  have hlast : IsLetters (u.labels.getLast u.labels_ne_nil) :=
    u.isLetters _ (List.getLast_mem _)
  unfold Url.endsInNumber
  rw [hparts, List.getLast?_eq_some_getLast u.labels_ne_nil]
  show ((!_ && List.all _ Char.isDigit) || (Url.ipv4Number? _).isSome) = false
  rw [hlast.all_isDigit, hlast.ipv4Number?, Bool.and_false]
  rfl

/-- **The host stands for itself** where hosts are domain names, -/
theorem specialHost_host : Url.specialHost u.host = .ok (.domain (String.ofList u.host)) := by
  have hplain : DomainName.isPlain u.host = true := by
    rw [DomainName.isPlain, u.split_host, Bool.and_eq_true]
    refine ⟨List.all_eq_true.mpr fun c hc => ?_, List.all_eq_true.mpr fun p hp => ?_⟩
    · exact (u.isPlainChar_of_mem_host hc).isAscii
    · exact (u.isLetters p hp).no_marker
  have hascii : DomainName.toAscii? u.host = some u.host :=
    DomainName.toAscii?_of_plain hplain (fun c hc => (u.isPlainChar_of_mem_host hc).isDenied)
      fun c hc => (u.isPlainChar_of_mem_host hc).toLower
  unfold Url.specialHost
  split
  · next rest heq => exact absurd (heq ▸ List.mem_cons_self) (u.not_mem_host (by decide))
  · rw [hascii]
    split
    · next h => exact nomatch h
    · next h => exact absurd (Option.some.inj h) u.host_ne_nil
    · next name _ h =>
        obtain rfl := Option.some.inj h
        rw [u.endsInNumber_host]
        rfl

/-- and where they are any texts. -/
theorem otherHost_host : Url.otherHost u.host = .ok (.domain (String.ofList u.host)) := by
  have hallowed : u.host.any Url.isForbidden = false := by
    refine List.any_eq_false.mpr fun c hc => Bool.eq_false_iff.mp ?_
    exact (u.isPlainChar_of_mem_host hc).isForbidden
  have hencoded : u.host.flatMap Url.encodeChar = u.host := by
    rw [List.flatMap_congr fun c hc => (u.isPlainChar_of_mem_host hc).encodeChar]
    exact List.flatMap_singleton' _
  unfold Url.otherHost
  split
  · next rest heq => exact absurd (heq ▸ List.mem_cons_self) (u.not_mem_host (by decide))
  · rw [hallowed, hencoded]
    rfl

/-! ### The URL -/

/-- The host and the port behind the two slashes. -/
theorem hostAndPort_text : Url.hostAndPort k (u.host ++ ':' :: (decimal u.port.toNat ++ u.path))
    = .ok (.domain (String.ofList u.host), if k = .web u.port then none else some u.port) := by
  have hpath : ∀ c ∈ u.path.head?, c = '/' := by
    obtain hnil | ⟨letters, hletters, -⟩ := u.path_form
    · rw [hnil]
      exact nofun
    · rw [hletters]
      exact fun c hc => (Option.some.inj hc).symm
  have htake : Url.takeHost k false (u.host ++ ':' :: (decimal u.port.toNat ++ u.path))
      = (u.host, ':' :: (decimal u.port.toNat ++ u.path)) :=
    Url.takeHost_append_cons fun c hc => (u.isPlainChar_of_mem_host hc).isDenied
  have hempty : (k.isSpecial && u.host.isEmpty) = false := by
    rw [List.isEmpty_eq_false_iff.mpr u.host_ne_nil, Bool.and_false]
  unfold Url.hostAndPort
  rw [htake]
  show (if k.isSpecial && u.host.isEmpty then _ else _) = _
  rw [hempty, u.specialHost_host, u.otherHost_host]
  -- Whatever the kind of the scheme, what follows is the same.
  refine (ite_self _).trans ?_
  show (if Url.Host.domain (String.ofList u.host) = .domain "" then _ else _) = _
  rw [if_neg u.domain_ne_empty, Url.portOf_decimal_append u.port hpath]
  rfl

theorem authority_text : Url.authority k (u.host ++ ':' :: (decimal u.port.toNat ++ u.path))
    = .ok (some (.domain (String.ofList u.host)),
        if k = .web u.port then none else some u.port) := by
  have huser : '@' ∉ u.host ++ ':' :: (decimal u.port.toNat ++ u.path) := by
    intro h
    exact u.not_mem_text (List.mem_append_right u.scheme
      (List.mem_cons_of_mem _ (List.mem_cons_of_mem _ (List.mem_cons_of_mem _ h))))
  unfold Url.authority
  rw [Url.userInfo?_of_not_mem huser]
  show (Url.hostAndPort k _).bind _ = _
  rw [u.hostAndPort_text]
  show Except.ok (if Url.Host.domain (String.ofList u.host) = .domain "" then _ else _, _) = _
  rw [if_neg u.domain_ne_empty]

/-- **What the URL says.** -/
theorem parse_text : Url.parse u.text = .ok ⟨u.schemeName,
    some (.domain (String.ofList u.host)),
    if Url.kindOf u.schemeName = .web u.port then none else some u.port⟩ := by
  have hclean : Url.clean u.text = u.text :=
    Url.clean_of_visible fun c hc => (u.visible_of_mem_text hc).1
  have hscheme : Url.scheme? u.text = some (u.schemeName,
      '/' :: '/' :: (u.host ++ ':' :: (decimal u.port.toNat ++ u.path))) :=
    Url.scheme?_append_cons u.scheme_start u.scheme_ne_nil u.scheme_chars
  have hslash : (u.host ++ ':' :: (decimal u.port.toNat ++ u.path)).dropWhile Url.isSlash
      = u.host ++ ':' :: (decimal u.port.toNat ++ u.path) := by
    refine dropWhile_of_head fun c hc => ?_
    rw [List.head?_append_of_ne_nil _ u.host_ne_nil] at hc
    have hmem : c ∈ u.host := List.mem_of_mem_head? hc
    simp only [Url.isSlash, Bool.or_eq_false_iff, decide_eq_false_iff_not]
    exact ⟨fun h => u.not_mem_host (by decide) (h ▸ hmem),
      fun h => u.not_mem_host (by decide) (h ▸ hmem)⟩
  unfold Url.parse
  rw [hclean, hscheme]
  dsimp only
  cases hkind : Url.kindOf u.schemeName with
  | file => exact absurd (Url.eq_file_of_kindOf hkind) u.scheme_ne_file
  | web port =>
      show (Url.authority (.web port) (List.dropWhile Url.isSlash _)).bind _ = _
      rw [List.dropWhile_cons_of_pos (by decide), List.dropWhile_cons_of_pos (by decide),
        hslash, u.authority_text]
      rfl
  | other =>
      show (Url.authority .other _).bind _ = _
      rw [u.authority_text]
      rfl

/-- **The host and the port that the URL names**: the port gets lost where the scheme has
it as its default port. -/
theorem splitTarget_text : splitTarget u.text
    = .ok (u.host, if Url.kindOf u.schemeName = .web u.port then defaultPort else u.port) := by
  have htrim : trim u.text = u.text := trim_of_visible fun c hc => u.visible_of_mem_text hc
  have hcontains : contains [':', '/', '/'] u.text = true :=
    contains_iff.mpr ⟨u.scheme, u.host ++ ':' :: (decimal u.port.toNat ++ u.path), by simp [text]⟩
  have hbracket : ∀ d, DomainName.isDenied d = true → ∀ c ∈ u.host, decide (c = d) = false := by
    intro d hd c hc
    refine decide_eq_false ?_
    rintro rfl
    exact u.not_mem_host hd hc
  have hurl : splitUrl u.text
      = .ok (u.host, if Url.kindOf u.schemeName = .web u.port then defaultPort else u.port) := by
    unfold splitUrl
    rw [u.parse_text]
    simp only [String.toList_ofList, Url.Host.text]
    rw [dropWhile_of_head fun c hc =>
        hbracket '[' (by decide) c (List.mem_of_mem_head? hc),
      dropWhile_of_head fun c hc =>
        hbracket ']' (by decide) c (List.mem_reverse.mp (List.mem_of_mem_head? hc)),
      List.reverse_reverse]
    split <;> rfl
  unfold splitTarget
  rw [htrim]
  split
  · next h => exact absurd (List.append_eq_nil_iff.mp h).1 u.scheme_ne_nil
  · rw [hcontains]
    exact hurl

/-- Nothing in the host keeps it from standing before a port. -/
theorem isHostText_host : IsHostText u.host := by
  have hblank : ∀ c ∈ u.host, isBlank c = false := fun c hc =>
    isBlank_of_visible (u.isPlainChar_of_mem_host hc).visible
  refine ⟨fun c hc => hblank c (List.mem_of_mem_head? hc),
    fun c hc => hblank c (List.mem_of_mem_getLast? hc), u.not_mem_host (by decide),
    u.not_mem_host (by decide), fun h => ?_⟩
  exact u.not_mem_host (c := '/') (by decide) (h.subset (by decide))

/-- **A port that is named is used**, in a URL exactly unless it is the default port of the
scheme and not that of a target.  Then the URL has the default port of a target, although
the host with the same port names that port. -/
theorem named_port_used_iff :
    (splitTarget u.text = .ok (u.host, u.port) ↔ (u.schemeName, u.port) ∉ hiddenPorts)
      ∧ ((u.schemeName, u.port) ∈ hiddenPorts →
          splitTarget u.text = .ok (u.host, defaultPort))
      ∧ splitTarget u.plainText = .ok (u.host, u.port) := by
  rw [mem_hiddenPorts, u.splitTarget_text]
  refine ⟨?_, ?_, splitTarget_plain u.isHostText_host (u.not_mem_host (by decide)) u.port⟩
  · by_cases hkind : Url.kindOf u.schemeName = .web u.port
    · rw [if_pos hkind]
      constructor
      · rintro h ⟨-, hne⟩
        exact hne (Prod.mk.inj (Except.ok.inj h)).2.symm
      · intro h
        rw [not_not.mp (not_and.mp h hkind)]
    · rw [if_neg hkind]
      exact ⟨fun _ h => hkind h.1, fun _ => rfl⟩
  · rintro ⟨hkind, -⟩
    rw [if_pos hkind]

/-- A URL with a port that is hidden. -/
def sample : PortUrl where
  scheme := "hTTp".toList
  labels := ["example".toList, "com".toList]
  port := 80
  path := "/path".toList
  scheme_ne_nil := by decide
  scheme_start := fun c hc => by cases hc; rfl
  scheme_chars := List.all_eq_true.mp (by decide)
  scheme_ne_file := by decide
  labels_ne_nil := by decide
  isLetters := by
    refine List.forall_mem_cons.mpr ⟨?_, List.forall_mem_singleton.mpr ?_⟩
    · exact ⟨by decide, List.all_eq_true.mp (by decide)⟩
    · exact ⟨by decide, List.all_eq_true.mp (by decide)⟩
  path_form := Or.inr ⟨"path".toList, by decide, List.all_eq_true.mp (by decide)⟩

theorem named_port_used_iff_sample :
    splitTarget "hTTp://example.com:80/path".toList = .ok ("example.com".toList, 443)
      ∧ splitTarget "example.com:80".toList = .ok ("example.com".toList, 80) := by
  have h := named_port_used_iff sample
  exact ⟨h.2.1 (by decide), h.2.2⟩

/-- **A URL may name a port that is not used.** -/
theorem named_port_unused :
    splitTarget "http://example.com:80".toList = .ok ("example.com".toList, 443)
      ∧ splitTarget "example.com:80".toList = .ok ("example.com".toList, 80) := by
  decide +kernel

end PortUrl

end TlsScan.Net
