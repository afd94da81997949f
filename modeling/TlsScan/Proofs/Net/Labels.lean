import TlsScan.Net.Target
import TlsScan.Proofs.Net.Addresses

/-!
# Labels are read back

A label has a port behind its last colon, and a host that has colons itself stands in
brackets.  So a label is neither a URL nor a bare address, whatever the host is, and the
form in which it is read is the one in which it was written.

## Main Definitions

* `Net.IsHostText` — texts that can stand for a host in a label.

## Main Results

* `Net.splitTarget_plain`, `Net.splitTarget_bracketed` — the two forms of a label.
* `Net.Target.splitTarget_label` — the label of a target names its host and its port.
* `Net.Target.labels_read_back` — and for the target of an address it names the target.
-/

namespace TlsScan.Net

open Text

/-! ## Texts of hosts -/

/-- **A text that can stand for a host in a label**: there is no white space at its ends,
there are no brackets in it, and it does not look like a URL. -/
structure IsHostText (host : List Char) : Prop where
  start : ∀ c ∈ host.head?, isBlank c = false
  stop : ∀ c ∈ host.getLast?, isBlank c = false
  noOpening : '[' ∉ host
  noClosing : ']' ∉ host
  noScheme : ¬ [':', '/', '/'] <:+: host

variable {host digits : List Char} {c : Char} {port : UInt16}

/-- The characters of addresses can be seen. -/
theorem visible_of_isAddressChar (h : isAddressChar c = true) :
    0x20 < c.toNat ∧ c.toNat < 0x7f := by
  simp only [isAddressChar, Bool.or_eq_true, decide_eq_true_eq] at h
  rcases h with (h | rfl) | rfl
  · unfold digitValue? at h
    simp only [Char.le_def, UInt32.le_iff_toNat_le] at h
    have hbounds : '0'.val.toNat = 48 ∧ '9'.val.toNat = 57 ∧ 'a'.val.toNat = 97
        ∧ 'z'.val.toNat = 122 ∧ 'A'.val.toNat = 65 ∧ 'Z'.val.toNat = 90 := by decide
    have hc : c.toNat = c.val.toNat := rfl
    by_contra hout
    have hdigit : ¬ ('0'.val.toNat ≤ c.val.toNat ∧ c.val.toNat ≤ '9'.val.toNat) := by omega
    have hlower : ¬ ('a'.val.toNat ≤ c.val.toNat ∧ c.val.toNat ≤ 'z'.val.toNat) := by omega
    have hupper : ¬ ('A'.val.toNat ≤ c.val.toNat ∧ c.val.toNat ≤ 'Z'.val.toNat) := by omega
    rw [if_neg hdigit, if_neg hlower, if_neg hupper] at h
    exact Bool.noConfusion h
  · decide
  · decide

/-- **The text of an address can stand for a host.** -/
theorem IpAddress.isHostText (x : IpAddress) : IsHostText x.text.toList := by
  have hblank : ∀ c ∈ x.text.toList, isBlank c = false := fun c hc =>
    isBlank_of_visible (visible_of_isAddressChar (isAddressChar_of_mem_text hc))
  have hnot : ∀ c, isAddressChar c = false → c ∉ x.text.toList := by
    intro c hc hmem
    rw [isAddressChar_of_mem_text hmem] at hc
    exact nomatch hc
  refine ⟨fun c hc => hblank c (List.mem_of_mem_head? hc),
    fun c hc => hblank c (List.mem_of_mem_getLast? hc), hnot _ rfl, hnot _ rfl, fun h => ?_⟩
  exact hnot '/' rfl (h.subset (by decide))

/-! ## The forms of labels -/

/-- A port is read back. -/
theorem namedPort_decimal (port : UInt16) : namedPort (decimal port.toNat) = .ok port := by
  have hread : readBounded 65535 (decimal port.toNat) = .ok port.toNat :=
    readBounded_decimal (Nat.le_of_lt_succ port.toNat_lt)
  rw [namedPort, readPort, hread]
  show Except.ok (UInt16.ofNat port.toNat) = .ok port
  rw [UInt16.ofNat_toNat]

theorem not_mem_colon_cons_decimal {n : Nat} (hc : c.isDigit = false) (hne : c ≠ ':') :
    c ∉ ':' :: decimal n := by
  intro h
  rcases List.mem_cons.mp h with h | h
  · exact hne h
  · exact not_mem_decimal hc h

/-- Nothing is trimmed from a text that ends in a number. -/
theorem trim_append_decimal {l : List Char} {n : Nat}
    (h : ∀ c ∈ (l ++ decimal n).head?, isBlank c = false) :
    trim (l ++ decimal n) = l ++ decimal n := by
  refine trim_eq_self h fun c hc => ?_
  rw [List.getLast?_append_of_ne_nil _ (decimal_ne_nil n)] at hc
  have hmem : c ∈ Nat.toDigits 10 n := List.mem_of_mem_getLast? hc
  exact isBlank_of_visible (visible_of_isAddressChar
    (isAddressChar_of_mem_toDigits (by decide) (by decide) hmem))

/-- A text with one colon is no address. -/
theorem parse?_one_colon (hhost : ':' ∉ host) (hdigits : ':' ∉ digits) :
    IpAddress.parse? (host ++ ':' :: digits) = none := by
  have hv4 : Ipv4.parse? (host ++ ':' :: digits) = none :=
    Ipv4.parse?_of_mem (c := ':') (by simp) rfl (by decide)
  have hcut : Ipv6.cut? (host ++ ':' :: digits) = none := by
    have hbehind : Ipv6.cut? digits = none := by
      rw [← List.append_nil digits, Ipv6.cut?_append hdigits]
      rfl
    have hcolon : Ipv6.cut? (':' :: digits) = none := by
      cases digits with
      | nil => rfl
      | cons c cs =>
          rw [Ipv6.cut?_colon_cons (fun h => hdigits (h ▸ List.mem_cons_self)), hbehind]
          rfl
    rw [Ipv6.cut?_append hhost, hcolon]
    rfl
  -- One colon makes two pieces, which are three groups at most.
  have hgroups : (Ipv6.groupsOf? true [host, digits]).bind Ipv6.ofGroups? = none := by
    simp only [Ipv6.groupsOf?, Option.bind_eq_bind]
    cases Ipv6.group? host with
    | none => rfl
    | some g =>
        cases Ipv6.group? digits with
        | some h => rfl
        | none =>
            cases Ipv4.parse? digits with
            | none => rfl
            | some x => rfl
  rw [IpAddress.parse?, hv4]
  show (Ipv6.parse? (host ++ ':' :: digits)).map IpAddress.v6 = none
  rw [Ipv6.parse?, hcut]
  show ((Ipv6.groupsOf? true (split ':' (host ++ ':' :: digits))).bind _).map _ = none
  rw [split_append_cons hhost, split_of_not_mem hdigits, hgroups]
  rfl

section
variable {cs : List Char}

/-- A text that is no URL may start with a bracket, -/
theorem splitTarget_of_bracket (htrim : trim ('[' :: cs) = '[' :: cs)
    (hurl : ¬ [':', '/', '/'] <:+: '[' :: cs) :
    splitTarget ('[' :: cs) = splitBracketed cs := by
  have hcontains : contains [':', '/', '/'] ('[' :: cs) = false :=
    Bool.eq_false_iff.mpr (contains_iff.not.mpr hurl)
  unfold splitTarget
  rw [htrim]
  show (if contains [':', '/', '/'] ('[' :: cs) then _ else _) = _
  rw [hcontains]
  rfl

/-- or else it is an address or a host with a port. -/
theorem splitTarget_of_no_bracket (htrim : trim cs = cs) (hne : cs ≠ [])
    (hurl : ¬ [':', '/', '/'] <:+: cs) (hbracket : '[' ∉ cs) :
    splitTarget cs =
      if (IpAddress.parse? cs).isSome then .ok (cs, defaultPort) else splitPlain cs := by
  have hcontains : contains [':', '/', '/'] cs = false :=
    Bool.eq_false_iff.mpr (contains_iff.not.mpr hurl)
  unfold splitTarget
  rw [htrim]
  split
  · exact absurd rfl hne
  · rw [if_neg (Bool.eq_false_iff.mp hcontains)]
    split
    · exact absurd List.mem_cons_self hbracket
    · rfl

end

/-- **A host without colons stands before its port.** -/
theorem splitTarget_plain (hhost : IsHostText host) (hcolon : ':' ∉ host) (port : UInt16) :
    splitTarget (host ++ ':' :: decimal port.toNat) = .ok (host, port) := by
  have hdigits : ':' ∉ decimal port.toNat := not_mem_decimal rfl
  have htrim : trim (host ++ ':' :: decimal port.toNat) = host ++ ':' :: decimal port.toNat := by
    rw [List.append_cons]
    refine trim_append_decimal fun c hc => ?_
    cases host with
    | nil => exact isBlank_of_visible (by cases hc; decide)
    | cons d ds => exact hhost.start c hc
  have hurl : ¬ [':', '/', '/'] <:+: host ++ ':' :: decimal port.toNat := by
    rintro ⟨s, t, h⟩
    -- The slashes would have to stand behind a colon, but there are only digits.
    have hslash : '/' ∉ ':' :: decimal port.toNat := not_mem_colon_cons_decimal rfl (by decide)
    rw [List.append_assoc] at h
    rcases List.append_eq_append_iff.mp h with ⟨u, hu, ht⟩ | ⟨u, -, ht⟩
    · cases u with
      | nil => exact hslash (by rw [← List.nil_append (':' :: _), ← ht]; simp)
      | cons d u =>
          obtain ⟨rfl, -⟩ := List.cons.inj ht
          exact hcolon (by simp [hu])
    · exact hslash (by rw [ht]; simp)
  have hbracket : '[' ∉ host ++ ':' :: decimal port.toNat := by
    intro h
    rcases List.mem_append.mp h with h | h
    · exact hhost.noOpening h
    · exact not_mem_colon_cons_decimal rfl (by decide) h
  rw [splitTarget_of_no_bracket htrim (by simp) hurl hbracket,
    parse?_one_colon hcolon hdigits]
  show splitPlain (host ++ ':' :: decimal port.toNat) = _
  rw [splitPlain, cutLast?_append_cons hdigits]
  show (namedPort (decimal port.toNat)).bind _ = _
  rw [namedPort_decimal]
  rfl

/-- **A host in brackets stands before its port.** -/
theorem splitTarget_bracketed (hhost : IsHostText host) (port : UInt16) :
    splitTarget ('[' :: host ++ ']' :: ':' :: decimal port.toNat) = .ok (host, port) := by
  have htrim : trim ('[' :: host ++ ']' :: ':' :: decimal port.toNat)
      = '[' :: host ++ ']' :: ':' :: decimal port.toNat := by
    rw [List.append_cons, List.append_cons]
    refine trim_append_decimal fun c hc => ?_
    cases hc
    rfl
  have hurl : ¬ [':', '/', '/'] <:+: '[' :: host ++ ']' :: ':' :: decimal port.toNat := by
    intro h
    rw [infix_append_cons_iff (by decide)] at h
    rcases h with h | h
    · rw [← List.nil_append ('[' :: host), infix_append_cons_iff (by decide)] at h
      rcases h with h | h
      · exact absurd h (by decide)
      · exact hhost.noScheme h
    · exact not_mem_colon_cons_decimal rfl (by decide) (h.subset (a := '/') (by decide))
  rw [List.cons_append] at htrim hurl ⊢
  rw [splitTarget_of_bracket htrim hurl, splitBracketed, cutFirst?_append_cons hhost.noClosing]
  show (namedPort (decimal port.toNat)).bind _ = _
  rw [namedPort_decimal]
  rfl

/-! ## Labels -/

namespace Target

theorem toList_label (t : Target) : t.label.toList =
    if ':' ∈ t.hostname.toList
      then '[' :: t.hostname.toList ++ ']' :: ':' :: decimal t.port.toNat
      else t.hostname.toList ++ ':' :: decimal t.port.toNat := by
  unfold label
  by_cases h : ':' ∈ t.hostname.toList
  · rw [if_pos h, if_pos (List.contains_iff_mem.mpr h)]
    simp [decimal]
  · rw [if_neg h, if_neg (List.contains_iff_mem.not.mpr h)]
    simp [decimal]

/-- **The label of a target names its host and its port.** -/
theorem splitTarget_label (t : Target) (h : IsHostText t.hostname.toList) :
    splitTarget t.label.toList = .ok (t.hostname.toList, t.port) := by
  rw [toList_label]
  split
  · exact splitTarget_bracketed h t.port
  · exact splitTarget_plain h ‹_› t.port

/-- **Labels are read back.**  The label of a target names its host and its port, as long
as the host has no white space at its ends and neither brackets nor `://` in it; colons may
be anywhere in it.  The label of an address, of either version, names the target of that
address, and no name is looked up for it. -/
theorem labels_read_back :
    (∀ (hostname : String) (port : UInt16) (addresses : List IpAddress),
      (∀ c ∈ hostname.toList.head?, isBlank c = false) →
      (∀ c ∈ hostname.toList.getLast?, isBlank c = false) →
      '[' ∉ hostname.toList → ']' ∉ hostname.toList →
      ¬ [':', '/', '/'] <:+: hostname.toList →
        splitTarget (label ⟨hostname, port, addresses⟩).toList = .ok (hostname.toList, port))
      ∧ ∀ (lookup : Lookup) (s : SocketAddress),
          resolve lookup (ofAddress s).label = .ok (ofAddress s) := by
  refine ⟨?_, fun lookup s => ?_⟩
  · intro hostname port addresses hstart hstop hopening hclosing hscheme
    exact splitTarget_label ⟨hostname, port, addresses⟩
      ⟨hstart, hstop, hopening, hclosing, hscheme⟩
  · have hsplit := splitTarget_label (ofAddress s) s.ip.isHostText
    have haddresses : addressesOf lookup (ofAddress s).hostname.toList = .ok [s.ip] := by
      show addressesOf lookup s.ip.text.toList = _
      rw [addressesOf, IpAddress.parse?_text]
    rw [resolve, parse, hsplit]
    simp only [haddresses, Except.map, String.ofList_toList]
    rfl

theorem labels_read_back_sample :
    splitTarget (label ⟨"a:b:", 0, []⟩).toList = .ok (['a', ':', 'b', ':'], 0)
      ∧ resolve (fun _ => .error ⟨"no names here", []⟩) "[::ffff:1.2.3.4]:65535"
        = .ok (ofAddress ⟨.v6 ⟨[0, 0, 0, 0, 0, 0xffff, 0x0102, 0x0304], rfl⟩, 65535⟩) := by
  refine ⟨?_, ?_⟩
  · exact labels_read_back.1 "a:b:" 0 [] (fun c hc => by cases hc; decide)
      (fun c hc => by cases hc; decide) (by decide) (by decide) (by decide)
  · exact labels_read_back.2 (fun _ => .error ⟨"no names here", []⟩)
      ⟨.v6 ⟨[0, 0, 0, 0, 0, 0xffff, 0x0102, 0x0304], rfl⟩, 65535⟩

end Target

end TlsScan.Net
