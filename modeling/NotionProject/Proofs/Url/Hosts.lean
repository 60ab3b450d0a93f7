import NotionProject.Proofs.Url.Address

/-!
# Hosts read back

`Host.IsNormal` says of a host what is true of every host that was read (`isNormal_of_parse`).
The text of such a host is read as the host, if it is read at all (`eq_of_parse_chars`), which
only a name with labels in Punycode may not be (`parse_chars`). A host ends in its text where
it ought to (`hostLength_chars_append`).
-/

namespace NotionProject

namespace Host

open Domain (isAscii IsLower)

/-- The host may be in a URL that was read. -/
def IsNormal : Host → Prop
  | domain name =>
    name ≠ [] ∧ (∀ c ∈ name, isForbidden c = false) ∧ IsLower name ∧ endsInNumber name = false
  | ipv4 address => address < 256 ^ 4
  | ipv6 pieces => pieces.length = 8 ∧ ∀ n ∈ pieces, n < 65536

/-! ## What is read -/

theorem isNormal_of_parseBracketed {text : List Char} {host : Host}
    (h : parseBracketed text = .ok host) : host.IsNormal := by
  unfold parseBracketed at h
  split at h
  · split at h
    · next pieces hp =>
      cases h
      exact bounds_of_ipv6? hp
    · cases h
  · cases h

/-- Every host that is read is normal. -/
theorem isNormal_of_parse {text : List Char} {host : Host} (h : parse text = .ok host) :
    host.IsNormal := by
  unfold parse at h
  split at h
  · exact isNormal_of_parseBracketed h
  split at h
  · cases h
  next name hname =>
  split at h
  · cases h
  next hforbidden =>
  split at h
  · cases h
  next hempty =>
  split at h
  · split at h
    · next address ha =>
      cases h
      obtain ⟨numbers, -, ha⟩ := Option.bind_eq_some_iff.1 ha
      exact lt_of_ipv4Address? ha
    · cases h
  · next hnumber =>
    cases h
    refine ⟨by simpa using hempty, by simpa using hforbidden, Domain.isLower_of_toAscii? hname,
      by simpa using hnumber⟩

/-! ## The text of a host -/

theorem isAscii_of_isForbidden {c : Char} (h : isForbidden c = false) : isAscii c = true := by
  simp only [isForbidden, Bool.or_eq_false_iff, decide_eq_false_iff_not] at h
  simp only [isAscii, decide_eq_true_eq]
  omega

section Parse

variable {text name : List Char} (hne : text ≠ []) (h : ∀ c ∈ text, isForbidden c = false)

include h in
theorem toAscii?_decode_of_isForbidden :
    text.head? ≠ some '[' ∧ (decodeOctets (Percent.decode text)).toList = text := by
  have hhead : text.head? ≠ some '[' := fun hm =>
    absurd (h '[' (List.mem_of_mem_head? hm)) (by decide)
  have hpercent : '%' ∉ text := fun hm => absurd (h '%' hm) (by decide)
  exact ⟨hhead, Percent.toList_decode_of_notMem hpercent⟩

include h in
/-- A text that stands for no name is no host. -/
theorem parse_of_toAscii?_eq_none (hname : Domain.toAscii? text = none) :
    parse text = .error .badHost := by
  obtain ⟨hhead, hdecode⟩ := toAscii?_decode_of_isForbidden h
  rw [parse, if_neg hhead, hdecode, hname]

include hne h

/-- A text that stands for itself is that name. -/
theorem parse_of_name (hname : Domain.toAscii? text = some text)
    (hnumber : endsInNumber text = false) : parse text = .ok (domain text) := by
  obtain ⟨hhead, hdecode⟩ := toAscii?_decode_of_isForbidden h
  have hforbidden : text.any isForbidden = false := by simpa using h
  rw [parse, if_neg hhead, hdecode, hname]
  simp [hforbidden, hne, hnumber]

/-- If it ends in a number, it is the address of its numbers. -/
theorem parse_of_ipv4 (hname : Domain.toAscii? text = some text)
    (hnumber : endsInNumber text = true) {address : Nat} (ha : ipv4? text = some address) :
    parse text = .ok (ipv4 address) := by
  obtain ⟨hhead, hdecode⟩ := toAscii?_decode_of_isForbidden h
  have hforbidden : text.any isForbidden = false := by simpa using h
  rw [parse, if_neg hhead, hdecode, hname]
  simp [hforbidden, hne, hnumber, ha]

end Parse

theorem mem_of_mem_ipv4Chars {address : Nat} :
    ∀ c ∈ ipv4Chars address, c ∈ "0123456789.".toList := by
  rw [ipv4Chars_eq]
  refine Text.forall_mem_intercalate (by decide) fun part hp => ?_
  obtain ⟨n, -, rfl⟩ := List.mem_map.1 hp
  exact forall_mem_toDigits (by decide) (by decide) n

/-- The text of an address in four numbers is read as the address. -/
theorem parse_ipv4Chars {address : Nat} (h : address < 256 ^ 4) :
    parse (ipv4Chars address) = .ok (ipv4 address) := by
  have hchars : ∀ c ∈ ipv4Chars address,
      isForbidden c = false ∧ c.toLower = c ∧ c ≠ 'x' := by
    have key : ∀ c ∈ "0123456789.".toList,
        isForbidden c = false ∧ c.toLower = c ∧ c ≠ 'x' := by decide
    exact fun c hc => key c (mem_of_mem_ipv4Chars c hc)
  have hplain : ∀ c ∈ ipv4Chars address, isForbidden c = false := fun c hc => (hchars c hc).1
  have hne : ipv4Chars address ≠ [] := by simp [ipv4Chars]
  refine parse_of_ipv4 hne hplain ?_ (endsInNumber_ipv4Chars address) (ipv4?_ipv4Chars h)
  refine Domain.toAscii?_eq_self (fun c hc => isAscii_of_isForbidden (hplain c hc))
    (fun c hc => (hchars c hc).2.1) fun label hl => ?_
  cases label with
  | nil => rfl
  | cons c rest =>
    have hx : c ≠ 'x' := (hchars c (Text.mem_of_mem_splitAt hl List.mem_cons_self)).2.2
    simp [Domain.encodedMark, List.isPrefixOf, hx.symm]

theorem mem_of_mem_colonSeparated {pieces : List Nat} :
    ∀ c ∈ colonSeparated pieces, c ∈ "0123456789abcdef:".toList := by
  refine Text.forall_mem_intercalate (by decide) fun part hp => ?_
  obtain ⟨n, -, rfl⟩ := List.mem_map.1 hp
  exact forall_mem_toDigits (by decide) (by decide) n

theorem mem_of_mem_ipv6Chars {pieces : List Nat} :
    ∀ c ∈ ipv6Chars pieces, c ∈ "0123456789abcdef:".toList := by
  unfold ipv6Chars
  dsimp only
  split
  · refine List.forall_mem_append.2 ⟨mem_of_mem_colonSeparated, ?_⟩
    exact List.forall_mem_cons.2 ⟨by decide, List.forall_mem_cons.2
      ⟨by decide, mem_of_mem_colonSeparated⟩⟩
  · exact mem_of_mem_colonSeparated

/-- The text of an address in brackets is read as the address. -/
theorem parse_ipv6Chars {pieces : List Nat} (h : (ipv6 pieces).IsNormal) :
    parse (ipv6 pieces).chars = .ok (ipv6 pieces) := by
  have hhead : ('[' :: ipv6Chars pieces ++ [']']).head? = some '[' := rfl
  have hlast : ('[' :: ipv6Chars pieces ++ [']']).getLast? = some ']' := List.getLast?_concat
  rw [parse, chars, if_pos hhead, parseBracketed, if_pos hlast, List.cons_append, List.drop_one,
    List.tail_cons, List.dropLast_concat, ipv6?_ipv6Chars h.1 h.2]

/-- The name says of none of its labels that it is in Punycode. -/
def IsPlain : Host → Prop
  | domain name => ∀ label ∈ Text.splitAt '.' name, Domain.encodedMark.isPrefixOf label = false
  | _ => True

variable {host : Host}

/-- A host is read as it is written, or it is a name that stands for none. -/
theorem parse_chars (h : host.IsNormal) :
    parse host.chars = .ok host ∨ ¬host.IsPlain ∧ parse host.chars = .error .badHost := by
  cases host with
  | ipv4 address => exact Or.inl (parse_ipv4Chars h)
  | ipv6 pieces => exact Or.inl (parse_ipv6Chars h)
  | domain name =>
    obtain ⟨hne, hplain, hlower, hnumber⟩ := h
    have hascii : ∀ c ∈ name, isAscii c = true := fun c hc => isAscii_of_isForbidden (hplain c hc)
    cases hname : Domain.toAscii? name with
    | some other =>
      obtain rfl := Domain.eq_of_toAscii?_eq_some hascii hlower hname
      exact Or.inl (parse_of_name hne hplain hname hnumber)
    | none =>
      refine Or.inr ⟨fun hmark => ?_, parse_of_toAscii?_eq_none hplain hname⟩
      rw [Domain.toAscii?_eq_self hascii hlower hmark] at hname
      cases hname

theorem parse_chars_of_isPlain (h : host.IsNormal) (hplain : host.IsPlain) :
    parse host.chars = .ok host :=
  (parse_chars h).resolve_right fun hn => hn.1 hplain

/-- The text of a host is the text of no other host. -/
theorem eq_of_parse_chars (h : host.IsNormal) {other : Host}
    (hp : parse host.chars = .ok other) : other = host := by
  rcases parse_chars h with hs | ⟨-, hs⟩
  · exact Except.ok.inj (hp.symm.trans hs)
  · rw [hs] at hp
    cases hp

/-! ## Where a host ends -/

theorem chars_ne_nil (h : host.IsNormal) : host.chars ≠ [] := by
  cases host with
  | domain name => exact h.1
  | ipv4 address => simp [chars, ipv4Chars]
  | ipv6 pieces => simp [chars]

/-- The characters that a host has: brackets and colons, or else no forbidden ones. -/
theorem isForbidden_of_mem_chars (h : host.IsNormal) :
    ∀ c ∈ host.chars, c ∈ "[:]".toList ∨ isForbidden c = false := by
  cases host with
  | domain name => exact fun c hc => Or.inr (h.2.1 c hc)
  | ipv4 address =>
    have key : ∀ c ∈ "0123456789.".toList, isForbidden c = false := by decide
    exact fun c hc => Or.inr (key c (mem_of_mem_ipv4Chars c hc))
  | ipv6 pieces =>
    have key : ∀ c ∈ "0123456789abcdef:".toList, c ∈ "[:]".toList ∨ isForbidden c = false := by
      decide
    refine List.forall_mem_append.2 ⟨List.forall_mem_cons.2 ⟨Or.inl (by decide), ?_⟩,
      List.forall_mem_singleton.2 (Or.inl (by decide))⟩
    exact fun c hc => key c (mem_of_mem_ipv6Chars c hc)

end Host

end NotionProject
