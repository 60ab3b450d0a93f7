import NotionProject.Url.Parser
import NotionProject.Proofs.Reading
import NotionProject.Proofs.Url.Hosts
import Mathlib.Data.List.Induction

/-!
# User, host and port read back

What stands between the slashes and the path of a URL is taken apart as it was put together: the
user ends at the last at sign, since no host has one, and the host ends at the first colon outside
brackets (`hostLength_chars_append`). User and port are then read as they are written
(`parseUserInfo_text`, `parsePort_toDigits`), and the host is, if it is read at all
(`parseAuthority_authorityChars`).
-/

namespace NotionProject

open Percent (IsEncoded)

/-! ## User -/

namespace UserInfo

/-- The name and the password may be in a URL that was read. -/
structure IsNormal (info : UserInfo) : Prop where
  name : IsEncoded Percent.inUserInfo info.name
  password : ∀ password, info.password = some password →
    password ≠ [] ∧ IsEncoded Percent.inUserInfo password

theorem isNormal_none : none.IsNormal where
  name := List.forall_mem_nil _
  password := by simp [none]

/-- The name and the password, without the at sign. -/
def text (info : UserInfo) : List Char :=
  info.name ++ Url.marked ':' info.password

variable {info : UserInfo}

theorem eq_none_of_isNone (h : info.isNone = true) : info = none := by
  rcases info with ⟨name, password⟩
  simp only [isNone, Bool.and_eq_true, List.isEmpty_iff, Option.isNone_iff_eq_none] at h
  rw [h.1, h.2, none]

/-- There is nothing before the host, or the name and the password with an at sign. -/
theorem chars_eq (info : UserInfo) :
    info.chars = if info.isNone then [] else info.text ++ ['@'] := by
  unfold chars text
  cases info.password <;> rfl

end UserInfo

namespace Url

variable {info : UserInfo} {host : Host} {port : Option Nat}

theorem forall_mem_marked {p : Char → Prop} {mark : Char} {part : Option (List Char)} (hm : p mark)
    (h : ∀ text ∈ part, ∀ c ∈ text, p c) : ∀ c ∈ marked mark part, p c := by
  cases part with
  | none => exact List.forall_mem_nil _
  | some text => exact List.forall_mem_cons.2 ⟨hm, h text rfl⟩

theorem isNormal_parseUserInfo (text : List Char) : (parseUserInfo text).IsNormal := by
  have hreserved : ∀ c ∈ Percent.octetChars, Percent.inUserInfo c = false := by decide
  unfold parseUserInfo
  refine ⟨Percent.isEncoded_encode hreserved _, fun password hp => ?_⟩
  dsimp only at hp
  split at hp
  · cases hp
  · cases hp
  · next hne _ =>
    cases hp
    exact ⟨Percent.encode_ne_nil hne, Percent.isEncoded_encode hreserved _⟩

/-- Name and password are read as they are written. -/
theorem parseUserInfo_text (h : info.IsNormal) : parseUserInfo info.text = info := by
  have hcolon : ∀ {text}, IsEncoded Percent.inUserInfo text → ':' ∉ text := fun he hm =>
    absurd (he ':' hm).2 (by decide)
  rcases info with ⟨name, password⟩
  cases password with
  | none =>
    rw [parseUserInfo, UserInfo.text, marked, List.append_nil,
      Text.splitFirst_of_notMem (hcolon h.name)]
    simp [Percent.encode_eq_self h.name]
  | some password =>
    obtain ⟨hne, hp⟩ := h.password password rfl
    obtain ⟨c, rest, rfl⟩ := List.exists_cons_of_ne_nil hne
    rw [parseUserInfo, UserInfo.text, marked, Text.splitFirst_append (hcolon h.name)]
    simp [Percent.encode_eq_self h.name, Percent.encode_eq_self hp]

/-! ## Port -/

/-- One digit more of a port. -/
def portStep (acc : Except UrlError Nat) (c : Char) : Except UrlError Nat := do
  let n ← acc
  if c.isDigit then
    let n := n * 10 + (c.toNat - '0'.toNat)
    if n < 65536 then pure n else .error .badPort
  else .error .badPort

theorem parsePort_eq (usual : Option Nat) (digits : List Char) :
    parsePort usual digits = (do
      let n ← digits.foldl portStep (.ok 0)
      if digits.isEmpty ∨ some n = usual then pure none else pure (some n)) :=
  rfl

theorem lt_of_foldl_portStep {digits : List Char} {n : Nat}
    (h : digits.foldl portStep (.ok 0) = .ok n) : n < 65536 := by
  induction digits using List.reverseRecOn with
  | nil =>
    cases h
    decide
  | append_singleton digits c _ =>
    rw [List.foldl_append, List.foldl_cons, List.foldl_nil] at h
    obtain ⟨m, -, h⟩ := bind_eq_ok_iff.1 h
    dsimp only at h
    split at h
    · split at h
      · next hlt =>
        cases h
        exact hlt
      · cases h
    · cases h

/-- A port that is read is a number of two octets and not the usual one. -/
theorem bounds_of_parsePort {usual : Nat} {digits : List Char}
    (h : parsePort (some usual) digits = .ok port) : ∀ n ∈ port, n < 65536 ∧ n ≠ usual := by
  rw [parsePort_eq] at h
  obtain ⟨m, hm, h⟩ := bind_eq_ok_iff.1 h
  split at h
  · cases h
    simp
  · next hne =>
    cases h
    rw [not_or] at hne
    rintro _ ⟨⟩
    exact ⟨lt_of_foldl_portStep hm, fun he => hne.2 (congrArg some he)⟩

theorem foldl_portStep {digits : List Char} (hd : ∀ c ∈ digits, c.isDigit = true)
    (h : Host.number 10 digits < 65536) :
    digits.foldl portStep (.ok 0) = .ok (Host.number 10 digits) := by
  induction digits using List.reverseRecOn with
  | nil => rfl
  | append_singleton digits c ih =>
    obtain ⟨hdigits, hc⟩ := List.forall_mem_append.1 hd
    rw [Host.number_concat] at h ⊢
    have hvalue : c.toNat - '0'.toNat = Percent.hexValue c := by
      have hdigit : '0' ≤ c ∧ c ≤ '9' := by
        simpa [Char.le_def, Char.isDigit] using hc c List.mem_cons_self
      rw [Percent.hexValue, if_pos hdigit]
    rw [List.foldl_append, ih hdigits (by omega), List.foldl_cons, List.foldl_nil, portStep]
    simp only [bind, Except.bind, hc c List.mem_cons_self, if_true, hvalue, h]
    rfl

/-- A port is read as it is written. -/
theorem parsePort_toDigits {usual n : Nat} (h : n < 65536) (hne : n ≠ usual) :
    parsePort (some usual) (Nat.toDigits 10 n) = .ok (some n) := by
  have hnumber : Host.number 10 (Nat.toDigits 10 n) = n :=
    Host.number_toDigits (by decide) (by decide) n
  rw [parsePort_eq, foldl_portStep Host.isDigit_of_mem_toDigits (hnumber.symm ▸ h), hnumber]
  simp [bind, Except.bind, hne, Nat.toDigits_ne_nil, pure, Except.pure]

theorem parsePort_nil (usual : Option Nat) : parsePort usual [] = .ok none := by
  simp [parsePort_eq, bind, Except.bind, pure, Except.pure]

/-! ## Host -/

theorem hostLength_append {text : List Char} {bracketed : Bool}
    (h : ∀ c ∈ text, c ≠ '[' ∧ c ≠ ']' ∧ (bracketed = true ∨ c ≠ ':')) (rest : List Char) :
    hostLength bracketed (text ++ rest) = text.length + hostLength bracketed rest := by
  induction text with
  | nil => simp
  | cons c text ih =>
    obtain ⟨⟨hopen, hclose, hcolon⟩, htext⟩ := List.forall_mem_cons.1 h
    have hstop : ¬(c = ':' ∧ bracketed = false) := by
      rintro ⟨rfl, rfl⟩
      simp at hcolon
    rw [List.cons_append, hostLength, if_neg hstop, if_neg hopen, if_neg hclose, ih htext,
      List.length_cons]
    omega

/-- A host does not end before its text does. -/
theorem hostLength_chars_append (h : host.IsNormal) (rest : List Char) :
    hostLength false (host.chars ++ rest) = host.chars.length + hostLength false rest := by
  cases host with
  | domain name =>
    refine hostLength_append (fun c hc => ?_) rest
    have hplain := h.2.1 c hc
    refine ⟨?_, ?_, Or.inr ?_⟩ <;>
    · rintro rfl
      exact absurd hplain (by decide)
  | ipv4 address =>
    refine hostLength_append (fun c hc => ?_) rest
    have key : ∀ c ∈ "0123456789.".toList, c ≠ '[' ∧ c ≠ ']' ∧ (false = true ∨ c ≠ ':') := by
      decide
    exact key c (Host.mem_of_mem_ipv4Chars c hc)
  | ipv6 pieces =>
    have key : ∀ c ∈ "0123456789abcdef:".toList, c ≠ '[' ∧ c ≠ ']' ∧ (true = true ∨ c ≠ ':') := by
      decide
    have hinside : hostLength true (Host.ipv6Chars pieces ++ ']' :: rest) = _ :=
      hostLength_append (fun c hc => key c (Host.mem_of_mem_ipv6Chars c hc)) _
    rw [Host.chars, List.append_assoc, List.singleton_append, List.cons_append, hostLength,
      if_neg (by decide), if_pos rfl, hinside, hostLength]
    simp
    omega

/-- The host and the port have brackets and colons, and characters that are not forbidden. -/
theorem forall_mem_host_port {p : Char → Prop} (hhost : host.IsNormal)
    (hmark : ∀ c ∈ "[:]".toList, p c) (hfree : ∀ c, Host.isForbidden c = false → p c) :
    ∀ c ∈ host.chars ++ marked ':' (port.map (Nat.toDigits 10)), p c := by
  refine List.forall_mem_append.2 ⟨fun c hc => ?_, ?_⟩
  · exact (Host.isForbidden_of_mem_chars hhost c hc).elim (hmark c) (hfree c)
  · refine forall_mem_marked (hmark ':' (by decide)) fun digits hd => ?_
    obtain ⟨n, -, rfl⟩ := Option.map_eq_some_iff.1 hd
    have key : ∀ d : Fin 10, Host.isForbidden (Nat.digitChar d) = false := by decide
    exact Host.forall_mem_toDigits (by decide) (fun d => hfree _ (key d)) n

/-! ## All of it -/

/-- The text of user, host and port. -/
def authorityChars (info : UserInfo) (host : Host) (port : Option Nat) : List Char :=
  info.chars ++ (host.chars ++ marked ':' (port.map (Nat.toDigits 10)))

theorem authorityChars_ne_nil (hhost : host.IsNormal) : authorityChars info host port ≠ [] := by
  simp [authorityChars, Host.chars_ne_nil hhost]

theorem forall_mem_authorityChars {p : Char → Prop} (hinfo : info.IsNormal) (hhost : host.IsNormal)
    (hmark : ∀ c ∈ "@[:]".toList, p c) (huser : ∀ c, Percent.inUserInfo c = false → p c)
    (hfree : ∀ c, Host.isForbidden c = false → p c) :
    ∀ c ∈ authorityChars info host port, p c := by
  have hmark' : ∀ c ∈ "[:]".toList, p c := fun c hc => hmark c (List.mem_cons_of_mem '@' hc)
  have hencoded : ∀ {text}, IsEncoded Percent.inUserInfo text → ∀ c ∈ text, p c :=
    fun he c hc => huser c (he c hc).2
  have htext : ∀ c ∈ info.text, p c := by
    refine List.forall_mem_append.2 ⟨hencoded hinfo.name, ?_⟩
    exact forall_mem_marked (hmark ':' (by decide)) fun password hp =>
      hencoded (hinfo.password password hp).2
  refine List.forall_mem_append.2 ⟨?_, forall_mem_host_port hhost hmark' hfree⟩
  rw [UserInfo.chars_eq]
  split
  · exact List.forall_mem_nil _
  · refine List.forall_mem_append.2 ⟨htext, List.forall_mem_cons.2 ⟨?_, List.forall_mem_nil _⟩⟩
    exact hmark '@' (by decide)

/-- Nothing in it ends it. -/
theorem not_endsAuthority_of_mem (hinfo : info.IsNormal) (hhost : host.IsNormal) :
    ∀ c ∈ authorityChars info host port, endsAuthority true c = false := by
  have hends : ∀ {reserved : Char → Bool}, (∀ c ∈ "/?#\\".toList, reserved c = true) →
      ∀ c, reserved c = false → endsAuthority true c = false := by
    intro reserved hr c hc
    by_contra he
    have hm : c ∈ "/?#\\".toList := by
      simpa [endsAuthority, or_iff_not_imp_left] using he
    exact absurd (hr c hm) (by simp [hc])
  exact forall_mem_authorityChars hinfo hhost (by decide) (hends (by decide)) (hends (by decide))

/-- It is taken apart as it was put together. -/
theorem ofChars_authorityChars (hhost : host.IsNormal) :
    AuthorityText.ofChars (authorityChars info host port) =
      ⟨if info.isNone then none else some info.text, host.chars, port.map (Nat.toDigits 10)⟩ := by
  have hat : '@' ∉ host.chars ++ marked ':' (port.map (Nat.toDigits 10)) := by
    intro hm
    refine forall_mem_host_port (p := (· ≠ '@')) hhost (by decide) (fun c hc he => ?_) '@' hm rfl
    exact absurd (he ▸ hc) (by decide)
  -- an at sign in the user is encoded, and the host has none: the last one is the mark
  have hsplit : Text.splitLast? '@' (authorityChars info host port) =
      if info.isNone then none
      else some (info.text, host.chars ++ marked ':' (port.map (Nat.toDigits 10))) := by
    rw [authorityChars, UserInfo.chars_eq]
    split
    · exact Text.splitLast?_of_notMem hat
    · rw [List.append_assoc]
      exact Text.splitLast?_append hat _
  have hlength : hostLength false (host.chars ++ marked ':' (port.map (Nat.toDigits 10))) =
      host.chars.length := by
    rw [hostLength_chars_append hhost]
    cases port <;> rfl
  unfold AuthorityText.ofChars
  rw [hsplit]
  by_cases hnone : info.isNone
  · have hchars : authorityChars info host port =
        host.chars ++ marked ':' (port.map (Nat.toDigits 10)) := by
      rw [authorityChars, UserInfo.chars_eq, if_pos hnone, List.nil_append]
    simp only [if_pos hnone, hchars, hlength, List.take_left', List.drop_left']
    cases port <;> rfl
  · simp only [if_neg hnone, hlength, List.take_left', List.drop_left']
    cases port <;> rfl

/-- It is read as it is written, if the host is. -/
theorem parseAuthority_authorityChars {usual : Nat} (hinfo : info.IsNormal) (hhost : host.IsNormal)
    (hport : ∀ n ∈ port, n < 65536 ∧ n ≠ usual) :
    parseAuthority (some usual) (authorityChars info host port) =
      (Host.parse host.chars).map fun host => (info, host, port) := by
  have hne : host.chars.isEmpty = false := by simpa using Host.chars_ne_nil hhost
  have huser : (Option.map parseUserInfo (if info.isNone then none else some info.text)).getD
      .none = info := by
    split
    · next hnone => exact (UserInfo.eq_none_of_isNone hnone).symm
    · exact parseUserInfo_text hinfo
  have hread : parsePort (some usual) ((port.map (Nat.toDigits 10)).getD []) = .ok port := by
    cases port with
    | none => exact parsePort_nil _
    | some n => exact parsePort_toDigits (hport n rfl).1 (hport n rfl).2
  rw [parseAuthority, ofChars_authorityChars hhost]
  simp only [hne, hread, huser]
  cases Host.parse host.chars <;> rfl

/-- What is read may be in a URL that was read. -/
theorem isNormal_of_parseAuthority {usual : Nat} {text : List Char}
    (h : parseAuthority (some usual) text = .ok (info, host, port)) :
    info.IsNormal ∧ host.IsNormal ∧ ∀ n ∈ port, n < 65536 ∧ n ≠ usual := by
  rw [parseAuthority] at h
  split at h
  · cases h
  · obtain ⟨host, hhost, h⟩ := bind_eq_ok_iff.1 h
    obtain ⟨port, hport, h⟩ := bind_eq_ok_iff.1 h
    cases h
    refine ⟨?_, Host.isNormal_of_parse hhost, bounds_of_parsePort hport⟩
    cases (AuthorityText.ofChars text).user with
    | none => exact UserInfo.isNormal_none
    | some user => exact isNormal_parseUserInfo user

end Url

end NotionProject
