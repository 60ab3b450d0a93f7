import NotionProject.Proofs.Octets
import NotionProject.Proofs.Redaction

/-!
# How much of a key is kept back

A text is accepted as a key if it begins with a mark and has twenty octets
(`ApiKey.fault?_eq_none_iff`). What is shown of a key are its first ten characters. So how much is
kept back is a matter of characters, and twenty octets are twenty characters only in ASCII: a key
may have as few as eight (`ApiKey.parse_redacts`), and then all of it is shown
(`ApiKey.shows_whole_key`).
-/

namespace NotionProject

namespace ApiKey

/-- The text begins with one of the marks. -/
def IsMarked (text : String) : Prop :=
  ∃ mark ∈ marks, mark.toList <+: text.toList

theorem isMarked_iff {text : String} :
    IsMarked text ↔ "secret_".toList <+: text.toList ∨ "ntn_".toList <+: text.toList := by
  simp [IsMarked, marks]

/-- Nothing is wrong with a text that begins with a mark and has enough octets. -/
theorem fault?_eq_none_iff {text : String} :
    fault? text = none ↔ IsMarked text ∧ leastOctets ≤ text.utf8ByteSize := by
  have hmarked : (marks.any fun mark => mark.toList.isPrefixOf text.toList) = true ↔
      IsMarked text := by
    simp [IsMarked]
  unfold fault?
  rw [← hmarked]
  split
  · next hempty =>
    have hnone : (marks.any fun mark => mark.toList.isPrefixOf text.toList) = false := by
      rw [List.isEmpty_iff.1 hempty]
      rfl
    simp [hnone]
  · cases marks.any fun mark => mark.toList.isPrefixOf text.toList <;> simp

/-- After a mark, every character takes four octets at most. -/
theorem utf8ByteSize_le_of_prefix {mark text : String} (h : mark.toList <+: text.toList) :
    text.utf8ByteSize + 4 * mark.toList.length ≤
      mark.utf8ByteSize + 4 * text.toList.length := by
  obtain ⟨rest, hrest⟩ := h
  have hsize : text.utf8ByteSize = mark.utf8ByteSize + (String.ofList rest).utf8ByteSize := by
    rw [← String.utf8ByteSize_append, ← String.ofList_toList (s := mark), ← String.ofList_append,
      hrest, String.ofList_toList]
  have hle := utf8ByteSize_ofList_le rest
  rw [← hrest, List.length_append]
  omega

/-- A key with few characters still has eight, and eleven after the longer mark. -/
theorem length_bounds {text : String} (hmarked : IsMarked text)
    (hoctets : leastOctets ≤ text.utf8ByteSize) :
    8 ≤ text.toList.length ∧ ("secret_".toList <+: text.toList → 11 ≤ text.toList.length) := by
  have hlong : "secret_".toList <+: text.toList → 11 ≤ text.toList.length := by
    intro h
    have hle := utf8ByteSize_le_of_prefix h
    have hmark : "secret_".utf8ByteSize = 7 ∧ "secret_".toList.length = 7 := by decide
    simp only [leastOctets] at hoctets
    omega
  refine ⟨?_, hlong⟩
  rcases isMarked_iff.1 hmarked with h | h
  · have := hlong h
    omega
  · have hle := utf8ByteSize_le_of_prefix h
    have hmark : "ntn_".utf8ByteSize = 4 ∧ "ntn_".toList.length = 4 := by decide
    simp only [leastOctets] at hoctets
    omega

/-- What is shown of a key with the text and what is not. Both of its forms are made of its first
ten characters alone, so that they are the same for every key that begins with these. Ten characters
are in neither exactly if the key has twenty, which a key in ASCII has; and nothing is kept back
exactly if it has ten at most, which no key with the longer mark has. -/
structure IsRedacted (text : String) (key : ApiKey) : Prop where
  text_eq : key.text = text
  redacted_eq : key.redacted.toList = text.toList.take 10 ++ "...".toList
  description_eq : key.description = "ApiKey(" ++ key.redacted ++ ")"
  same_forms : ∀ other : ApiKey, other.text.toList.take 10 = text.toList.take 10 →
    other.redacted = key.redacted ∧ other.description = key.description
  ten_hidden_iff : 10 ≤ (text.toList.drop 10).length ↔ 20 ≤ text.toList.length
  twenty_le_of_ascii : (∀ c ∈ text.toList, c.toNat < 128) → 20 ≤ text.toList.length
  none_hidden_iff : text.toList.drop 10 = [] ↔ text.toList.length ≤ 10
  eight_le : 8 ≤ text.toList.length
  eleven_le : "secret_".toList <+: text.toList → 11 ≤ text.toList.length

/-- A text is accepted exactly if it begins with a mark and has twenty octets; of such a key its
first ten characters are shown. -/
theorem parse_redacts (text : String) :
    ((∃ key, parse text = .ok key) ↔ IsMarked text ∧ 20 ≤ text.utf8ByteSize) ∧
      ∀ key, parse text = .ok key → IsRedacted text key := by
  have haccepted : (∃ key, parse text = .ok key) ↔ fault? text = none := by
    constructor
    · rintro ⟨key, hkey⟩
      obtain rfl := parse_eq_ok_iff.1 hkey
      exact key.accepted
    · exact fun h => ⟨⟨text, h⟩, parse_eq_ok_iff.2 rfl⟩
  refine ⟨haccepted.trans fault?_eq_none_iff, fun key hkey => ?_⟩
  obtain ⟨hmarked, hoctets⟩ := fault?_eq_none_iff.1 (haccepted.1 ⟨key, hkey⟩)
  obtain rfl := parse_eq_ok_iff.1 hkey
  have hforms : ∀ other : ApiKey, other.text.toList.take 10 = key.text.toList.take 10 →
      other.redacted = key.redacted := by
    intro other hsame
    rw [redacted, redacted, shownLength, hsame]
  obtain ⟨height, heleven⟩ := length_bounds hmarked hoctets
  exact
    { text_eq := rfl
      redacted_eq := by rw [redacted, String.toList_append, String.toList_ofList, shownLength]
      description_eq := rfl
      same_forms := fun other hsame =>
        ⟨hforms other hsame, by rw [description, description, hforms other hsame]⟩
      ten_hidden_iff := by
        rw [List.length_drop]
        omega
      twenty_le_of_ascii := fun hascii => by
        have hsize := utf8ByteSize_ofList_of_ascii hascii
        rw [String.ofList_toList] at hsize
        exact hsize ▸ hoctets
      none_hidden_iff := List.drop_eq_nil_iff
      eight_le := height
      eleven_le := heleven }

/-- A key in ASCII: thirteen of its characters are kept back. -/
theorem parse_redacts_sample : ∃ key, parse "secret_0123456789abcdef" = .ok key ∧
    key.redacted = "secret_012..." ∧ key.description = "ApiKey(secret_012...)" ∧
      10 ≤ ("secret_0123456789abcdef".toList.drop 10).length := by
  obtain ⟨hiff, hall⟩ := parse_redacts "secret_0123456789abcdef"
  obtain ⟨key, hkey⟩ := hiff.2 ⟨⟨"secret_", by decide, by decide⟩, by decide⟩
  have hshown := hall key hkey
  have hredacted : key.redacted = "secret_012..." :=
    String.toList_injective (hshown.redacted_eq.trans (by decide))
  refine ⟨key, hkey, hredacted, ?_, ?_⟩
  · rw [hshown.description_eq, hredacted]
    rfl
  · exact hshown.ten_hidden_iff.2 (hshown.twenty_le_of_ascii (by decide))

/-- A key of eight characters in twenty octets is accepted, and shown whole. -/
theorem shows_whole_key : ∃ key, parse "ntn_🔑🔑🔑🔑" = .ok key ∧
    key.text.toList.length = 8 ∧ key.redacted = key.text ++ "..." ∧
      key.description = "ApiKey(" ++ key.text ++ "...)" := by
  refine ⟨⟨"ntn_🔑🔑🔑🔑", by decide +kernel⟩, parse_eq_ok_iff.2 rfl, ?_⟩
  decide +kernel

end ApiKey

end NotionProject
