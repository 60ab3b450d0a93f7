import NotionProject.Json.Printer
import NotionProject.Json.Source
import Mathlib.Data.List.Basic

/-!
# Tokens of what is written

A text is divided into tokens from its start on, and what is written is divided where it was put
together: a mark is one token, and so is a string between its quotes, whatever comes after it
(`Token.list_stringChars`). That is shown character by character: a character as it stands in a
string is one piece (`Token.scanPieces_escapeChar`), and the pieces of a text make up that text
(`Token.joinPieces_written`).
-/

namespace NotionProject

namespace Token

open Json

/-- A character that is no space begins a token, and the others follow. -/
theorem list_step {c : Char} {rest after : List Char} {token : Token}
    (hc : isSpace c = false) (h : scan c rest = (token, after)) :
    list (c :: rest) = token :: list after := by
  rw [list]
  simp [hc, h]

/-! ## Marks and words -/

section Marks

variable (rest : List Char)

theorem list_openObject : list ('\x7b' :: rest) = .openObject :: list rest :=
  list_step rfl rfl

theorem list_closeObject : list ('\x7d' :: rest) = .closeObject :: list rest :=
  list_step rfl rfl

theorem list_openArray : list ('[' :: rest) = .openArray :: list rest :=
  list_step rfl rfl

theorem list_closeArray : list (']' :: rest) = .closeArray :: list rest :=
  list_step rfl rfl

theorem list_comma : list (',' :: rest) = .comma :: list rest :=
  list_step rfl rfl

theorem list_colon : list (':' :: rest) = .colon :: list rest :=
  list_step rfl rfl

/-- A word is a token as a whole. -/
theorem list_true : list ('t' :: 'r' :: 'u' :: 'e' :: rest) = .bool true :: list rest :=
  list_step rfl rfl

end Marks

/-! ## Strings -/

/-- The characters that are written by a letter or a mark after a backslash. -/
def shortlyEscaped : List Char := ['"', '\\', '\n', '\t', '\r', '\x08', '\x0c']

/-- Whether a character is written by its number. -/
def isNumbered (c : Char) : Bool :=
  c.toNat < 0x20 && !shortlyEscaped.contains c

/-- The piece of a string that a character is written as. -/
def writtenPiece (c : Char) : Piece :=
  if isNumbered c then .unit c.toNat else .char c

/-- The number of a control character has two digits that are not zero. -/
theorem hexUnit?_hexPair {n : Nat} (h : n < 0x20) :
    hexUnit? '0' '0' (Nat.digitChar (n / 16)) (Nat.digitChar (n % 16)) = some n := by
  have hall : ∀ n : Fin 0x20, hexUnit? '0' '0' (Nat.digitChar (n / 16)) (Nat.digitChar (n % 16)) =
      some n.val := by decide
  exact hall ⟨n, h⟩

/-- A control character without a short escape is read back from its number. -/
theorem scanPieces_numbered {c : Char} (h : c.toNat < 0x20) (rest : List Char) :
    scanPieces ('\\' :: 'u' :: '0' :: '0' :: hexPair c.toNat ++ rest) =
      addPiece (.unit c.toNat) (scanPieces rest) := by
  rw [scanPieces.eq_def]
  simp [hexPair, hexUnit?_hexPair h]

/-- A short escape is read back as its character. -/
theorem scanPieces_short {c mark : Char} (hmark : mark ≠ 'u') (h : shortEscape? mark = some c)
    (rest : List Char) :
    scanPieces ('\\' :: mark :: rest) = addPiece (.char c) (scanPieces rest) := by
  rw [scanPieces.eq_def]
  simp [hmark, h]

/-- A character as it is written is one piece. -/
theorem scanPieces_escapeChar (c : Char) (rest : List Char) :
    scanPieces (escapeChar c ++ rest) = addPiece (writtenPiece c) (scanPieces rest) := by
  by_cases hshort : c ∈ shortlyEscaped
  · simp only [shortlyEscaped, List.mem_cons, List.not_mem_nil, or_false] at hshort
    rcases hshort with rfl | rfl | rfl | rfl | rfl | rfl | rfl <;>
      exact scanPieces_short (by decide) rfl rest
  have hnumbered : isNumbered c = decide (c.toNat < 0x20) := by simp [isNumbered, hshort]
  simp only [shortlyEscaped, List.mem_cons, List.not_mem_nil, or_false, not_or] at hshort
  obtain ⟨hquote, hslash, hn, ht, hr, hb, hf⟩ := hshort
  by_cases hcontrol : c.toNat < 0x20
  · simp only [escapeChar, writtenPiece, hnumbered, hquote, hslash, hcontrol, hn, ht, hr, hb, hf,
      decide_true, if_true, if_false]
    exact scanPieces_numbered hcontrol rest
  · simp only [escapeChar, writtenPiece, hnumbered, hquote, hslash, hcontrol, decide_false,
      if_false, Bool.false_eq_true, List.singleton_append]
    rw [scanPieces.eq_def]
    simp [hquote, hslash, hcontrol]

/-- An escaped text is read back up to the quotation mark, with any rest behind it. -/
theorem scanPieces_written (text rest : List Char) :
    scanPieces (text.flatMap escapeChar ++ '"' :: rest) =
      (text.map writtenPiece, .closed rest) := by
  induction text with
  | nil =>
    rw [List.flatMap_nil, List.nil_append, scanPieces.eq_def]
    simp
  | cons c text ih =>
    rw [List.flatMap_cons, List.append_assoc, scanPieces_escapeChar, ih]
    rfl

/-- The pieces that a text is written as make up the text. -/
theorem joinPieces_written (unpaired : TextError) (text : List Char) :
    joinPieces unpaired (text.map writtenPiece) = .ok text := by
  induction text with
  | nil => rfl
  | cons c text ih =>
    rw [List.map_cons, writtenPiece]
    split
    · next hnumbered =>
      have hlt : c.toNat < 0x20 := by
        simp only [isNumbered, Bool.and_eq_true, decide_eq_true_eq] at hnumbered
        exact hnumbered.1
      have htrailing : isTrailing c.toNat = false := by
        simp only [isTrailing, Bool.and_eq_false_iff, decide_eq_false_iff_not]
        omega
      have hleading : isLeading c.toNat = false := by
        simp only [isLeading, Bool.and_eq_false_iff, decide_eq_false_iff_not]
        omega
      rw [joinPieces.eq_def]
      simp [htrailing, hleading, ih, Except.map]
    · simp [joinPieces, ih, Except.map]

/-- A string as it is written is one token, whatever comes after it. -/
theorem list_stringChars (text : String) (rest : List Char) :
    list (stringChars text ++ rest) = .string (.ok text) :: list rest := by
  have hchars : stringChars text ++ rest =
      '"' :: (text.toList.flatMap escapeChar ++ '"' :: rest) := by simp [stringChars]
  have hscan : scan '"' (text.toList.flatMap escapeChar ++ '"' :: rest) =
      (.string (.ok text), rest) := by
    simp [scan, scanString, scanPieces_written, joinPieces_written, Except.map]
  rw [hchars]
  exact list_step rfl hscan

/-! ## Strings without escapes -/

/-- A character that stands for itself in a string. -/
def isPlain (c : Char) : Bool :=
  c != '"' && c != '\\' && 0x20 ≤ c.toNat

/-- A text of such characters as a string. -/
def inQuotes (text : String) : String :=
  "\"" ++ text ++ "\""

/-- A text without characters that need an escape is written as it is. -/
theorem stringChars_of_plain {text : String} (h : text.toList.all isPlain = true) :
    stringChars text = (inQuotes text).toList := by
  have hescape : ∀ c ∈ text.toList, escapeChar c = [c] := by
    intro c hc
    obtain ⟨⟨hq, hb⟩, hs⟩ : (c ≠ '"' ∧ c ≠ '\\') ∧ 0x20 ≤ c.toNat := by
      simpa [isPlain] using List.all_eq_true.1 h c hc
    have hn : ¬c.toNat < 0x20 := by omega
    simp [escapeChar, hq, hb, hn]
  have hsame : text.toList.flatMap escapeChar = text.toList := by
    rw [List.flatMap_congr hescape]
    simp
  simp [stringChars, inQuotes, hsame]

/-- A string of plain characters is one token, whatever comes after it. -/
theorem list_inQuotes {text : String} (h : text.toList.all isPlain = true) (rest : List Char) :
    list ((inQuotes text).toList ++ rest) = .string (.ok text) :: list rest := by
  rw [← stringChars_of_plain h, list_stringChars]

end Token

/-- A string as it is written is the source of that string. -/
theorem Source.ofText_string (text : String) :
    ofText (Json.string text).compact = (.ofJson (.string text), false) := by
  have htokens : Token.list (Json.string text).compact.toList = [.string (.ok text)] := by
    have hlist := Token.list_stringChars text []
    rw [List.append_nil, Token.list] at hlist
    rw [Json.compact, String.toList_ofList, Json.compactChars, hlist]
  rw [ofText, htokens]
  rfl

end NotionProject
