import NotionProject.Json.Numeral
import NotionProject.Text.Utf8

/-!
# Tokens of a JSON text

`Token.list` divides a text into tokens and stops at the first place that can begin none.
What the end of the text, or a character out of place, means is not decided here: that
depends on what the grammar expects there.

A string is first taken apart into pieces, the characters and the 16-bit units of its
escapes (`scanPieces`); that is all that skipping it asks for. Its text is then made of the
pieces by joining surrogate pairs (`joinPieces`), which is where reading may fail.
-/

namespace NotionProject

/-- The smallest parts of a text that mean something. A string or a number may be well
written and still have no value. -/
inductive Token where
  | openArray
  | closeArray
  | openObject
  | closeObject
  | comma
  | colon
  | null
  | bool (b : Bool)
  | number (n : Except TextError Number)
  | string (s : Except TextError String)
  | brokenString (fault : Fault)
  | broken (fault : Fault)

namespace Token

/-- White space between tokens. -/
def isSpace (c : Char) : Bool :=
  c == ' ' || c == '\n' || c == '\t' || c == '\r'

/-! ## Strings -/

/-- A part of a string: a character, or a 16-bit unit given by its number. -/
inductive Piece where
  | char (c : Char)
  | unit (n : Nat)
deriving DecidableEq

/-- How the pieces of a string end: with a quote, before the text that follows, or for want
of one. -/
inductive StringEnd where
  | closed (rest : List Char)
  | endOfText
  | controlCharacter
  | badEscape
  | badUnit

/-- The value of a digit in base sixteen. -/
def hexDigit? (c : Char) : Option Nat :=
  if '0' ≤ c ∧ c ≤ '9' then some (c.toNat - '0'.toNat)
  else if 'a' ≤ c ∧ c ≤ 'f' then some (c.toNat - 'a'.toNat + 10)
  else if 'A' ≤ c ∧ c ≤ 'F' then some (c.toNat - 'A'.toNat + 10)
  else none

/-- The number of four digits in base sixteen. -/
def hexUnit? (a b c d : Char) : Option Nat := do
  pure (((← hexDigit? a) * 16 + (← hexDigit? b)) * 256 + ((← hexDigit? c) * 16 + (← hexDigit? d)))

/-- The character of an escape of two characters. -/
def shortEscape? (c : Char) : Option Char :=
  match c with
  | '"' => some '"'
  | '\\' => some '\\'
  | '/' => some '/'
  | 'b' => some '\x08'
  | 'f' => some '\x0c'
  | 'n' => some '\n'
  | 'r' => some '\r'
  | 't' => some '\t'
  | _ => none

/-- Puts a piece before others. -/
def addPiece (piece : Piece) (found : List Piece × StringEnd) : List Piece × StringEnd :=
  (piece :: found.1, found.2)

/-- The pieces of a string after its opening quote. An escape with a number has four
octets after it, or the text ends in it. -/
def scanPieces : List Char → List Piece × StringEnd
  | [] => ([], .endOfText)
  | c :: rest =>
    if c = '"' then ([], .closed rest)
    else if c = '\\' then
      match rest with
      | [] => ([], .endOfText)
      | e :: rest =>
        if e = 'u' then
          match rest with
          | a :: b :: c :: d :: rest =>
            match hexUnit? a b c d with
            | some n => addPiece (.unit n) (scanPieces rest)
            | none => ([], .badUnit)
          | short => ([], if (utf8Octets short).length < 4 then .endOfText else .badUnit)
        else
          match shortEscape? e with
          | some c => addPiece (.char c) (scanPieces rest)
          | none => ([], .badEscape)
    else if c.toNat < 0x20 then ([], .controlCharacter)
    else addPiece (.char c) (scanPieces rest)

/-- Whether a unit is the first of a surrogate pair. -/
def isLeading (n : Nat) : Bool :=
  0xD800 ≤ n && n ≤ 0xDBFF

/-- Whether a unit is the second of a surrogate pair. -/
def isTrailing (n : Nat) : Bool :=
  0xDC00 ≤ n && n ≤ 0xDFFF

/-- The character of a surrogate pair. -/
def pairChar (leading trailing : Nat) : Char :=
  Char.ofNat (0x10000 + (leading - 0xD800) * 0x400 + (trailing - 0xDC00))

/-- The text of pieces. `unpaired` is the error if they end in the first unit of a pair. -/
def joinPieces (unpaired : TextError) : List Piece → Except TextError (List Char)
  | [] => .ok []
  | .char c :: rest => (joinPieces unpaired rest).map (c :: ·)
  | .unit n :: rest =>
    if isTrailing n then .error .loneSurrogate
    else if isLeading n then
      match rest with
      | [] => .error unpaired
      | .char _ :: _ => .error .endOfSurrogates
      | .unit m :: rest =>
        if isTrailing m then (joinPieces unpaired rest).map (pairChar n m :: ·)
        else .error .loneSurrogate
    else (joinPieces unpaired rest).map (Char.ofNat n :: ·)

/-- The fault of pieces that are not closed: for one who reads, an error in joining them
comes first. -/
def brokenPieces (pieces : List Piece) (unpaired skipping : TextError) : Token :=
  match joinPieces unpaired pieces with
  | .error error => .brokenString ⟨error, skipping⟩
  | .ok _ => .brokenString (.plain skipping)

/-- The token of a string, after its opening quote, and the text after it. -/
def scanString (text : List Char) : Token × List Char :=
  let (pieces, ending) := scanPieces text
  match ending with
  | .closed rest => (.string ((joinPieces .endOfSurrogates pieces).map String.ofList), rest)
  | .endOfText => (brokenPieces pieces .endInString .endInString, [])
  | .controlCharacter => (brokenPieces pieces .endOfSurrogates .controlCharacter, [])
  | .badEscape => (brokenPieces pieces .endOfSurrogates .badEscape, [])
  | .badUnit => (brokenPieces pieces .badEscape .badEscape, [])

/-! ## Words and numbers -/

/-- The token of a word of which `letters` are still to come, and the text after it. -/
def scanWord (token : Token) : List Char → List Char → Token × List Char
  | [], text => (token, text)
  | _ :: _, [] => (.broken (.plain .endInValue), [])
  | letter :: letters, c :: text =>
    if c = letter then scanWord token letters text else (.broken (.plain .expectedWord), [])

/-- The token of a number and the text after it. -/
def scanNumber (text : List Char) : Token × List Char :=
  match Numeral.scan text with
  | .ok (numeral, rest) => (.number numeral.value, rest)
  | .error fault => (.broken fault, [])

/-! ## The tokens of a text -/

/-- The token that begins with `c`, and the text after it. Nothing is read after a token
that is broken. -/
def scan (c : Char) (rest : List Char) : Token × List Char :=
  if c = '[' then (.openArray, rest)
  else if c = ']' then (.closeArray, rest)
  else if c = '\x7b' then (.openObject, rest)
  else if c = '\x7d' then (.closeObject, rest)
  else if c = ',' then (.comma, rest)
  else if c = ':' then (.colon, rest)
  else if c = '"' then scanString rest
  else if c = 'n' then scanWord .null "ull".toList rest
  else if c = 't' then scanWord (.bool true) "rue".toList rest
  else if c = 'f' then scanWord (.bool false) "alse".toList rest
  else if c = '-' ∨ c.isDigit then scanNumber (c :: rest)
  else (.broken (.plain .expectedValue), [])

/-- The text after a string is shorter than the string. -/
theorem length_of_scanPieces {text rest : List Char} {pieces : List Piece}
    (h : scanPieces text = (pieces, .closed rest)) : rest.length < text.length := by
  fun_induction scanPieces text generalizing pieces with
  | case1 => simp at h
  | case2 r => simp at h; obtain ⟨-, rfl⟩ := h; simp
  | case3 => simp at h
  | case4 _ a b c d r n hn ih =>
    simp only [addPiece, Prod.mk.injEq] at h
    have := ih (Prod.ext rfl h.2)
    simp only [List.length_cons]
    omega
  | case5 => simp at h
  | case6 r hshort => split at h <;> simp at h
  | case7 _ e r he c hc ih =>
    simp only [addPiece, Prod.mk.injEq] at h
    have := ih (Prod.ext rfl h.2)
    simp only [List.length_cons]
    omega
  | case8 => simp at h
  | case9 => simp at h
  | case10 c r h1 h2 h3 ih =>
    simp only [addPiece, Prod.mk.injEq] at h
    have := ih (Prod.ext rfl h.2)
    simp only [List.length_cons]
    omega

theorem length_scanString_le (text : List Char) :
    (scanString text).2.length ≤ text.length := by
  unfold scanString
  rcases h : scanPieces text with ⟨pieces, ending⟩
  cases ending with
  | closed rest => exact Nat.le_of_lt (length_of_scanPieces h)
  | endOfText => simp
  | controlCharacter => simp
  | badEscape => simp
  | badUnit => simp

theorem length_scanWord_le (token : Token) (letters text : List Char) :
    (scanWord token letters text).2.length ≤ text.length := by
  induction letters generalizing text with
  | nil => simp [scanWord]
  | cons letter letters ih =>
    cases text with
    | nil => simp [scanWord]
    | cons c text =>
      by_cases h : c = letter
      · simp only [scanWord, h, if_true, List.length_cons]
        exact Nat.le_succ_of_le (ih text)
      · simp [scanWord, h]

theorem length_scanNumber_le (c : Char) (text : List Char) :
    (scanNumber (c :: text)).2.length ≤ text.length := by
  unfold scanNumber
  split
  next h =>
    exact Nat.le_of_lt_succ (Numeral.length_of_scan h)
  next => exact Nat.zero_le _

/-- A token leaves no more text than there was after its first character. -/
theorem length_scan_le (c : Char) (rest : List Char) : (scan c rest).2.length ≤ rest.length := by
  unfold scan
  repeat' split
  all_goals first
    | exact Nat.le_refl _
    | exact length_scanString_le _
    | exact length_scanWord_le _ _ _
    | exact length_scanNumber_le _ _
    | exact Nat.zero_le _

/-- The tokens of a text. -/
def list (text : List Char) : List Token :=
  match text with
  | [] => []
  | c :: rest =>
    if isSpace c then list rest
    else
      have := length_scan_le c rest
      (scan c rest).1 :: list (scan c rest).2
termination_by text.length

end Token

end NotionProject
