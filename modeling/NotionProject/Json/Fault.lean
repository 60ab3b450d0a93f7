/-!
# Faults of a JSON text

`TextError` is what can be wrong with a text. A text may be read, for its value, or
skipped, when its value is of no interest, and the two look for different things at some
places; so a `Fault`, the place where a text stops being JSON, has an error for either. Where in the
text that is, by line and column, is not told.
-/

namespace NotionProject

/-- What is wrong with a JSON text. -/
inductive TextError where
  | endInValue
  | endInString
  | endInList
  | endInObject
  | expectedValue
  | expectedWord
  | expectedColon
  | expectedListEnd
  | expectedObjectEnd
  | expectedKey
  | trailingComma
  | trailingCharacters
  | badEscape
  | badNumber
  | numberOutOfRange
  | controlCharacter
  | endOfSurrogates
  | loneSurrogate
  | tooDeep
deriving DecidableEq

/-- The wording of the error. Where a text was read, the JSON reader goes on with the place at which
it stopped, ` at line 1 column 7`; that is left out here, and so from every text that quotes the
wording. -/
def TextError.message : TextError → String
  | endInValue => "EOF while parsing a value"
  | endInString => "EOF while parsing a string"
  | endInList => "EOF while parsing a list"
  | endInObject => "EOF while parsing an object"
  | expectedValue => "expected value"
  | expectedWord => "expected ident"
  | expectedColon => "expected `:`"
  | expectedListEnd => "expected `,` or `]`"
  | expectedObjectEnd => "expected `,` or `\x7d`"
  | expectedKey => "key must be a string"
  | trailingComma => "trailing comma"
  | trailingCharacters => "trailing characters"
  | badEscape => "invalid escape"
  | badNumber => "invalid number"
  | numberOutOfRange => "number out of range"
  | controlCharacter =>
    "control character (\\u0000-\\u001F) found while parsing a string"
  | endOfSurrogates => "unexpected end of hex escape"
  | loneSurrogate => "lone leading surrogate in hex escape"
  | tooDeep => "recursion limit exceeded"

/-- The place where a text stops being JSON, as it appears to one who reads the text and to
one who skips it. -/
structure Fault where
  reading : TextError
  skipping : TextError
deriving DecidableEq

/-- A fault that looks the same either way. -/
def Fault.plain (error : TextError) : Fault :=
  ⟨error, error⟩

end NotionProject
