import NotionProject.Decode.Error
import NotionProject.Json.Source

/-!
# Decoders

A `Decoder` reads a source as a value of some type and reports the first error it comes to
in the order of the text. Here are the decoders of plain values, of lists and of maps;
`Decoder.ofText` reads a whole text.
-/

namespace NotionProject

/-- Reads a source as a value of a type. -/
abbrev Decoder (α : Type) := Source → Except DecodeError α

/-- An error of the text as an error of reading it. -/
def ofTextError {α : Type} : Except TextError α → Except DecodeError α
  | .ok x => .ok x
  | .error error => .error (.text error)

namespace Decoder

variable {α : Type}

/-- The error for a source that is not what was expected. If the text goes wrong before
that shows, it is the error of the text. -/
def mismatch (expected : String) : Source → DecodeError
  | .null => .unexpected .null expected
  | .bool b => .unexpected (.bool b) expected
  | .number (.ok n) => .unexpected (.number n) expected
  | .number (.error error) => .text error
  | .string (.ok s) => .unexpected (.string s) expected
  | .string (.error error) => .text error
  | .array _ _ => .unexpected .sequence expected
  | .object _ _ => .unexpected .map expected
  | .deep container => mismatch expected container
  | .broken fault => .text fault.reading

/-- A text. -/
def string : Decoder String
  | .string s => ofTextError s
  | source => .error (mismatch "a string" source)

/-- A truth value. -/
def bool : Decoder Bool
  | .bool b => .ok b
  | source => .error (mismatch "a boolean" source)

/-- An integer from zero up to a limit. -/
def natural (most : Nat) (expected : String) : Decoder Nat
  | .number (.ok (.integer n)) =>
    if 0 ≤ n ∧ n ≤ most then .ok n.toNat
    else .error (.unexpected (.number (.integer n)) expected)
  | source => .error (mismatch expected source)

/-- A number as a binary64 number. -/
def real : Decoder Binary64
  | .number (.ok n) =>
    match n.toBinary64? with
    | some x => .ok x
    | none => .error (.text .numberOutOfRange)
  | source => .error (mismatch "f64" source)

/-- Any value, in canonical form. -/
def json : Decoder Json := fun source =>
  ofTextError source.toJson

/-- A value or null. -/
def nullable (decode : Decoder α) : Decoder (Option α)
  | .null => .ok none
  | source => (decode source).map some

/-- Items one after the other. -/
def items (decode : Decoder α) : List Source → Except DecodeError (List α)
  | [] => .ok []
  | source :: rest => do
    let value ← decode source
    let rest ← items decode rest
    pure (value :: rest)

/-- A list. -/
def list (decode : Decoder α) : Decoder (List α)
  | .array sources fault => do
    let values ← items decode sources
    ofTextError (Source.endOf fault)
    pure values
  | .deep (.array _ _) => .error (.text .tooDeep)
  | source => .error (mismatch "a sequence" source)

/-- Members one after the other. -/
def entries (decode : Decoder α) :
    List (Except TextError String × Source) → Except DecodeError (Members α)
  | [] => .ok []
  | (name, source) :: rest => do
    let name ← ofTextError name
    let value ← decode source
    let rest ← entries decode rest
    pure ((name, value) :: rest)

/-- A map that keeps its order. Of a repeated name the first place and the last value
count. -/
def map (decode : Decoder α) : Decoder (Members α)
  | .object members fault => do
    let values ← entries decode members
    ofTextError (Source.endOf fault)
    pure (Members.collapse values)
  | .deep (.object _ _) => .error (.text .tooDeep)
  | source => .error (mismatch "a map" source)

/-- Reads a whole text, after which nothing may follow. -/
def ofText (decode : Decoder α) (text : String) : Except DecodeError α := do
  let (source, followed) := Source.ofText text
  let value ← decode source
  if followed then .error (.text .trailingCharacters) else pure value

/-- Reads a value that has no text. -/
def ofJson (decode : Decoder α) (value : Json) : Except DecodeError α :=
  decode (.ofJson value)

end Decoder

end NotionProject
