import NotionProject.Decode.Basic

/-!
# Decoders of records

`Fields α` says which fields make up a value: their names, how each is read, and what it
means if one is missing. Such a description is put together from single fields with `<$>`
and `<*>`, in the order in which the fields are declared.

A record is written as an object, with its fields in any order and with members that it
does not know, which are skipped. `Fields.decode` also reads the array of its fields in the
order declared. An object is gone through twice: once in the order of its text, to find the
first error, and once in the order of the fields.
-/

namespace NotionProject

/-- Where the values of fields are found: under their names, or in their order, in an array
of which also the end and the expected form are known. -/
inductive Given where
  | byName (members : List (String × Source))
  | byPlace (items : List Source) (fault : Option Fault) (expected : String)

/-- The source of a field. -/
def Given.find? (name : String) (place : Nat) : Given → Option Source
  | byName members => Members.find? members name
  | byPlace items _ _ => items[place]?

/-- A description of the fields of a record. Reading the fields from a place on is
`build`; `checks` reads each without its value. -/
structure Fields (α : Type) where
  checks : List (String × (Source → Except DecodeError Unit))
  build : Given → Nat → Except DecodeError α

namespace Fields

variable {α β : Type}

/-- The value made from those of the fields. -/
def map (f : α → β) (fields : Fields α) : Fields β where
  checks := fields.checks
  build given place := (fields.build given place).map f

/-- The fields of both descriptions, one after the other. -/
def seq (f : Fields (α → β)) (x : Fields α) : Fields β where
  checks := f.checks ++ x.checks
  build given place := do
    let g ← f.build given place
    let value ← x.build given (place + f.checks.length)
    pure (g value)

instance : Functor Fields where
  map := map

instance : Seq Fields where
  seq f x := seq f (x ())

/-- One field. `missing` is its value in an object that does not have it, `missingItem` in
an array that is too short, where no value means that the array has the wrong length. -/
def field (name : String) (decode : Decoder α) (missing : Except DecodeError α)
    (missingItem : Option α) : Fields α where
  checks := [(name, fun source => (decode source).map fun _ => ())]
  build given place :=
    match given.find? name place with
    | some source => decode source
    | none =>
      match given with
      | .byName _ => missing
      | .byPlace _ fault expected => do
        ofTextError (Source.endOf fault)
        match missingItem with
        | some value => pure value
        | none => .error (.badLength place expected)

/-- A field that has to be there. -/
def required (name : String) (decode : Decoder α) : Fields α :=
  field name decode (.error (.missingField name)) none

/-- A field that may be missing, for a default value. -/
def optional (name : String) (default : α) (decode : Decoder α) : Fields α :=
  field name decode (.ok default) (some default)

/-- A field that may be missing or null. -/
def nullable (name : String) (decode : Decoder α) : Fields (Option α) :=
  optional name none (Decoder.nullable decode)

/-- A field that may be null, or missing from an object. -/
def nullableMember (name : String) (decode : Decoder α) : Fields (Option α) :=
  field name (Decoder.nullable decode) (.ok none) none

/-! ## Objects -/

/-- The first error of members in the order of the text. A member that is no field is read
by `other`. -/
def checkMembers (fields : Fields α) (other : Source → Except TextError Unit) :
    List String → List (Except TextError String × Source) → Except DecodeError Unit
  | _, [] => .ok ()
  | seen, (name, source) :: rest => do
    let name ← ofTextError name
    match fields.checks.lookup name with
    | some check =>
      if seen.contains name then .error (.duplicateField name)
      else
        check source
        checkMembers fields other (name :: seen) rest
    | none =>
      ofTextError (other source)
      checkMembers fields other seen rest

/-- The members whose names can be read. -/
def named (members : List (Except TextError String × Source)) : List (String × Source) :=
  members.filterMap fun member =>
    match member.1 with
    | .ok name => some (name, member.2)
    | .error _ => none

/-- A record from the members of an object. -/
def decodeMembers (fields : Fields α) (other : Source → Except TextError Unit)
    (members : List (Except TextError String × Source)) (fault : Option Fault) :
    Except DecodeError α := do
  checkMembers fields other [] members
  ofTextError (Source.endOf fault)
  fields.build (.byName (named members)) 0

/-! ## Arrays -/

/-- A count of elements. -/
def elements (n : Nat) : String :=
  toString n ++ (if n = 1 then " element" else " elements")

/-- How the end of an array is reported after the last field. -/
def endOfArray : Option Fault → Except TextError Unit
  | none => .ok ()
  | some fault =>
    match fault.reading with
    | .trailingComma => .error .trailingComma
    | .endInList => .error .endInList
    | _ => .error .trailingCharacters

/-- A record from the items of an array. -/
def decodeItems (fields : Fields α) (expected : String) (items : List Source)
    (fault : Option Fault) : Except DecodeError α := do
  let value ← fields.build (.byPlace items fault expected) 0
  if fields.checks.length < items.length then .error (.text .trailingCharacters)
  else
    ofTextError (endOfArray fault)
    pure value

/-! ## Either -/

/-- A record. -/
def decode (fields : Fields α) (name : String) : Decoder α
  | .object members fault => fields.decodeMembers Source.skip members fault
  | .array items fault =>
    fields.decodeItems ("struct " ++ name ++ " with " ++ elements fields.checks.length) items fault
  | .deep _ => .error (.text .tooDeep)
  | source => .error (Decoder.mismatch ("struct " ++ name) source)

/-- A record together with the members that are none of its fields, in canonical form. It is
not read from an array. -/
def decodeOpen (fields : Fields (List (String × Json) → α)) (name : String) : Decoder α
  | .object members fault => do
    let make ← fields.decodeMembers (fun source => source.toJson.map fun _ => ()) members fault
    let rest := members.filter fun member =>
      match member.1 with
      | .ok name => (fields.checks.lookup name).isNone
      | .error _ => false
    let values ← ofTextError (Source.membersToJson rest)
    pure (make (Members.sorted values))
  | .deep (.object _ _) => .error (.text .tooDeep)
  | source => .error (Decoder.mismatch ("struct " ++ name) source)

end Fields

end NotionProject
