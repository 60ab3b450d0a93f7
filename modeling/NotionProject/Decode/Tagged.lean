import NotionProject.Decode.Record

/-!
# Decoders of tagged unions

A value of one of several kinds is written as an object whose member `type` tells the kind,
wherever it stands, or as an array that begins with the kind. All other members are read as
values first, and the fields of the kind are then looked for among them.
-/

namespace NotionProject

/-- A kind of value: its tag, its name in messages, and its fields. -/
structure Variant (α : Type) where
  tag : String
  label : String
  fields : Fields α

/-- A type whose values are of one of several kinds. Where a whole value has been read
before, the tag may also be the place of the kind in the list. -/
structure Union (α : Type) where
  name : String
  byNumber : Bool
  variants : List (Variant α)

namespace Union

variable {α : Type}

/-- The name of the member that tells the kind. -/
def tagName : String := "type"

/-- The kind that a tag tells. -/
def variant (union : Union α) : Decoder (Variant α)
  | .string s => do
    let tag ← ofTextError s
    match union.variants.find? fun variant => variant.tag == tag with
    | some variant => pure variant
    | none => .error (.unknownVariant tag (union.variants.map Variant.tag))
  | .number (.ok (.integer n)) =>
    match if union.byNumber ∧ 0 ≤ n then union.variants[n.toNat]? else none with
    | some variant => .ok variant
    | none => .error (.unexpected (.number (.integer n)) "variant identifier")
  | source => .error (Decoder.mismatch "variant identifier" source)

/-- Reads the members in the order of the text, and finds the kind. -/
def scanMembers (union : Union α) (found : Option (Variant α)) :
    List (Except TextError String × Source) → Except DecodeError (Option (Variant α))
  | [] => .ok found
  | (name, source) :: rest => do
    let name ← ofTextError name
    if name = tagName then
      if found.isSome then .error (.duplicateField tagName)
      else
        let variant ← union.variant source
        scanMembers union (some variant) rest
    else
      let _ ← ofTextError source.toJson
      scanMembers union found rest

/-- The members other than the tag. -/
def untagged (members : List (Except TextError String × Source)) :
    List (Except TextError String × Source) :=
  members.filter fun member =>
    match member.1 with
    | .ok name => name != tagName
    | .error _ => true

/-- The value of a kind from the items after the tag. -/
def decodeItems (union : Union α) (variant : Variant α) (items : List Source) :
    Except DecodeError α := do
  let n := variant.fields.checks.length
  let value ← variant.fields.build
    (.byPlace items none
      ("struct variant " ++ union.name ++ "::" ++ variant.label ++ " with " ++ Fields.elements n)) 0
  if n < items.length then
    .error (.badLength items.length (Fields.elements n ++ " in sequence"))
  else pure value

/-- A value of one of the kinds. -/
def decode (union : Union α) : Decoder α
  | .object members fault => do
    let found ← union.scanMembers none members
    ofTextError (Source.endOf fault)
    match found with
    | none => .error (.missingField tagName)
    | some variant => variant.fields.decodeMembers Source.skip (untagged members) none
  | .array [] fault => do
    ofTextError (Source.endOf fault)
    .error (.missingField tagName)
  | .array (tag :: items) fault => do
    let variant ← union.variant tag
    let _ ← ofTextError (Source.itemsToJson items)
    ofTextError (Source.endOf fault)
    union.decodeItems variant items
  | .deep _ => .error (.text .tooDeep)
  | source => .error (Decoder.mismatch ("internally tagged enum " ++ union.name) source)

end Union

end NotionProject
