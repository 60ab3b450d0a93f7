import NotionProject.Decode.Tagged
import NotionProject.RichText

/-!
# Properties

The value of a property is an object with a marker, its member `type`, and a member of that
name with the payload. A value whose marker is known and whose payload fits is a
`TypedProperty`; any other value is kept as it is. `Properties.writable` leaves out the
values that are assigned by the server and may not be written.
-/

namespace NotionProject

/-- An option of a choice. -/
structure SelectOption where
  id : Option String
  name : Option String
  color : Option String
deriving DecidableEq

/-- A date or a range of dates, as text. -/
structure DateValue where
  start : String
  finish : Option String
  timeZone : Option String
deriving DecidableEq

/-- A number that the server gives to each record, with a label before it. -/
structure UniqueId where
  label : Option String
  number : Option Nat
deriving DecidableEq

/-- The value of a property of a known kind. -/
inductive TypedProperty where
  | title (segments : List RichText)
  | richText (segments : List RichText)
  | number (value : Option Binary64)
  | select (option : Option SelectOption)
  | multiSelect (options : List SelectOption)
  | status (option : Option SelectOption)
  | checkbox (checked : Bool)
  | url (address : Option String)
  | email (address : Option String)
  | phoneNumber (digits : Option String)
  | date (value : Option DateValue)
  | uniqueId (value : UniqueId)

/-- The value of a property: of a known kind, or kept as it is. -/
inductive PropertyValue where
  | typed (value : TypedProperty)
  | untyped (value : Json)

/-- The properties of a page by their names, in order. -/
abbrev Properties := Members PropertyValue

/-! ## Payloads -/

namespace SelectOption

/-- An option that is chosen by its name. -/
def named (name : String) : SelectOption :=
  ⟨none, some name, none⟩

/-- The fields of an option. -/
def fields : Fields SelectOption :=
  SelectOption.mk <$> .nullable "id" Decoder.string <*> .nullable "name" Decoder.string <*>
    .nullable "color" Decoder.string

/-- Reads an option. -/
def decode : Decoder SelectOption :=
  fields.decode "SelectOption"

/-- Writes an option. -/
def toJson (option : SelectOption) : Json :=
  .ofFields
    [("id", option.id.map .string), ("name", option.name.map .string),
      ("color", option.color.map .string)]

end SelectOption

namespace DateValue

/-- The fields of a date. -/
def fields : Fields DateValue :=
  DateValue.mk <$> .required "start" Decoder.string <*> .nullable "end" Decoder.string <*>
    .nullable "time_zone" Decoder.string

/-- Reads a date. -/
def decode : Decoder DateValue :=
  fields.decode "DateValue"

/-- Writes a date. -/
def toJson (date : DateValue) : Json :=
  .ofFields
    [("start", some (.string date.start)), ("end", date.finish.map .string),
      ("time_zone", date.timeZone.map .string)]

end DateValue

namespace UniqueId

/-- The largest number that is read. -/
def largest : Nat := Nat.pow 2 64 - 1

/-- The fields of a number that the server gives. -/
def fields : Fields UniqueId :=
  UniqueId.mk <$> .nullable "prefix" Decoder.string <*>
    .nullable "number" (Decoder.natural largest "u64")

/-- Reads a number that the server gives. -/
def decode : Decoder UniqueId :=
  fields.decode "UniqueIdValue"

/-- Writes a number that the server gives; what is missing is null. -/
def toJson (value : UniqueId) : Json :=
  .object
    [("prefix", .orNull (value.label.map .string)),
      ("number", .orNull (value.number.map fun n => .int n))]

end UniqueId

/-! ## Typed values -/

namespace TypedProperty

/-- The marker of the value. -/
def marker : TypedProperty → String
  | title _ => "title"
  | richText _ => "rich_text"
  | number _ => "number"
  | select _ => "select"
  | multiSelect _ => "multi_select"
  | status _ => "status"
  | checkbox _ => "checkbox"
  | url _ => "url"
  | email _ => "email"
  | phoneNumber _ => "phone_number"
  | date _ => "date"
  | uniqueId _ => "unique_id"

/-- Reads a payload that has to be there. -/
def payload {α : Type} (name : String) (make : α → TypedProperty) (decode : Decoder α) :
    Variant TypedProperty :=
  ⟨name, name, make <$> .required name decode⟩

/-- Reads a payload that may be null or missing. -/
def payload? {α : Type} (name : String) (make : Option α → TypedProperty)
    (decode : Decoder α) : Variant TypedProperty :=
  ⟨name, name, make <$> .nullableMember name decode⟩

/-- The known kinds of values. -/
def union : Union TypedProperty where
  name := "TypedProperty"
  byNumber := true
  variants :=
    [payload "title" title RichText.decodeList,
      payload "rich_text" richText RichText.decodeList,
      payload? "number" number Decoder.real,
      payload? "select" select SelectOption.decode,
      payload "multi_select" multiSelect (Decoder.list SelectOption.decode),
      payload? "status" status SelectOption.decode,
      payload "checkbox" checkbox Decoder.bool,
      payload? "url" url Decoder.string,
      payload? "email" email Decoder.string,
      payload? "phone_number" phoneNumber Decoder.string,
      payload? "date" date DateValue.decode,
      payload "unique_id" uniqueId UniqueId.decode]

/-- The payload of the value. -/
def payloadJson : TypedProperty → Json
  | title segments => RichText.listToJson segments
  | richText segments => RichText.listToJson segments
  | number value => .orNull (value.map fun x => .number (.real x))
  | select option => .orNull (option.map SelectOption.toJson)
  | multiSelect options => .array (options.map SelectOption.toJson)
  | status option => .orNull (option.map SelectOption.toJson)
  | checkbox checked => .bool checked
  | url address => .orNull (address.map .string)
  | email address => .orNull (address.map .string)
  | phoneNumber digits => .orNull (digits.map .string)
  | date value => .orNull (value.map DateValue.toJson)
  | uniqueId value => value.toJson

/-- Writes the value: its marker, then its payload. -/
def toJson (value : TypedProperty) : Json :=
  .object [("type", .string value.marker), (value.marker, value.payloadJson)]

end TypedProperty

/-! ## Values -/

namespace PropertyValue

/-- A title. -/
def title (text : String) : PropertyValue :=
  typed (.title [RichText.ofText text])

/-- A text. -/
def richText (text : String) : PropertyValue :=
  typed (.richText [RichText.ofText text])

/-- A number. -/
def number (value : Binary64) : PropertyValue :=
  typed (.number (some value))

/-- A choice by the name of the option. -/
def select (name : String) : PropertyValue :=
  typed (.select (some (SelectOption.named name)))

/-- A mark that is set or not. -/
def checkbox (checked : Bool) : PropertyValue :=
  typed (.checkbox checked)

/-- The marker of the value, if it has one. -/
def marker? : PropertyValue → Option String
  | typed value => some value.marker
  | untyped value => (value.member? "type").bind Json.asString?

/-- Whether the value is assigned by the server, so that it may not be written. -/
def isUniqueId (value : PropertyValue) : Bool :=
  value.marker? == some "unique_id"

/-- Reads a value: whatever its text is a value of, it is kept if it is not of a known
kind. -/
def decode : Decoder PropertyValue := fun source => do
  let value ← Decoder.json source
  match TypedProperty.union.decode source with
  | .ok known => pure (typed known)
  | .error _ => pure (untyped value)

/-- Writes a value. -/
def toJson : PropertyValue → Json
  | typed value => value.toJson
  | untyped value => value

end PropertyValue

/-! ## Maps of values -/

namespace Properties

/-- Reads properties in the order of the text. -/
def decode : Decoder Properties :=
  Decoder.map PropertyValue.decode

/-- Writes properties in order. -/
def toJson (properties : Properties) : Json :=
  .object (properties.map fun member => (member.1, member.2.toJson))

/-- The properties that may be written. -/
def writable (properties : Properties) : Properties :=
  properties.filter fun member => !member.2.isUniqueId

/-- The names of the properties that may not be written. -/
def unwritable (properties : Properties) : List String :=
  (properties.filter fun member => member.2.isUniqueId).map Prod.fst

end Properties

end NotionProject
