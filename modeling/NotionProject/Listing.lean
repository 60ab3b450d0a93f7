import NotionProject.Decode.Record

/-!
# Listings

A long list is answered in parts. Each part tells whether there is more, and where: the
cursor to ask with for the part after it.
-/

namespace NotionProject

/-- A part of a list. -/
structure Listing (α : Type) where
  object : String
  results : List α
  nextCursor : Option String
  hasMore : Bool

namespace Listing

variable {α : Type}

/-- The last part of a list. -/
def last (results : List α) : Listing α :=
  ⟨"list", results, none, false⟩

/-- A part of a list that goes on at a cursor. -/
def withMore (results : List α) (cursor : String) : Listing α :=
  ⟨"list", results, some cursor, true⟩

/-- The cursor to go on with. A part that says there is more and names no cursor is the last
one. -/
def continuation? (listing : Listing α) : Option String :=
  if listing.hasMore then listing.nextCursor else none

/-- The fields of a part of a list. -/
def fields (decode : Decoder α) : Fields (Listing α) :=
  Listing.mk <$> .optional "object" "" Decoder.string <*>
    .required "results" (Decoder.list decode) <*> .nullable "next_cursor" Decoder.string <*>
    .optional "has_more" false Decoder.bool

/-- Reads a part of a list. -/
def decode (decodeItem : Decoder α) : Decoder (Listing α) :=
  (fields decodeItem).decode "PaginatedResponse"

/-- Writes a part of a list. -/
def toJson (itemToJson : α → Json) (listing : Listing α) : Json :=
  .object
    [("object", .string listing.object), ("results", .array (listing.results.map itemToJson)),
      ("next_cursor", .orNull (listing.nextCursor.map .string)),
      ("has_more", .bool listing.hasMore)]

end Listing

end NotionProject
