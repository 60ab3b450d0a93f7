import NotionProject.Proofs.Tokens
import NotionProject.Proofs.Turn

/-!
# Cursors that are too long

A part of a list may name any text as the cursor to go on with, and a request that reads has
its cursor in the URL. A cursor of more characters than a URL may have octets can be read
(`decode_partText`), but the part after it cannot be asked for (`sent?_children_of_long`).

Both say something of every such cursor: the text of the part is read token by token around
it, and the query is at least as long as it is.
-/

namespace NotionProject

/-! ## A part that goes on at any cursor -/

namespace Listing

open Token

/-- The text of a part without items that goes on at a cursor of plain characters. -/
def partText (cursor : String) : String :=
  "\x7b" ++ inQuotes "results" ++ ":[]," ++ inQuotes "next_cursor" ++ ":" ++ inQuotes cursor ++
    "," ++ inQuotes "has_more" ++ ":true\x7d"

variable {cursor : String}

theorem tokens_partText (h : cursor.toList.all isPlain = true) :
    Token.list (partText cursor).toList =
      [.openObject, .string (.ok "results"), .colon, .openArray, .closeArray, .comma,
        .string (.ok "next_cursor"), .colon, .string (.ok cursor), .comma,
        .string (.ok "has_more"), .colon, .bool true, .closeObject] := by
  have hchars : (partText cursor).toList =
      '\x7b' :: ((inQuotes "results").toList ++ ':' :: '[' :: ']' :: ',' ::
        ((inQuotes "next_cursor").toList ++ ':' :: ((inQuotes cursor).toList ++ ',' ::
          ((inQuotes "has_more").toList ++ ':' :: 't' :: 'r' :: 'u' :: 'e' :: '\x7d' :: [])))) := by
    unfold partText
    simp only [String.toList_append, List.append_assoc]
    rfl
  rw [hchars, list_openObject, list_inQuotes rfl, list_colon, list_openArray, list_closeArray,
    list_comma, list_inQuotes rfl, list_colon, list_inQuotes h, list_comma, list_inQuotes rfl,
    list_colon, list_true, list_closeObject, Token.list]

theorem ofText_partText (h : cursor.toList.all isPlain = true) :
    Source.ofText (partText cursor) =
      (.object [(.ok "results", .array [] none), (.ok "next_cursor", .string (.ok cursor)),
        (.ok "has_more", .bool true)] none, false) := by
  rw [Source.ofText, tokens_partText h]
  rfl

/-- A part may name a cursor of any length. -/
theorem decode_partText (h : cursor.toList.all isPlain = true) :
    Decoder.ofText (Listing.decode Block.decode) (partText cursor) =
      .ok ⟨"", [], some cursor, true⟩ := by
  unfold Decoder.ofText
  rw [ofText_partText h]
  rfl

end Listing

/-! ## Queries that are too long -/

namespace Form

/-- Every character takes up some of a query. -/
theorem length_encodeChar_pos (c : Char) : 0 < (encodeChar c).length := by
  unfold encodeChar
  split
  · simp
  · split
    · simp
    · have hoctets : (String.utf8EncodeChar c).length = c.utf8Size :=
        String.length_utf8EncodeChar c
      have hpos := c.utf8Size_pos
      unfold Percent.char
      cases ho : String.utf8EncodeChar c with
      | nil =>
        rw [ho] at hoctets
        simp only [List.length_nil] at hoctets
        omega
      | cons octet rest => simp [Percent.octet]

theorem length_le_encodePart (text : String) :
    text.toList.length ≤ (encodePart text).length := by
  unfold encodePart
  induction text.toList with
  | nil => simp
  | cons c rest ih =>
    have := length_encodeChar_pos c
    rw [List.flatMap_cons, List.length_append, List.length_cons]
    omega

end Form

/-- The query of a URL is at least as long as the form that was added. -/
theorem Url.exists_query_withForm (url : Url) {form : Form} (h : Form.encode form ≠ []) :
    ∃ query, (url.withForm form).query = some query ∧
      (Form.encode form).length ≤ query.length := by
  unfold Url.withForm
  by_cases hold : (url.query.getD []).isEmpty = true
  · refine ⟨Form.encode form, ?_, Nat.le_refl _⟩
    simp [hold, h]
  · have hform : form.isEmpty = false := by
      cases form with
      | nil => exact absurd rfl h
      | cons pair rest => rfl
    refine ⟨url.query.getD [] ++ '&' :: Form.encode form, ?_, ?_⟩
    · simp [hold, hform]
    · simp only [List.length_append, List.length_cons]
      omega

theorem Url.length_le_chars {url : Url} {query : List Char} (h : url.query = some query) :
    query.length ≤ url.chars.length := by
  simp only [Url.chars, h, Url.marked, List.length_append, List.length_cons]
  omega

namespace Client

variable {α : Type}

/-- No exchange that reads is sent with a query that is longer than a URL may be. -/
theorem sent?_of_long (client : Client) {exchange : Exchange α} (hget : exchange.method = .get)
    (hlong : Request.maxUrlLength < (Form.encode exchange.query).length) :
    client.sent? exchange = none := by
  unfold sent? request?
  cases Url.parse (client.address exchange.endpoint) with
  | error error => rfl
  | ok url =>
    have hne : Form.encode exchange.query ≠ [] := by
      intro hn
      rw [hn] at hlong
      simp at hlong
    obtain ⟨query, hquery, hle⟩ := url.exists_query_withForm hne
    have hadd : addQuery exchange.method exchange.query url = url.withForm exchange.query := by
      simp [addQuery, hget]
    have hurl : (client.requestTo exchange url).url.query = some query := by
      simp only [requestTo, hadd]
      split
      · exact hquery
      · exact hquery
    have hchars := Url.length_le_chars hurl
    have hbig : ¬(client.requestTo exchange url).url.chars.length ≤ Request.maxUrlLength := by
      omega
    simp [Request.isSendable, hbig]

/-- The part after a cursor that is too long cannot be asked for. -/
theorem sent?_children_of_long (client : Client) (parent : Identifier) {cursor : String}
    (hlong : Request.maxUrlLength < cursor.toList.length) :
    client.sent? (Endpoint.children parent (some cursor)) = none := by
  refine client.sent?_of_long rfl (Nat.lt_of_lt_of_le hlong ?_)
  have := Form.length_le_encodePart cursor
  simp [Endpoint.children, Endpoint.get, Endpoint.listQuery, Form.encode, Form.encodePair,
    List.intercalate]
  omega

end Client

end NotionProject
