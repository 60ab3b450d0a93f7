/-!
# Octets as text

`decodeOctets` reads any octets as UTF-8. Where they are ill-formed it puts one U+FFFD for
each longest beginning of a character, and for each octet that cannot begin one, and goes
on with the octet after it. The reading takes one octet at a time; `Unfinished` is what it
remembers between two octets.
-/

namespace NotionProject

namespace Utf8

/-- The character that stands for octets that are no text. -/
def replacement : Char := '\uFFFD'

/-- A character whose first octets have been read. The next octet has to lie between `low`
and `high`; after it `more` others are to come. -/
structure Unfinished where
  value : Nat
  more : Nat
  low : Nat
  high : Nat

/-- What an octet says that is not awaited by an unfinished character. Overlong forms,
surrogates and code points beyond U+10FFFF are excluded by the bounds of the second octet. -/
def start (octet : Nat) : List Char × Option Unfinished :=
  if octet < 0x80 then ([Char.ofNat octet], none)
  else if octet < 0xC2 then ([replacement], none)
  else if octet < 0xE0 then ([], some ⟨octet - 0xC0, 0, 0x80, 0xBF⟩)
  else if octet = 0xE0 then ([], some ⟨0, 1, 0xA0, 0xBF⟩)
  else if octet = 0xED then ([], some ⟨0xD, 1, 0x80, 0x9F⟩)
  else if octet < 0xF0 then ([], some ⟨octet - 0xE0, 1, 0x80, 0xBF⟩)
  else if octet = 0xF0 then ([], some ⟨0, 2, 0x90, 0xBF⟩)
  else if octet < 0xF4 then ([], some ⟨octet - 0xF0, 2, 0x80, 0xBF⟩)
  else if octet = 0xF4 then ([], some ⟨4, 2, 0x80, 0x8F⟩)
  else ([replacement], none)

/-- The characters that an octet completes, and the character it leaves unfinished. -/
def step (pending : Option Unfinished) (octet : Nat) : List Char × Option Unfinished :=
  match pending with
  | none => start octet
  | some u =>
    if u.low ≤ octet ∧ octet ≤ u.high then
      let value := u.value * 64 + (octet - 0x80)
      match u.more with
      | 0 => ([Char.ofNat value], none)
      | more + 1 => ([], some ⟨value, more, 0x80, 0xBF⟩)
    else
      let (chars, pending) := start octet
      (replacement :: chars, pending)

/-- The text of octets that follow an unfinished character. -/
def decodeFrom (pending : Option Unfinished) : List UInt8 → List Char
  | [] => if pending.isSome then [replacement] else []
  | octet :: rest =>
    let (chars, pending) := step pending octet.toNat
    chars ++ decodeFrom pending rest

end Utf8

/-- The text of any octets, with U+FFFD for what is ill-formed. -/
def decodeOctets (octets : List UInt8) : String :=
  String.ofList (Utf8.decodeFrom none octets)

/-- The octets of a text in UTF-8. -/
def utf8Octets (text : List Char) : List UInt8 :=
  text.flatMap String.utf8EncodeChar

end NotionProject
