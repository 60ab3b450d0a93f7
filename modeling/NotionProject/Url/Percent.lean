import NotionProject.Text.Utf8
import NotionProject.Text.Hex

/-!
# Percent-encoding

A character of a URL that may not stand for itself is written as the octets of its UTF-8
form, each as a percent sign and two digits. Which characters these are depends on the part
of the URL; outside ASCII it is all of them.
-/

namespace NotionProject

namespace Percent

/-- A digit in base sixteen, in upper case. -/
def upperHexDigit (n : Nat) : Char :=
  (Nat.digitChar n).toUpper

/-- An octet as a percent sign and two digits. -/
def octet (b : UInt8) : List Char :=
  ['%', upperHexDigit (b.toNat / 16), upperHexDigit (b.toNat % 16)]

/-- A character as its octets. -/
def char (c : Char) : List Char :=
  (String.utf8EncodeChar c).flatMap octet

/-- A text with the characters outside ASCII and those of `reserved` encoded. -/
def encode (reserved : Char → Bool) (text : List Char) : List Char :=
  text.flatMap fun c => if 0x80 ≤ c.toNat || reserved c then char c else [c]

/-- The value of a digit in base sixteen. -/
def hexValue (c : Char) : Nat :=
  if '0' ≤ c ∧ c ≤ '9' then c.toNat - '0'.toNat
  else if 'a' ≤ c ∧ c ≤ 'f' then c.toNat - 'a'.toNat + 10
  else c.toNat - 'A'.toNat + 10

/-- The octets of a text in which percent signs with two digits stand for octets. Any other
percent sign stands for itself. -/
def decode : List Char → List UInt8
  | [] => []
  | '%' :: a :: b :: rest =>
    if isHexDigit a && isHexDigit b then UInt8.ofNat (hexValue a * 16 + hexValue b) :: decode rest
    else 0x25 :: decode (a :: b :: rest)
  | c :: rest => String.utf8EncodeChar c ++ decode rest

/-! ## The characters reserved in each part -/

/-- Control characters. -/
def isControl (c : Char) : Bool :=
  c.toNat < 0x20 || c.toNat == 0x7F

/-- Reserved in a fragment. -/
def inFragment (c : Char) : Bool :=
  isControl c || " \"<>`".toList.contains c

/-- Reserved in a query. -/
def inQuery (c : Char) : Bool :=
  isControl c || " \"#<>'".toList.contains c

/-- Reserved in a path. -/
def inPath (c : Char) : Bool :=
  inFragment c || "#?\x7b\x7d".toList.contains c

/-- Reserved in the name and the password of a user. -/
def inUserInfo (c : Char) : Bool :=
  inPath c || "/:;=@[\\]^|".toList.contains c

end Percent

end NotionProject
