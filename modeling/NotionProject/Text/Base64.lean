/-!
# Base 64

Octets as text in the standard alphabet, padded.
-/

namespace NotionProject

namespace Base64

/-- The sixty-four digits. -/
def alphabet : List Char :=
  "ABCDEFGHIJKLMNOPQRSTUVWXYZabcdefghijklmnopqrstuvwxyz0123456789+/".toList

/-- The digit for the lowest six bits of a number. -/
def digit (n : Nat) : Char :=
  alphabet.getD (n % 64) '='

/-- Three octets become four digits; one or two octets at the end are padded. -/
def encodeChars : List UInt8 → List Char
  | [] => []
  | [a] =>
    let n := a.toNat * 16
    [digit (n / 64), digit n, '=', '=']
  | [a, b] =>
    let n := (a.toNat * 256 + b.toNat) * 4
    [digit (n / 4096), digit (n / 64), digit n, '=']
  | a :: b :: c :: rest =>
    let n := (a.toNat * 256 + b.toNat) * 256 + c.toNat
    digit (n / 262144) :: digit (n / 4096) :: digit (n / 64) :: digit n :: encodeChars rest

end Base64

/-- The octets in base 64. -/
def base64 (octets : List UInt8) : String :=
  String.ofList (Base64.encodeChars octets)

end NotionProject
