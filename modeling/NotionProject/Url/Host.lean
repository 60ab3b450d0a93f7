import NotionProject.Url.Percent
import NotionProject.Url.Error
import NotionProject.Url.Domain

/-!
# Hosts

The host of a URL is a domain name or an address. A domain name is written in ASCII, an
address in its shortest form: four decimal numbers, or eight numbers in base sixteen
with the longest run of zeros left out.
-/

namespace NotionProject

/-- The host of a URL. -/
inductive Host where
  | domain (name : List Char)
  | ipv4 (address : Nat)
  | ipv6 (pieces : List Nat)
deriving DecidableEq

namespace Host

/-! ## IPv4 -/

/-- The number of digits in a base. -/
def number (base : Nat) (digits : List Char) : Nat :=
  digits.foldl (fun n c => n * base + Percent.hexValue c) 0

/-- A part of an IPv4 address, in base ten, or in base eight after a zero, or in base
sixteen after `0x`. -/
def ipv4Part? (part : List Char) : Option Nat :=
  let decimal (digits : List Char) : Option Nat :=
    if digits.all Char.isDigit then some (number 10 digits) else none
  let octal (digits : List Char) : Option Nat :=
    if digits.all fun c => '0' ≤ c && c ≤ '7' then some (number 8 digits) else none
  let hex (digits : List Char) : Option Nat :=
    if digits.all isHexDigit then some (number 16 digits) else none
  match part with
  | [] => none
  | '0' :: 'x' :: digits => hex digits
  | '0' :: 'X' :: digits => hex digits
  | '0' :: d :: digits => octal (d :: digits)
  | digits => decimal digits

/-- The parts of a name between its points, without an empty one at the end. -/
def labels (name : List Char) : List (List Char) :=
  let parts := Text.splitAt '.' name
  if parts.getLast? = some [] then parts.dropLast else parts

/-- Whether a name ends in a number, so that it is an address. -/
def endsInNumber (name : List Char) : Bool :=
  match (labels name).getLast? with
  | none => false
  | some [] => false
  | some part => part.all Char.isDigit || (ipv4Part? part).isSome

/-- The address of up to four numbers. The last one takes the place of those missing. -/
def ipv4Address? (numbers : List Nat) : Option Nat :=
  match numbers.reverse with
  | [] => none
  | last :: firsts =>
    if 3 < firsts.length then none
    else if Nat.pow 256 (4 - firsts.length) ≤ last then none
    else if firsts.any fun n => 255 < n then none
    else
      some ((firsts.reverse.zipIdx.map fun (n, i) => n * Nat.pow 256 (3 - i)).foldl (· + ·) last)

/-- The address that a name stands for. -/
def ipv4? (name : List Char) : Option Nat :=
  ((labels name).mapM ipv4Part?).bind ipv4Address?

/-- The text of an address. -/
def ipv4Chars (address : Nat) : List Char :=
  let byte (n : Nat) : List Char := Nat.toDigits 10 (n % 256)
  byte (address / Nat.pow 256 3) ++ '.' :: byte (address / Nat.pow 256 2) ++
    '.' :: byte (address / 256) ++ '.' :: byte address

/-! ## IPv6 -/

/-- One to four digits. -/
def ipv6Piece? (part : List Char) : Option Nat :=
  if !part.isEmpty && part.length ≤ 4 && part.all isHexDigit then some (number 16 part) else none

/-- A decimal number below 256 without leading zeros. -/
def dottedPart? (part : List Char) : Option Nat :=
  if !part.isEmpty && part.all Char.isDigit && (part.length == 1 || part.head? != some '0') &&
      number 10 part < 256 then
    some (number 10 part)
  else none

/-- The last two pieces of an address, written like an IPv4 address. -/
def dottedPieces? (part : List Char) : Option (List Nat) :=
  match (Text.splitAt '.' part).mapM dottedPart? with
  | some [a, b, c, d] => some [a * 256 + b, c * 256 + d]
  | _ => none

/-- Pieces with colons between them. The last may be written like an IPv4 address. -/
def ipv6Pieces? (dotted : Bool) : List (List Char) → Option (List Nat)
  | [] => some []
  | [part] =>
    if dotted && part.contains '.' then dottedPieces? part
    else (ipv6Piece? part).map fun n => [n]
  | part :: parts => do
    let piece ← ipv6Piece? part
    let pieces ← ipv6Pieces? dotted parts
    pure (piece :: pieces)

/-- The text before the first double colon and the text after it. -/
def splitDoubleColon : List Char → Option (List Char × List Char)
  | ':' :: ':' :: rest => some ([], rest)
  | c :: rest => (splitDoubleColon rest).map fun found => (c :: found.1, found.2)
  | [] => none

/-- The pieces of a text, if it is not empty. -/
def ipv6Side? (dotted : Bool) (text : List Char) : Option (List Nat) :=
  if text.isEmpty then some [] else ipv6Pieces? dotted (Text.splitAt ':' text)

/-- The eight pieces of an address. A double colon stands for one zero or more. -/
def ipv6? (text : List Char) : Option (List Nat) :=
  match splitDoubleColon text with
  | none => do
    let pieces ← ipv6Pieces? true (Text.splitAt ':' text)
    if pieces.length = 8 then some pieces else none
  | some (left, right) => do
    let before ← ipv6Side? false left
    let after ← ipv6Side? true right
    let known := before.length + after.length
    if known < 8 then some (before ++ List.replicate (8 - known) 0 ++ after) else none

/-- The length of the run of zeros at the start. -/
def zerosAtStart (pieces : List Nat) : Nat :=
  (pieces.takeWhile (· == 0)).length

/-- The start and the length of the first of the longest runs of zeros. -/
def longestZeros (pieces : List Nat) : Nat × Nat :=
  (List.range pieces.length).foldl
    (fun best i =>
      let n := zerosAtStart (pieces.drop i)
      if best.2 < n then (i, n) else best)
    (0, 0)

/-- Pieces with colons between them. -/
def colonSeparated (pieces : List Nat) : List Char :=
  [':'].intercalate (pieces.map (Nat.toDigits 16))

/-- The text of an address, with the longest run of at least two zeros left out. -/
def ipv6Chars (pieces : List Nat) : List Char :=
  let (start, length) := longestZeros pieces
  if 2 ≤ length then
    colonSeparated (pieces.take start) ++
      ':' :: ':' :: colonSeparated (pieces.drop (start + length))
  else colonSeparated pieces

/-! ## Reading and writing -/

/-- A character that no domain name has. -/
def isForbidden (c : Char) : Bool :=
  0x7F ≤ c.toNat || c.toNat ≤ 0x20 || "%#/:<>?@[\\]^|".toList.contains c

/-- A character that a host has in no URL. -/
def isForbiddenPlain (c : Char) : Bool :=
  "\x00\t\n\r #/:<>?@[\\]^|".toList.contains c

/-- The address in square brackets. -/
def parseBracketed (text : List Char) : Except UrlError Host :=
  if text.getLast? = some ']' then
    match ipv6? (text.drop 1).dropLast with
    | some pieces => .ok (ipv6 pieces)
    | none => .error .badIpv6
  else .error .badIpv6

/-- A domain name or an address. A percent sign with two digits stands for an octet. -/
def parse (text : List Char) : Except UrlError Host :=
  if text.head? = some '[' then parseBracketed text
  else
    match Domain.toAscii? (decodeOctets (Percent.decode text)).toList with
    | none => .error .badHost
    | some name =>
      if name.any isForbidden then .error .badHost
      else if name.isEmpty then .error .emptyHost
      else if endsInNumber name then
        match ipv4? name with
        | some address => .ok (ipv4 address)
        | none => .error .badIpv4
      else .ok (domain name)

/-- The host of a URL whose scheme says nothing about hosts, if it is one. -/
def parsePlain (text : List Char) : Except UrlError Unit :=
  if text.head? = some '[' then do
    let _ ← parseBracketed text
    pure ()
  else if text.any isForbiddenPlain then .error .badPlainHost
  else .ok ()

/-- The text of the host. -/
def chars : Host → List Char
  | domain name => name
  | ipv4 address => ipv4Chars address
  | ipv6 pieces => '[' :: ipv6Chars pieces ++ [']']

end Host

end NotionProject
