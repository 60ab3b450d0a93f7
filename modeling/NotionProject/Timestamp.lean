import NotionProject.Text.Blank

/-!
# Timestamps

A `Timestamp` is a date and a time of day in UTC, to the nanosecond. `Timestamp.parse`
reads the form of RFC 3339 and forms near it: white space between the parts, a space in
place of the letter between date and time, numbers with fewer digits, years with a sign and
more digits, and an offset without its colon. `Timestamp.text` writes the one form with a
final `Z`, and as many digits of the second, in groups of three, as it takes.
-/

namespace NotionProject

/-- A day of the calendar. -/
structure Date where
  year : Int
  month : Nat
  day : Nat
deriving DecidableEq

namespace Date

/-- The first and the last year of the calendar. -/
def years : Int × Int := (-262143, 262142)

/-- Whether a year has a 29th of February. -/
def isLeap (year : Int) : Bool :=
  year % 4 == 0 && (year % 100 != 0 || year % 400 == 0)

/-- How many days a month has. -/
def daysInMonth (year : Int) (month : Nat) : Nat :=
  if month = 2 then (if isLeap year then 29 else 28)
  else if month = 4 ∨ month = 6 ∨ month = 9 ∨ month = 11 then 30
  else 31

/-- Whether the calendar has the day. -/
def isValid (date : Date) : Bool :=
  years.1 ≤ date.year && date.year ≤ years.2 && 1 ≤ date.month && date.month ≤ 12 &&
    1 ≤ date.day && date.day ≤ daysInMonth date.year date.month

/-- The day after. -/
def next (date : Date) : Date :=
  if date.day < daysInMonth date.year date.month then { date with day := date.day + 1 }
  else if date.month < 12 then ⟨date.year, date.month + 1, 1⟩
  else ⟨date.year + 1, 1, 1⟩

/-- The day before. -/
def previous (date : Date) : Date :=
  if 1 < date.day then { date with day := date.day - 1 }
  else if 1 < date.month then
    ⟨date.year, date.month - 1, daysInMonth date.year (date.month - 1)⟩
  else ⟨date.year - 1, 12, 31⟩

end Date

/-- A moment in UTC. A leap second counts as the second before it with more than
`10 ^ 9` nanoseconds. -/
structure Timestamp where
  date : Date
  second : Nat
  nanosecond : Nat
deriving DecidableEq

/-- Why a text is no timestamp. -/
inductive TimeError where
  | invalid
  | tooShort
  | outOfRange
  | impossible
  | tooLong
deriving DecidableEq

/-- The wording of the error. -/
def TimeError.message : TimeError → String
  | invalid => "input contains invalid characters"
  | tooShort => "premature end of input"
  | outOfRange => "input is out of range"
  | impossible => "no possible date and time matching input"
  | tooLong => "trailing input"

namespace Timestamp

/-! ## Writing -/

/-- A number with at least so many digits. -/
def padded (width n : Nat) : List Char :=
  let digits := Nat.toDigits 10 n
  List.replicate (width - digits.length) '0' ++ digits

/-- A year: four digits, or a sign and at least four digits. -/
def yearChars (year : Int) : List Char :=
  if 0 ≤ year ∧ year ≤ 9999 then padded 4 year.natAbs
  else (if year < 0 then '-' else '+') :: padded 4 year.natAbs

/-- The part of a second after the point: nothing, or three, six or nine digits. -/
def fractionChars (nanosecond : Nat) : List Char :=
  if nanosecond = 0 then []
  else if nanosecond % 1000000 = 0 then '.' :: padded 3 (nanosecond / 1000000)
  else if nanosecond % 1000 = 0 then '.' :: padded 6 (nanosecond / 1000)
  else '.' :: padded 9 nanosecond

/-- The text of the timestamp. -/
def text (t : Timestamp) : String :=
  let leap := t.nanosecond / 1000000000
  String.ofList <|
    yearChars t.date.year ++ '-' :: padded 2 t.date.month ++ '-' :: padded 2 t.date.day ++
      'T' :: padded 2 (t.second / 3600) ++ ':' :: padded 2 (t.second / 60 % 60) ++
      ':' :: padded 2 (t.second % 60 + leap) ++ fractionChars (t.nanosecond % 1000000000) ++ ['Z']

/-! ## Reading -/

/-- A step of the reading: a value and the text after it. -/
abbrev Reader (α : Type) := StateT (List Char) (Except TimeError) α

/-- Passes over white space. -/
def space : Reader Unit :=
  modify (·.dropWhile isBlank)

/-- Passes over a character that has to come. -/
def literal (c : Char) : Reader Unit := do
  match ← get with
  | [] => throw .tooShort
  | d :: rest => if d = c then set rest else throw .invalid

/-- The number of a row of digits. -/
def digitsValue (digits : List Char) : Nat :=
  digits.foldl (fun n c => n * 10 + (c.toNat - '0'.toNat)) 0

/-- One digit or more, but no more than `most` if that is given. -/
def digits (most : Option Nat) : Reader (List Char) := do
  let text ← get
  match text with
  | [] => throw .tooShort
  | c :: _ =>
    if c.isDigit then
      let row := text.takeWhile Char.isDigit
      let row := match most with
        | none => row
        | some n => row.take n
      set (text.drop row.length)
      pure row
    else throw .invalid

/-- A number of up to two digits within bounds. -/
def number (least most : Nat) : Reader Nat := do
  space
  let n := digitsValue (← digits (some 2))
  if least ≤ n ∧ n ≤ most then pure n else throw .outOfRange

/-- A year: up to four digits, or any number of them after a sign. -/
def year : Reader Int := do
  space
  let value ← (do
    match ← get with
    | '-' :: rest =>
      set rest
      pure (-(digitsValue (← digits none) : Int))
    | '+' :: rest =>
      set rest
      pure (digitsValue (← digits none) : Int)
    | _ => pure (digitsValue (← digits (some 4)) : Int))
  if -2147483648 ≤ value ∧ value ≤ 2147483647 then pure value else throw .outOfRange

/-- The part of a second after a point, in nanoseconds. Digits beyond the ninth are
dropped. -/
def fraction : Reader Nat := do
  match ← get with
  | '.' :: rest =>
    set rest
    let row ← digits (some 9)
    modify (·.dropWhile Char.isDigit)
    pure (digitsValue row * Nat.pow 10 (9 - row.length))
  | _ => pure 0

/-- The character between date and time. -/
def separator : Reader Unit := do
  match ← get with
  | [] => throw .tooShort
  | c :: rest => if c = 't' ∨ c = 'T' ∨ c = ' ' then set rest else throw .invalid

/-- Two characters, if they are digits. -/
def twoDigits : Reader (Char × Char) := do
  match ← get with
  | [] => throw .tooShort
  | [c] => throw (if c.toNat < 0x80 then .tooShort else .invalid)
  | a :: b :: rest =>
    if a.isDigit && b.isDigit then
      set rest
      pure (a, b)
    else throw .invalid

/-- An offset from UTC in seconds: its sign, two digits of hours and two of minutes. -/
def signedOffset : Reader Int := do
  let sign : Int ← (do
    match ← get with
    | [] => throw .tooShort
    | c :: rest =>
      set rest
      if c = '+' then pure 1
      else if c = '-' ∨ c = '\u2212' then pure (-1)
      else throw .invalid)
  let (a, b) ← twoDigits
  modify (·.dropWhile fun c => c == ':' || isBlank c)
  let (c, d) ← twoDigits
  if '6' ≤ c then throw .outOfRange
  pure (sign * (digitsValue [a, b] * 3600 + digitsValue [c, d] * 60))

/-- An offset from UTC in seconds. -/
def offset : Reader Int := do
  space
  let text ← get
  match text with
  | 'Z' :: rest =>
    set rest
    pure 0
  | 'z' :: rest =>
    set rest
    pure 0
  | _ =>
    if (text.take 3).map Char.toUpper = "UTC".toList then
      set (text.drop 3)
      pure 0
    else signedOffset

/-- The moment of a date and a time of day that is ahead of UTC by an offset. -/
def ofLocal (date : Date) (second nanosecond : Nat) (offset : Int) :
    Except TimeError Timestamp := do
  if !date.isValid then throw .outOfRange
  if offset ≤ -86400 ∨ 86400 ≤ offset then throw .outOfRange
  let shifted : Int := second - offset
  let date :=
    if shifted < 0 then date.previous else if 86400 ≤ shifted then date.next else date
  if !date.isValid then throw .impossible
  pure ⟨date, (shifted % 86400).toNat, nanosecond⟩

/-- Reads a timestamp and leaves the text after it. -/
def reader : Reader Timestamp := do
  let year ← year
  space
  literal '-'
  let month ← number 1 12
  space
  literal '-'
  let day ← number 1 31
  separator
  let hour ← number 0 23
  space
  literal ':'
  let minute ← number 0 59
  space
  literal ':'
  let second ← number 0 60
  let nanosecond ← fraction
  let offset ← offset
  space
  if !(← get).isEmpty then throw .tooLong
  let leap := if second = 60 then 1 else 0
  ofLocal ⟨year, month, day⟩ (hour * 3600 + minute * 60 + (second - leap))
    (nanosecond + leap * 1000000000) offset

/-- Reads a timestamp. -/
def parse (text : String) : Except TimeError Timestamp :=
  (reader.run text.toList).map Prod.fst

end Timestamp

end NotionProject
