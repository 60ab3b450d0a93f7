import NotionProject.Text.PrintTable

/-!
# Quoted text

`quoted` puts a text between double quotes so that it can be read in a message or a log
line: quotes, backslashes and control characters are escaped, and so is every character
that has no visible form of its own.
-/

namespace NotionProject

/-- Digits of a number in base sixteen, lower case, without leading zeros. -/
def hexText (n : Nat) : List Char :=
  Nat.toDigits 16 n

/-- One character as it stands between quotes. -/
def quoteChar (c : Char) : List Char :=
  match c with
  | '\x00' => ['\\', '0']
  | '\t' => ['\\', 't']
  | '\r' => ['\\', 'r']
  | '\n' => ['\\', 'n']
  | '"' => ['\\', '"']
  | '\\' => ['\\', '\\']
  | c =>
    if graphemeExtendRanges.has c || unprintableRanges.has c then
      ['\\', 'u', '\x7b'] ++ hexText c.toNat ++ ['\x7d']
    else
      [c]

/-- The text between double quotes, with escapes. -/
def quoted (text : String) : String :=
  String.ofList ('"' :: text.toList.flatMap quoteChar ++ ['"'])

end NotionProject
