import PaveScript.Text.Digits
import PaveScript.Text.Hidden

/-!
# Quoted characters and strings

Traces show characters and file names in quotes. A quoted text escapes the quote that encloses it,
the backslash, the usual control characters by letter, and every character without a glyph of its
own by its number in hexadecimal.
-/

namespace PaveScript.Text

/-- The number that hexadecimal digits denote. -/
def hexNumber (cs : List Char) : Nat :=
  cs.foldl (fun n c => n * 16 + (Digits.hexValue? c).getD 0) 0

/-- The entries of a table, each a list of numbers. -/
def entries (lines : List String) : List (List Nat) :=
  lines.flatMap fun line =>
    (line.splitOn " ").map fun entry => (entry.splitOn ":").map fun field => hexNumber field.toList

/-- The table of characters without a glyph of their own. -/
def hiddenTable : List (Nat × Nat) :=
  (entries hiddenRanges).filterMap fun
    | [first, last] => some (first, last)
    | _ => none

/-- Whether a character has no glyph of its own. All of printable ASCII shows. -/
def isHidden (c : Char) : Bool :=
  if 0x20 ≤ c.toNat && c.toNat < 0x7F then false
  else hiddenTable.any fun (first, last) => first ≤ c.toNat && c.toNat ≤ last

/-- Lower-case hexadecimal digits of a number. -/
def hexText (n : Nat) : String :=
  String.ofList (Nat.toDigits 16 n)

/-- One character inside the quotes `quote`. -/
def escape (quote c : Char) : String :=
  if c == quote then "\\" ++ c.toString
  else if c == '\\' then "\\\\"
  else if c == '\t' then "\\t"
  else if c == '\r' then "\\r"
  else if c == '\n' then "\\n"
  else if c.toNat == 0 then "\\0"
  else if isHidden c then "\\u\x7b" ++ hexText c.toNat ++ "\x7d"
  else c.toString

/-- A character in single quotes. -/
def quoteChar (c : Char) : String :=
  "'" ++ escape (Char.ofNat 39) c ++ "'"

/-- A text in double quotes. -/
def quote (s : String) : String :=
  "\"" ++ String.join (s.toList.map (escape (Char.ofNat 34))) ++ "\""

end PaveScript.Text
