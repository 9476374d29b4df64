import PaveScript.Double.Layout
import PaveScript.Text.Quoted

/-!
# JSON documents

The documents that trees are shown as, and their text with an indentation of two blanks per level.
Fields keep the order they are given in.
-/

namespace PaveScript

/-- A JSON document. -/
inductive Json where
  | null
  | bool (value : Bool)
  | int (value : Int)
  | double (value : Double)
  | string (value : String)
  | array (items : List Json)
  | object (fields : List (String × Json))
deriving Inhabited

namespace Json

/-- An object of one field. -/
def tagged (tag : String) (value : Json) : Json := object [(tag, value)]

/-- One character of a string. -/
def escapeChar (c : Char) : String :=
  if c.toNat == 34 then "\\\""
  else if c == '\\' then "\\\\"
  else if c == '\n' then "\\n"
  else if c == '\r' then "\\r"
  else if c == '\t' then "\\t"
  else if c.toNat == 8 then "\\b"
  else if c.toNat == 12 then "\\f"
  else if c.toNat < 16 then "\\u000" ++ Text.hexText c.toNat
  else if c.toNat < 32 then "\\u00" ++ Text.hexText c.toNat
  else c.toString

/-- A string in its quotes. -/
def stringText (s : String) : String :=
  "\"" ++ String.join (s.toList.map escapeChar) ++ "\""

/-- The blanks of an indentation level. -/
def indentation (level : Nat) : String := "".pushn ' ' (2 * level)

mutual

/-- The text of a document whose lines are indented to a level. -/
def render (level : Nat) : Json → String
  | null => "null"
  | bool true => "true"
  | bool false => "false"
  | int i => Digits.intText i
  | double x => x.jsonText
  | string s => stringText s
  | array [] => "[]"
  | array (item :: items) =>
    "[\n" ++ indentation (level + 1) ++ render (level + 1) item ++
      renderItems (level + 1) items ++ "\n" ++ indentation level ++ "]"
  | object [] => "\x7b\x7d"
  | object ((key, value) :: fields) =>
    "\x7b\n" ++ indentation (level + 1) ++ stringText key ++ ": " ++ render (level + 1) value ++
      renderFields (level + 1) fields ++ "\n" ++ indentation level ++ "\x7d"

/-- The further items of an array. -/
def renderItems (level : Nat) : List Json → String
  | [] => ""
  | item :: items => ",\n" ++ indentation level ++ render level item ++ renderItems level items

/-- The further fields of an object. -/
def renderFields (level : Nat) : List (String × Json) → String
  | [] => ""
  | (key, value) :: fields =>
    ",\n" ++ indentation level ++ stringText key ++ ": " ++ render level value ++
      renderFields level fields

end

/-- The indented text of a document. -/
def pretty (j : Json) : String := render 0 j

end Json

end PaveScript
