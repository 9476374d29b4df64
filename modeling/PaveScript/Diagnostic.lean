import PaveScript.Error
import PaveScript.Text.Lines

/-!
# Diagnostics

How errors are shown: on one line, or as an excerpt of the source with the offending text
underlined. Terminals get colours.
-/

namespace PaveScript

/-- The looks of texts on a terminal. -/
inductive Look where
  | dimmed
  | red
  | boldRed
  | blue
  | white
  /-- Titles of the program's own texts. -/
  | title
  /-- Headings of the program's own texts. -/
  | heading
deriving DecidableEq, Inhabited

/-- The codes of a look: styles, then colours. -/
def Look.codes : Look → String
  | dimmed => "2"
  | red => "91"
  | boldRed => "1;91"
  | blue => "94"
  | white => "97"
  | title => "1;38;2;0;180;255"
  | heading => "38;2;130;0;200"

/-- A text in a look; without colours the text alone. -/
def paint (colored : Bool) (look : Look) (text : String) : String :=
  if colored then "\x1b[" ++ look.codes ++ "m" ++ text ++ "\x1b[0m" else text

namespace Diagnostic

/-- A number in a field of at least four characters. -/
def gutter (n : Nat) : String :=
  let digits := toString n
  "".pushn ' ' (4 - digits.length) ++ digits

/-- A line of a text, counted from one; past the end it is empty. -/
def lineOf (source : String) (n : Nat) : String :=
  ((Text.lines source)[n - 1]?).getD ""

/-- The excerpt form of an error at a place, `width` characters wide. -/
def excerpt (colored : Bool) (file source title : String) (line column width : Nat) : String :=
  let number := gutter line
  let bar := paint colored .dimmed "|"
  let underline := "".pushn ' ' (column - 1) ++ "".pushn '^' (max width 1)
  paint colored .boldRed "error:" ++ " " ++ paint colored .white title ++ "\n" ++
  paint colored .blue "-->" ++ " " ++
    paint colored .white (file ++ ":" ++ Error.placeText line column) ++ "\n" ++
  " " ++ paint colored .dimmed number ++ " " ++ bar ++ "\n" ++
  paint colored .dimmed number ++ " " ++ bar ++ " " ++ lineOf source line ++ "\n" ++
  " " ++ paint colored .dimmed ("".pushn ' ' number.length) ++ " " ++ bar ++ " " ++
    paint colored .red underline ++ "\n\n"

/-- An error on one line. -/
def oneLine (colored : Bool) (text : String) : String :=
  paint colored .red "error:" ++ " " ++ text ++ "\n"

/-- An error in a source: as an excerpt if that is wanted and the error has a place. -/
def render (colored pretty : Bool) (file source : String) (e : Error) : String :=
  match e.place?, e.width? with
  | some (line, column), some width =>
    if pretty then excerpt colored file source e.message line column width
    else oneLine colored e.message
  | _, _ => oneLine colored e.message

end Diagnostic

end PaveScript
