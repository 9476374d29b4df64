import PaveScript.Double.Decimal

/-!
# The texts of a double

Three layouts of the shortest decimal:

* `Double.text` writes every digit position and never an exponent (`0.0000001`, `5`, `-0`), and of
  two equally near decimals the upper one;
* `Double.wholeText` writes a whole number exactly, with one decimal place (`5.0`);
* `Double.jsonText` keeps at least one decimal place and switches to an exponent below `1e-5` and
  from `1e16` on (`5.0`, `1e-7`, `8.673617379884035e-19`); of two equally near decimals it writes
  the even one.
-/

namespace PaveScript

namespace Decimal

/-- `n` zeros. -/
def zeros (n : Nat) : List Char := List.replicate n '0'

/-- Positional notation without superfluous zeros. -/
def positional (d : Decimal) : List Char :=
  if 0 ≤ d.exponent then d.digits ++ zeros d.exponent.toNat
  else if 0 < d.point then
    d.digits.take d.point.toNat ++ ['.'] ++ d.digits.drop d.point.toNat
  else ['0', '.'] ++ zeros (-d.point).toNat ++ d.digits

/-- Scientific notation: one digit before the point, and no point after a single digit. -/
def scientific (d : Decimal) : String :=
  let mantissa := match d.digits with
    | [] => []
    | [c] => [c]
    | c :: rest => c :: '.' :: rest
  String.ofList mantissa ++ "e" ++ Digits.intText (d.point - 1)

end Decimal

namespace Double

/-- The sign that stands before a magnitude. -/
def signText (x : Double) : String := if x.negative then "-" else ""

/-- Positional text of the shortest decimal: no exponent, no superfluous zero. -/
def text (x : Double) : String :=
  if x.isNaN then "NaN"
  else if x.isInfinite then x.signText ++ "inf"
  else x.signText ++ String.ofList (x.shortest .up).positional

/-- The exact text of a finite value without fraction, with one decimal place. -/
def wholeText (x : Double) : String :=
  x.signText ++ Digits.text x.wholePart ++ ".0"

/-- The text of a number in a JSON document; values that are not finite have none. -/
def jsonText (x : Double) : String :=
  if !x.isFinite then "null"
  else
    let d := x.shortest .even
    let body :=
      if d.point ≤ -5 || 16 < d.point then d.scientific
      else if 0 ≤ d.exponent then String.ofList d.positional ++ ".0"
      else String.ofList d.positional
    x.signText ++ body

end Double

end PaveScript
