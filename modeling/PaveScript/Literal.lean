import PaveScript.Double.Layout

/-!
# Number literals

The three kinds of number a script can write (integers, reals and hexadecimal floats), the
readers that turn their text into values, and the composite forms `approx`, `dec` and `rat`.

No literal is larger than `Literal.bound`: interval bounds get squared and combined later, so a
larger one is refused when it is read.
-/

namespace PaveScript

/-- The value of a number literal. -/
inductive Literal where
  | integer (value : Int)
  | real (value : Double)
  | hexFloat (value : Double)
deriving DecidableEq, Inhabited

/-- Why a text is no literal. -/
inductive LiteralError where
  | overflow
  | malformed
deriving DecidableEq

namespace Literal

/-- The largest literal. -/
def bound : Nat := 2147483647

/-- The value as a double. -/
def toDouble : Literal → Double
  | integer i => Double.ofInt i
  | real x => x
  | hexFloat x => x

/-- The least 64-bit signed integer. -/
def leastInteger : Int := -9223372036854775808

/-- The largest 64-bit signed integer. -/
def largestInteger : Int := 9223372036854775807

/-- An integer brought into the range of 64-bit signed integers. -/
def clamp (i : Int) : Int :=
  if i < leastInteger then leastInteger else if largestInteger < i then largestInteger else i

/-- The value as an integer: a real counts if it has no fraction, a hexadecimal float never. -/
def toInteger? : Literal → Option Int
  | integer i => some i
  | real x =>
    if x.isIntegral then some (clamp (if x.negative then -x.wholePart else x.wholePart)) else none
  | hexFloat _ => none

def isZero (l : Literal) : Bool := l.toDouble.isZero

/-- The opposite number, of the same kind. -/
def negate : Literal → Literal
  | integer i => integer (-i)
  | real x => real x.neg
  | hexFloat x => hexFloat x.neg

/--
The text of a literal. A real keeps a decimal place when it has no fraction; a hexadecimal float
is written in decimal.
-/
def text : Literal → String
  | integer i => Digits.intText i
  | real x => if x.isIntegral then x.wholeText else x.text
  | hexFloat x => x.text

/-! ## Reading -/

/-- Whether a value is beyond the largest literal. -/
def exceedsBound (x : Double) : Bool :=
  Double.lt (Double.ofInt bound) x

/--
Reads a decimal literal: digits alone are an integer, a text with a point is a real. The bound
applies upwards only, since a literal of a script carries no sign.
-/
def ofDecimal (cs : List Char) : Except LiteralError Literal :=
  if cs.contains '.' then
    match Double.ofText? cs with
    | none => .error .malformed
    | some x => if exceedsBound x then .error .overflow else .ok (real x)
  else if cs.isEmpty || !cs.all Char.isDigit then .error .malformed
  else if bound < Digits.value cs then .error .overflow
  else .ok (integer (Digits.value cs))

/-- Appends one hexadecimal digit to a whole number. -/
def pushHex (m : Double) (d : Nat) : Double :=
  (m.mul (Double.ofInt 16)).add (Double.ofInt d)

/-- The hexadecimal digits before the point. -/
def hexWhole (cs : List Char) : Option Double :=
  cs.foldlM (fun m c => (Digits.hexValue? c).map (pushHex m)) Double.zero

/-- Adds the hexadecimal digits after the point; `scale` is the weight of the next one. -/
def hexFraction (m scale : Double) : List Char → Option Double
  | [] => some m
  | c :: rest =>
    match Digits.hexValue? c with
    | none => none
    | some d =>
      hexFraction (m.add ((Double.ofInt d).mul scale)) (scale.mul (Double.twoPow (-4))) rest

/-- A signed decimal exponent in the range of 32-bit signed integers. -/
def hexExponent? (cs : List Char) : Option Int :=
  let (negative, digits) := match cs with
    | '-' :: ds => (true, ds)
    | '+' :: ds => (false, ds)
    | ds => (false, ds)
  if digits.isEmpty || !digits.all Char.isDigit then none
  else
    let e : Int := if negative then -(Digits.value digits) else Digits.value digits
    if e < -2147483648 || 2147483647 < e then none else some e

/-- Splits a text at the first character of a class, which belongs to neither part. -/
def splitAtFirst (p : Char → Bool) (cs : List Char) : List Char × Option (List Char) :=
  match cs.dropWhile (fun c => !p c) with
  | [] => (cs, none)
  | _ :: rest => (cs.takeWhile (fun c => !p c), some rest)

/-- The text after the mark `0x` of a hexadecimal literal. -/
def hexBody? : List Char → Option (List Char)
  | '0' :: 'x' :: body => some body
  | '0' :: 'X' :: body => some body
  | _ => none

/-- The value of a hexadecimal body before the bound is applied. -/
def hexValue? (body : List Char) : Option Double := do
  let (mantissa, exponentText) := splitAtFirst (fun c => c == 'p' || c == 'P') body
  let (whole, fraction) := splitAtFirst (· == '.') mantissa
  let m ← hexWhole whole
  let m ← hexFraction m (Double.twoPow (-4)) (fraction.getD [])
  let e ← match exponentText with
    | none => some 0
    | some text => hexExponent? text
  return m.mul (Double.twoPow e)

/--
Reads a hexadecimal literal: the mark `0x`, hexadecimal digits with an optional point, and an
optional exponent of two in decimal. Digits are accumulated one by one in double precision.
-/
def ofHex (cs : List Char) : Except LiteralError Literal :=
  match (hexBody? cs).bind hexValue? with
  | none => .error .malformed
  | some x => if !x.isFinite || exceedsBound x then .error .overflow else .ok (hexFloat x)

end Literal

/-- A number as a script writes it, before an engine interprets it. -/
inductive Numeral where
  | literal (value : Literal)
  /-- `approx(x)`, accepted only while safe input is off. -/
  | approx (value : Numeral)
  /-- `dec(a, b)`, a decimal encoding. -/
  | dec (value scale : Numeral)
  /-- `rat(a, b)`, a fraction whose denominator is a plain literal. -/
  | rat (numerator : Numeral) (denominator : Literal)
deriving DecidableEq, Inhabited

namespace Numeral

/-- The literal that a numeral is, if it is one. -/
def literal? : Numeral → Option Literal
  | literal l => some l
  | _ => none

/-- The canonical text of a numeral. -/
def text : Numeral → String
  | literal l => l.text
  | approx n => "approx(" ++ n.text ++ ")"
  | dec a b => "dec(" ++ a.text ++ ", " ++ b.text ++ ")"
  | rat a b => "rat(" ++ a.text ++ ", " ++ b.text ++ ")"

end Numeral

end PaveScript
