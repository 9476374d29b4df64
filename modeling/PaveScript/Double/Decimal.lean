import PaveScript.Double

/-!
# Decimals and doubles

A decimal is a whole coefficient and a power of ten. This module rounds decimals to doubles, finds
the shortest decimal of a double, and reads decimal text.

The shortest decimal of a value is the one with the fewest digits that rounds to the value, and of
those with equally many digits the nearest one. Two can be equally near; a `Tie` says which one is
taken then. On each grid of `n` digits only the two neighbours
of the value can be meant, so the search tries these two for `n = 0, 1, …, 17`; the first grid has
the power of ten just above the value. Should none of them read back, the exact expansion of the
value stands in: every double has one.

## Termination

The search runs over a list of eighteen grids; the reader consumes its text with `takeWhile` and
`dropWhile`.
-/

namespace PaveScript

/-- The number `coefficient * 10 ^ exponent`. -/
structure Decimal where
  coefficient : Nat
  exponent : Int
deriving DecidableEq, Inhabited

namespace Decimal

/-- The digits of the coefficient. -/
def digits (d : Decimal) : List Char :=
  Digits.decimal d.coefficient

/-- The power of ten just above the value: the number of digits before the decimal point. -/
def point (d : Decimal) : Int :=
  d.digits.length + d.exponent

/-- The value in units, as numerator and denominator. -/
def ratio (d : Decimal) : Nat × Nat :=
  (d.coefficient * Nat.pow 10 d.exponent.toNat * Double.one, Nat.pow 10 (-d.exponent).toNat)

/--
The rank of the double nearest to the value. A decimal of `10 ^ 310` or more is past every finite
double, and one below `10 ^ -330` is nearer to zero than to the least positive double, so these
need no arithmetic.
-/
def nearestRank (d : Decimal) : Nat :=
  if d.coefficient = 0 then 0
  else if 310 < d.point then infinityRank
  else if d.point < -330 then 0
  else Double.nearestRank d.ratio.1 d.ratio.2

/-- The double nearest to the value with the given sign. -/
def toDouble (negative : Bool) (d : Decimal) : Double :=
  Double.ofRank negative d.nearestRank

end Decimal

namespace Double

/--
The power of ten just above a positive number of units. The least unit is more than
`4 * 10 ^ -324`, so the whole part of the magnitude times `10 ^ 324` is positive.
-/
def decimalPoint (units : Nat) : Int :=
  (Digits.decimal (units * Nat.pow 10 324 / one)).length - 324

/-- Which of two equally near neighbours is taken: the upper one, or the one that is even. -/
inductive Tie where
  | up
  | even
deriving DecidableEq, Inhabited

/--
The neighbours of a number of units among the multiples of `10 ^ exponent`, the nearer one first.
-/
def neighbours (tie : Tie) (units : Nat) (exponent : Int) : List Decimal :=
  let num := units * Nat.pow 10 (-exponent).toNat
  let den := one * Nat.pow 10 exponent.toNat
  let below := num / den
  let twice := 2 * (num % den)
  if twice < den || (twice == den && tie = .even && below % 2 == 0) then
    [⟨below, exponent⟩, ⟨below + 1, exponent⟩]
  else [⟨below + 1, exponent⟩, ⟨below, exponent⟩]

/-- The exact value of a number of units. -/
def exactDecimal (units : Nat) : Decimal :=
  ⟨units * Nat.pow 5 1074, -1074⟩

/-- The decimal of fewest digits that rounds to the magnitude of a finite value. -/
def shortest (tie : Tie) (x : Double) : Decimal :=
  if x.rank = 0 then ⟨0, 0⟩
  else
    let point := decimalPoint x.units
    let onGrid (n : Nat) : Option Decimal :=
      (neighbours tie x.units (point - n)).find? fun d => d.nearestRank == x.rank
    ((List.range 18).findSome? onGrid).getD (exactDecimal x.units)

/-! ## Reading -/

/-- An exponent mark of either case with optional sign and at least one digit; no text is zero. -/
def readExponent? : List Char → Option Int
  | [] => some 0
  | mark :: rest =>
    if mark != 'e' && mark != 'E' then none
    else
      let (negative, digits) := match rest with
        | '-' :: ds => (true, ds)
        | '+' :: ds => (false, ds)
        | ds => (false, ds)
      if digits.isEmpty || !digits.all Char.isDigit then none
      else if negative then some (-(Digits.value digits)) else some (Digits.value digits)

/--
Reads an unsigned decimal number: digits with at most one point among, before or after them, then
an optional exponent. At least one digit has to stand before the exponent.
-/
def readUnsigned? (cs : List Char) : Option Decimal :=
  let whole := cs.takeWhile Char.isDigit
  let afterWhole := cs.dropWhile Char.isDigit
  let (fraction, tail) := match afterWhole with
    | '.' :: rest => (rest.takeWhile Char.isDigit, rest.dropWhile Char.isDigit)
    | rest => ([], rest)
  if whole.isEmpty && fraction.isEmpty then none
  else
    (readExponent? tail).map fun e => ⟨Digits.value (whole ++ fraction), e - fraction.length⟩

/-- Reads a decimal number with an optional sign, correctly rounded. -/
def ofText? (cs : List Char) : Option Double :=
  match cs with
  | '-' :: rest => (readUnsigned? rest).map (Decimal.toDouble true)
  | '+' :: rest => (readUnsigned? rest).map (Decimal.toDouble false)
  | rest => (readUnsigned? rest).map (Decimal.toDouble false)

end Double

end PaveScript
