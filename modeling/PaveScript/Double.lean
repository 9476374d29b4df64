import PaveScript.Text.Digits

/-!
# Double

The real numbers of the language: IEEE 754 binary64 values.

A value is a sign and a *rank*, the place of its magnitude in the ascending list of all
magnitudes: zero has rank 0, the least positive magnitude rank 1, infinity rank `2047 * 2 ^ 52`.
The rank is also the value's bit pattern without its sign, so order and encoding come for free.
Every finite magnitude is a whole number of *units* of `2 ^ -1074`, which makes exact arithmetic
arithmetic of natural numbers. A result that is no double goes to the nearest one, and a tie goes
to the even rank.

There is one NaN; its payload and its sign never show.
-/

namespace PaveScript

/-- The number of magnitudes from one power of two up to the next, `2 ^ 52`. -/
def binade : Nat := Nat.pow 2 52

/-- The rank of infinity. -/
def infinityRank : Nat := 2047 * binade

/-- A binary64 value: its sign and the rank of its magnitude. The rank after infinity is NaN. -/
structure Double where
  negative : Bool
  rank : Nat
  rank_le : rank ≤ infinityRank + 1
deriving DecidableEq

namespace Double

/-- The value with the given sign and rank. Ranks past infinity give infinity. -/
def ofRank (negative : Bool) (rank : Nat) : Double :=
  ⟨negative, min rank infinityRank, Nat.le_succ_of_le (Nat.min_le_right _ _)⟩

/-- Positive zero. -/
def zero : Double := ofRank false 0

/-- Positive infinity. -/
def infinity : Double := ofRank false infinityRank

/-- The value that is not a number. -/
def nan : Double := ⟨false, infinityRank + 1, Nat.le_refl _⟩

instance : Inhabited Double := ⟨zero⟩

def isNaN (x : Double) : Bool := x.rank == infinityRank + 1

def isInfinite (x : Double) : Bool := x.rank == infinityRank

def isFinite (x : Double) : Bool := x.rank < infinityRank

/-- The value of the opposite sign. -/
def neg (x : Double) : Double := { x with negative := !x.negative }

@[simp]
theorem neg_neg (x : Double) : x.neg.neg = x := by
  simp [neg]

@[simp]
theorem rank_neg (x : Double) : x.neg.rank = x.rank := rfl

/-! ## Bit patterns -/

/-- The weight of the sign among the 64 bits. -/
def signBit : Nat := Nat.pow 2 63

/-- The 64 bits of a value as a number. -/
def toBits (x : Double) : Nat :=
  (if x.negative then signBit else 0) + x.rank

/-- The value of a 64-bit pattern; all patterns of NaN give the one NaN. -/
def ofBits (bits : Nat) : Double :=
  let rank := bits % signBit
  if rank ≤ infinityRank then ofRank (bits / signBit % 2 == 1) rank else nan

/-! ## Order -/

/-- The place of a value on the number line: the rank, with its sign. Both zeros have place 0. -/
def place (x : Double) : Int :=
  if x.negative then -x.rank else x.rank

/-- Strict order; NaN is below nothing and above nothing. -/
def lt (x y : Double) : Bool :=
  !x.isNaN && !y.isNaN && x.place < y.place

/-- Whether a value is one of the two zeros. -/
def isZero (x : Double) : Bool := x.rank == 0

@[simp]
theorem isZero_neg (x : Double) : x.neg.isZero = x.isZero := rfl

/-! ## Exact magnitudes and rounding -/

/-- The magnitude of a finite rank in units of `2 ^ -1074`. -/
def unitsOfRank (rank : Nat) : Nat :=
  if rank < binade then rank
  else (binade + rank % binade) * Nat.pow 2 (rank / binade - 1)

/-- The magnitude of a finite value in units of `2 ^ -1074`. -/
def units (x : Double) : Nat := unitsOfRank x.rank

/-- One, in units. -/
def one : Nat := Nat.pow 2 1074

/-- `num / den` rounded to a whole number; a half goes to the even neighbour. -/
def divEven (num den : Nat) : Nat :=
  let q := num / den
  let r := num % den
  if 2 * r < den then q else if den < 2 * r then q + 1 else q + q % 2

/--
The rank nearest to `num / den` units, a tie going to the even rank. Ranks past infinity stand
for magnitudes that are too large.

The quotient is rounded to 53 significant bits: `k` is the number of bits that fall off, and a
significand that rounds up to `2 ^ 53` carries into the next power of two by itself.
-/
def nearestRank (num den : Nat) : Nat :=
  let k := (num / den).log2 - 52
  k * binade + divEven num (den * Nat.pow 2 k)

/-- The double nearest to `num / den` units with the given sign. -/
def nearest (negative : Bool) (num den : Nat) : Double :=
  ofRank negative (nearestRank num den)

/-- The signed number of units of a finite value. -/
def signedUnits (x : Double) : Int :=
  if x.negative then -x.units else x.units

/-- The double nearest to an integer. -/
def ofInt (i : Int) : Double :=
  nearest (i < 0) (i.natAbs * one) 1

/-- The sum, rounded. Opposite infinities have no sum. -/
def add (x y : Double) : Double :=
  if x.isNaN || y.isNaN then nan
  else if x.isInfinite then
    if y.isInfinite && x.negative != y.negative then nan else x
  else if y.isInfinite then y
  else
    let sum := x.signedUnits + y.signedUnits
    if sum == 0 then ofRank (x.negative && y.negative) 0
    else nearest (sum < 0) sum.natAbs 1

/-- The product, rounded. Zero times infinity has no value. -/
def mul (x y : Double) : Double :=
  if x.isNaN || y.isNaN then nan
  else
    let negative := x.negative != y.negative
    if x.isInfinite || y.isInfinite then
      if x.isZero || y.isZero then nan else ofRank negative infinityRank
    else nearest negative (x.units * y.units) one

/--
Two to the power `e`. Powers of negative exponent are reciprocals, so below `2 ^ -1023` they are
reciprocals of infinity, which is zero.
-/
def twoPow (e : Int) : Double :=
  if e > 1023 then infinity
  else if e < -1023 then zero
  else nearest false (one * Nat.pow 2 e.toNat) (Nat.pow 2 (-e).toNat)

/-! ## Whole numbers -/

/-- Whether a value is finite and has no fraction. -/
def isIntegral (x : Double) : Bool :=
  x.isFinite && x.units % one == 0

/-- The whole part of the magnitude of a finite value. -/
def wholePart (x : Double) : Nat := x.units / one

end Double

end PaveScript
