import Mathlib.Algebra.Field.Rat
import Mathlib.Algebra.Order.Field.Basic
import Mathlib.Algebra.Order.Ring.Rat
import PaveScript.Expr
import PaveScript.Proofs.Double.Rounding

/-!
# What a constraint says

A comparison of two expressions is kept as a constraint against zero, for which the right side is
moved to the left unless it is a zero already. Nothing changes in what is said, whatever names,
functions and numbers stand for, as long as differences and opposites are what they are called and a
zero is zero.

The test for a zero is one on values: it looks through minus signs at the double that a literal
stands for. `isZeroLiteral_iff` says which expressions pass it.

* `Reading` — what expressions stand for in an ordered field
* `Expr.WritesZero` — the ways to write a zero
* `Valuation.reading` — evaluation is a reading
* `normalize_faithful` — the constraint says the same, and another zero leaves it as it is
-/

namespace PaveScript

/-! ## Zeros -/

theorem Literal.isZero_iff {l : Literal} : l.isZero = true ↔ l = .integer 0 ∨
    ∃ negative, l = .real (.ofRank negative 0) ∨ l = .hexFloat (.ofRank negative 0) := by
  cases l with
  | integer i => simp [isZero, toDouble, Double.isZero_ofInt_iff]
  | real x => simp [isZero, toDouble, Double.isZero_iff]
  | hexFloat x => simp [isZero, toDouble, Double.isZero_iff]

namespace Expr

/-- The ways to write a zero: any zero under any number of minus signs. -/
inductive WritesZero : Expr → Prop
  | integer : WritesZero (.number (.literal (.integer 0)))
  | real (negative : Bool) : WritesZero (.number (.literal (.real (.ofRank negative 0))))
  | hexFloat (negative : Bool) : WritesZero (.number (.literal (.hexFloat (.ofRank negative 0))))
  | neg {e : Expr} (h : WritesZero e) : WritesZero (.neg e)

theorem writesZero_literal_iff {l : Literal} :
    WritesZero (.number (.literal l)) ↔ l.isZero = true := by
  rw [Literal.isZero_iff]
  constructor
  · intro h
    cases h with
    | integer => exact .inl rfl
    | real negative => exact .inr ⟨negative, .inl rfl⟩
    | hexFloat negative => exact .inr ⟨negative, .inr rfl⟩
  · rintro (rfl | ⟨negative, rfl | rfl⟩)
    · exact .integer
    · exact .real negative
    · exact .hexFloat negative

theorem isZeroLiteral_neg (e : Expr) : (neg e).isZeroLiteral = e.isZeroLiteral := by
  simp only [isZeroLiteral, literalValue?]
  cases e.literalValue? <;> rfl

/-- **The test for a zero** passes what writes one, and nothing else. -/
theorem isZeroLiteral_iff {e : Expr} : e.isZeroLiteral = true ↔ e.WritesZero := by
  induction e with
  | number n =>
    cases n with
    | literal l => exact writesZero_literal_iff.symm
    | _ => exact ⟨fun h => (nomatch h), fun h => (nomatch h)⟩
  | neg e ih =>
    rw [isZeroLiteral_neg, ih]
    constructor
    · exact .neg
    · rintro ⟨⟩
      assumption
  | _ => exact ⟨fun h => (nomatch h), fun h => (nomatch h)⟩

theorem sub_ne_self (e z : Expr) : binary .sub e z ≠ e := by
  intro h
  have hsize := congrArg sizeOf h
  simp only [binary.sizeOf_spec] at hsize
  omega

end Expr

namespace Constraint

variable {lhs rhs : Expr} {op : Comparison}

theorem normalize_of_writesZero (h : rhs.WritesZero) : normalize lhs op rhs = ⟨op, lhs⟩ :=
  if_pos (Expr.isZeroLiteral_iff.mpr h)

theorem normalize_of_not_writesZero (h : ¬rhs.WritesZero) :
    normalize lhs op rhs = ⟨op, .binary .sub lhs rhs⟩ :=
  if_neg fun hzero => h (Expr.isZeroLiteral_iff.mp hzero)

/-- A constraint that is compared with a zero stays as it is; with anything else it grows. -/
theorem normalize_eq_self_iff {c : Constraint} {z : Expr} :
    normalize c.expr c.op z = c ↔ z.WritesZero := by
  constructor
  · intro h
    by_contra hz
    rw [normalize_of_not_writesZero hz] at h
    exact Expr.sub_ne_self c.expr z (congrArg Constraint.expr h)
  · exact normalize_of_writesZero

theorem op_normalize (lhs : Expr) (op : Comparison) (rhs : Expr) :
    (normalize lhs op rhs).op = op := by
  unfold normalize
  split <;> rfl

end Constraint

/-! ## Readings -/

/-- What a comparison says of two values. -/
def Comparison.Holds {K : Type*} [LinearOrder K] (op : Comparison) (a b : K) : Prop :=
  match op with
  | lt => a < b
  | gt => a > b
  | le => a ≤ b
  | ge => a ≥ b
  | eq => a = b

/-- A reading of expressions in a field. What names, functions, other operators and other numbers
stand for is left open. -/
structure Reading (K : Type*) [Field K] where
  value : Expr → K
  value_sub : ∀ a b, value (.binary .sub a b) = value a - value b
  value_neg : ∀ e, value (.neg e) = -value e
  value_zero : ∀ l : Literal, l.isZero = true → value (.number (.literal l)) = 0

theorem Reading.value_of_writesZero {K : Type*} [Field K] (reading : Reading K) {z : Expr}
    (h : z.WritesZero) : reading.value z = 0 := by
  induction h with
  | neg _ ih => rw [reading.value_neg, ih, neg_zero]
  | _ => exact reading.value_zero _ (Expr.writesZero_literal_iff.mp (by constructor))

/-! ## Evaluation -/

/-- What the parts of an expression stand for that no reading has to agree on. -/
structure Valuation (K : Type*) where
  name : String → K
  numeral : Numeral → K
  function : Function → K → K
  power : K → K → K

section

variable {K : Type*} [Field K]

/-- The exact value of a finite literal. -/
def Literal.exact (K : Type*) [Field K] (l : Literal) : K :=
  (l.toDouble.signedUnits : K) / (Double.one : K)

/-- The value of an expression whose literals stand for their exact values. -/
def Valuation.value (v : Valuation K) : Expr → K
  | .number (.literal l) => l.exact K
  | .number n => v.numeral n
  | .ident x => v.name x
  | .binary .add a b => v.value a + v.value b
  | .binary .sub a b => v.value a - v.value b
  | .binary .mul a b => v.value a * v.value b
  | .binary .div a b => v.value a / v.value b
  | .binary .pow a b => v.power (v.value a) (v.value b)
  | .neg e => -v.value e
  | .call f e => v.function f (v.value e)

theorem Literal.exact_of_isZero {l : Literal} (h : l.isZero = true) : l.exact K = 0 := by
  obtain ⟨negative, hzero⟩ := Double.isZero_iff.mp h
  have hunits : (Double.ofRank negative 0).signedUnits = 0 := by cases negative <;> rfl
  rw [exact, hzero, hunits, Int.cast_zero, zero_div]

/-- Evaluation is a reading. -/
def Valuation.reading (v : Valuation K) : Reading K where
  value := v.value
  value_sub _ _ := rfl
  value_neg _ := rfl
  value_zero _ := Literal.exact_of_isZero

end

/-! ## Constraints -/

section

variable {K : Type*} [Field K] [LinearOrder K] [IsStrictOrderedRing K]

/-- Both sides of a comparison can be moved by the same amount. -/
theorem Comparison.holds_sub_zero_iff (op : Comparison) (a b : K) :
    op.Holds (a - b) 0 ↔ op.Holds a b := by
  cases op with
  | lt => exact sub_neg
  | gt => exact sub_pos
  | le => exact sub_nonpos
  | ge => exact sub_nonneg
  | eq => exact sub_eq_zero

theorem Constraint.holds_normalize_iff (reading : Reading K) (lhs rhs : Expr) (op : Comparison) :
    op.Holds (reading.value (normalize lhs op rhs).expr) 0 ↔
      op.Holds (reading.value lhs) (reading.value rhs) := by
  by_cases hzero : rhs.WritesZero
  · rw [normalize_of_writesZero hzero, reading.value_of_writesZero hzero]
  · rw [normalize_of_not_writesZero hzero, reading.value_sub, op.holds_sub_zero_iff]

/-- **A constraint says what the comparison said** that it was made of. It is left alone when it is
compared with zero once more, however the zero is written, and only then. -/
theorem normalize_faithful (reading : Reading K) (lhs rhs : Expr) (op : Comparison) :
    let c := Constraint.normalize lhs op rhs
    c.op = op ∧ (op.Holds (reading.value lhs) (reading.value rhs) ↔
        c.op.Holds (reading.value c.expr) 0) ∧
      ∀ z, Constraint.normalize c.expr op z = c ↔ z.WritesZero := by
  intro c
  have hop : c.op = op := Constraint.op_normalize lhs op rhs
  refine ⟨hop, ?_, ?_⟩
  · rw [hop]
    exact (Constraint.holds_normalize_iff reading lhs rhs op).symm
  · intro z
    rw [← hop]
    exact Constraint.normalize_eq_self_iff

end

/-- The unit disc at a point inside: `sq(x) + sq(y) <= 1` with `x = 1/2` and `y = 1/3`. -/
def discPoint : Valuation ℚ where
  name x := if x = "x" then 1 / 2 else 1 / 3
  numeral _ := 0
  function
    | .sq, a => a * a
    | _, a => a
  power a _ := a

theorem normalize_faithful_discPoint :
    let lhs := Expr.binary .add (.call .sq (.ident "x")) (.call .sq (.ident "y"))
    let rhs := Expr.neg (.neg (.number (.literal (.integer 1))))
    let c := Constraint.normalize lhs .le rhs
    c = ⟨.le, .binary .sub lhs rhs⟩ ∧ c.op = .le ∧
      (Comparison.le.Holds (discPoint.reading.value lhs) (discPoint.reading.value rhs) ↔
        c.op.Holds (discPoint.reading.value c.expr) 0) ∧
      ∀ z, Constraint.normalize c.expr .le z = c ↔ z.WritesZero := by
  intro lhs rhs c
  have hrhs : ¬(Expr.neg (.neg (.number (.literal (.integer 1))))).WritesZero :=
    fun | .neg (.neg h) => nomatch h
  exact ⟨Constraint.normalize_of_not_writesZero hrhs,
    normalize_faithful discPoint.reading lhs rhs .le⟩

end PaveScript
