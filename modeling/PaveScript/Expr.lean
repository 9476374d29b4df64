import PaveScript.Literal

/-!
# Expressions

Arithmetic expressions, comparisons joined by `and` and `or`, intervals, let chains and
constraints, with their canonical texts. Parentheses of the source do not survive: the canonical
text puts one pair around every binary node, so it spells out the grouping.
-/

namespace PaveScript

/-- The binary operators. -/
inductive BinaryOp where
  | add | sub | mul | div | pow
deriving DecidableEq, Inhabited

def BinaryOp.symbol : BinaryOp → String
  | add => "+"
  | sub => "-"
  | mul => "*"
  | div => "/"
  | pow => "^"

/-- The functions of one argument. -/
inductive Function where
  | sin | cos | tan | asin | acos | atan | abs | sqrt | ln | exp | sq
deriving DecidableEq, Inhabited

def Function.name : Function → String
  | sin => "sin"
  | cos => "cos"
  | tan => "tan"
  | asin => "asin"
  | acos => "acos"
  | atan => "atan"
  | abs => "abs"
  | sqrt => "sqrt"
  | ln => "ln"
  | exp => "exp"
  | sq => "sq"

/-- The comparisons. -/
inductive Comparison where
  | lt | gt | le | ge | eq
deriving DecidableEq, Inhabited

def Comparison.symbol : Comparison → String
  | lt => "<"
  | gt => ">"
  | le => "<="
  | ge => ">="
  | eq => "="

/-- An arithmetic expression. -/
inductive Expr where
  | number (value : Numeral)
  | ident (name : String)
  | binary (op : BinaryOp) (lhs rhs : Expr)
  | neg (operand : Expr)
  | call (func : Function) (argument : Expr)
deriving DecidableEq, Inhabited

namespace Expr

/-- The value of a plain literal, seen through minus signs. -/
def literalValue? : Expr → Option Double
  | number (.literal l) => some l.toDouble
  | neg e => e.literalValue?.map Double.neg
  | _ => none

/-- Whether an expression is a literal zero, seen through minus signs. -/
def isZeroLiteral (e : Expr) : Bool :=
  match e.literalValue? with
  | some x => x.isZero
  | none => false

/-- Every identifier of an expression from left to right, repetitions kept. -/
def identifiers : Expr → List String
  | number _ => []
  | ident name => [name]
  | binary _ lhs rhs => lhs.identifiers ++ rhs.identifiers
  | neg e => e.identifiers
  | call _ e => e.identifiers

/-- The canonical text. -/
def text : Expr → String
  | number n => n.text
  | ident name => name
  | binary op lhs rhs => "(" ++ lhs.text ++ " " ++ op.symbol ++ " " ++ rhs.text ++ ")"
  | neg e => "-" ++ e.text
  | call f e => f.name ++ "(" ++ e.text ++ ")"

end Expr

/-- Comparisons joined by `and` and `or`. -/
inductive BoolExpr where
  | compare (op : Comparison) (lhs rhs : Expr)
  | and (lhs rhs : BoolExpr)
  | or (lhs rhs : BoolExpr)
deriving DecidableEq, Inhabited

/-- The canonical text. -/
def BoolExpr.text : BoolExpr → String
  | compare op lhs rhs => lhs.text ++ " " ++ op.symbol ++ " " ++ rhs.text
  | and lhs rhs => "(" ++ lhs.text ++ " and " ++ rhs.text ++ ")"
  | or lhs rhs => "(" ++ lhs.text ++ " or " ++ rhs.text ++ ")"

/-- A closed interval between two expressions. -/
structure Interval where
  lower : Expr
  upper : Expr
deriving DecidableEq, Inhabited

/-- The canonical text. -/
def Interval.text (i : Interval) : String :=
  "[" ++ i.lower.text ++ ", " ++ i.upper.text ++ "]"

/-- One link `name = expr` of a let chain. -/
structure Binding where
  name : String
  expr : Expr
deriving DecidableEq, Inhabited

/-- The canonical text. -/
def Binding.text (b : Binding) : String :=
  b.name ++ " = " ++ b.expr.text

/-- A constraint against zero: `expr op 0`. -/
structure Constraint where
  op : Comparison
  expr : Expr
deriving DecidableEq, Inhabited

namespace Constraint

/-- `lhs op rhs` as a constraint against zero: the difference, or `lhs` itself against a zero. -/
def normalize (lhs : Expr) (op : Comparison) (rhs : Expr) : Constraint :=
  if rhs.isZeroLiteral then ⟨op, lhs⟩ else ⟨op, .binary .sub lhs rhs⟩

/-- The canonical text. -/
def text (c : Constraint) : String :=
  c.expr.text ++ " " ++ c.op.symbol ++ " 0"

end Constraint

end PaveScript
