import PaveScript.Json
import PaveScript.Statement

/-!
# Statements as JSON

Every alternative is an object whose one field names it, and a plain string when it carries
nothing.
-/

namespace PaveScript

open Json

def Literal.json : Literal → Json
  | integer i => object [("kind", string "integer"), ("value", int i)]
  | real x => object [("kind", string "real"), ("value", double x)]
  | hexFloat x => object [("kind", string "hex_float"), ("value", double x)]

def Numeral.json : Numeral → Json
  | literal l => tagged "literal" l.json
  | approx n => tagged "approx" n.json
  | dec a b => tagged "dec" (array [a.json, b.json])
  | rat a b => tagged "rat" (array [a.json, b.json])

/-- The name of an operator. -/
def BinaryOp.name : BinaryOp → String
  | add => "add"
  | sub => "sub"
  | mul => "mul"
  | div => "div"
  | pow => "pow"

/-- The name of a comparison. -/
def Comparison.name : Comparison → String
  | lt => "lt"
  | gt => "gt"
  | le => "le"
  | ge => "ge"
  | eq => "eq"

def Expr.json : Expr → Json
  | number n => tagged "number" n.json
  | ident name => tagged "ident" (string name)
  | binary op lhs rhs =>
    tagged "binary" (object [("op", string op.name), ("lhs", lhs.json), ("rhs", rhs.json)])
  | neg e => tagged "neg" e.json
  | call f e => tagged "call" (object [("func", string f.name), ("arg", e.json)])

def BoolExpr.json : BoolExpr → Json
  | compare op lhs rhs =>
    tagged "compare" (object [("op", string op.name), ("lhs", lhs.json), ("rhs", rhs.json)])
  | and lhs rhs => tagged "and" (array [lhs.json, rhs.json])
  | or lhs rhs => tagged "or" (array [lhs.json, rhs.json])

def Interval.json (i : Interval) : Json :=
  object [("lower", i.lower.json), ("upper", i.upper.json)]

def Binding.json (b : Binding) : Json :=
  object [("name", string b.name), ("expr", b.expr.json)]

def Constraint.json (c : Constraint) : Json :=
  object [("op", string c.op.name), ("expr", c.expr.json)]

/-- The name of a kind. -/
def VarKind.name : VarKind → String
  | var => "variable"
  | param => "parameter"

def Setting.json : Setting → Json
  | precision n => tagged "precision" n.json
  | resolution l => tagged "resolution" l.json
  | variableResolution x l =>
    tagged "variable_resolution" (object [("name", string x), ("value", l.json)])
  | granularity l => tagged "granularity" l.json
  | depth l => tagged "depth" l.json
  | varSelect l => tagged "var_select" l.json
  | bp b => tagged "bp" (bool b)
  | safeInput b => tagged "safe_input" (bool b)
  | debug b => tagged "debug" (bool b)
  | name s => tagged "name" (string s)
  | output file => tagged "output" (string file)
  | pavingMode mode => tagged "paving_mode" (string mode.name)

/-- The name of a request. -/
def Action.name : Action → String
  | pave => "pave"
  | bifurcation => "bifurcation"
  | equilibrium => "equilibrium"
  | min => "min"
  | max => "max"
  | minMax => "min_max"
  | reset => "reset"

def PlotAxes.json : PlotAxes → Json
  | two x y => tagged "two" (array [string x, string y])
  | three x y z => tagged "three" (array [string x, string y, string z])

def Statement.json : Statement → Json
  | declare name interval kind =>
    tagged "declare"
      (object [("name", string name), ("interval", interval.json), ("kind", string kind.name)])
  | const name value => tagged "const" (object [("name", string name), ("value", value.json)])
  | objective bindings expr =>
    tagged "objective"
      (object [("bindings", array (bindings.map Binding.json)), ("expr", expr.json)])
  | differential bindings expr =>
    tagged "differential"
      (object [("bindings", array (bindings.map Binding.json)), ("expr", expr.json)])
  | constraint bindings c =>
    tagged "constraint"
      (object [("bindings", array (bindings.map Binding.json)), ("constraint", c.json)])
  | define name expr => tagged "define" (object [("name", string name), ("expr", expr.json)])
  | set setting => tagged "set" setting.json
  | resetOutput => string "reset_output"
  | action a => tagged "action" (string a.name)
  | savePaving name => tagged "save_paving" (string name)
  | loadPaving name => tagged "load_paving" (string name)
  | plot name axes => tagged "plot" (object [("name", string name), ("axes", axes.json)])
  | universal condition => tagged "forall" condition.json
  | readFile path => tagged "read_file" (string path)
  | quit => string "quit"
  | help => string "help"

end PaveScript
