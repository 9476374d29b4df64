import PaveScript.Expr

/-!
# Statements

What a script can say: declarations, the parts of a problem, settings, requests to the solver and
session control. The canonical text of a statement reads back as the statement.
-/

namespace PaveScript

/-- Whether a declared name is solved for or given from outside. -/
inductive VarKind where
  | var
  | param
deriving DecidableEq, Inhabited

/-- How a box is paved. -/
inductive PavingMode where
  | std
  | first
  | full
deriving DecidableEq, Inhabited

def PavingMode.name : PavingMode → String
  | std => "std"
  | first => "first"
  | full => "full"

/-- What is optimised. -/
inductive MinMaxMode where
  | min
  | max
  | both
deriving DecidableEq, Inhabited

/-- One setting with its new value. -/
inductive Setting where
  | precision (value : Numeral)
  | resolution (value : Literal)
  | variableResolution (name : String) (value : Literal)
  | granularity (value : Literal)
  | depth (value : Literal)
  | varSelect (value : Literal)
  | bp (value : Bool)
  | safeInput (value : Bool)
  | debug (value : Bool)
  | name (value : String)
  | output (file : String)
  | pavingMode (mode : PavingMode)
deriving DecidableEq, Inhabited

/-- Requests without arguments. -/
inductive Action where
  | pave
  | bifurcation
  | equilibrium
  | min
  | max
  | minMax
  | reset
deriving DecidableEq, Inhabited

def Action.word : Action → String
  | pave => "pave"
  | bifurcation => "bifurcation"
  | equilibrium => "equilibrium"
  | min => "min"
  | max => "max"
  | minMax => "minmax"
  | reset => "reset"

/-- The axes of a plot. -/
inductive PlotAxes where
  | two (x y : String)
  | three (x y z : String)
deriving DecidableEq, Inhabited

def PlotAxes.names : PlotAxes → List String
  | two x y => [x, y]
  | three x y z => [x, y, z]

/-- A statement of the language. -/
inductive Statement where
  | declare (name : String) (interval : Interval) (kind : VarKind)
  | const (name : String) (value : Numeral)
  | objective (bindings : List Binding) (expr : Expr)
  | differential (bindings : List Binding) (expr : Expr)
  | constraint (bindings : List Binding) (constraint : Constraint)
  | define (name : String) (expr : Expr)
  | set (setting : Setting)
  | resetOutput
  | action (action : Action)
  | savePaving (name : String)
  | loadPaving (name : String)
  | plot (name : String) (axes : PlotAxes)
  /-- Read but not evaluated: a session only repeats it. -/
  | universal (condition : BoolExpr)
  | readFile (path : String)
  | quit
  | help
deriving DecidableEq, Inhabited

/-! ## Canonical texts -/

/-- The spelling of a truth value. -/
def boolText (b : Bool) : String := if b then "true" else "false"

/-- A let chain with the `in` that closes it; an empty chain is not written. -/
def bindingsText (bindings : List Binding) : String :=
  if bindings.isEmpty then ""
  else "let " ++ String.intercalate ", " (bindings.map Binding.text) ++ " in "

/-- The canonical text. -/
def Setting.text : Setting → String
  | precision n => "precision = " ++ n.text
  | resolution l => "resolution = " ++ l.text
  | variableResolution x l => "resolution " ++ x ++ " = " ++ l.text
  | granularity l => "granularity = " ++ l.text
  | depth l => "depth = " ++ l.text
  | varSelect l => "varselect = " ++ l.text
  | bp b => "bp = " ++ boolText b
  | safeInput b => "safe input = " ++ boolText b
  | debug b => "debug = " ++ boolText b
  | name s => "name = " ++ s
  | output file => "output = " ++ file
  | pavingMode mode => "paving mode = " ++ mode.name

/-- The word that declares a name of a kind. -/
def VarKind.word : VarKind → String
  | var => "var"
  | param => "param"

namespace Statement

/-- The canonical text. -/
def text : Statement → String
  | declare name interval kind => kind.word ++ " " ++ name ++ " in " ++ interval.text
  | const name value => "const " ++ name ++ " = " ++ value.text
  | objective bindings expr => "objfn " ++ bindingsText bindings ++ expr.text
  | differential bindings expr => "dfeq " ++ bindingsText bindings ++ expr.text
  | constraint bindings c => "cnstr " ++ bindingsText bindings ++ c.text
  | define name expr => "define " ++ name ++ " = " ++ expr.text
  | set setting => "set " ++ setting.text
  | resetOutput => "reset output"
  | action a => a.word
  | savePaving name => "save paving " ++ name
  | loadPaving name => "load paving " ++ name
  | plot name axes => "plot " ++ name ++ " " ++ String.intercalate " " axes.names
  | universal condition => "forall " ++ condition.text
  | readFile path => "file " ++ path
  | quit => "quit"
  | help => "help"

/-- Statements one to a line, each closed by a semicolon. -/
def format (statements : List Statement) : String :=
  String.join (statements.map fun s => s.text ++ ";\n")

end Statement

end PaveScript
