import PaveScript.Engine
import PaveScript.Text.Quoted

/-!
# Call logs

An engine that only writes down its calls. It can be told to refuse the calls of one name, which
are written down all the same.
-/

namespace PaveScript

/-- The name of a call. -/
def EngineCall.name : EngineCall → String
  | declareVariable .. => "declare_variable"
  | declareConstant .. => "declare_constant"
  | define .. => "define"
  | setObjective .. => "set_objective"
  | setDifferential .. => "set_differential"
  | addConstraint .. => "add_constraint"
  | setPrecision _ => "set_precision"
  | setResolution _ => "set_resolution"
  | setVariableResolution .. => "set_variable_resolution"
  | setGranularity _ => "set_granularity"
  | setDepth _ => "set_depth"
  | setVarSelect _ => "set_var_select"
  | setBp _ => "set_bp"
  | setSafeInput _ => "set_safe_input"
  | setDebug _ => "set_debug"
  | setName _ => "set_name"
  | setOutput _ => "set_output"
  | setPavingMode _ => "set_paving_mode"
  | pave => "pave"
  | bifurcation _ => "bifurcation"
  | minMax _ => "minmax"
  | savePaving _ => "save_paving"
  | loadPaving _ => "load_paving"
  | plot .. => "plot"
  | reset => "reset_session"

/-- How traces and logs name a kind of declaration. -/
def VarKind.title : VarKind → String
  | var => "Variable"
  | param => "Parameter"

def MinMaxMode.title : MinMaxMode → String
  | min => "Min"
  | max => "Max"
  | both => "Both"

/-- The arguments of a call as a log shows them. -/
def EngineCall.arguments : EngineCall → List String
  | declareVariable x interval kind => [x, interval.text, kind.title]
  | declareConstant x value => [x, value.text]
  | define x expr => [x, expr.text]
  | setObjective expr chain => [expr.text, "env=" ++ toString chain.length]
  | setDifferential expr chain => [expr.text, "env=" ++ toString chain.length]
  | addConstraint constraint chain => [constraint.text, "env=" ++ toString chain.length]
  | setPrecision value => [value.text]
  | setResolution value => [value.text]
  | setVariableResolution x value => [x, value.text]
  | setGranularity value => [value.text]
  | setDepth value => [value.text]
  | setVarSelect value => [value.text]
  | setBp value => [boolText value]
  | setSafeInput value => [boolText value]
  | setDebug value => [boolText value]
  | setName x => [x]
  | setOutput file => [Text.quote file]
  | setPavingMode mode => [mode.name]
  | pave => []
  | bifurcation equilibrium => [boolText equilibrium]
  | minMax mode => [mode.title]
  | savePaving x => [x]
  | loadPaving x => [x]
  | plot x axes => x :: axes.names
  | reset => []

/-- The line of a call in a log. -/
def EngineCall.line (c : EngineCall) : String :=
  String.intercalate " " (c.name :: c.arguments)

/-- The calls made so far, in order, and what they left behind. -/
structure CallLog where
  calls : List EngineCall := []
  safeInput : Bool := true
  /-- The name of the calls to refuse. -/
  refuses : Option String := none
  resets : Nat := 0
deriving DecidableEq, Inhabited

namespace CallLog

/-- Makes a call: it is written down, and a change of safe input counts even when it is refused. -/
def call (c : EngineCall) (log : CallLog) : Except DomainError Unit × CallLog :=
  let written := { log with calls := log.calls ++ [c] }
  match c with
  | .reset => (.ok (), { written with resets := log.resets + 1, safeInput := true })
  | c =>
    let next := match c with
      | .setSafeInput value => { written with safeInput := value }
      | _ => written
    (if log.refuses = some c.name then .error (.rejected c.name) else .ok (), next)

instance : Engine CallLog where
  safeInput log := log.safeInput
  call := call
  trace _ _ := []

/-- The names of the calls. -/
def names (log : CallLog) : List String := log.calls.map EngineCall.name

/-- The lines of the log. -/
def lines (log : CallLog) : List String := log.calls.map EngineCall.line

end CallLog

end PaveScript
