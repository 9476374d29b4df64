import PaveScript.Error
import PaveScript.Statement

/-!
# Engines

An engine accumulates a problem, call by call. Every statement that concerns the engine becomes
exactly one call; what an engine does with a call, and whether it refuses it, is its own affair.
-/

namespace PaveScript

/-- A call to an engine. -/
inductive EngineCall where
  | declareVariable (name : String) (interval : Interval) (kind : VarKind)
  | declareConstant (name : String) (value : Numeral)
  | define (name : String) (expr : Expr)
  /-- The chain holds the let bindings that the expression was written under. -/
  | setObjective (expr : Expr) (chain : List Binding)
  | setDifferential (expr : Expr) (chain : List Binding)
  | addConstraint (constraint : Constraint) (chain : List Binding)
  | setPrecision (value : Numeral)
  | setResolution (value : Literal)
  | setVariableResolution (name : String) (value : Literal)
  | setGranularity (value : Literal)
  | setDepth (value : Literal)
  | setVarSelect (value : Literal)
  | setBp (value : Bool)
  | setSafeInput (value : Bool)
  | setDebug (value : Bool)
  | setName (name : String)
  /-- The empty name routes output back to standard output. -/
  | setOutput (file : String)
  | setPavingMode (mode : PavingMode)
  | pave
  | bifurcation (equilibrium : Bool)
  | minMax (mode : MinMaxMode)
  | savePaving (name : String)
  | loadPaving (name : String)
  | plot (name : String) (axes : PlotAxes)
  /-- Back to the defaults; no engine refuses this. -/
  | reset
deriving DecidableEq, Inhabited

/-- An engine with states `σ`. -/
class Engine (σ : Type) where
  /-- Consulted before each statement is read. -/
  safeInput : σ → Bool
  /-- Makes a call. A refused call may leave its mark on the state, too. -/
  call : EngineCall → σ → Except DomainError Unit × σ
  /-- What a trace tells about a call made in a state. -/
  trace : EngineCall → σ → List String

/-- Brings an engine back to its defaults. -/
def Engine.resetState {σ : Type} [Engine σ] (engine : σ) : σ :=
  (Engine.call .reset engine).2

/-! ## From statements to calls -/

/-- The call that a setting asks for. -/
def Setting.call : Setting → EngineCall
  | precision n => .setPrecision n
  | resolution l => .setResolution l
  | variableResolution x l => .setVariableResolution x l
  | granularity l => .setGranularity l
  | depth l => .setDepth l
  | varSelect l => .setVarSelect l
  | bp b => .setBp b
  | safeInput b => .setSafeInput b
  | debug b => .setDebug b
  | name s => .setName s
  | output file => .setOutput file
  | pavingMode mode => .setPavingMode mode

/-- The call that a request asks for. -/
def Action.call : Action → EngineCall
  | pave => .pave
  | bifurcation => .bifurcation false
  | equilibrium => .bifurcation true
  | min => .minMax .min
  | max => .minMax .max
  | minMax => .minMax .both
  | reset => .reset

/-- What a statement asks for. -/
inductive Effect where
  /-- One call to the engine. -/
  | call (c : EngineCall)
  /-- Nothing for the engine: the canonical text is repeated. -/
  | echo (text : String)
  /-- Session control. -/
  | control
deriving DecidableEq, Inhabited

/-- What a statement asks for. -/
def Statement.effect : Statement → Effect
  | declare name interval kind => .call (.declareVariable name interval kind)
  | const name value => .call (.declareConstant name value)
  | objective bindings expr => .call (.setObjective expr bindings)
  | differential bindings expr => .call (.setDifferential expr bindings)
  | constraint bindings c => .call (.addConstraint c bindings)
  | define name expr => .call (.define name expr)
  | set setting => .call setting.call
  | resetOutput => .call (.setOutput "")
  | action a => .call a.call
  | savePaving name => .call (.savePaving name)
  | loadPaving name => .call (.loadPaving name)
  | plot name axes => .call (.plot name axes)
  | universal condition => .echo (Statement.universal condition).text
  | readFile _ => .control
  | quit => .control
  | help => .control

/-- How a dispatched statement went. -/
inductive Dispatched where
  /-- One call was made and accepted. -/
  | engine
  | echo (text : String)
  | control
deriving DecidableEq, Inhabited

/-- Hands a statement to an engine. -/
def dispatch {σ : Type} [Engine σ] (statement : Statement) (engine : σ) :
    Except DomainError Dispatched × σ :=
  match statement.effect with
  | .call c =>
    match Engine.call c engine with
    | (.ok (), engine) => (.ok .engine, engine)
    | (.error e, engine) => (.error e, engine)
  | .echo text => (.ok (.echo text), engine)
  | .control => (.ok .control, engine)

/-- What a trace tells about handing a statement to an engine. -/
def dispatchTrace {σ : Type} [Engine σ] (statement : Statement) (engine : σ) : List String :=
  match statement.effect with
  | .call c => Engine.trace c engine
  | _ => []

end PaveScript
