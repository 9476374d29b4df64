import PaveScript.CallLog
import PaveScript.Settings

/-!
# Problems

The reference engine: it collects the problem that a session describes and the requests made about
it, and solves nothing. A refused call leaves the problem as it was.

## Rules

* A name is declared once, as a variable, a constant or a definition, and before its first use.
* A binding of a let chain sees the names bound before it; the expression under the chain sees all
  of them, and nothing else does.
* An interval between two literals must not be empty.
* A request needs a variable, and a differential equation or an objective where it is about one.
-/

namespace PaveScript

/-- A declared variable or parameter. -/
structure Variable where
  name : String
  kind : VarKind
  interval : Interval
deriving DecidableEq, Inhabited

/-- Something with the let chain it was written under. -/
structure Scoped (α : Type) where
  value : α
  chain : List Binding
deriving DecidableEq, Inhabited

/-- A request that the problem was complete enough for. -/
inductive SolverRequest where
  | pave
  | bifurcation (equilibrium : Bool)
  | minMax (mode : MinMaxMode)
  | plot (name : String) (axes : PlotAxes)
deriving DecidableEq, Inhabited

/-- A problem under construction. -/
structure Problem where
  /-- What a reset comes back to. -/
  defaults : Settings := {}
  settings : Settings := {}
  name : String := ""
  declarations : List Variable := []
  constants : List (String × Numeral) := []
  definitions : List (String × Expr) := []
  objective : Option (Scoped Expr) := none
  differentials : List (Scoped Expr) := []
  constraints : List (Scoped Constraint) := []
  resolutions : List (String × Double) := []
  pavings : List String := []
  requests : List SolverRequest := []
deriving DecidableEq, Inhabited

namespace Problem

/-- The empty problem with given defaults. -/
def new (defaults : Settings) : Problem := { defaults, settings := defaults }

/-- One line about how far a problem has come. -/
def summary (p : Problem) : String :=
  toString p.declarations.length ++ " variable(s), " ++ toString p.constraints.length ++
    " constraint(s), " ++ toString p.differentials.length ++
    " differential equation(s), objective " ++ if p.objective.isSome then "set" else "unset"

/-- The resolution set for one variable. -/
def resolution? (p : Problem) (x : String) : Option Double := p.resolutions.lookup x

/-! ## Checks -/

/-- Whether a variable or parameter has a name. -/
def hasVariable (p : Problem) (x : String) : Bool := p.declarations.any fun v => v.name == x

/-- Whether a name is declared as anything. -/
def isDeclared (p : Problem) (x : String) : Bool :=
  p.hasVariable x || p.constants.any (fun c => c.1 == x) || p.definitions.any fun d => d.1 == x

/-- A name must be new. -/
def checkFresh (p : Problem) (x : String) : Except DomainError Unit :=
  if p.isDeclared x then .error (.alreadyDeclared x) else .ok ()

/-- Every identifier must be declared or bound; the first that is not is reported. -/
def checkExpr (p : Problem) (bound : List String) (e : Expr) : Except DomainError Unit :=
  match e.identifiers.find? fun x => !p.isDeclared x && !bound.contains x with
  | some x => .error (.unknownIdentifier x)
  | none => .ok ()

/-- Checks an expression under a let chain whose names come on top of those already bound. -/
def checkScoped (p : Problem) (bound : List String) (e : Expr) :
    List Binding → Except DomainError Unit
  | [] => p.checkExpr bound e
  | b :: chain => do
    p.checkExpr bound b.expr
    p.checkScoped (bound ++ [b.name]) e chain

/-- An interval between two literals must not be empty. -/
def checkInterval (x : String) (i : Interval) : Except DomainError Unit :=
  match i.lower.literalValue?, i.upper.literalValue? with
  | some lower, some upper =>
    if upper.lt lower then .error (.emptyInterval x lower upper) else .ok ()
  | _, _ => .ok ()

/-- A request needs a variable. -/
def checkVariables (p : Problem) (task : SolverTask) : Except DomainError Unit :=
  if p.declarations.any fun v => v.kind = .var then .ok () else .error (.noVariables task)

/-- An integer value for a setting. -/
def integerFor (setting : NumericSetting) (l : Literal) : Except DomainError Int :=
  match l.toInteger? with
  | some i => .ok i
  | none => .error (.notInteger setting (.literal l))

/-- A value for a setting that must not be negative. -/
def nonNegativeFor (setting : NumericSetting) (l : Literal) : Except DomainError Double :=
  if l.toDouble.lt .zero then .error (.negative setting l) else .ok l.toDouble

/-! ## Calls -/

/-- Sets the value under a key, keeping its place; a new key goes to the end. -/
def setEntry (x : String) (value : Double) : List (String × Double) → List (String × Double)
  | [] => [(x, value)]
  | (y, v) :: rest => if y == x then (y, value) :: rest else (y, v) :: setEntry x value rest

/-- What a call makes of a problem, or why it is refused. -/
def apply (p : Problem) : EngineCall → Except DomainError Problem
  | .declareVariable x interval kind => do
    p.checkFresh x
    p.checkExpr [] interval.lower
    p.checkExpr [] interval.upper
    checkInterval x interval
    return { p with declarations := p.declarations ++ [⟨x, kind, interval⟩] }
  | .declareConstant x value => do
    p.checkFresh x
    return { p with constants := p.constants ++ [(x, value)] }
  | .define x expr => do
    p.checkFresh x
    p.checkExpr [] expr
    return { p with definitions := p.definitions ++ [(x, expr)] }
  | .setObjective expr chain => do
    p.checkScoped [] expr chain
    return { p with objective := some ⟨expr, chain⟩ }
  | .setDifferential expr chain => do
    p.checkScoped [] expr chain
    return { p with differentials := p.differentials ++ [⟨expr, chain⟩] }
  | .addConstraint constraint chain => do
    p.checkScoped [] constraint.expr chain
    return { p with constraints := p.constraints ++ [⟨constraint, chain⟩] }
  | .setPrecision value =>
    match value with
    | .literal l => do
      let precision ← integerFor .precision l
      return { p with settings.precision := precision }
    | n => .error (.notInteger .precision n)
  | .setResolution value => do
    let resolution ← nonNegativeFor .resolution value
    return { p with settings.resolution := resolution }
  | .setVariableResolution x value => do
    unless p.hasVariable x do throw (.undeclaredResolution x)
    let resolution ← nonNegativeFor .resolution value
    return { p with resolutions := setEntry x resolution p.resolutions }
  | .setGranularity value => do
    let granularity ← nonNegativeFor .granularity value
    return { p with settings.granularity := granularity }
  | .setDepth value => do
    let depth ← integerFor .depth value
    if depth < 0 then throw (.negative .depth (.integer depth))
    return { p with settings.depth := depth }
  | .setVarSelect value => do
    let varSelect ← integerFor .varSelect value
    return { p with settings.varSelect := varSelect }
  | .setBp value => return { p with settings.bp := value }
  | .setSafeInput value => return { p with settings.safeInput := value }
  | .setDebug value => return { p with settings.debug := value }
  | .setName x => return { p with name := x }
  | .setOutput file => return { p with settings.output := file }
  | .setPavingMode mode => return { p with settings.pavingMode := mode }
  | .pave => do
    p.checkVariables .pave
    return { p with requests := p.requests ++ [.pave] }
  | .bifurcation equilibrium => do
    let task := if equilibrium then .equilibrium else .bifurcation
    p.checkVariables task
    if p.differentials.isEmpty then throw (.noDifferentials task)
    return { p with requests := p.requests ++ [.bifurcation equilibrium] }
  | .minMax mode => do
    p.checkVariables .minMax
    if p.objective.isNone then throw .noObjective
    return { p with requests := p.requests ++ [.minMax mode] }
  | .savePaving x =>
    return if p.pavings.contains x then p else { p with pavings := p.pavings ++ [x] }
  | .loadPaving x => if p.pavings.contains x then .ok p else .error (.unknownPaving x)
  | .plot x axes =>
    match axes.names.find? fun axis => !p.hasVariable axis with
    | some axis => .error (.unknownAxis axis)
    | none => .ok { p with requests := p.requests ++ [.plot x axes] }
  | .reset => .ok (new p.defaults)

/-- Makes a call. A refused call changes nothing. -/
def call (c : EngineCall) (p : Problem) : Except DomainError Unit × Problem :=
  match p.apply c with
  | .ok p => (.ok (), p)
  | .error e => (.error e, p)

/-- What a trace tells about a call: some calls are told in any case, some when they succeed. -/
def trace (c : EngineCall) (p : Problem) : List String :=
  let whenAccepted (line : String) : List String :=
    match p.apply c with
    | .ok _ => ["[engine] " ++ line]
    | .error _ => []
  match c with
  | .declareVariable x interval kind =>
    ["[engine] declare " ++ kind.title ++ " " ++ x ++ " in " ++ interval.text]
  | .declareConstant x value => ["[engine] const " ++ x ++ " = " ++ value.text]
  | .define x expr => ["[engine] define " ++ x ++ " = " ++ expr.text]
  | .setObjective expr _ => ["[engine] objective " ++ expr.text]
  | .setDifferential expr _ => ["[engine] dfeq " ++ expr.text]
  | .addConstraint constraint _ => ["[engine] cnstr " ++ constraint.text]
  | .setPrecision (.literal l) =>
    whenAccepted ("precision = " ++ Digits.intText (l.toInteger?.getD 0))
  | .setSafeInput value => ["[engine] safe input = " ++ boolText value]
  | .setOutput file => ["[engine] output = " ++ Text.quote file]
  | .pave => whenAccepted ("pave: " ++ p.summary)
  | .reset => ["[engine] reset session"]
  | _ => []

instance : Engine Problem where
  safeInput p := p.settings.safeInput
  call := call
  trace := trace

/-- **A refused call leaves the problem as it was.** -/
theorem call_of_error {c : EngineCall} {p q : Problem} {e : DomainError}
    (h : p.call c = (.error e, q)) : q = p := by
  unfold call at h
  split at h <;> simp_all

end Problem

end PaveScript
