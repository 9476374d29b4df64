import PaveScript.Literal

/-!
# Errors

Whatever goes wrong with one statement is one `Error`: a character that belongs to no token, a
number that is too large, a token that does not fit the grammar, or a statement that the engine or
the session refuses. Errors say what happened; their texts stand here and nowhere else.
-/

namespace PaveScript

/-- What the grammar misses or refuses at a token. -/
inductive Complaint where
  | statementEnd | statement | constantName | constantEquals | definitionName
  | definitionEquals | savePaving | loadPaving | pavingName | plotName | firstAxis
  | secondAxis | scriptName | variableName | variableIn | intervalOpen | intervalComma
  | intervalClose | bindingName | bindingEquals | bindingsIn | setting | equals | safeInput
  | problemName | outputName | pavingModeWord | pavingMode | truthValue | number
  | negatedNumber | approxOpen | approxClose | decOpen | decComma | decClose | ratOpen
  | ratComma | ratClose | nesting | expression | functionOpen | functionClose | comparison
  | chainedComparison | conditionClose | openParen | closeParen | openBracket | closeBracket
  | comma | command
deriving DecidableEq, Inhabited

def Complaint.message : Complaint → String
  | statementEnd => "Expected ';' after statement"
  | statement => "Invalid statement"
  | constantName => "Expected constant name"
  | constantEquals => "Expected '=' after constant name"
  | definitionName => "Expected definition name"
  | definitionEquals => "Expected '=' after definition name"
  | savePaving => "Expected 'paving' after 'save'"
  | loadPaving => "Expected 'paving' after 'load'"
  | pavingName => "Expected paving name"
  | plotName => "Expected paving name to plot"
  | firstAxis => "Expected first axis variable"
  | secondAxis => "Expected second axis variable"
  | scriptName => "Expected input file name ending in .kdk"
  | variableName => "Expected variable name"
  | variableIn => "Expected 'in' after variable name"
  | intervalOpen => "Expected '[' to start interval"
  | intervalComma => "Expected ',' between interval bounds"
  | intervalClose => "Expected ']' to close interval"
  | bindingName => "Expected name in let binding"
  | bindingEquals => "Expected '=' in let binding"
  | bindingsIn => "Expected 'in' after let bindings"
  | setting => "Unknown setting"
  | equals => "Expected '='"
  | safeInput => "Expected 'input' after 'safe'"
  | problemName => "Expected problem name"
  | outputName => "Expected output file name"
  | pavingModeWord => "Expected 'mode' after 'paving'"
  | pavingMode => "Expected paving mode std, first or full"
  | truthValue => "Expected 'true' or 'false'"
  | number => "Expected a number"
  | negatedNumber => "Expected a number after '-'"
  | approxOpen => "Expected '(' after approx"
  | approxClose => "Expected ')' after approx argument"
  | decOpen => "Expected '(' after dec"
  | decComma => "Expected ',' in dec"
  | decClose => "Expected ')' after dec arguments"
  | ratOpen => "Expected '(' after rat"
  | ratComma => "Expected ',' in rat"
  | ratClose => "Expected ')' after rat arguments"
  | nesting => "Expression nested too deeply"
  | expression => "Expected an expression"
  | functionOpen => "Expected '(' after function name"
  | functionClose => "Expected ')' after function argument"
  | comparison => "Expected comparison operator"
  | chainedComparison => "Comparison operators cannot be chained"
  | conditionClose => "Expected ')' after boolean expression"
  | openParen => "Expected '('"
  | closeParen => "Expected ')'"
  | openBracket => "Expected '['"
  | closeBracket => "Expected ']'"
  | comma => "Expected ','"
  | command => "Expected command"

/-- The settings that take a number, as their refusals name them. -/
inductive NumericSetting where
  | precision
  | resolution
  | granularity
  | depth
  | varSelect
deriving DecidableEq, Inhabited

def NumericSetting.name : NumericSetting → String
  | precision => "precision"
  | resolution => "resolution"
  | granularity => "granularity"
  | depth => "depth"
  | varSelect => "varselect"

/-- The requests that need a complete problem, as their refusals name them. -/
inductive SolverTask where
  | pave
  | bifurcation
  | equilibrium
  | minMax
deriving DecidableEq, Inhabited

def SolverTask.name : SolverTask → String
  | pave => "pave"
  | bifurcation => "bifurcation"
  | equilibrium => "equilibrium"
  | minMax => "minmax"

/-- Why a statement that fits the grammar is refused. -/
inductive DomainError where
  | alreadyDeclared (name : String)
  | unknownIdentifier (name : String)
  | emptyInterval (name : String) (lower upper : Double)
  | notInteger (setting : NumericSetting) (value : Numeral)
  | negative (setting : NumericSetting) (value : Literal)
  | undeclaredResolution (name : String)
  | noVariables (task : SolverTask)
  | noDifferentials (task : SolverTask)
  | noObjective
  | unknownPaving (name : String)
  | unknownAxis (name : String)
  /-- A call log was told to refuse this call. -/
  | rejected (call : String)
  | approximateInput
  | unreadableFile (path reason : String)
  | filesTooDeep (path : String) (limit : Nat)
deriving DecidableEq, Inhabited

def DomainError.message : DomainError → String
  | alreadyDeclared name => "'" ++ name ++ "' is already declared"
  | unknownIdentifier name => "unknown identifier '" ++ name ++ "'"
  | emptyInterval name lower upper =>
    "empty interval for '" ++ name ++ "': lower bound " ++ lower.text ++
      " exceeds upper bound " ++ upper.text
  | notInteger setting value => setting.name ++ " must be an integer, got " ++ value.text
  | negative setting value => setting.name ++ " must not be negative, got " ++ value.text
  | undeclaredResolution name => "resolution for undeclared variable '" ++ name ++ "'"
  | noVariables task => task.name ++ ": no variables declared"
  | noDifferentials task => task.name ++ ": no differential equations given"
  | noObjective => "minmax: no objective function given"
  | unknownPaving name => "no saved paving named '" ++ name ++ "'"
  | unknownAxis name => "plot axis '" ++ name ++ "' is not a declared variable"
  | rejected call => call ++ " rejected"
  | approximateInput => "Approximate inputs not allowed when safe input is true, input ignored"
  | unreadableFile path reason => "cannot read file '" ++ path ++ "': " ++ reason
  | filesTooDeep path limit =>
    "file '" ++ path ++ "' nested more than " ++ toString limit ++ " levels deep"

/-- The classes of errors. -/
inductive ErrorKind where
  | lexical
  | overflow
  | unexpected
  | domain
deriving DecidableEq, Inhabited

/-- What went wrong with one statement. -/
inductive Error where
  /-- A character that starts no token. -/
  | illegal (char : Char) (line column : Nat)
  /-- A number past the largest literal. -/
  | overflow (literal : String) (line column : Nat)
  /-- A token that does not fit; `found` is empty at the end of the input. -/
  | unexpected (complaint : Complaint) (found : String) (line column : Nat)
  | domain (cause : DomainError)
deriving DecidableEq, Inhabited

namespace Error

def kind : Error → ErrorKind
  | illegal .. => .lexical
  | overflow .. => .overflow
  | unexpected .. => .unexpected
  | domain _ => .domain

/-- Line and column of an error that has a place in the text. -/
def place? : Error → Option (Nat × Nat)
  | illegal _ line column => some (line, column)
  | overflow _ line column => some (line, column)
  | unexpected _ _ line column => some (line, column)
  | domain _ => none

/-- Only refused statements send the engine back to its defaults. -/
def resets : Error → Bool
  | domain _ => true
  | _ => false

/-- A place as messages name it. -/
def placeText (line column : Nat) : String := toString line ++ ":" ++ toString column

/-- The text of an error. -/
def message : Error → String
  | illegal c line column =>
    "Lexical Error: Illegal character '" ++ c.toString ++ "' at " ++ placeText line column
  | overflow literal line column =>
    "Lexical Error: Number too large, overflow occurred: '" ++ literal ++ "' at " ++
      placeText line column
  | unexpected complaint found line column =>
    "Syntax Error: " ++ complaint.message ++
      if found.isEmpty then " at end of input (" ++ placeText line column ++ ")"
      else " on input '" ++ found ++ "' at " ++ placeText line column
  | domain cause => "Error: " ++ cause.message

/-- How many characters an error covers, at least one; errors without a place cover none. -/
def width? : Error → Option Nat
  | illegal .. => some 1
  | overflow literal _ _ => some (max literal.length 1)
  | unexpected _ found _ _ => some (max found.length 1)
  | domain _ => none

end Error

end PaveScript
