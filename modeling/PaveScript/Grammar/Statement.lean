import PaveScript.Grammar.Expr
import PaveScript.Statement

/-!
# The grammar of statements

A statement is told by its first token, so every parser here reads what follows that token. What
separates statements is not their business: see `PaveScript.Script`.
-/

namespace PaveScript.Grammar

open Phrase

/-! ## Parts of statements -/

/-- `[lower, upper]` -/
def interval (safe : Bool) : Phrase Interval := do
  let _ ← expect (.symbol .openBracket) .intervalOpen
  let lower ← expression safe
  let _ ← expect (.symbol .comma) .intervalComma
  let upper ← expression safe
  let _ ← expect (.symbol .closeBracket) .intervalClose
  return ⟨lower, upper⟩

/-- `name = expression` -/
def binding (safe : Bool) : Phrase Binding := do
  let name ← identifier .bindingName
  let _ ← expect (.symbol .equals) .bindingEquals
  return ⟨name, ← expression safe⟩

/-- A let chain closed by `in`, or nothing. -/
def bindings (safe : Bool) : Phrase (List Binding) := do
  if ← accept (.keyword .letIn) then
    let links ← items (.symbol .comma) (binding safe)
    let _ ← expect (.keyword .within) .bindingsIn
    return links
  else
    return []

/-- The equals sign and the let chain that may precede the body of a problem statement. -/
def preamble (safe : Bool) : Phrase (List Binding) := do
  let _ ← accept (.symbol .equals)
  bindings safe

def truth? : TokenKind → Option Bool
  | .keyword .yes => some true
  | .keyword .no => some false
  | _ => none

def mode? : TokenKind → Option PavingMode
  | .keyword .std => some .std
  | .keyword .first => some .first
  | .keyword .full => some .full
  | _ => none

/-- The name of any file. -/
def file? : TokenKind → Option String
  | .inputFile name => some name
  | .outputFile name => some name
  | _ => none

/-- The name of a script. -/
def script? : TokenKind → Option String
  | .inputFile name => some name
  | _ => none

def equalsSign : Phrase Token := expect (.symbol .equals) .equals

/-- `= NUMBER` -/
def equalsNumber : Phrase Literal := do
  let _ ← equalsSign
  plainNumber

/-- `= true` or `= false` -/
def equalsTruth : Phrase Bool := do
  let _ ← equalsSign
  takeKind truth? .truthValue

/-! ## Settings -/

/--
A paving mode after its equals sign. Whatever token stands there is consumed; at the end of the
input the complaint is about the equals sign.
-/
def pavingMode : Phrase PavingMode := do
  let _ ← expect (.keyword .mode) .pavingModeWord
  let sign ← expect (.symbol .equals) .equals
  let word := (← Parser.next).getD sign
  match mode? word.kind with
  | some mode => return mode
  | none => complainAbout .pavingMode word

/-- The setting that the token `key` names, with its value. -/
def settingOf (safe : Bool) (key : Token) : Phrase Setting :=
  match key.kind with
  | .keyword .precision => do
    let _ ← equalsSign
    return .precision (← number safe)
  | .keyword .resolution => do
    match ← takeKind? name? with
    | some name => return .variableResolution name (← equalsNumber)
    | none => return .resolution (← equalsNumber)
  | .keyword .granularity => return .granularity (← equalsNumber)
  | .keyword .depth => return .depth (← equalsNumber)
  | .keyword .varSelect => return .varSelect (← equalsNumber)
  | .keyword .bp => return .bp (← equalsTruth)
  | .keyword .safe => do
    let _ ← expect (.keyword .input) .safeInput
    return .safeInput (← equalsTruth)
  | .keyword .debug => return .debug (← equalsTruth)
  | .keyword .name => do
    let _ ← equalsSign
    return .name (← identifier .problemName)
  | .keyword .output => do
    let _ ← equalsSign
    return .output (← takeKind file? .outputName)
  | .keyword .paving => return .pavingMode (← pavingMode)
  | _ => complainAbout .setting key

/--
A setting after `set`, of which `head` is the token. Whatever token names the setting is consumed;
at the end of the input the complaint is about `set` itself.
-/
def setting (safe : Bool) (head : Token) : Phrase Setting := do
  settingOf safe ((← Parser.next).getD head)

/-! ## Statements -/

/-- `var` and `param`. -/
def declaration (safe : Bool) (kind : VarKind) : Phrase Statement := do
  let name ← identifier .variableName
  let _ ← expect (.keyword .within) .variableIn
  return .declare name (← interval safe) kind

/-- `plot` with two or three axes. -/
def plot : Phrase Statement := do
  let name ← identifier .plotName
  let x ← identifier .firstAxis
  let y ← identifier .secondAxis
  match ← takeKind? name? with
  | some z => return .plot name (.three x y z)
  | none => return .plot name (.two x y)

/-- The statement that starts with `head`. -/
def statement (safe : Bool) (head : Token) : Phrase Statement :=
  match head.kind with
  | .keyword .var => declaration safe .var
  | .keyword .param => declaration safe .param
  | .keyword .constant => do
    let name ← identifier .constantName
    let _ ← expect (.symbol .equals) .constantEquals
    return .const name (← number safe)
  | .keyword .objfn => do
    let links ← preamble safe
    return .objective links (← expression safe)
  | .keyword .dfeq => do
    let links ← preamble safe
    return .differential links (← expression safe)
  | .keyword .cnstr => do
    let links ← preamble safe
    let lhs ← expression safe
    let op ← comparisonSign
    let rhs ← expression safe
    return .constraint links (.normalize lhs op rhs)
  | .keyword .define => do
    let name ← identifier .definitionName
    let _ ← expect (.symbol .equals) .definitionEquals
    return .define name (← expression safe)
  | .keyword .setting => return .set (← setting safe head)
  | .keyword .reset => do
    if ← accept (.keyword .output) then return .resetOutput else return .action .reset
  | .keyword .pave => return .action .pave
  | .keyword .bifurcation => return .action .bifurcation
  | .keyword .equilibrium => return .action .equilibrium
  | .keyword .min => return .action .min
  | .keyword .max => return .action .max
  | .keyword .minMax => return .action .minMax
  | .keyword .save => do
    let _ ← expect (.keyword .paving) .savePaving
    return .savePaving (← identifier .pavingName)
  | .keyword .load => do
    let _ ← expect (.keyword .paving) .loadPaving
    return .loadPaving (← identifier .pavingName)
  | .keyword .plot => plot
  | .keyword .universal => return .universal (← condition safe)
  | .keyword .file => return .readFile (← takeKind script? .scriptName)
  | .keyword .quit => return .quit
  | .keyword .exit => return .quit
  | .keyword .help => return .help
  | _ => complainAbout .statement head

end PaveScript.Grammar
