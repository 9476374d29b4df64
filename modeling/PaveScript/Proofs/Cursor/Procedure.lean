import Mathlib.Logic.Function.Iterate
import PaveScript.Script

/-!
# Reading with a cursor

The grammar hands each parser the tokens that are left and the number of levels that it may still go
in. A reader that works in place has counters instead: the tokens stand in an array that a mark
closes, and one counter tells the cell that is looked at and another how deep the reader is nested.
The counters go up and down as reading proceeds, also where it fails, and a group that is no
comparison is read again from its start.

Nothing here ensures that reading ends, that the counters come back or that a cell exists. Every
loop and every recursion takes fuel: `none` means that there was not enough, and a reader that runs
forever never has enough. `Stop.outside` means that a cell outside the array was looked at. Every
value that the counters have had is kept in a `Track`, so that what holds at every moment can be
stated.
-/

namespace PaveScript

/-- The cell that a reader looks at, and how deep it is nested. -/
structure Counters where
  pos : Nat
  depth : Nat
deriving DecidableEq

/-- The counters at the next cell. -/
def Counters.next (c : Counters) : Counters := { c with pos := c.pos + 1 }

/-- The counters of a reader, with their earlier values, the latest first. -/
structure Track where
  now : Counters
  past : List Counters

/-- Why a procedure did not succeed. -/
inductive Stop where
  | fault (f : Fault)
  /-- A cell outside the array was looked at. -/
  | outside

/-- A procedure that works on the counters. It keeps their track also where it fails. -/
abbrev Procedure : Type → Type := ExceptT Stop (StateT Track Option)

namespace Cursor

open Grammar

/-- Tokens in an array, with the mark that closes them. -/
def stream (ts : List Token) : Array (Option Token) := (ts.map some ++ [none]).toArray

section

variable {α β : Type} (cells : Array (Option Token))

/-! ## Cells and counters -/

/-- A procedure without fuel. -/
def exhausted : Procedure α := fun _ => none

def counters : Procedure Counters := do
  return (← get).now

def move (f : Counters → Counters) : Procedure Unit :=
  modify fun t => ⟨f t.now, t.now :: t.past⟩

def cellAt (i : Nat) : Procedure (Option Token) :=
  match cells[i]? with
  | some cell => pure cell
  | none => throw .outside

/-- The cell that is looked at; the mark stays in sight. -/
def peek : Procedure (Option Token) := do
  cellAt cells (min (← counters).pos (cells.size - 1))

def peekKind : Procedure (Option TokenKind) := do
  return (← peek cells).map Token.kind

/-- The cell in front; the first cell is its own. -/
def previous : Procedure (Option Token) := do
  cellAt cells ((← counters).pos - 1)

/-- Moves on, but not past the mark, and returns the cell in front then. -/
def advance : Procedure (Option Token) := do
  if (← peek cells).isSome then do
    move Counters.next
    previous cells
  else previous cells

def complainAbout (complaint : Complaint) (cell : Option Token) : Procedure α :=
  throw (.fault (.unexpected complaint cell))

def complain (complaint : Complaint) : Procedure α := do
  complainAbout complaint (← peek cells)

def takeKind? (f : TokenKind → Option α) : Procedure (Option α) := do
  match (← peekKind cells).bind f with
  | some a => do
    let _ ← advance cells
    return some a
  | none => return none

def takeKind (f : TokenKind → Option α) (complaint : Complaint) : Procedure α := do
  match ← takeKind? cells f with
  | some a => return a
  | none => complain cells complaint

def accept (kind : TokenKind) : Procedure Bool := do
  if (← peekKind cells) = some kind then do
    let _ ← advance cells
    return true
  else return false

def expect (kind : TokenKind) (complaint : Complaint) : Procedure Unit := do
  if ← accept cells kind then return () else complain cells complaint

def identifier (complaint : Complaint) : Procedure String :=
  takeKind cells Phrase.name? complaint

/-! ## Levels -/

/-- Goes on after a procedure whatever its result is. -/
def settle (m : Procedure α) (f : Except Stop α → Procedure β) : Procedure β :=
  bind (m := StateT Track Option) m f

/-- One level further in, if the limit allows it. -/
def enter : Procedure Unit := do
  if (← counters).depth < nestingLimit then move fun c => { c with depth := c.depth + 1 }
  else complain cells .nesting

/-- Goes back by some levels and hands the result on. -/
def rise (levels : Nat) (result : Except Stop α) : Procedure α := do
  move fun c => { c with depth := c.depth - levels }
  match result with
  | .ok a => pure a
  | .error stop => throw stop

/-- Runs a procedure one level further in. -/
def nested (m : Procedure α) : Procedure α := do
  enter cells
  settle m (rise 1)

/-! ## Chains -/

/-- Goes on with a chain whose operands so far make `lhs`. -/
def chainFrom (op? : TokenKind → Option (α → α → α)) (operand : Procedure α) :
    (fuel : Nat) → (lhs : α) → Procedure α
  | 0, _ => exhausted
  | fuel + 1, lhs => do
    match ← takeKind? cells op? with
    | some op => do
      let rhs ← operand
      chainFrom op? operand fuel (op lhs rhs)
    | none => return lhs

/-- Operands joined by binary operators of one precedence. -/
def chain (fuel : Nat) (op? : TokenKind → Option (α → α → α)) (operand : Procedure α) :
    Procedure α := do
  let lhs ← operand
  chainFrom cells op? operand fuel lhs

end

/-! ## Numbers -/

section

variable (cells : Array (Option Token)) (safe : Bool)

def plainNumber : Procedure Literal := takeKind cells plain? .number

def number : (fuel : Nat) → Procedure Numeral
  | 0 => exhausted
  | fuel + 1 => do
    if ← accept cells (.symbol .minus) then
      return .literal (← takeKind cells literal? .negatedNumber).negate
    else if ← accept cells (.keyword .approx) then do
      expect cells (.symbol .openParen) .approxOpen
      let n ← nested cells (number fuel)
      expect cells (.symbol .closeParen) .approxClose
      if safe then throw (.fault .approximate) else return .approx n
    else if ← accept cells (.keyword .dec) then do
      expect cells (.symbol .openParen) .decOpen
      let a ← nested cells (number fuel)
      expect cells (.symbol .comma) .decComma
      let b ← nested cells (number fuel)
      expect cells (.symbol .closeParen) .decClose
      return .dec a b
    else if ← accept cells (.keyword .rat) then do
      expect cells (.symbol .openParen) .ratOpen
      let a ← nested cells (number fuel)
      expect cells (.symbol .comma) .ratComma
      let b ← plainNumber cells
      expect cells (.symbol .closeParen) .ratClose
      return .rat a b
    else
      return .literal (← takeKind cells literal? .number)

/-! ## Expressions -/

/-- Counts minus signs after the first `n`. Each one is a level, and the limit holds for all of them
together, but they are added to the depth only when all have been counted. -/
def signsFrom : (fuel : Nat) → (n : Nat) → Procedure Nat
  | 0, _ => exhausted
  | fuel + 1, n => do
    if ← accept cells (.symbol .minus) then
      if nestingLimit < (← counters).depth + (n + 1) then complain cells .nesting
      else signsFrom fuel (n + 1)
    else return n

/-- The operand behind some minus signs, which all negate it. -/
def negated (operand : Procedure Expr) (signs : Nat) : Procedure Expr := do
  move fun c => { c with depth := c.depth + signs }
  let e ← settle operand (rise signs)
  return Expr.neg^[signs] e

/-- A number, a name, a group or a call; `inner` reads the expressions inside. -/
def primary (fuel : Nat) (inner : Procedure Expr) : Procedure Expr := do
  if ((← peekKind cells).map startsNumber).getD false then
    return .number (← number cells safe fuel)
  else match ← takeKind? cells Phrase.name? with
    | some name => return .ident name
    | none => do
      if ← accept cells (.symbol .openParen) then do
        let e ← nested cells inner
        expect cells (.symbol .closeParen) .closeParen
        return e
      else match ← takeKind? cells function? with
        | some f => do
          expect cells (.symbol .openParen) .functionOpen
          let e ← nested cells inner
          expect cells (.symbol .closeParen) .functionClose
          return .call f e
        | none => complain cells .expression

def unary (fuel : Nat) (inner : Procedure Expr) : Procedure Expr := do
  let signs ← signsFrom cells fuel 0
  negated (primary cells safe fuel inner) signs

def expression : (fuel : Nat) → Procedure Expr
  | 0 => exhausted
  | fuel + 1 =>
    chain cells fuel sum? (chain cells fuel product? (chain cells fuel power?
      (unary cells safe fuel (expression fuel))))

/-! ## Conditions -/

def comparison (fuel : Nat) : Procedure BoolExpr := do
  let lhs ← expression cells safe fuel
  let op ← takeKind cells comparison? .comparison
  let rhs ← expression cells safe fuel
  if ((← peekKind cells).bind comparison?).isSome then complain cells .chainedComparison
  else return .compare op lhs rhs

/-- The fault of a group that does not fit the grammar gives way to the one that was found first. -/
def blame (first : Fault) (result : Except Stop BoolExpr) : Procedure BoolExpr :=
  match result with
  | .ok b => pure b
  | .error (.fault f) => throw (.fault (if f.isGrammatical then first else f))
  | .error .outside => throw .outside

/-- Goes back behind the parenthesis at `start`, if no comparison begins with it. -/
def orGroup (inner : Procedure BoolExpr) (start : Nat) (result : Except Stop BoolExpr) :
    Procedure BoolExpr :=
  match result with
  | .ok b => pure b
  | .error .outside => throw .outside
  | .error (.fault first) => do
    let cell ← cellAt cells start
    if cell.map Token.kind = some (.symbol .openParen) ∧ first.isGrammatical then do
      move fun c => { c with pos := start + 1 }
      let b ← settle (nested cells inner) (blame first)
      expect cells (.symbol .closeParen) .conditionClose
      return b
    else throw (.fault first)

/-- A comparison, or a condition in parentheses; `inner` reads the conditions inside. -/
def atom (fuel : Nat) (inner : Procedure BoolExpr) : Procedure BoolExpr := do
  let start := (← counters).pos
  settle (comparison cells safe fuel) (orGroup cells inner start)

def condition : (fuel : Nat) → Procedure BoolExpr
  | 0 => exhausted
  | fuel + 1 =>
    chain cells fuel disjunction? (chain cells fuel conjunction?
      (atom cells safe fuel (condition fuel)))

/-! ## Statements -/

section

variable (fuel : Nat)

def interval : Procedure Interval := do
  expect cells (.symbol .openBracket) .intervalOpen
  let lower ← expression cells safe fuel
  expect cells (.symbol .comma) .intervalComma
  let upper ← expression cells safe fuel
  expect cells (.symbol .closeBracket) .intervalClose
  return ⟨lower, upper⟩

def binding : Procedure Binding := do
  let name ← identifier cells .bindingName
  expect cells (.symbol .equals) .bindingEquals
  return ⟨name, ← expression cells safe fuel⟩

end

/-- The links of a let chain behind those that are `done`, which are given in reverse. -/
def linksFrom : (fuel : Nat) → (done : List Binding) → Procedure (List Binding)
  | 0, _ => exhausted
  | fuel + 1, done => do
    let link ← binding cells safe fuel
    if ← accept cells (.symbol .comma) then linksFrom fuel (link :: done)
    else return (link :: done).reverse

section

variable (fuel : Nat)

def bindings : Procedure (List Binding) := do
  if ← accept cells (.keyword .letIn) then do
    let links ← linksFrom cells safe fuel []
    expect cells (.keyword .within) .bindingsIn
    return links
  else return []

def preamble : Procedure (List Binding) := do
  let _ ← accept cells (.symbol .equals)
  bindings cells safe fuel

def equalsNumber : Procedure Literal := do
  expect cells (.symbol .equals) .equals
  plainNumber cells

def equalsTruth : Procedure Bool := do
  expect cells (.symbol .equals) .equals
  takeKind cells truth? .truthValue

def pavingMode : Procedure PavingMode := do
  expect cells (.keyword .mode) .pavingModeWord
  expect cells (.symbol .equals) .equals
  match (← advance cells).bind fun t => mode? t.kind with
  | some mode => return mode
  | none => complainAbout .pavingMode (← previous cells)

def settingOf (key : Token) : Procedure Setting :=
  match key.kind with
  | .keyword .precision => do
    expect cells (.symbol .equals) .equals
    return .precision (← number cells safe fuel)
  | .keyword .resolution => do
    match ← takeKind? cells Phrase.name? with
    | some name => return .variableResolution name (← equalsNumber cells)
    | none => return .resolution (← equalsNumber cells)
  | .keyword .granularity => return .granularity (← equalsNumber cells)
  | .keyword .depth => return .depth (← equalsNumber cells)
  | .keyword .varSelect => return .varSelect (← equalsNumber cells)
  | .keyword .bp => return .bp (← equalsTruth cells)
  | .keyword .safe => do
    expect cells (.keyword .input) .safeInput
    return .safeInput (← equalsTruth cells)
  | .keyword .debug => return .debug (← equalsTruth cells)
  | .keyword .name => do
    expect cells (.symbol .equals) .equals
    return .name (← identifier cells .problemName)
  | .keyword .output => do
    expect cells (.symbol .equals) .equals
    return .output (← takeKind cells file? .outputName)
  | .keyword .paving => return .pavingMode (← pavingMode cells)
  | _ => complainAbout .setting key

def setting : Procedure Setting := do
  match ← advance cells with
  | some key => settingOf cells safe fuel key
  | none => complainAbout .setting none

def declaration (kind : VarKind) : Procedure Statement := do
  let name ← identifier cells .variableName
  expect cells (.keyword .within) .variableIn
  return .declare name (← interval cells safe fuel) kind

def plot : Procedure Statement := do
  let name ← identifier cells .plotName
  let x ← identifier cells .firstAxis
  let y ← identifier cells .secondAxis
  match ← takeKind? cells Phrase.name? with
  | some z => return .plot name (.three x y z)
  | none => return .plot name (.two x y)

def statementOf (head : Token) : Procedure Statement :=
  match head.kind with
  | .keyword .var => declaration cells safe fuel .var
  | .keyword .param => declaration cells safe fuel .param
  | .keyword .constant => do
    let name ← identifier cells .constantName
    expect cells (.symbol .equals) .constantEquals
    return .const name (← number cells safe fuel)
  | .keyword .objfn => do
    let links ← preamble cells safe fuel
    return .objective links (← expression cells safe fuel)
  | .keyword .dfeq => do
    let links ← preamble cells safe fuel
    return .differential links (← expression cells safe fuel)
  | .keyword .cnstr => do
    let links ← preamble cells safe fuel
    let lhs ← expression cells safe fuel
    let op ← takeKind cells comparison? .comparison
    let rhs ← expression cells safe fuel
    return .constraint links (.normalize lhs op rhs)
  | .keyword .define => do
    let name ← identifier cells .definitionName
    expect cells (.symbol .equals) .definitionEquals
    return .define name (← expression cells safe fuel)
  | .keyword .setting => return .set (← setting cells safe fuel)
  | .keyword .reset => do
    if ← accept cells (.keyword .output) then return .resetOutput else return .action .reset
  | .keyword .pave => return .action .pave
  | .keyword .bifurcation => return .action .bifurcation
  | .keyword .equilibrium => return .action .equilibrium
  | .keyword .min => return .action .min
  | .keyword .max => return .action .max
  | .keyword .minMax => return .action .minMax
  | .keyword .save => do
    expect cells (.keyword .paving) .savePaving
    return .savePaving (← identifier cells .pavingName)
  | .keyword .load => do
    expect cells (.keyword .paving) .loadPaving
    return .loadPaving (← identifier cells .pavingName)
  | .keyword .plot => plot cells
  | .keyword .universal => return .universal (← condition cells safe fuel)
  | .keyword .file => return .readFile (← takeKind cells script? .scriptName)
  | .keyword .quit => return .quit
  | .keyword .exit => return .quit
  | .keyword .help => return .help
  | _ => complainAbout .statement head

def statement : Procedure Statement := do
  match ← advance cells with
  | some head => statementOf cells safe fuel head
  | none => complainAbout .statement none

end

end

/-! ## Scripts -/

section

variable (cells : Array (Option Token))

def skipSemicolons : (fuel : Nat) → Procedure Unit
  | 0 => exhausted
  | fuel + 1 => do
    if ← accept cells (.symbol .semicolon) then skipSemicolons fuel else return ()

/-- Goes on to the next semicolon or to the mark. -/
def skipToSemicolon : (fuel : Nat) → Procedure Unit
  | 0 => exhausted
  | fuel + 1 => do
    let kind ← peekKind cells
    if kind = none ∨ kind = some (.symbol .semicolon) then return ()
    else do
      let _ ← advance cells
      skipToSemicolon fuel

def resync (fuel : Nat) : Procedure Unit := do
  skipToSemicolon cells fuel
  let _ ← accept cells (.symbol .semicolon)

end

section

variable (scan : Scan) (safe : Bool)

/-- The byte offset at which a cell starts; the mark stands at the end of the input. -/
def offsetOf (cell : Option Token) : Nat :=
  (cell.map fun t => t.start.offset).getD scan.stop.offset

/-- The byte offset behind the cell in front, zero at the first cell. -/
def endBefore : Procedure Nat := do
  if (← counters).pos = 0 then return 0
  else return ((← previous (stream scan.tokens)).map Token.endOffset).getD scan.stop.offset

variable (fuel : Nat)

/-- A statement up to a semicolon or the mark, with its text. -/
def closedStatement (regionStart start : Nat) : Procedure Parsed := do
  let statement ← statement (stream scan.tokens) safe fuel
  let kind ← peekKind (stream scan.tokens)
  if kind = none ∨ kind = some (.symbol .semicolon) then do
    let stop ← endBefore scan
    let regionStop := offsetOf scan (← peek (stream scan.tokens))
    return {
      statement := statement
      text := String.ofList (Text.trim (Text.slice scan.source start stop))
      skipped := scan.skippedOffsets.any fun offset =>
        regionStart ≤ offset && offset < regionStop }
  else complain (stream scan.tokens) .statementEnd

/-- Goes on behind a statement: past its semicolon, or past the next one if it failed. -/
def goOn (result : Except Stop Parsed) : Procedure Script.Step :=
  match result with
  | .ok parsed => do
    let _ ← accept (stream scan.tokens) (.symbol .semicolon)
    return .parsed parsed
  | .error (.fault f) => do
    resync (stream scan.tokens) fuel
    return .failed (f.error scan.stop)
  | .error .outside => throw .outside

/-- Reads the next statement, from the outermost level on. -/
def nextStatement : Procedure Script.Step := do
  skipSemicolons (stream scan.tokens) fuel
  if (← peek (stream scan.tokens)).isNone then return .done
  else do
    let regionStart ← endBefore scan
    let start := offsetOf scan (← peek (stream scan.tokens))
    move fun c => { c with depth := 0 }
    settle (closedStatement scan safe fuel regionStart start) (goOn scan fuel)

end

/-- Reads statement after statement until there is none left, the first one as statement `i`. Safe
input may be switched on and off in between. -/
def results (scan : Scan) (safe : Nat → Bool) : (fuel i : Nat) → Procedure (List Script.Step)
  | 0, _ => exhausted
  | fuel + 1, i => do
    let step ← nextStatement scan (safe i) fuel
    if step = .done then return []
    else return step :: (← results scan safe fuel (i + 1))

end Cursor

end PaveScript
