import PaveScript.Grammar.Basic

/-!
# The grammar of numbers, expressions and conditions

```text
number     = [-] (NUMBER | HEX) | approx(number) | dec(number, number) | rat(number, NUMBER)
expression = term { (+ | -) term }
term       = power { (* | /) power }
power      = unary { ^ unary }
unary      = - unary | operand
operand    = number without sign | NAME | ( expression ) | FUNCTION ( expression )
condition  = clause { or clause }
clause     = atom { and atom }
atom       = expression COMPARISON expression | ( condition )
```

All chains group to the left. Groups, calls, arguments of composite numbers and minus signs may
nest `nestingLimit` deep.

## Termination

`room` is the number of levels that are still allowed; going in takes one away. A parser gets the
parser of the next level as an argument, and none when there is no room.
-/

namespace PaveScript.Grammar

open Phrase

/-- How deep groups, calls, arguments of composite numbers and minus signs may nest. -/
def nestingLimit : Nat := 128

/-! ## Numbers -/

/-- A bare decimal literal. -/
def plain? : TokenKind → Option Literal
  | .number l => some l
  | _ => none

/-- A decimal or hexadecimal literal. -/
def literal? : TokenKind → Option Literal
  | .number l => some l
  | .hexFloat x => some (.hexFloat x)
  | _ => none

/-- A bare decimal literal, without sign. -/
def plainNumber : Phrase Literal := takeKind plain? .number

/--
A number, given the parser of the numbers inside it. Safe input refuses an approximate number once
it has been read completely.
-/
def numeralWith (safe : Bool) (inner : Option (Phrase Numeral)) : Phrase Numeral := do
  if ← accept (.symbol .minus) then
    return .literal (← takeKind literal? .negatedNumber).negate
  else if ← accept (.keyword .approx) then
    let _ ← expect (.symbol .openParen) .approxOpen
    let n ← nested inner
    let _ ← expect (.symbol .closeParen) .approxClose
    if safe then Parser.stop .approximate else return .approx n
  else if ← accept (.keyword .dec) then
    let _ ← expect (.symbol .openParen) .decOpen
    let a ← nested inner
    let _ ← expect (.symbol .comma) .decComma
    let b ← nested inner
    let _ ← expect (.symbol .closeParen) .decClose
    return .dec a b
  else if ← accept (.keyword .rat) then
    let _ ← expect (.symbol .openParen) .ratOpen
    let a ← nested inner
    let _ ← expect (.symbol .comma) .ratComma
    let b ← plainNumber
    let _ ← expect (.symbol .closeParen) .ratClose
    return .rat a b
  else
    return .literal (← takeKind literal? .number)

/-- A number with `room` levels left. -/
def numeral (safe : Bool) : (room : Nat) → Phrase Numeral
  | 0 => numeralWith safe none
  | room + 1 => numeralWith safe (some (.delay fun _ => numeral safe room))

/-! ## Expressions -/

def power? : TokenKind → Option (Expr → Expr → Expr)
  | .symbol .caret => some (.binary .pow)
  | _ => none

def product? : TokenKind → Option (Expr → Expr → Expr)
  | .symbol .star => some (.binary .mul)
  | .symbol .slash => some (.binary .div)
  | _ => none

def sum? : TokenKind → Option (Expr → Expr → Expr)
  | .symbol .plus => some (.binary .add)
  | .symbol .minus => some (.binary .sub)
  | _ => none

/-- An expression over given operands: sums of products of powers. -/
def expressionOf (operand : Phrase Expr) : Phrase Expr :=
  chain sum? (chain product? (chain power? operand))

/-- Whether a number can start with a token. A sign belongs to the expression, not to the number. -/
def startsNumber : TokenKind → Bool
  | .number _ => true
  | .hexFloat _ => true
  | .keyword .approx => true
  | .keyword .dec => true
  | .keyword .rat => true
  | _ => false

/-- The function that a keyword names. -/
def function? : TokenKind → Option Function
  | .keyword (.func f) => some f
  | _ => none

/--
A number, a name, a group or a call. `number` reads the number forms, `inner` the expressions one
level further in.
-/
def operandWith (number : Phrase Numeral) (inner : Option (Phrase Expr)) : Phrase Expr := do
  if ((← peekKind).map startsNumber).getD false then
    return .number (← number)
  else if let some name := ← takeKind? name? then
    return .ident name
  else if ← accept (.symbol .openParen) then
    let e ← nested inner
    let _ ← expect (.symbol .closeParen) .closeParen
    return e
  else if let some f := ← takeKind? function? then
    let _ ← expect (.symbol .openParen) .functionOpen
    let e ← nested inner
    let _ ← expect (.symbol .closeParen) .functionClose
    return .call f e
  else
    complain .expression

/-- An operand or a negated one; `inner` reads the same one level further in. -/
def unaryWith (number : Phrase Numeral) (inner : Option (Phrase Expr)) : Phrase Expr := do
  if ← accept (.symbol .minus) then
    return .neg (← nested inner)
  else
    operandWith number (inner.map expressionOf)

/-- An operand with its minus signs, with `room` levels left. -/
def unary (safe : Bool) : (room : Nat) → Phrase Expr
  | 0 => unaryWith (numeral safe 0) none
  | room + 1 => unaryWith (numeral safe (room + 1)) (some (.delay fun _ => unary safe room))

/-- An expression with `room` levels left. -/
def expressionIn (safe : Bool) (room : Nat) : Phrase Expr :=
  expressionOf (unary safe room)

/-! ## Conditions -/

/-- The comparison that a sign stands for. -/
def comparison? : TokenKind → Option Comparison
  | .symbol .less => some .lt
  | .symbol .greater => some .gt
  | .symbol .lessEqual => some .le
  | .symbol .greaterEqual => some .ge
  | .symbol .equals => some .eq
  | _ => none

/-- A comparison sign. -/
def comparisonSign : Phrase Comparison := takeKind comparison? .comparison

/-- Two expressions with a comparison between them and none after them. -/
def comparisonOf (expression : Phrase Expr) : Phrase BoolExpr := do
  let lhs ← expression
  let op ← comparisonSign
  let rhs ← expression
  if ((← peekKind).bind comparison?).isSome then complain .chainedComparison
  return .compare op lhs rhs

/--
A condition in parentheses. When it does not fit the grammar, the fault of the comparison that was
tried first is reported.
-/
def conditionGroup (first : Fault) (inner : Option (Phrase BoolExpr)) : Phrase BoolExpr := do
  let _ ← Parser.next
  let b ← (nested inner).mapFault fun fault => if fault.isGrammatical then first else fault
  let _ ← expect (.symbol .closeParen) .conditionClose
  return b

/--
A comparison, or a condition in parentheses. An opening parenthesis may begin either; the
comparison is tried first.
-/
def atomWith (expression : Phrase Expr) (inner : Option (Phrase BoolExpr)) : Phrase BoolExpr := do
  let group := (← peekKind) = some (.symbol .openParen)
  Parser.retry (comparisonOf expression) fun fault =>
    if group && fault.isGrammatical then some (conditionGroup fault inner) else none

def conjunction? : TokenKind → Option (BoolExpr → BoolExpr → BoolExpr)
  | .keyword .and => some .and
  | _ => none

def disjunction? : TokenKind → Option (BoolExpr → BoolExpr → BoolExpr)
  | .keyword .or => some .or
  | _ => none

/-- A condition over given atoms: `and` binds tighter than `or`. -/
def conditionOf (atom : Phrase BoolExpr) : Phrase BoolExpr :=
  chain disjunction? (chain conjunction? atom)

/-- A condition with `room` levels left. -/
def conditionIn (safe : Bool) : (room : Nat) → Phrase BoolExpr
  | 0 => conditionOf (atomWith (expressionIn safe 0) none)
  | room + 1 =>
    conditionOf (atomWith (expressionIn safe (room + 1))
      (some (.delay fun _ => conditionIn safe room)))

/-! ## At the outermost level -/

/-- A number. -/
def number (safe : Bool) : Phrase Numeral := numeral safe nestingLimit

/-- An expression. -/
def expression (safe : Bool) : Phrase Expr := expressionIn safe nestingLimit

/-- A condition. -/
def condition (safe : Bool) : Phrase BoolExpr := conditionIn safe nestingLimit

end PaveScript.Grammar
