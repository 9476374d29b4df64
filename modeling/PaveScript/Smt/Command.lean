import PaveScript.Parser
import PaveScript.Smt.Token
import PaveScript.Statement.Json

/-!
# Commands of the prefix dialect

```text
script  = { ( command ) }
command = var NAME [ number , number ] | OPERATOR number number | check-sat
number  = [-] NUMBER
```

Commands are read and shown; nothing executes them.

## Termination

Every command consumes its opening parenthesis, so `commandsFrom` recurses on the number of tokens
that are left.
-/

namespace PaveScript.Smt

/-- A command. -/
inductive Command where
  | var (name : String) (lower upper : Literal)
  | apply (op : BinaryOp) (lhs rhs : Literal)
  | checkSat
deriving DecidableEq, Inhabited

def Command.json : Command → Json
  | var name lower upper =>
    .tagged "var"
      (.object [("name", .string name), ("lower", lower.json), ("upper", upper.json)])
  | apply op lhs rhs =>
    .tagged "apply" (.object [("op", .string op.name), ("lhs", lhs.json), ("rhs", rhs.json)])
  | checkSat => .string "check_sat"

/-- A token that does not fit, or the end of the input. -/
structure Fault where
  complaint : Complaint
  found : Option Token
deriving DecidableEq, Inhabited

/-- The error of a fault, in an input that ends at a line and a column. -/
def Fault.error (stopLine stopColumn : Nat) (fault : Fault) : Error :=
  match fault.found with
  | some t =>
    if t.kind = .overflow then .overflow t.lexeme t.line t.column
    else .unexpected fault.complaint t.lexeme t.line t.column
  | none => .unexpected fault.complaint "" stopLine stopColumn

/-- A parser of one phrase of the dialect. -/
abbrev Phrase (α : Type) : Type := Parser Token Fault α

/-- Consumes a token of a kind, else complains about it. -/
def expect (kind : TokenKind) (complaint : Complaint) : Phrase Unit :=
  Parser.take (fun t => if t.kind = kind then some () else none) (⟨complaint, ·⟩)

/-- Consumes the next token and complains about it if a function does not take it. -/
def consume {α : Type} (f : TokenKind → Option α) (complaint : Complaint) : Phrase α := do
  let t ← Parser.next
  match t.bind fun t => f t.kind with
  | some a => return a
  | none => Parser.stop ⟨complaint, t⟩

/-- A number with an optional sign. -/
def number : Phrase Literal := do
  let negative ← Parser.take? fun t => if t.kind = .minus then some () else none
  let l ← consume (fun | .number l => some l | _ => none) .number
  return if negative.isSome then l.negate else l

/-- What the head of a command asks for. -/
inductive Head where
  | var
  | apply (op : BinaryOp)
  | checkSat

def head? : TokenKind → Option Head
  | .var => some .var
  | .operator op => some (.apply op)
  | .minus => some (.apply .sub)
  | .checkSat => some .checkSat
  | _ => none

/-- A command without its parentheses. -/
def command : Phrase Command := do
  match ← consume head? .command with
  | .var =>
    let name ← consume (fun | .identifier name => some name | _ => none) .variableName
    expect .openBracket .openBracket
    let lower ← number
    expect .comma .comma
    let upper ← number
    expect .closeBracket .closeBracket
    return .var name lower upper
  | .apply op =>
    let lhs ← number
    let rhs ← number
    return .apply op lhs rhs
  | .checkSat => return .checkSat

/-- A command with its closing parenthesis. -/
def closedCommand : Phrase Command := do
  let c ← command
  expect .closeParen .closeParen
  return c

/-- All commands that are left, up to the first fault, and what is left then. -/
def commandsFrom : List Token → Outcome Token Fault (List Command)
  | [] => .ok [] []
  | t :: ts =>
    if t.kind = .openParen then
      match _h : closedCommand.run ts with
      | .ok c rest =>
        match commandsFrom rest with
        | .ok cs rest => .ok (c :: cs) rest
        | .fail fault rest => .fail fault rest
      | .fail fault rest => .fail fault rest
    else .fail ⟨.openParen, some t⟩ (t :: ts)
termination_by ts => ts.length
decreasing_by
  have := closedCommand.length_rest_le ts
  simp only [_h, Outcome.rest] at this
  simp only [List.length_cons]
  omega

/-- Reads the commands of a scanned text from some of its tokens on. -/
def Scan.read (s : Scan) (ts : List Token) : Except Error (List Command) × List Token :=
  match commandsFrom ts with
  | .ok cs rest => (.ok cs, rest)
  | .fail fault rest => (.error (fault.error s.stopLine s.stopColumn), rest)

/-- The commands of a text. The first error of any kind fails the whole text. -/
def readAll (text : String) : Except Error (List Command) :=
  let s := Scan.ofText text
  match s.errors.head? with
  | some error => .error error
  | none => (s.read s.tokens).1

end PaveScript.Smt
