import PaveScript.Error
import PaveScript.Parser
import PaveScript.Token

/-!
# Phrases

Parsers over the tokens of a script, and the faults that stop them. A fault names the token that
does not fit and does not know where the input ends; `Fault.error` adds the place.
-/

namespace PaveScript

/-- Why a phrase could not be read. -/
inductive Fault where
  /-- The token `found` does not fit, or the input ends too early. -/
  | unexpected (complaint : Complaint) (found : Option Token)
  /-- An approximate literal under safe input. -/
  | approximate
deriving DecidableEq, Inhabited

namespace Fault

/-- Whether a fault is about the grammar. A number that is too large is reported as such. -/
def isGrammatical : Fault → Bool
  | unexpected _ (some t) => t.kind != .overflow
  | unexpected _ none => true
  | approximate => false

/-- The error of a fault, in an input that ends at `stop`. -/
def error (stop : Position) : Fault → Error
  | unexpected complaint (some t) =>
    if t.kind = .overflow then .overflow t.lexeme t.start.line t.start.column
    else .unexpected complaint t.lexeme t.start.line t.start.column
  | unexpected complaint none => .unexpected complaint "" stop.line stop.column
  | approximate => .domain .approximateInput

end Fault

/-- A parser of one phrase of a script. -/
abbrev Phrase (α : Type) : Type := Parser Token Fault α

namespace Phrase

variable {α : Type}

/-- Stops with a complaint about the next token. -/
def complain (complaint : Complaint) : Phrase α := Parser.stopAt (.unexpected complaint)

/-- Stops with a complaint about a token already consumed. -/
def complainAbout (complaint : Complaint) (t : Token) : Phrase α :=
  Parser.stop (.unexpected complaint (some t))

/-- The kind of the next token, which stays. -/
def peekKind : Phrase (Option TokenKind) := do
  return (← Parser.peek).map Token.kind

/-- Consumes the next token if a function takes its kind. -/
def takeKind? (f : TokenKind → Option α) : Phrase (Option α) :=
  Parser.take? fun t => f t.kind

/-- Consumes the next token if a function takes its kind, else complains. -/
def takeKind (f : TokenKind → Option α) (complaint : Complaint) : Phrase α :=
  Parser.take (fun t => f t.kind) (.unexpected complaint)

/-- Consumes the next token if it is of a kind, and tells whether it did. -/
def accept (kind : TokenKind) : Phrase Bool := do
  return (← Parser.take? fun t => if t.kind = kind then some () else none).isSome

/-- Consumes a token of a kind, else complains. -/
def expect (kind : TokenKind) (complaint : Complaint) : Phrase Token :=
  Parser.take (fun t => if t.kind = kind then some t else none) (.unexpected complaint)

/-- The name of an identifier. -/
def name? : TokenKind → Option String
  | .identifier name => some name
  | _ => none

/-- Consumes an identifier, else complains. -/
def identifier (complaint : Complaint) : Phrase String := takeKind name? complaint

/-- Operands joined by binary operators of one precedence, grouped to the left. -/
def chain (op? : TokenKind → Option (α → α → α)) (operand : Phrase α) : Phrase α :=
  Parser.chain (fun t => op? t.kind) operand

/-- One or more items with separators of a kind between them. -/
def items (separator : TokenKind) (item : Phrase α) : Phrase (List α) :=
  Parser.items (fun t => t.kind = separator) item

/-- Goes one level further in; `inner` is missing when the nesting limit is reached. -/
def nested (inner : Option (Phrase α)) : Phrase α :=
  inner.getD (complain .nesting)

end Phrase

end PaveScript
