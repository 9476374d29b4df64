import PaveScript.Error
import PaveScript.Expr

/-!
# Tokens of the prefix dialect

The SMT-style dialect writes one command per pair of parentheses: `(var x [0, 1])`, `(+ 1 2)`,
`(check-sat)`. It shares the number literals with the statement language, and nothing else: there
are no file names, a word may hold hyphens, and a number takes every character that could belong
to one, so that a malformed number is one token.

Columns count the characters outside of comments only.

## Termination

`scanFrom` recurses on the length of the text; each round consumes the character at its head.
-/

namespace PaveScript.Smt

/-- What a token is. The minus sign is an operator at the head of a command and a sign elsewhere. -/
inductive TokenKind where
  | openParen
  | closeParen
  | openBracket
  | closeBracket
  | comma
  | minus
  | operator (op : BinaryOp)
  | var
  | checkSat
  | identifier (name : String)
  | number (value : Literal)
  /-- A number that is too large or malformed. -/
  | overflow
deriving DecidableEq, Inhabited

/-- A token with its text and its place. -/
structure Token where
  kind : TokenKind
  lexeme : String
  line : Nat
  column : Nat
deriving DecidableEq, Inhabited

/-- A scanned text: its tokens, the skipped characters, and where it ends. -/
structure Scan where
  tokens : List Token
  errors : List Error
  stopLine : Nat
  stopColumn : Nat
deriving DecidableEq, Inhabited

def Scan.addToken (t : Token) (s : Scan) : Scan := { s with tokens := t :: s.tokens }

def Scan.addError (e : Error) (s : Scan) : Scan := { s with errors := e :: s.errors }

/-! ## The rest of a token -/

/-- Goes on with a hexadecimal number after `last`: a hyphen belongs to it right after its `p`. -/
def hexRest (last : Char) : List Char → List Char
  | [] => []
  | c :: cs =>
    if Digits.isHex c || c == '.' || c == 'p' || c == 'P' ||
        (c == '-' && (last == 'p' || last == 'P')) then
      c :: hexRest c cs
    else []

/-- Goes on with a decimal number: digits and points. -/
def decimalRest (cs : List Char) : List Char :=
  cs.takeWhile fun c => c.isDigit || c == '.'

/-- The kind of a number. -/
def numberKind : Except LiteralError Literal → TokenKind
  | .ok l => .number l
  | .error _ => .overflow

/-- A number that starts with the digit `c`. -/
def scanNumber (c : Char) (cs : List Char) : TokenKind × List Char :=
  match c, cs with
  | '0', 'x' :: rest =>
    (numberKind (Literal.ofHex ('0' :: 'x' :: hexRest 'x' rest)), 'x' :: hexRest 'x' rest)
  | '0', 'X' :: rest =>
    (numberKind (Literal.ofHex ('0' :: 'X' :: hexRest 'X' rest)), 'X' :: hexRest 'X' rest)
  | c, cs => (numberKind (Literal.ofDecimal (c :: decimalRest cs)), decimalRest cs)

/-- The kind of a word; the two commands are recognised in any letter case. -/
def wordKind (word : String) : TokenKind :=
  match word.map Char.toLower with
  | "var" => .var
  | "check-sat" => .checkSat
  | _ => .identifier word

/-- A word that starts with `c`. -/
def scanWord (c : Char) (cs : List Char) : TokenKind × List Char :=
  let rest := cs.takeWhile fun d => d.isAlphanum || d == '_' || d == '-'
  (wordKind (String.ofList (c :: rest)), rest)

/-- The token that a single character is. -/
def sign? (c : Char) : Option TokenKind :=
  match c with
  | '(' => some .openParen
  | ')' => some .closeParen
  | '[' => some .openBracket
  | ']' => some .closeBracket
  | ',' => some .comma
  | '-' => some .minus
  | '+' => some (.operator .add)
  | '*' => some (.operator .mul)
  | '/' => some (.operator .div)
  | '^' => some (.operator .pow)
  | _ => none

/-- The token that starts with `c`, with the rest of its text. -/
def scanToken? (c : Char) (cs : List Char) : Option (TokenKind × List Char) :=
  if c.isDigit then some (scanNumber c cs)
  else if c.isAlpha || c == '_' then some (scanWord c cs)
  else (sign? c).map fun kind => (kind, [])

/-! ## The whole text -/

/-- Scans the text that starts at a line and a column. -/
def scanFrom (line column : Nat) : List Char → Scan
  | [] => ⟨[], [], line, column⟩
  | c :: cs =>
    if c = '\n' then scanFrom (line + 1) 1 cs
    else if c == ' ' || c == '\t' || c == '\r' then scanFrom line (column + 1) cs
    else if c = '#' then
      scanFrom line column (cs.drop (cs.takeWhile (· != '\n')).length)
    else
      match scanToken? c cs with
      | some (kind, rest) =>
        (scanFrom line (column + 1 + rest.length) (cs.drop rest.length)).addToken
          ⟨kind, String.ofList (c :: rest), line, column⟩
      | none => (scanFrom line (column + 1) cs).addError (.illegal c line column)
termination_by cs => cs.length
decreasing_by all_goals grind

/-- Scans a text as it is. -/
def Scan.ofText (text : String) : Scan := scanFrom 1 1 text.toList

end PaveScript.Smt
