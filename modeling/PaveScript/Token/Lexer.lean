import PaveScript.Error
import PaveScript.Text.Normalizer
import PaveScript.Text.Quoted
import PaveScript.Token

/-!
# From text to tokens

Scanning never fails: a character that starts no token is reported and skipped. Blanks and
comments separate tokens and leave no trace. A token is always the longest one that its first
character allows, and where a file name is expected a path with an extension is one token.

The position of every piece is the position after the text before it, so the end of the input is
the position after the whole text.

## Termination

`scanFrom` recurses on the length of the text: each round consumes the character at its head.
-/

namespace PaveScript

/-- What scanning finds: a token, or a character that starts none. -/
inductive Piece where
  | token (t : Token)
  | illegal (char : Char) (start : Position)
deriving DecidableEq, Inhabited

namespace Piece

def token? : Piece → Option Token
  | token t => some t
  | illegal .. => none

/-- The error that reports a skipped character. -/
def error? : Piece → Option Error
  | token _ => none
  | illegal c p => some (.illegal c p.line p.column)

/-- Whether a text carries the mark of hexadecimal numbers. -/
def isHexText (s : String) : Bool := (Literal.hexBody? s.toList).isSome

/-- What a trace tells about a piece: skipped characters and decimal numbers that are too large. -/
def trace? : Piece → Option String
  | token t =>
    if t.kind = .overflow && !isHexText t.lexeme then
      some ("[lexer] numeric overflow in literal " ++ t.lexeme)
    else none
  | illegal c p => some ("[lexer] illegal character " ++ Text.quoteChar c ++ " at " ++ p.text)

end Piece

namespace Lexer

/-! ## Character classes -/

/-- Blanks between tokens; the byte order mark counts as one. -/
def isBlank (c : Char) : Bool :=
  c == ' ' || c == '\t' || c == '\r' || c == '\n' || c.toNat == 0xFEFF

def isWordStart (c : Char) : Bool := c.isAlpha || c == '_'

def isWordRest (c : Char) : Bool := c.isAlphanum || c == '_'

/-- The characters of file names. -/
def isPathChar (c : Char) : Bool :=
  c.isAlphanum || c == '_' || c == '-' || c == '/' || c == '\\' || c == '(' || c == ')' || c == '.'

/-! ## The rest of a token

Each function takes the text after the first character of a token and returns how the token goes
on. What it returns stands at the head of that text.
-/

/-- A decimal number: digits, then a point with any number of digits. -/
def decimalRest (cs : List Char) : List Char :=
  let whole := cs.takeWhile Char.isDigit
  match cs.dropWhile Char.isDigit with
  | '.' :: rest => whole ++ '.' :: rest.takeWhile Char.isDigit
  | _ => whole

/-- The fraction of a hexadecimal number: a point counts only with a digit after it. -/
def hexFractionRest : List Char → List Char
  | '.' :: rest =>
    if (rest.head?.map Digits.isHex).getD false then '.' :: rest.takeWhile Digits.isHex else []
  | _ => []

/-- The exponent of a hexadecimal number: its mark counts only with a digit after it. -/
def hexExponentRest : List Char → List Char
  | mark :: rest =>
    if mark == 'p' || mark == 'P' then
      match rest with
      | '-' :: digits =>
        if (digits.head?.map Char.isDigit).getD false then
          mark :: '-' :: digits.takeWhile Char.isDigit
        else []
      | digits =>
        if (digits.head?.map Char.isDigit).getD false then mark :: digits.takeWhile Char.isDigit
        else []
    else []
  | [] => []

/-- A hexadecimal number after its mark. -/
def hexRest (cs : List Char) : List Char :=
  let whole := cs.takeWhile Digits.isHex
  let afterWhole := cs.dropWhile Digits.isHex
  let fraction := hexFractionRest afterWhole
  whole ++ fraction ++ hexExponentRest (afterWhole.drop fraction.length)

/-- The kind of a decimal number. -/
def decimalKind (lexeme : List Char) : TokenKind :=
  match Literal.ofDecimal lexeme with
  | .ok l => .number l
  | .error _ => .overflow

/-- The kind of a hexadecimal number. -/
def hexKind (lexeme : List Char) : TokenKind :=
  match Literal.ofHex lexeme with
  | .ok l => .hexFloat l.toDouble
  | .error _ => .overflow

/-- A number that starts with the digit `c`. -/
def scanNumber (c : Char) (cs : List Char) : TokenKind × List Char :=
  match c, cs with
  | '0', 'x' :: rest => (hexKind ('0' :: 'x' :: hexRest rest), 'x' :: hexRest rest)
  | '0', 'X' :: rest => (hexKind ('0' :: 'X' :: hexRest rest), 'X' :: hexRest rest)
  | c, cs => (decimalKind (c :: decimalRest cs), decimalRest cs)

/-- The kind of a word. -/
def wordKind (word : String) : TokenKind :=
  match Keyword.ofWord? word with
  | some k => .keyword k
  | none => .identifier word

/-- A keyword or an identifier that starts with `c`. -/
def scanWord (c : Char) (cs : List Char) : TokenKind × List Char :=
  let rest := cs.takeWhile isWordRest
  (wordKind (String.ofList (c :: rest)), rest)

/-- The sign that a single character is. -/
def symbol? (c : Char) : Option Symbol :=
  match c with
  | '+' => some .plus
  | '-' => some .minus
  | '*' => some .star
  | '/' => some .slash
  | '^' => some .caret
  | '=' => some .equals
  | '<' => some .less
  | '>' => some .greater
  | '(' => some .openParen
  | ')' => some .closeParen
  | '[' => some .openBracket
  | ']' => some .closeBracket
  | ',' => some .comma
  | ';' => some .semicolon
  | _ => none

/-- A sign that starts with `c`; signs of two characters win. -/
def scanSymbol? (c : Char) (cs : List Char) : Option (TokenKind × List Char) :=
  match c, cs with
  | '<', '=' :: _ => some (.symbol .lessEqual, ['='])
  | '>', '=' :: _ => some (.symbol .greaterEqual, ['='])
  | c, _ => (symbol? c).map fun s => (.symbol s, [])

/-- The part of a path after its last point, if it has one. -/
def extension? (path : List Char) : Option (List Char) :=
  if path.contains '.' then some (path.reverse.takeWhile (· != '.')).reverse else none

/--
A file name that starts with `c`: the longest run of path characters, if it ends in a point and
letters. Scripts have the extension `kdk`.
-/
def scanFileName? (c : Char) (cs : List Char) : Option (TokenKind × List Char) :=
  if !isPathChar c then none
  else
    let rest := cs.takeWhile isPathChar
    match extension? (c :: rest) with
    | none => none
    | some ext =>
      if ext.isEmpty || !ext.all Char.isAlpha then none
      else
        let name := String.ofList (c :: rest)
        some (if ext = ['k', 'd', 'k'] then .inputFile name else .outputFile name, rest)

/-- The token that starts with `c`, with the rest of its text. -/
def scanToken? (fileExpected : Bool) (c : Char) (cs : List Char) :
    Option (TokenKind × List Char) :=
  match if fileExpected then scanFileName? c cs else none with
  | some found => some found
  | none =>
    if c.isDigit then some (scanNumber c cs)
    else if isWordStart c then some (scanWord c cs)
    else scanSymbol? c cs

/-! ## The whole text -/

/-- The kinds of the last two tokens, the later one first. -/
structure Context where
  last : Option TokenKind := none
  secondLast : Option TokenKind := none

/-- A file name is expected after `file` and after `output =`. -/
def Context.expectsFile (ctx : Context) : Bool :=
  ctx.last = some (.keyword .file) ||
    (ctx.last = some (.symbol .equals) && ctx.secondLast = some (.keyword .output))

def Context.push (ctx : Context) (kind : TokenKind) : Context :=
  ⟨some kind, ctx.last⟩

/-- The pieces of a text that starts at a position. -/
def scanFrom (ctx : Context) (p : Position) : List Char → List Piece
  | [] => []
  | c :: cs =>
    if isBlank c then scanFrom ctx (p.advance c) cs
    else if c = '#' then
      let comment := cs.takeWhile (· != '\n')
      scanFrom ctx (p.after (c :: comment)) (cs.drop comment.length)
    else
      match scanToken? ctx.expectsFile c cs with
      | some (kind, rest) =>
        .token ⟨kind, String.ofList (c :: rest), p⟩ ::
          scanFrom (ctx.push kind) (p.after (c :: rest)) (cs.drop rest.length)
      | none => .illegal c p :: scanFrom ctx (p.advance c) cs
termination_by cs => cs.length
decreasing_by all_goals grind

end Lexer

/-- A scanned text: the text in its normal form and the pieces found in it. -/
structure Scan where
  source : List Char
  pieces : List Piece

namespace Scan

/-- Scans a text that is in its normal form. -/
def ofChars (cs : List Char) : Scan :=
  ⟨cs, Lexer.scanFrom {} Position.start cs⟩

/-- Scans a text. -/
def ofText [Text.Normalizer] (text : String) : Scan :=
  ofChars (Text.Normalizer.normalize text.toList)

def tokens (s : Scan) : List Token := s.pieces.filterMap Piece.token?

/-- The reports of skipped characters, in the order of the text. -/
def errors (s : Scan) : List Error := s.pieces.filterMap Piece.error?

/-- What a trace tells about the scan. -/
def trace (s : Scan) : List String := s.pieces.filterMap Piece.trace?

/-- The end of the input. -/
def stop (s : Scan) : Position := Position.start.after s.source

/-- The byte offsets of the skipped characters. -/
def skippedOffsets (s : Scan) : List Nat :=
  s.errors.filterMap fun
    | .illegal _ line column => Text.byteOffset? s.source line column
    | _ => none

/-- The listing of the tokens; the end of the input closes it. -/
def listing (s : Scan) : List String :=
  s.tokens.map Token.text ++ ["end of input @" ++ s.stop.text]

end Scan

end PaveScript
