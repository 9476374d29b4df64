import PaveScript.Expr
import PaveScript.Text.Position

/-!
# Tokens

The words, numbers, file names and signs of a script. Keywords are recognised in any letter case
and only as complete words.
-/

namespace PaveScript

/-- The signs of the language. -/
inductive Symbol where
  | plus | minus | star | slash | caret | equals | less | lessEqual | greater | greaterEqual
  | openParen | closeParen | openBracket | closeBracket | comma | semicolon
deriving DecidableEq, Inhabited

def Symbol.text : Symbol → String
  | plus => "+"
  | minus => "-"
  | star => "*"
  | slash => "/"
  | caret => "^"
  | equals => "="
  | less => "<"
  | lessEqual => "<="
  | greater => ">"
  | greaterEqual => ">="
  | openParen => "("
  | closeParen => ")"
  | openBracket => "["
  | closeBracket => "]"
  | comma => ","
  | semicolon => ";"

/-- The reserved words. -/
inductive Keyword where
  | var | param | constant | within | define | letIn | objfn | dfeq | cnstr | universal
  | setting | precision | resolution | granularity | depth | varSelect | bp | safe | input
  | debug | name | output | mode | paving | std | first | full | eval | yes | no | pave
  | bifurcation | equilibrium | min | max | minMax | reset | approx | dec | rat | and | or
  | file | save | load | plot | quit | exit | help
  | func (f : Function)
deriving DecidableEq, Inhabited

namespace Keyword

/-- The spelling of a reserved word. -/
def word : Keyword → String
  | var => "var"
  | param => "param"
  | constant => "const"
  | within => "in"
  | define => "define"
  | letIn => "let"
  | objfn => "objfn"
  | dfeq => "dfeq"
  | cnstr => "cnstr"
  | universal => "forall"
  | setting => "set"
  | precision => "precision"
  | resolution => "resolution"
  | granularity => "granularity"
  | depth => "depth"
  | varSelect => "varselect"
  | bp => "bp"
  | safe => "safe"
  | input => "input"
  | debug => "debug"
  | name => "name"
  | output => "output"
  | mode => "mode"
  | paving => "paving"
  | std => "std"
  | first => "first"
  | full => "full"
  | eval => "eval"
  | yes => "true"
  | no => "false"
  | pave => "pave"
  | bifurcation => "bifurcation"
  | equilibrium => "equilibrium"
  | min => "min"
  | max => "max"
  | minMax => "minmax"
  | reset => "reset"
  | approx => "approx"
  | dec => "dec"
  | rat => "rat"
  | and => "and"
  | or => "or"
  | file => "file"
  | save => "save"
  | load => "load"
  | plot => "plot"
  | quit => "quit"
  | exit => "exit"
  | help => "help"
  | func f => f.name

/-- Every function. -/
def functions : List Function :=
  [.sin, .cos, .tan, .asin, .acos, .atan, .abs, .sqrt, .ln, .exp, .sq]

/-- Every reserved word. -/
def all : List Keyword :=
  ([.var, .param, .constant, .within, .define, .letIn, .objfn, .dfeq, .cnstr, .universal,
    .setting, .precision, .resolution, .granularity, .depth, .varSelect, .bp, .safe, .input,
    .debug, .name, .output, .mode, .paving, .std, .first, .full, .eval, .yes, .no, .pave,
    .bifurcation, .equilibrium, .min, .max, .minMax, .reset, .approx, .dec, .rat, .and, .or,
    .file, .save, .load, .plot, .quit, .exit, .help] : List Keyword) ++
    functions.map .func

/-- The reserved word that a word spells in some letter case. -/
def ofWord? (w : String) : Option Keyword :=
  let lower := w.map Char.toLower
  all.find? fun k => k.word == lower

end Keyword

/-- What a token is. -/
inductive TokenKind where
  | identifier (name : String)
  | number (value : Literal)
  | hexFloat (value : Double)
  /-- The name of a script. -/
  | inputFile (name : String)
  /-- The name of any other file. -/
  | outputFile (name : String)
  | symbol (sign : Symbol)
  | keyword (word : Keyword)
  /-- A number past the largest literal. -/
  | overflow
deriving DecidableEq, Inhabited

/-- The name of a kind of token. -/
def TokenKind.name : TokenKind → String
  | identifier _ => "identifier"
  | number _ => "number"
  | hexFloat _ => "hexadecimal number"
  | inputFile _ => "input file name"
  | outputFile _ => "output file name"
  | symbol s => s.text
  | keyword k => k.word
  | overflow => "number (overflow)"

/-- A token with its text and its place in the source. -/
structure Token where
  kind : TokenKind
  lexeme : String
  start : Position
deriving DecidableEq, Inhabited

namespace Token

/-- The byte offset just after a token. -/
def endOffset (t : Token) : Nat := t.start.offset + t.lexeme.utf8ByteSize

/-- A token as a listing shows it, without its place. -/
def label (t : Token) : String :=
  match t.kind with
  | .identifier name => "Identifier('" ++ name ++ "')"
  | .number value => "Number(" ++ value.text ++ ")"
  | .hexFloat value => "Hex(" ++ t.lexeme ++ " = " ++ value.text ++ ")"
  | .inputFile name => "InputFile(\"" ++ name ++ "\")"
  | .outputFile name => "OutputFile(\"" ++ name ++ "\")"
  | .overflow => "Overflow('" ++ t.lexeme ++ "')"
  | kind => kind.name

/-- A token as a listing shows it. -/
def text (t : Token) : String := t.label ++ " @" ++ t.start.text

end Token

end PaveScript
