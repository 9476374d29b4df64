import PaveScript.Settings

/-!
# Settings files

A settings file is a TOML document of `key = value` lines with scalar values: truth values,
integers, floats and strings on one line. Blanks, empty lines and comments do not count. Keys that
name no setting are ignored, but every line has to be well formed and no key may stand twice.

## Termination

Lines are a list; inside a line, strings are read character by character.
-/

namespace PaveScript.Toml

/-- A scalar value. -/
inductive Value where
  | bool (value : Bool)
  | int (value : Int)
  | float (value : Double)
  | string (value : String)
deriving DecidableEq, Inhabited

/-- Why a document is refused. -/
inductive Error where
  | missingKey
  | missingEquals
  | badValue
  | trailingText
  | controlCharacter
  | duplicateKey (key : String)
  | wrongType (key : String)
deriving DecidableEq, Inhabited

def Error.message : Error → String
  | missingKey => "expected a key"
  | missingEquals => "expected `=` after the key"
  | badValue => "expected a value"
  | trailingText => "unexpected text after the value"
  | controlCharacter => "unexpected control character"
  | duplicateKey key => "duplicate key `" ++ key ++ "`"
  | wrongType key => "invalid value for `" ++ key ++ "`"

/-! ## Characters -/

def isSpace (c : Char) : Bool := c == ' ' || c == '\t'

/-- Control characters other than the tab have no place in a document. -/
def isControl (c : Char) : Bool := (c.toNat < 32 && c != '\t') || c.toNat == 127

def isBareKeyChar (c : Char) : Bool := c.isAlphanum || c == '_' || c == '-'

/-- A text without the blanks at its start. -/
def skipSpace (cs : List Char) : List Char := cs.dropWhile isSpace

/-! ## Strings -/

/-- The character of a number in hexadecimal. Surrogates are no characters. -/
def unicode? (digits : List Char) : Option Char :=
  if digits.all Digits.isHex then
    let n := digits.foldl (fun n c => n * 16 + (Digits.hexValue? c).getD 0) 0
    if n < 0xD800 || (0xDFFF < n && n < 0x110000) then some (Char.ofNat n) else none
  else none

/-- The character that a letter after a backslash stands for. -/
def escape? (c : Char) : Option Char :=
  match c with
  | 'b' => some (Char.ofNat 8)
  | 't' => some '\t'
  | 'n' => some '\n'
  | 'f' => some (Char.ofNat 12)
  | 'r' => some '\r'
  | '"' => some '"'
  | '\\' => some '\\'
  | _ => none

/-- A string in double quotes after its opening quote, with what follows it. -/
def basicString? (done : List Char) : List Char → Option (String × List Char)
  | [] => none
  | '"' :: rest => some (String.ofList done.reverse, rest)
  | '\\' :: 'u' :: a :: b :: c :: d :: rest =>
    match unicode? [a, b, c, d] with
    | some u => basicString? (u :: done) rest
    | none => none
  | '\\' :: 'U' :: a :: b :: c :: d :: e :: f :: g :: h :: rest =>
    match unicode? [a, b, c, d, e, f, g, h] with
    | some u => basicString? (u :: done) rest
    | none => none
  | '\\' :: c :: rest =>
    match escape? c with
    | some u => basicString? (u :: done) rest
    | none => none
  | c :: rest => if c == '\\' || isControl c then none else basicString? (c :: done) rest

/-- A string in single quotes after its opening quote, with what follows it. -/
def literalString? (cs : List Char) : Option (String × List Char) :=
  let inside := cs.takeWhile fun c => c.toNat != 39
  match cs.drop inside.length with
  | [] => none
  | _ :: rest => if inside.any isControl then none else some (String.ofList inside, rest)

/-! ## Numbers -/

/-- Digits with single underscores between them, without the underscores. -/
def grouped? (isDigit : Char → Bool) (cs : List Char) : Option (List Char) :=
  let groups := (String.ofList cs).splitOn "_"
  if groups.all fun g => !g.isEmpty && g.toList.all isDigit then some (cs.filter (· != '_'))
  else none

/-- The value of digits to a base. -/
def valueIn (base : Nat) (cs : List Char) : Nat :=
  cs.foldl (fun n c => n * base + (Digits.hexValue? c).getD 0) 0

/-- Unsigned decimal digits without leading zeros. -/
def decimalDigits? (cs : List Char) : Option (List Char) := do
  let digits ← grouped? Char.isDigit cs
  if digits.length > 1 && digits.head? == some '0' then none else some digits

/-- The sign and the rest of a number. -/
def splitSign : List Char → Bool × List Char
  | '-' :: rest => (true, rest)
  | '+' :: rest => (false, rest)
  | rest => (false, rest)

/-- An integer of 64 bits. -/
def integer? (cs : List Char) : Option Int := do
  let value ← match cs with
    | '0' :: 'x' :: digits => (grouped? Digits.isHex digits).map fun ds => Int.ofNat (valueIn 16 ds)
    | '0' :: 'o' :: digits =>
      (grouped? (fun c => '0' ≤ c && c ≤ '7') digits).map fun ds => Int.ofNat (valueIn 8 ds)
    | '0' :: 'b' :: digits =>
      (grouped? (fun c => c == '0' || c == '1') digits).map fun ds => Int.ofNat (valueIn 2 ds)
    | cs =>
      let (negative, digits) := splitSign cs
      (decimalDigits? digits).map fun ds =>
        if negative then -(Int.ofNat (valueIn 10 ds)) else Int.ofNat (valueIn 10 ds)
  if value < Literal.leastInteger || Literal.largestInteger < value then none else some value

/--
A float: digits with a fraction or an exponent, infinity or NaN, each with an optional sign. Digits
that are past the largest double upwards are refused.
-/
def float? (cs : List Char) : Option Double := do
  let (negative, body) := splitSign cs
  if body = ['i', 'n', 'f'] then some (Double.ofRank negative infinityRank)
  else if body = ['n', 'a', 'n'] then some Double.nan
  else
    let isMark (c : Char) : Bool := c == 'e' || c == 'E'
    let (mantissa, exponent) := Literal.splitAtFirst isMark body
    let (whole, fraction) := Literal.splitAtFirst (· == '.') mantissa
    if fraction.isNone && exponent.isNone then none
    else
      let whole ← decimalDigits? whole
      let fraction ← match fraction with
        | none => some []
        | some ds => grouped? Char.isDigit ds
      let exponent ← match exponent with
        | none => some 0
        | some es =>
          let (negative, ds) := splitSign es
          (grouped? Char.isDigit ds).map fun ds =>
            if negative then -(Int.ofNat (valueIn 10 ds)) else Int.ofNat (valueIn 10 ds)
      let x := Decimal.toDouble negative
        ⟨Digits.value (whole ++ fraction), exponent - fraction.length⟩
      if x = Double.infinity then none else some x

/-! ## Lines -/

/-- A scalar at the head of a text, with what follows it. -/
def value? (cs : List Char) : Option (Value × List Char) :=
  match cs with
  | [] => none
  | c :: rest =>
    if c == '"' then (basicString? [] rest).map fun (s, rest) => (.string s, rest)
    else if c.toNat == 39 then (literalString? rest).map fun (s, rest) => (.string s, rest)
    else
      let word := cs.takeWhile fun c => c.isAlphanum || c == '_' || c == '+' || c == '-' || c == '.'
      let rest := cs.drop word.length
      if word = ['t', 'r', 'u', 'e'] then some (.bool true, rest)
      else if word = ['f', 'a', 'l', 's', 'e'] then some (.bool false, rest)
      else
        match integer? word with
        | some i => some (.int i, rest)
        | none => (float? word).map fun x => (.float x, rest)

/-- A key at the head of a text, bare or quoted, with what follows it. -/
def key? (cs : List Char) : Option (String × List Char) :=
  match cs with
  | [] => none
  | c :: rest =>
    if c == '"' then basicString? [] rest
    else if c.toNat == 39 then literalString? rest
    else
      let word := cs.takeWhile isBareKeyChar
      if word.isEmpty then none else some (String.ofList word, cs.drop word.length)

/-- What may follow a value: blanks and a comment. -/
def checkTail (cs : List Char) : Except Error Unit :=
  match skipSpace cs with
  | [] => .ok ()
  | c :: rest =>
    if c != '#' then .error .trailingText
    else if rest.any isControl then .error .controlCharacter
    else .ok ()

/-- The entry of one line, if it has one. -/
def lineEntry (line : List Char) : Except Error (Option (String × Value)) :=
  match skipSpace line with
  | [] => .ok none
  | '#' :: rest => if rest.any isControl then .error .controlCharacter else .ok none
  | cs =>
    match key? cs with
    | none => .error .missingKey
    | some (key, rest) =>
      match skipSpace rest with
      | '=' :: rest =>
        match value? (skipSpace rest) with
        | none => .error .badValue
        | some (value, rest) => (checkTail rest).map fun _ => some (key, value)
      | _ => .error .missingEquals

/-- The lines of a document. A carriage return belongs to the line end it precedes. -/
def splitLines (text : String) : List (List Char) :=
  let cs := match text.toList with
    | c :: rest => if c.toNat == 0xFEFF then rest else c :: rest
    | [] => []
  let pieces := (String.ofList cs).splitOn "\n"
  let last := pieces.length - 1
  pieces.zipIdx.map fun (piece, i) =>
    match piece.toList.reverse with
    | '\r' :: rest => if i < last then rest.reverse else piece.toList
    | _ => piece.toList

/-- Adds the entries of lines to those before them. -/
def entriesFrom (done : List (String × Value)) : List (List Char) →
    Except Error (List (String × Value))
  | [] => .ok done
  | line :: lines =>
    match lineEntry line with
    | .error e => .error e
    | .ok none => entriesFrom done lines
    | .ok (some (key, value)) =>
      if (done.lookup key).isSome then .error (.duplicateKey key)
      else entriesFrom (done ++ [(key, value)]) lines

/-- The entries of a document in their order. -/
def entries (text : String) : Except Error (List (String × Value)) :=
  entriesFrom [] (splitLines text)

/-! ## Settings -/

def Value.bool? : Value → Option Bool
  | bool b => some b
  | _ => none

def Value.int? : Value → Option Int
  | int i => some i
  | _ => none

/-- An integer is accepted where a float is wanted, not the other way round. -/
def Value.double? : Value → Option Double
  | float x => some x
  | int i => some (Double.ofInt i)
  | _ => none

def Value.string? : Value → Option String
  | string s => some s
  | _ => none

/-- The paving mode of a name. -/
def mode? : String → Option PavingMode
  | "std" => some .std
  | "first" => some .first
  | "full" => some .full
  | _ => none

/-- Applies one entry; keys that name no setting are ignored. -/
def applyEntry (s : Settings) (key : String) (value : Value) : Option Settings :=
  match key with
  | "safe_input" => value.bool?.map fun b => { s with safeInput := b }
  | "debug" => value.bool?.map fun b => { s with debug := b }
  | "precision" => value.int?.map fun i => { s with precision := i }
  | "resolution" => value.double?.map fun x => { s with resolution := x }
  | "granularity" => value.double?.map fun x => { s with granularity := x }
  | "depth" => value.int?.map fun i => { s with depth := i }
  | "var_select" => value.int?.map fun i => { s with varSelect := i }
  | "bp" => value.bool?.map fun b => { s with bp := b }
  | "paving_mode" => (value.string?.bind mode?).map fun m => { s with pavingMode := m }
  | "output" => value.string?.map fun t => { s with output := t }
  | _ => some s

/-- The settings of a document: those it names over the given ones. -/
def settings (base : Settings) (text : String) : Except Error Settings := do
  (← entries text).foldlM (fun s (key, value) =>
    match applyEntry s key value with
    | some s => .ok s
    | none => .error (.wrongType key)) base

end PaveScript.Toml
