/-!
# The command line

Options are read from left to right. A flag stands alone and short flags may be joined; an option
takes a value, attached or as the next argument; everything else names an input. No flag and no
option may be given twice, and `--` makes all that follows it inputs.

A value that is an argument of its own, and inputs, are looked at only when the next known option
comes or the arguments end. So an unknown option is reported before a bad value in front of it.

## Termination

`readFrom` recurses on the arguments and `cluster` on the characters of one argument.
-/

namespace PaveScript.CommandLine

/-- The language of the inputs. -/
inductive InputDialect where
  | statements
  | smt
deriving DecidableEq, Inhabited

/-- What the command line asks for. -/
structure Options where
  inputs : List String := []
  outputFile : Option String := none
  unsafeInput : Bool := false
  debug : Bool := false
  cont : Bool := false
  saveFile : Option String := none
  quiet : Bool := false
  tokens : Bool := false
  ast : Bool := false
  format : Bool := false
  dialect : Option InputDialect := none
  prettyErrors : Bool := false
  config : Option String := none
deriving DecidableEq, Inhabited

/-- Whether the inputs are shown and not executed. -/
def Options.isDump (o : Options) : Bool := o.tokens || o.ast || o.format

/-- Why there is nothing to do, or what else to do. -/
inductive UsageError where
  | unknownArgument
  | invalidValue
  | argumentConflict
  | tooManyValues
  /-- Not an error: the help text is wanted. -/
  | help
  /-- Not an error: the version is wanted. -/
  | version
deriving DecidableEq, Inhabited

/-- Options without a value. -/
inductive Flag where
  | unsafeInput | debug | cont | quiet | tokens | ast | format | prettyErrors
deriving DecidableEq

/-- Options with a value. -/
inductive Valued where
  | outputFile | saveFile | dialect | config
deriving DecidableEq

/-- What a name on the command line stands for. -/
inductive Name where
  | flag (f : Flag)
  | valued (v : Valued)
  | help
  | version
deriving DecidableEq

/-- The meaning of a long name. -/
def long? : String → Option Name
  | "output-file" => some (.valued .outputFile)
  | "unsafe" => some (.flag .unsafeInput)
  | "debug" => some (.flag .debug)
  | "cont" => some (.flag .cont)
  | "save-file" => some (.valued .saveFile)
  | "quiet" => some (.flag .quiet)
  | "tokens" => some (.flag .tokens)
  | "ast" => some (.flag .ast)
  | "format" => some (.flag .format)
  | "dialect" => some (.valued .dialect)
  | "pretty-errors" => some (.flag .prettyErrors)
  | "config" => some (.valued .config)
  | "help" => some .help
  | "version" => some .version
  | _ => none

/-- The meaning of a short name. -/
def short? (c : Char) : Option Name :=
  match c with
  | 'o' => some (.valued .outputFile)
  | 'u' => some (.flag .unsafeInput)
  | 'd' => some (.flag .debug)
  | 'c' => some (.flag .cont)
  | 's' => some (.valued .saveFile)
  | 'q' => some (.flag .quiet)
  | 'h' => some .help
  | 'V' => some .version
  | _ => none

/-- Sets a flag that is not set yet. -/
def setFlag (f : Flag) (o : Options) : Except UsageError Options :=
  let once (given : Bool) (o : Options) : Except UsageError Options :=
    if given then .error .argumentConflict else .ok o
  match f with
  | .unsafeInput => once o.unsafeInput { o with unsafeInput := true }
  | .debug => once o.debug { o with debug := true }
  | .cont => once o.cont { o with cont := true }
  | .quiet => once o.quiet { o with quiet := true }
  | .tokens => once o.tokens { o with tokens := true }
  | .ast => once o.ast { o with ast := true }
  | .format => once o.format { o with format := true }
  | .prettyErrors => once o.prettyErrors { o with prettyErrors := true }

/-- The dialect of a name. -/
def dialect? : String → Option InputDialect
  | "kodiak" => some .statements
  | "smt" => some .smt
  | _ => none

/-- Sets an option that is not set yet. A path must not be empty. -/
def setValue (v : Valued) (value : String) (o : Options) : Except UsageError Options :=
  let path (o' : Options) : Except UsageError Options :=
    if value.isEmpty then .error .invalidValue else .ok o'
  match v with
  | .outputFile =>
    if o.outputFile.isSome then .error .argumentConflict
    else .ok { o with outputFile := some value }
  | .saveFile =>
    if o.saveFile.isSome then .error .argumentConflict
    else path { o with saveFile := some value }
  | .config =>
    if o.config.isSome then .error .argumentConflict else path { o with config := some value }
  | .dialect =>
    if o.dialect.isSome then .error .argumentConflict
    else
      match dialect? value with
      | some d => .ok { o with dialect := some d }
      | none => .error .invalidValue

/-- Adds an input. -/
def addInput (path : String) (o : Options) : Except UsageError Options :=
  if path.isEmpty then .error .invalidValue else .ok { o with inputs := o.inputs ++ [path] }

/-- What was read and is not looked at yet. -/
inductive Pending where
  | none
  /-- An option without its value. -/
  | wanted (v : Valued)
  | given (v : Valued) (value : String)
  | inputs (paths : List String)

/-- The options read so far, and what is pending. -/
structure Reading where
  options : Options := {}
  pending : Pending := .none

/-- Looks at what is pending. An option that still lacks its value is an error. -/
def Reading.settle (s : Reading) : Except UsageError Options :=
  match s.pending with
  | .none => .ok s.options
  | .wanted _ => .error .invalidValue
  | .given v value => setValue v value s.options
  | .inputs paths => paths.foldlM (fun o path => addInput path o) s.options

/-- Takes one more input. -/
def Reading.push (s : Reading) (path : String) : Except UsageError Reading :=
  match s.pending with
  | .inputs paths => .ok { s with pending := .inputs (paths ++ [path]) }
  | _ => do return ⟨← s.settle, .inputs [path]⟩

/-- A flag, or the wish for help or the version. -/
def Reading.flag (s : Reading) (name : Name) : Except UsageError Reading := do
  let o ← s.settle
  match name with
  | .flag f => return ⟨← setFlag f o, .none⟩
  | .help => throw .help
  | .version => throw .version
  | .valued v => return ⟨o, .wanted v⟩

/-- The short names of one argument. The first option among them takes the rest as its value. -/
def cluster (s : Reading) : List Char → Except UsageError Reading
  | [] => .ok s
  | c :: rest =>
    match short? c, rest with
    | none, _ => .error .unknownArgument
    | some (.valued v), '=' :: value => do
      return ⟨← setValue v (String.ofList value) (← s.settle), .none⟩
    | some (.valued v), d :: value => do
      return ⟨← setValue v (String.ofList (d :: value)) (← s.settle), .none⟩
    | some name, rest => do cluster (← s.flag name) rest

/-- The name and the attached value of a long option. -/
def splitLong (body : List Char) : String × Option String :=
  let name := body.takeWhile (· != '=')
  match body.drop name.length with
  | [] => (String.ofList name, none)
  | _ :: value => (String.ofList name, some (String.ofList value))

/-- A long option. -/
def longOption (body : List Char) (s : Reading) : Except UsageError Reading :=
  let (name, value) := splitLong body
  match long? name, value with
  | none, _ => .error .unknownArgument
  | some (.valued v), some value => do return ⟨← setValue v value (← s.settle), .none⟩
  | some _, some _ => .error .tooManyValues
  | some name, none => s.flag name

/-- One argument that is not `--`. -/
def argument (arg : String) (s : Reading) : Except UsageError Reading :=
  match arg.toList with
  | '-' :: '-' :: body => longOption body s
  | '-' :: c :: rest => cluster s (c :: rest)
  | _ =>
    match s.pending with
    | .wanted v => .ok { s with pending := .given v arg }
    | _ => s.push arg

/-- Goes on with the arguments that are left. -/
def readFrom (s : Reading) : List String → Except UsageError Options
  | [] => s.settle
  | "--" :: inputs => do (← inputs.foldlM Reading.push s).settle
  | arg :: rest => do readFrom (← argument arg s) rest

/-- Reads the arguments of a command line. -/
def read (args : List String) : Except UsageError Options := readFrom {} args

/-- The name and version of the program. -/
def versionText : String := "kodiak 0.2.0\n"

/-- The help text. -/
def helpText : String :=
  "Kodiak: interval-constraint problem language front end\n\n" ++
  "Usage: kodiak [OPTIONS] [INPUT_FILES]...\n\n" ++
  "Arguments:\n" ++
  "  [INPUT_FILES]...  Scripts to execute, in order\n\n" ++
  "Options:\n" ++
  "  -o, --output-file <FILE>  Send engine output to FILE (same as `set output = FILE`)\n" ++
  "  -u, --unsafe              Accept approximate literals (safe input off)\n" ++
  "  -d, --debug               Engine debug mode\n" ++
  "  -c, --cont                Continue into the interactive shell after running the input files\n" ++
  "  -s, --save-file <FILE>    On exit, append every accepted statement to FILE\n" ++
  "  -q, --quiet               No banner, no script echo\n" ++
  "      --tokens              Dump tokens of each input file instead of executing it\n" ++
  "      --ast                 Dump the JSON AST of each input file instead of executing it\n" ++
  "      --format              Print each input file in canonical form instead of executing it\n" ++
  "      --dialect <DIALECT>   Grammar used by --ast [default: kodiak] " ++
    "[possible values: kodiak, smt]\n" ++
  "      --pretty-errors       Pretty diagnostics\n" ++
  "      --config <FILE>       Path to config (TOML); default: ~/.kodiak/config.toml\n" ++
  "  -h, --help                Print help\n" ++
  "  -V, --version             Print version\n"

/-- What is said about arguments that cannot be read. -/
def usageText : String :=
  "error: invalid arguments\n\nUsage: kodiak [OPTIONS] [INPUT_FILES]...\n\n" ++
    "For more information, try '--help'.\n"

end PaveScript.CommandLine
