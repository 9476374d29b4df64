import PaveScript.CommandLine
import PaveScript.Dialect
import PaveScript.Settings.Toml
import PaveScript.Shell
import PaveScript.Text.Normal.Form

/-!
# The program

The whole program in any host: it reads the command line and the settings, then shows the inputs or
executes them, opens the shell, and saves what succeeded. Its result is the exit code.
-/

namespace PaveScript.Program

open CommandLine

variable {m : Type → Type} [Monad m] [Host m]

/-- An error that ends the program, with what caused it. -/
def fatalText (context cause : String) : String :=
  "Error: " ++ context ++ "\n\nCaused by:\n    " ++ cause ++ "\n"

/-- Why the program ends before its time: the text for the standard error stream. -/
abbrev Fatal : Type := String

/-! ## Settings -/

/-- The path of the settings file: the one given, or the one in the home directory. -/
def configPath? (env : Environment) (o : Options) : Option String :=
  match o.config with
  | some path => some path
  | none => env.home.map fun home =>
    (if home.endsWith "/" then home else home ++ "/") ++ ".kodiak/config.toml"

/-- The settings of a file. A missing file gives the defaults. -/
def loadSettings (path : Option String) : m (Except Fatal Settings) := do
  match path with
  | none => return .ok {}
  | some path =>
    if ← Host.isPresent path then
      match ← Host.readText path with
      | .error e => return .error (fatalText ("Read config " ++ path) e.message)
      | .ok text =>
        match Toml.settings {} text with
        | .ok settings => return .ok settings
        | .error e => return .error (fatalText ("Parse config " ++ path) e.message)
    else return .ok {}

/-- The settings with what the command line says about them. -/
def override (o : Options) (s : Settings) : Settings :=
  { s with
    safeInput := s.safeInput && !o.unsafeInput
    debug := s.debug || o.debug
    output := o.outputFile.getD s.output }

/-! ## Showing inputs -/

/-- Shows the tokens of a source; tells whether all went well. -/
def showTokens (style : Shell.Style) (name source : String) : m Bool := do
  let scan := Scan.ofText source
  Host.err (Shell.traceText style.env scan.trace)
  Host.out ("=== Tokens ===\n" ++ String.join (scan.listing.map (· ++ "\n")))
  Host.err (m := m)
    (String.join (scan.errors.map (Diagnostic.render style.env.colored style.pretty name source)))
  return scan.errors.isEmpty

/-- Reads a source and shows what `render` makes of it; tells whether all went well. -/
def showItems (style : Shell.Style) (dialect : Dialect) (render : List Dialect.Item → String)
    (name source : String) : m Bool := do
  Host.err (Shell.traceText style.env (dialect.trace source))
  match dialect.read source with
  | .ok items =>
    Host.out (render items)
    return true
  | .error e =>
    Host.err (Diagnostic.render style.env.colored style.pretty name source e)
    return false

/-- The document of an input. -/
def documentText (items : List Dialect.Item) : String :=
  (Json.array (items.map Dialect.Item.json)).pretty ++ "\n"

/-- The canonical text of an input. -/
def canonicalText (items : List Dialect.Item) : String :=
  Statement.format (items.filterMap Dialect.Item.statement?)

/-- Shows one source in the way that the command line asks for. -/
def showSource (style : Shell.Style) (o : Options) (settings : Settings) (name source : String) :
    m Bool :=
  if o.tokens then showTokens style name source
  else if o.ast then
    let dialect := match o.dialect with
      | some .smt => .smt
      | _ => .statements settings.safeInput
    showItems style dialect documentText name source
  else showItems style (.statements settings.safeInput) canonicalText name source

/-- What is said about an input that cannot be read. -/
def unreadableInput (path : String) (e : FileError) : Fatal :=
  fatalText ("Read input " ++ path) e.message

/-- Shows inputs in order; tells whether all went well so far. -/
def showInputs (style : Shell.Style) (o : Options) (settings : Settings) (ok : Bool) :
    List String → m (Except Fatal Bool)
  | [] => return .ok ok
  | path :: rest => do
    match ← Host.readText path with
    | .error e => return .error (unreadableInput path e)
    | .ok source =>
      let good ← showSource style o settings path source
      showInputs style o settings (ok && good) rest

/-! ## Executing inputs -/

/-- Executes inputs in order until one quits; tells whether all went well so far. -/
def runInputs (style : Shell.Style) (ok : Bool) (session : Session Problem) :
    List String → m (Except Fatal (Bool × Session Problem))
  | [] => return .ok (ok, session)
  | path :: rest => do
    match ← Host.readText path with
    | .error e => return .error (unreadableInput path e)
    | .ok source =>
      Host.out (Shell.eventText style (.loaded path source))
      let (good, session) ← Shell.execute style path session source
      if session.quit then return .ok (ok && good, session)
      runInputs style (ok && good) session rest

/-- Saves the history if the command line asks for it. -/
def saveHistory (o : Options) (session : Session Problem) : m (Except Fatal Unit) := do
  match o.saveFile with
  | none => return .ok ()
  | some path =>
    match ← Host.appendText path session.historyScript with
    | .ok () => return .ok ()
    | .error e => return .error (fatalText ("Write save file " ++ path) e.message)

/-- Executes the inputs, opens the shell if it is wanted, and saves the history. -/
def runSession (style : Shell.Style) (o : Options) (settings : Settings) :
    m (Except Fatal Bool) := do
  match ← runInputs style true (Session.new (Problem.new settings)) o.inputs with
  | .error e => return .error e
  | .ok (ok, session) =>
    let afterShell ←
      if (o.inputs.isEmpty || o.cont) && !session.quit then Shell.interact style session
      else pure (.ok session)
    match afterShell with
    | .error e => return .error ("Error: " ++ e.message ++ "\n")
    | .ok session =>
      match ← saveHistory o session with
      | .error e => return .error e
      | .ok () => return .ok ok

/-! ## The whole -/

/-- Runs the program with options that were read. -/
def runWith (env : Environment) (o : Options) : m (Except Fatal Bool) := do
  match ← loadSettings (configPath? env o) with
  | .error e => return .error e
  | .ok settings =>
    let settings := override o settings
    let style : Shell.Style := ⟨env, o.quiet, o.prettyErrors⟩
    if o.isDump then showInputs style o settings true o.inputs
    else runSession style o settings

/-- Runs the program; the result is the exit code. -/
def run (env : Environment) (args : List String) : m Nat := do
  match CommandLine.read args with
  | .error .version =>
    Host.out versionText
    return 0
  | .error .help =>
    Host.out helpText
    return 0
  | .error _ =>
    Host.err usageText
    return 2
  | .ok options =>
    match ← runWith env options with
    | .error text =>
      Host.err text
      return 1
    | .ok true => return 0
    | .ok false => return 1

end PaveScript.Program
