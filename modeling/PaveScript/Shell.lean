import PaveScript.Diagnostic
import PaveScript.Host
import PaveScript.Problem

/-!
# The shell

Executes texts in a session and shows what happens: scripts as they are loaded, repeated
statements, errors, and the help text. The interactive shell reads one text per line.
-/

namespace PaveScript.Shell

variable [Text.Normalizer] {m : Type → Type} [Monad m] [Host m]

/-- How the shell shows things. -/
structure Style where
  env : Environment
  quiet : Bool
  pretty : Bool

/-- A text with the line end that it may lack. -/
def withNewline (text : String) : String :=
  if text.endsWith "\n" then text else text ++ "\n"

/-- The overview of the statements. -/
def helpText (colored : Bool) : String :=
  let heading (text : String) : String := paint colored .heading text ++ "\n"
  paint colored .title "Kodiak statements (separate with ';')" ++ "\n" ++
  heading "Declarations:" ++
  "  var x in [lo, hi]          # declare variable\n" ++
  "  param p in [lo, hi]        # declare parameter\n" ++
  "  const c = number           # named constant\n" ++
  "  define f = expr            # named expression\n" ++
  heading "Problem:" ++
  "  objfn [let a = e in] expr  # objective (replaces)\n" ++
  "  dfeq [let a = e in] expr   # differential equation (appends)\n" ++
  "  cnstr [let a = e in] e1 op e2\n" ++
  "  forall boolexpr            # echoed, not evaluated\n" ++
  heading "Settings:" ++
  "  set precision|resolution|granularity|depth|varselect = n\n" ++
  "  set resolution x = n       # per-variable resolution\n" ++
  "  set bp|debug|safe input = true|false\n" ++
  "  set name = id; set output = file.ext; reset output\n" ++
  "  set paving mode = std|first|full\n" ++
  heading "Actions:" ++
  "  pave; bifurcation; equilibrium; min; max; minmax; reset\n" ++
  "  save paving id; load paving id; plot id x y [z]\n" ++
  heading "Session:" ++
  "  file name.kdk; help; quit\n\n"

/-- What the shell shows of an event. -/
def eventText (style : Style) : Event → String
  | .read _ => ""
  | .loaded path text =>
    if style.quiet then ""
    else paint style.env.colored .heading "file:" ++ " " ++ path ++ "\n" ++ withNewline text
  | .help => helpText style.env.colored

/-- A failed statement; of a script that was read only the error itself is shown. -/
def failureText (style : Style) (name source : String) (failure : Failure) : String :=
  match failure.file with
  | some file => Diagnostic.oneLine style.env.colored (file ++ ": " ++ failure.error.message)
  | none => Diagnostic.render style.env.colored style.pretty name source failure.error

/-- Trace lines, if they are wanted. -/
def traceText (env : Environment) (lines : List String) : String :=
  if env.traced then String.join (lines.map (· ++ "\n")) else ""

/-- Executes a text and shows what happened; tells whether all went well. -/
def execute (style : Style) (name : String) (session : Session Problem) (source : String) :
    m (Bool × Session Problem) := do
  let (report, session) ← Host.consult (fun r => r.1.pathsRead) fun library =>
    session.execute library source
  Host.out (String.join (report.events.map (eventText style)))
  Host.err (traceText style.env report.trace)
  Host.out (String.join (report.echoes.map (· ++ "\n")))
  Host.err (String.join (report.failures.map (failureText style name source)))
  return (report.isOk, session)

def prompt (colored : Bool) : String := paint colored .title "Kodiak>" ++ " "

def banner (colored : Bool) : String :=
  paint colored .title "Kodiak" ++ "  " ++
    paint colored .heading "type 'help;' for statements, 'quit;' to leave" ++ "\n"

/-- Reads and executes lines until one quits or there are no more. -/
def interact (style : Style) (session : Session Problem) :
    m (Except FileError (Session Problem)) := do
  unless style.quiet do Host.out (banner style.env.colored)
  let step (session : Session Problem) (line : String) : m (Session Problem × Bool) := do
    if Text.isBlank line then return (session, true)
    let (_, session) ← execute style "<stdin>" session line
    return (session, !session.quit)
  let (session, reason) ←
    Host.eachLine (Host.out (prompt style.env.colored)) step session
  match reason with
  | .failed error => return .error error
  | .exhausted =>
    Host.out "\nGoodbye!\n"
    return .ok session
  | .stopped =>
    Host.out "Goodbye!\n"
    return .ok session

end PaveScript.Shell
