import PaveScript.Engine
import PaveScript.Script

/-!
# Sessions

A session executes texts against an engine, statement by statement. Every statement succeeds or
fails on its own; a refused statement also resets the engine. Scripts may read further scripts,
and the statements that succeeded are kept so that they can be replayed.

What a session reads comes from a library of scripts; what it does outside the engine is a list of
events, in the order in which they happen.

## Termination

Reading a script goes one level further in and there are `fileLimit` levels: `runIn` recurses on
the levels that are left. Within one text, `loop` recurses on the tokens that are left.
-/

namespace PaveScript

/-- How many scripts may be open at once. -/
def fileLimit : Nat := 16

/-- The scripts that can be read: the text of a path, or why there is none. -/
abbrev Library : Type := String → Except String String

/-- What a session does outside the engine. -/
inductive Event where
  /-- A path is looked up, with or without success. -/
  | read (path : String)
  /-- A script was found and is about to run. -/
  | loaded (path text : String)
  | help
deriving DecidableEq, Inhabited

/-- A statement that failed, with the innermost open script. -/
structure Failure where
  file : Option String
  error : Error
deriving DecidableEq, Inhabited

/-- What executing a text brought about. -/
structure Report where
  /-- The number of statements that succeeded. -/
  succeeded : Nat := 0
  failures : List Failure := []
  /-- Canonical texts of statements that are only repeated. -/
  echoes : List String := []
  events : List Event := []
  trace : List String := []
deriving DecidableEq, Inhabited

def Report.isOk (r : Report) : Bool := r.failures.isEmpty

/-- A session over an engine with states `σ`. -/
structure Session (σ : Type) where
  engine : σ
  /-- The texts of the statements that succeeded, in order. -/
  history : List String := []
  /-- The open scripts, the outermost first. -/
  openFiles : List String := []
  quit : Bool := false
deriving DecidableEq, Inhabited

namespace Session

/-- A session that has executed nothing. -/
def new {σ : Type} (engine : σ) : Session σ := { engine }

/-- The history as a script, one statement to a line. -/
def historyScript {σ : Type} (s : Session σ) : String :=
  String.join (s.history.map fun text => text ++ ";\n")

end Session

/-- A session in the middle of an execution, with the report so far. -/
structure Progress (σ : Type) where
  session : Session σ
  report : Report
deriving DecidableEq, Inhabited

namespace Progress

variable {σ : Type}

def log (line : String) (p : Progress σ) : Progress σ :=
  { p with report.trace := p.report.trace ++ [line] }

def logAll (lines : List String) (p : Progress σ) : Progress σ :=
  { p with report.trace := p.report.trace ++ lines }

def emit (event : Event) (p : Progress σ) : Progress σ :=
  { p with report.events := p.report.events ++ [event] }

def succeed (p : Progress σ) : Progress σ :=
  { p with report.succeeded := p.report.succeeded + 1 }

def echo (text : String) (p : Progress σ) : Progress σ :=
  { p with report.echoes := p.report.echoes ++ [text] }

/-- Keeps the text of a statement for the replay. -/
def remember (text : String) (p : Progress σ) : Progress σ :=
  { p with session.history := p.session.history ++ [text] }

variable [Engine σ]

/-- Brings the engine back to its defaults. -/
def resetEngine (p : Progress σ) : Progress σ :=
  { p with
    session.engine := Engine.resetState p.session.engine
    report.trace := p.report.trace ++
      "[session] resetting engine" :: Engine.trace .reset p.session.engine }

/-- Reports an error; one that resets takes the engine back to its defaults. -/
def fail (error : Error) (p : Progress σ) : Progress σ :=
  let p := p.log ("[session] " ++ error.message)
  let p := if error.resets then p.resetEngine else p
  { p with
    report.failures := p.report.failures ++ [⟨p.session.openFiles.getLast?, error⟩] }

/-- Hands a statement to the engine. Statements with skipped characters are not remembered. -/
def dispatch (parsed : Parsed) (p : Progress σ) : Progress σ :=
  let told := p.logAll (dispatchTrace parsed.statement p.session.engine)
  match PaveScript.dispatch parsed.statement p.session.engine with
  | (.ok outcome, engine) =>
    let p := { told with session.engine := engine }.log ("[session] dispatched: " ++ parsed.text)
    let p := match outcome with
      | .echo text => p.echo text
      | _ => p
    let p := p.succeed
    if parsed.skipped then p else p.remember parsed.text
  | (.error e, engine) => { told with session.engine := engine }.fail (.domain e)

/--
Reads and runs the script at a path, which is one level further in; `inner` runs a text there and
is missing when all levels are in use.
-/
def readFile (library : Library) (inner : Option (String → Progress σ → Progress σ))
    (path : String) (p : Progress σ) : Progress σ :=
  match inner with
  | none => p.fail (.domain (.filesTooDeep path fileLimit))
  | some run =>
    let p := p.emit (.read path)
    match library path with
    | .error reason => p.fail (.domain (.unreadableFile path reason))
    | .ok text =>
      let p := p.emit (.loaded path text)
      let outer := p.session.openFiles
      let p := run text { p with session.openFiles := outer ++ [path] }
      let p := { p with session.openFiles := outer }
      if p.session.quit then p else p.succeed

/-- Executes one statement. -/
def apply (library : Library) (inner : Option (String → Progress σ → Progress σ))
    (parsed : Parsed) (p : Progress σ) : Progress σ :=
  match parsed.statement with
  | .readFile path => p.readFile library inner path
  | .quit => { p.log "[session] quit requested" with session.quit := true }
  | .help => (p.emit .help).succeed
  | _ => p.dispatch parsed

/-- Executes what is left of a script. Safe input is looked up anew before each statement. -/
def loop (library : Library) (inner : Option (String → Progress σ → Progress σ)) (script : Script)
    (p : Progress σ) : Progress σ :=
  if p.session.quit then p
  else
    match _h : script.step (Engine.safeInput p.session.engine) with
    | (.done, _) => p
    | (.parsed parsed, rest) => loop library inner rest (p.apply library inner parsed)
    | (.failed error, rest) => loop library inner rest ((p.log rest.resyncTrace).fail error)
termination_by script.rest.length
decreasing_by all_goals exact Script.length_rest_step _h (by simp)

variable [Text.Normalizer]

/-- Executes a text: skipped characters are reported first, then the statements run in order. -/
def runWith (library : Library) (inner : Option (String → Progress σ → Progress σ))
    (text : String) (p : Progress σ) : Progress σ :=
  let script := Script.ofText text
  let (errors, script) := script.takePending
  let p := errors.foldl (fun p e => p.fail e) (p.logAll script.scan.trace)
  p.loop library inner script

/-- Executes a text with a number of levels left for the scripts it reads. -/
def runIn (library : Library) : (levels : Nat) → String → Progress σ → Progress σ
  | 0 => runWith library none
  | levels + 1 => runWith library (some (runIn library levels))

end Progress

namespace Session

/-- Executes a text and reports what happened. -/
def execute [Text.Normalizer] {σ : Type} [Engine σ] (library : Library) (s : Session σ)
    (text : String) : Report × Session σ :=
  let p := Progress.runIn library (fileLimit - s.openFiles.length) text ⟨s, {}⟩
  (p.report, p.session)

end Session

end PaveScript
