import PaveScript.Program

/-!
# The executable

The system as a host, and the entry point. Scripts are fetched on demand: an execution is repeated
with the scripts it asked for until it asks for no further one.
-/

namespace PaveScript.Machine

/-- The system's number of a failure, which arrives with either sign. -/
def failureNumber (code : UInt32) : Nat := min code.toNat (UInt32.size - code.toNat)

/-- The failures of the system in the program's terms. -/
def fileError (e : IO.Error) : FileError :=
  match e with
  | .noFileOrDirectory .. => .notFound
  | .alreadyExists .. => .alreadyExists
  | .resourceBusy .. => .busy
  | .inappropriateType _ code _ =>
    if failureNumber code = 20 then .notDirectory
    else if failureNumber code = 21 then .isDirectory
    else .other (toString e)
  | .invalidArgument _ code _ =>
    if failureNumber code = 36 then .nameTooLong else .other (toString e)
  | _ => .other (toString e)

/-- The text of a file. -/
def readText (path : String) : IO (Except FileError String) := do
  try
    let bytes ← IO.FS.readBinFile path
    match String.fromUTF8? bytes with
    | some text => return .ok text
    | none => return .error .invalidText
  catch e => return .error (fileError e)

/-- The directory part of a path. -/
def parentOf (path : String) : String :=
  match (path.splitOn "/").dropLast with
  | [] => "."
  | parts => String.intercalate "/" parts

/-- Adds text to a file in one step. -/
def appendText (path text : String) : IO (Except FileError Unit) := do
  let old ← match ← readText path with
    | .ok old => pure old
    | .error .notFound => pure ""
    | .error e => return .error e
  try
    IO.FS.createDirAll (parentOf path)
    let draft := path ++ ".tmp"
    IO.FS.writeFile draft (FileTree.appended old text)
    IO.FS.rename draft path
    return .ok ()
  catch e => return .error (fileError e)

/-- Whether there is anything at a path. -/
def isPresent (path : String) : IO Bool := do
  match ← readText path with
  | .error .notFound => return false
  | .error .notDirectory => return false
  | _ => return true

/-- Repeats a computation with the scripts it asks for until it has all of them. -/
partial def consult {α : Type} (known : List (String × Except String String))
    (paths : α → List String) (f : Library → α) : IO α := do
  let a := f fun path => (known.lookup path).getD (.error "")
  match (paths a).find? fun path => (known.lookup path).isNone with
  | none => return a
  | some path =>
    let text := match ← readText path with
      | .ok text => Except.ok text
      | .error e => .error e.message
    consult ((path, text) :: known) paths f

/-- A line without its line end. -/
def stripLine (line : List Char) : List Char :=
  match line.reverse with
  | '\n' :: rest => Text.dropCarriageReturn rest.reverse
  | _ => line

/-- Reads lines until the step wants no more. -/
partial def eachLine {σ : Type} (before : IO Unit) (step : σ → String → IO (σ × Bool)) (s : σ) :
    IO (σ × LinesEnd) := do
  before
  (← IO.getStdout).flush
  try
    let line ← (← IO.getStdin).getLine
    if line.isEmpty then return (s, .exhausted)
    match ← step s (String.ofList (stripLine line.toList)) with
    | (s, true) => eachLine before step s
    | (s, false) => return (s, .stopped)
  catch _ => return (s, .failed .invalidText)

instance : Host IO where
  readText := readText
  isPresent := isPresent
  appendText := appendText
  out := IO.print
  err := IO.eprint
  consult := consult []
  eachLine := eachLine

/-- A variable of the environment that switches something on unless it is zero. -/
def isOn (name : String) : IO Bool := do
  return ((← IO.getEnv name).map (· != "0")).getD false

/-- Colours are forced, forbidden, or used on a terminal. -/
def usesColor : IO Bool := do
  if ← isOn "CLICOLOR_FORCE" then return true
  if (← IO.getEnv "NO_COLOR").isSome then return false
  if (← IO.getEnv "CLICOLOR") == some "0" then return false
  (← IO.getStdout).isTty

end PaveScript.Machine

/-- Runs the program on the system. -/
def main (args : List String) : IO UInt32 := do
  let env : PaveScript.Environment := {
    colored := ← PaveScript.Machine.usesColor
    traced := (← IO.getEnv "KODIAK_DEBUG") == some "1"
    home := ← IO.getEnv "HOME" }
  return (← PaveScript.Program.run env args).toUInt32
