import PaveScript.FileTree
import PaveScript.Session

/-!
# Hosts

What the program needs from the world around it: files, two streams to write to and lines to read.
The program is written against `Host`; `World` is a host that is a value, and the executable brings
one that is the system.
-/

namespace PaveScript

/-- How reading lines ended. -/
inductive LinesEnd where
  /-- The reader wanted no more lines. -/
  | stopped
  /-- There was no further line. -/
  | exhausted
  /-- The next line was no text. -/
  | failed (error : FileError)
deriving DecidableEq, Inhabited

/-- The world around the program. -/
class Host (m : Type → Type) where
  /-- The text of a file. -/
  readText : String → m (Except FileError String)
  /-- Whether there is anything at a path. -/
  isPresent : String → m Bool
  /-- Adds text to a file, which is made if there is none. -/
  appendText : String → String → m (Except FileError Unit)
  /-- Writes to the standard output. -/
  out : String → m Unit
  /-- Writes to the standard error stream. -/
  err : String → m Unit
  /-- Runs a computation that reads scripts; the first argument tells which ones it asked for. -/
  consult : {α : Type} → (α → List String) → (Library → α) → m α
  /-- Reads lines one by one, doing something before each, until the step wants no more. -/
  eachLine : {σ : Type} → (before : m Unit) → (step : σ → String → m (σ × Bool)) → σ →
    m (σ × LinesEnd)

/-- The parts of the environment that the program looks at. -/
structure Environment where
  /-- Whether to use colours. -/
  colored : Bool := false
  /-- Whether to write trace lines. -/
  traced : Bool := false
  /-- The home directory. -/
  home : Option String := none
deriving DecidableEq, Inhabited

/-- The scripts that an execution asked for. -/
def Report.pathsRead (r : Report) : List String :=
  r.events.filterMap fun
    | .read path => some path
    | _ => none

end PaveScript
