import PaveScript.Host

/-!
# Worlds

A host that is a value: a file tree, the lines of the standard input, and what was written so far.
Running the program in a world is a function.

## Termination

`eachLineFrom` recurses on the lines that are left.
-/

namespace PaveScript

/-- A world. A line that is no text stands as nothing. -/
structure World where
  files : FileTree := {}
  input : List (Option String) := []
  stdout : String := ""
  stderr : String := ""
deriving Inhabited

namespace World

/-- Lines of bytes: each without the line feed that ends it and a carriage return before that. -/
def byteLinesFrom (current : List UInt8) : List UInt8 → List (List UInt8)
  | [] => if current.isEmpty then [] else [current.reverse]
  | b :: rest =>
    if b = 10 then
      (match current with
        | 13 :: line => line.reverse
        | line => line.reverse) :: byteLinesFrom [] rest
    else byteLinesFrom (b :: current) rest

/-- The lines of a stream of bytes. -/
def inputLines (bytes : List UInt8) : List (Option String) :=
  (byteLinesFrom [] bytes).map fun line => String.fromUTF8? ⟨line.toArray⟩

/-- The scripts that a world has. -/
def library (w : World) : Library := fun path =>
  match w.files.read path with
  | .ok text => .ok text
  | .error e => .error e.message

/-- Goes through lines until the step wants no more; the rest of the lines stays. -/
def eachLineFrom {σ : Type} (before : StateM World Unit)
    (step : σ → String → StateM World (σ × Bool)) (s : σ) :
    List (Option String) → StateM World (σ × LinesEnd)
  | [] => do
    before
    modify fun w => { w with input := [] }
    return (s, .exhausted)
  | none :: rest => do
    before
    modify fun w => { w with input := rest }
    return (s, .failed .invalidText)
  | some line :: rest => do
    before
    modify fun w => { w with input := rest }
    match ← step s line with
    | (s, true) => eachLineFrom before step s rest
    | (s, false) => return (s, .stopped)

instance : Host (StateM World) where
  readText path := do return (← get).files.read path
  isPresent path := do return (← get).files.isPresent path
  appendText path text := do
    let (outcome, files) := (← get).files.append path text
    modify fun w => { w with files }
    return outcome
  out text := modify fun w => { w with stdout := w.stdout ++ text }
  err text := modify fun w => { w with stderr := w.stderr ++ text }
  consult _ f := do return f (← get).library
  eachLine before step s := do eachLineFrom before step s (← get).input

end World

end PaveScript
