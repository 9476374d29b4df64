/-!
# File trees

A directory with all that is in it, as a value: texts are bytes, paths are resolved one component
after the other, and the failures are those of a file system. The directories above it can be
reached too; there is nothing else in them but what is put there.

## Termination

Resolving recurses on the components of a path, creating directories on their number.
-/

namespace PaveScript

/-- Why a file operation failed. -/
inductive FileError where
  | notFound
  | notDirectory
  | isDirectory
  | alreadyExists
  | busy
  | nameTooLong
  /-- The path holds a character that no path can hold. -/
  | invalidPath
  /-- The bytes are no text. -/
  | invalidText
  /-- Any other failure, in the words of the system. -/
  | other (message : String)
deriving DecidableEq, Inhabited

def FileError.message : FileError → String
  | notFound => "No such file or directory (os error 2)"
  | notDirectory => "Not a directory (os error 20)"
  | isDirectory => "Is a directory (os error 21)"
  | alreadyExists => "File exists (os error 17)"
  | busy => "Device or resource busy (os error 16)"
  | nameTooLong => "File name too long (os error 36)"
  | invalidPath => "file name contained an unexpected NUL byte"
  | invalidText => "stream did not contain valid UTF-8"
  | other message => message

/-- How a path ends, which matters for what it may name. -/
inductive PathEnd where
  | name
  /-- In a slash after a name: only a directory fits. -/
  | slash
  /-- In a single dot. -/
  | dot
deriving DecidableEq, Inhabited

/-- A component of a path, with the bytes that the path has up to its end. -/
structure PathPart where
  name : String
  stop : Nat

/-- A path as it is written: its components without the single dots, its end, and its bytes. -/
structure PathText where
  parts : List PathPart
  ending : PathEnd
  size : Nat

/-- What stands between the slashes of a path, of which the first starts after some bytes. -/
def PathPart.ofPieces (start : Nat) : List String → List PathPart
  | [] => []
  | piece :: rest =>
    let stop := start + piece.utf8ByteSize
    ⟨piece, stop⟩ :: ofPieces (stop + 1) rest

/-- The bytes of a path that ends with its last component. -/
def PathPart.extent (parts : List PathPart) : Nat := (parts.getLast?.map (·.stop)).getD 0

/--
The components of a path. The empty path names the tree itself, as a directory; an absolute one
leads out of the tree.
-/
def PathText.ofText? (text : String) : Option PathText :=
  if text.startsWith "/" then none
  else
    let pieces := PathPart.ofPieces 0 (text.splitOn "/")
    let parts := pieces.filter fun p => !p.name.isEmpty
    let ending : PathEnd :=
      if (parts.getLast?.map (·.name)) == some "." then .dot
      else if (pieces.getLast?.map (·.name)) == some "" then .slash
      else .name
    some ⟨parts.filter (·.name != "."), ending, text.utf8ByteSize⟩

/-- What a place in a tree holds. -/
inductive FileEntry where
  | directory
  | file (bytes : List UInt8)
deriving DecidableEq, Inhabited

/--
A directory: every place with what it holds. A place is a list of names from the directory on,
after as many `..` as lead up from it.
-/
structure FileTree where
  entries : List (List String × FileEntry) := []
deriving Inhabited

namespace FileTree

/-- Whether a place is the tree itself or a directory above it. -/
def isTop (place : List String) : Bool := place.all (· == "..")

/-- The directory above a place. -/
def above (place : List String) : List String :=
  if isTop place then ".." :: place else place.dropLast

/-- What a place holds. The tree itself is a directory. -/
def entry? (t : FileTree) (place : List String) : Option FileEntry :=
  if isTop place then some .directory else t.entries.lookup place

def isDirectory (t : FileTree) (place : List String) : Bool := t.entry? place == some .directory

/-- Puts an entry at a place. -/
def insert (t : FileTree) (place : List String) (entry : FileEntry) : FileTree :=
  ⟨t.entries.filter (fun (p, _) => p != place) ++ [(place, entry)]⟩

/-- Puts a file at a place, with the directories above it. -/
def insertFile (t : FileTree) (place : List String) (bytes : List UInt8) : FileTree :=
  let above := (List.range place.length).map fun n => place.take n
  let missing := above.filter fun p => !t.isDirectory p
  (missing.foldl (fun t p => t.insert p .directory) t).insert place (.file bytes)

/-- The most bytes that the name of a file may have. -/
def nameLimit : Nat := 255

/-- The most bytes that a path may have. -/
def pathLimit : Nat := 4095

/-- Follows components from a directory; all but the last have to be directories. -/
def walk (t : FileTree) (place : List String) : List String → Except FileError (List String)
  | [] => .ok place
  | ".." :: rest => t.walk (above place) rest
  | part :: rest =>
    let next := place ++ [part]
    if nameLimit < part.utf8ByteSize then .error .nameTooLong
    else if rest.isEmpty then .ok next
    else
      match t.entry? next with
      | some .directory => t.walk next rest
      | some (.file _) => .error .notDirectory
      | none => .error .notFound

/--
The place of components below the tree, which a path of some bytes is made of. The whole path is
looked at before the tree is.
-/
def resolve (t : FileTree) (parts : List PathPart) (size : Nat) : Except FileError (List String) :=
  if parts.any fun p => p.name.contains '\x00' then .error .invalidPath
  else if pathLimit < size then .error .nameTooLong
  else t.walk [] (parts.map (·.name))

/-- The bytes of the file at a path. -/
def readBytes (t : FileTree) (path : String) : Except FileError (List UInt8) :=
  match PathText.ofText? path with
  | none => .error .notFound
  | some path => do
    match t.entry? (← t.resolve path.parts path.size) with
    | none => throw .notFound
    | some .directory => throw .isDirectory
    | some (.file bytes) => if path.ending = .name then return bytes else throw .notDirectory

/-- The text of the file at a path. -/
def read (t : FileTree) (path : String) : Except FileError String := do
  match String.fromUTF8? ⟨(← t.readBytes path).toArray⟩ with
  | some text => return text
  | none => throw .invalidText

/-- Whether there is anything at a path. -/
def isPresent (t : FileTree) (path : String) : Bool :=
  match t.readBytes path with
  | .ok _ => true
  | .error .isDirectory => true
  | .error _ => false

/-! ## Writing -/

/-- Makes one directory. -/
def makeDirectory (t : FileTree) (parts : List PathPart) : Except FileError FileTree := do
  let place ← t.resolve parts (PathPart.extent parts)
  if (t.entry? place).isSome then throw .alreadyExists else return t.insert place .directory

/-- Whether components lead to a directory. -/
def leadsToDirectory (t : FileTree) (parts : List PathPart) : Bool :=
  match t.resolve parts (PathPart.extent parts) with
  | .ok place => t.isDirectory place
  | .error _ => false

/--
Makes a directory with all that are missing above it, given its components in reverse. What could
be made stays made when a further one fails.
-/
def makeDirectories (t : FileTree) : List PathPart → Except FileError Unit × FileTree
  | [] => (.ok (), t)
  | last :: above =>
    let parts := (last :: above).reverse
    let unlessThere (e : FileError) (t : FileTree) : Except FileError Unit × FileTree :=
      (if t.leadsToDirectory parts then .ok () else .error e, t)
    match t.makeDirectory parts with
    | .ok t => (.ok (), t)
    | .error .notFound =>
      match t.makeDirectories above with
      | (.error e, t) => (.error e, t)
      | (.ok (), t) =>
        match t.makeDirectory parts with
        | .ok t => (.ok (), t)
        | .error e => unlessThere e t
    | .error e => unlessThere e t

/-- Puts new content in the place of the old one, in a directory that is there. -/
def replace (t : FileTree) (path : PathText) (text : String) : Except FileError FileTree := do
  let place ← t.resolve path.parts path.size
  if (path.parts.getLast?.map (·.name)) == some ".." then throw .busy
  match path.ending with
  | .slash => throw .notDirectory
  | .dot =>
    match t.entry? place with
    | some .directory => throw .busy
    | some (.file _) => throw .notDirectory
    | none => throw .notFound
  | .name =>
    if t.isDirectory place then throw .isDirectory
    return t.insert place (.file text.toUTF8.toList)

/--
Writes a whole file at once: the directories above it are made, and the new content takes the
place of the old one in a single step. A failure leaves every file as it was.
-/
def write (t : FileTree) (path text : String) : Except FileError Unit × FileTree :=
  match PathText.ofText? path with
  | none => (.error .notFound, t)
  | some path =>
    match t.makeDirectories path.parts.dropLast.reverse with
    | (.error e, t) => (.error e, t)
    | (.ok (), t) =>
      match t.replace path text with
      | .ok t => (.ok (), t)
      | .error e => (.error e, t)

/-- Old content with new text on a line of its own. -/
def appended (old text : String) : String :=
  if old.isEmpty || old.endsWith "\n" then old ++ text else old ++ "\n" ++ text

/-- Adds text to a file, which is made if there is none. -/
def append (t : FileTree) (path text : String) : Except FileError Unit × FileTree :=
  match t.read path with
  | .ok old => t.write path (appended old text)
  | .error .notFound => t.write path text
  | .error e => (.error e, t)

/-- The files below a tree with their paths. -/
def files (t : FileTree) : List (String × List UInt8) :=
  t.entries.filterMap fun (place, entry) =>
    match entry with
    | .file bytes =>
      if place.head? == some ".." then none else some (String.intercalate "/" place, bytes)
    | .directory => none

end FileTree

end PaveScript
