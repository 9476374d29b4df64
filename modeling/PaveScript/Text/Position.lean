/-!
# Positions in a text

A position counts lines and columns from one, in characters, and bytes of UTF-8 from zero. The
position of a place is what the text before it makes of the start: nothing else is kept.
-/

namespace PaveScript

/-- A place in a text. -/
structure Position where
  line : Nat
  column : Nat
  offset : Nat
deriving DecidableEq, Inhabited

namespace Position

/-- The start of a text. -/
def start : Position := ⟨1, 1, 0⟩

/-- The place after one more character. -/
def advance (p : Position) (c : Char) : Position :=
  if c = '\n' then ⟨p.line + 1, 1, p.offset + c.utf8Size⟩
  else ⟨p.line, p.column + 1, p.offset + c.utf8Size⟩

/-- The place after some more text. -/
def after (p : Position) (cs : List Char) : Position :=
  cs.foldl advance p

@[simp]
theorem after_nil (p : Position) : p.after [] = p := rfl

@[simp]
theorem after_cons (p : Position) (c : Char) (cs : List Char) :
    p.after (c :: cs) = (p.advance c).after cs := rfl

theorem after_append (p : Position) (cs ds : List Char) :
    p.after (cs ++ ds) = (p.after cs).after ds := by
  simp [after, List.foldl_append]

/-- Line and column as a reader names them, `line:column`. -/
def text (p : Position) : String :=
  toString p.line ++ ":" ++ toString p.column

end Position

namespace Text

/-- The number of bytes of a text. -/
def byteSize : List Char → Nat
  | [] => 0
  | c :: cs => c.utf8Size + byteSize cs

@[simp]
theorem byteSize_nil : byteSize [] = 0 := rfl

@[simp]
theorem byteSize_cons (c : Char) (cs : List Char) :
    byteSize (c :: cs) = c.utf8Size + byteSize cs := rfl

@[simp]
theorem byteSize_append (cs ds : List Char) :
    byteSize (cs ++ ds) = byteSize cs + byteSize ds := by
  induction cs with
  | nil => simp
  | cons c cs ih => simp [ih, Nat.add_assoc]

/-- **Offsets count the bytes of the text in between.** -/
theorem offset_after (p : Position) (cs : List Char) :
    (p.after cs).offset = p.offset + byteSize cs := by
  induction cs generalizing p with
  | nil => rfl
  | cons c cs ih =>
    rw [Position.after_cons, ih, byteSize_cons, Position.advance]
    split <;> simp only [Nat.add_assoc]

/-- The text from a byte offset on. -/
def dropBytes : Nat → List Char → List Char
  | 0, cs => cs
  | _ + 1, [] => []
  | n + 1, c :: cs => dropBytes (n + 1 - c.utf8Size) cs

/-- The first bytes of a text. -/
def takeBytes : Nat → List Char → List Char
  | 0, _ => []
  | _ + 1, [] => []
  | n + 1, c :: cs => c :: takeBytes (n + 1 - c.utf8Size) cs

/-- The part of a text between two byte offsets. -/
def slice (cs : List Char) (first last : Nat) : List Char :=
  takeBytes (last - first) (dropBytes first cs)

/-- The text after a number of line ends, with its byte offset; nothing if there are too few. -/
def skipLines : Nat → Nat → List Char → Option (Nat × List Char)
  | 0, offset, cs => some (offset, cs)
  | _ + 1, _, [] => none
  | n + 1, offset, c :: cs =>
    if c = '\n' then skipLines n (offset + c.utf8Size) cs
    else skipLines (n + 1) (offset + c.utf8Size) cs

/-- The byte offset of the character at a line and a column, both counted from one. -/
def byteOffset? (cs : List Char) (line column : Nat) : Option Nat := do
  let (offset, rest) ← skipLines (line - 1) 0 cs
  if column = 0 then none
  else if column - 1 < rest.length then some (offset + byteSize (rest.take (column - 1)))
  else none

end Text

end PaveScript
