import PaveScript.Text.Normal.Table
import PaveScript.Text.Normalizer

/-!
# Canonical composition

Brings a text into Unicode normalization form C by the tables of the standard: decompose every
character, sort each run of marks by combining class, and compose again.

Inert characters cut the text into runs, and each run is brought into the form on its own. A run
without characters from U+0300 on is in that form already and is left unchanged.

## Termination

`decompose` follows the table at most `nesting` times; sorting and composing recurse on the list.
-/

namespace PaveScript.Text.Normal

/-! ## Tables -/

/-- Every listed character with its parts. -/
def decompositionTable : List (Nat × List Nat) :=
  (composites ++ decomposed).map (fun (c, a, b) => (c, [a, b])) ++
    (replaced ++ ideographs).map fun (c, a) => (c, [a])

/-- The combining class of a character; zero for those that start a cluster. -/
def classOf (c : Char) : Nat :=
  ((classes.find? fun (first, last, _) => first ≤ c.toNat && c.toNat ≤ last).map
    fun (_, _, k) => k).getD 0

/-! ## Hangul -/

/-- The first precomposed syllable. -/
def syllableBase : Nat := 0xAC00

/-- The first leading, vowel and trailing letters; no syllable uses the first trailing one. -/
def leadBase : Nat := 0x1100
def vowelBase : Nat := 0x1161
def trailBase : Nat := 0x11A7

/-- Whether a number is that of a precomposed syllable. -/
def isSyllable (n : Nat) : Bool := syllableBase ≤ n && n < syllableBase + 19 * 21 * 28

/-- The letters of a syllable: a leading letter, a vowel and, unless open, a trailing letter. -/
def letters (i : Nat) : List Nat :=
  [leadBase + i / (21 * 28), vowelBase + i % (21 * 28) / 28] ++
    if i % 28 = 0 then [] else [trailBase + i % 28]

/-- The syllable of a leading letter and a vowel, or of an open syllable and a trailing letter. -/
def composeSyllable? (a b : Char) : Option Char :=
  let x := a.toNat
  let y := b.toNat
  if leadBase ≤ x && x < leadBase + 19 && vowelBase ≤ y && y < vowelBase + 21 then
    some (Char.ofNat (syllableBase + ((x - leadBase) * 21 + (y - vowelBase)) * 28))
  else if isSyllable x && (x - syllableBase) % 28 == 0 && trailBase < y && y < trailBase + 28 then
    some (Char.ofNat (x + (y - trailBase)))
  else none

/-! ## The three steps -/

/-- The parts of a character that decomposes. No character below U+00C0 does. -/
def parts? (c : Char) : Option (List Char) :=
  if c.toNat < 0xC0 then none
  else if isSyllable c.toNat then some ((letters (c.toNat - syllableBase)).map Char.ofNat)
  else (decompositionTable.lookup c.toNat).map (·.map Char.ofNat)

/-- How deep decompositions nest in the table. -/
def nesting : Nat := 4

/-- The full decomposition of a character, following at most `depth` mappings. -/
def decompose : (depth : Nat) → Char → List Char
  | 0, c => [c]
  | depth + 1, c =>
    match parts? c with
    | none => [c]
    | some parts => parts.flatMap (decompose depth)

/-- Puts a mark before the marks of higher class at the front of a list. -/
def insertMark (c : Char) : List Char → List Char
  | [] => [c]
  | d :: rest =>
    if classOf d ≠ 0 ∧ classOf d < classOf c then d :: insertMark c rest else c :: d :: rest

/-- Sorts each run of marks by class; marks of one class keep their order. -/
def order : List Char → List Char
  | [] => []
  | c :: rest => if classOf c = 0 then c :: order rest else insertMark c (order rest)

/-- The character that two characters compose to. -/
def compose? (a b : Char) : Option Char :=
  match composeSyllable? a b with
  | some c => some c
  | none =>
    (composites.find? fun (_, x, y) => x == a.toNat && y == b.toNat).map
      fun (c, _, _) => Char.ofNat c

/-- The class of the last mark that waits; zero when none does. `waiting` is in reverse. -/
def openClass : (waiting : List Char) → Nat
  | [] => 0
  | w :: _ => classOf w

/--
Composes the marks after a starter with it. `waiting` holds the marks since the starter that did
not compose, in reverse, and blocks later marks of the same or a lower class.
-/
def composeFrom (starter : Char) (waiting : List Char) : List Char → List Char
  | [] => starter :: waiting.reverse
  | c :: rest =>
    let blocked := !waiting.isEmpty && classOf c ≤ openClass waiting
    match if blocked then none else compose? starter c with
    | some composed => composeFrom composed waiting rest
    | none =>
      if classOf c = 0 then starter :: waiting.reverse ++ composeFrom c [] rest
      else composeFrom starter (c :: waiting) rest

/-- Composes a decomposed and ordered text. Marks before the first starter stay as they are. -/
def composeAll : List Char → List Char
  | [] => []
  | c :: rest => if classOf c = 0 then composeFrom c [] rest else c :: composeAll rest

/-- A text decomposed, ordered and composed again. -/
def recompose (cs : List Char) : List Char :=
  composeAll (order (cs.flatMap (decompose nesting)))

/-- The normalization form C of a run of characters. -/
def normalizeRun (cs : List Char) : List Char :=
  if cs.all fun c => c.toNat < 0x300 then cs else recompose cs

/-- The normalization form C of a text; `run` holds the characters of the open run in reverse. -/
def normalizeFrom (run : List Char) : List Char → List Char
  | [] => normalizeRun run.reverse
  | c :: cs =>
    if isInert c then normalizeRun run.reverse ++ c :: normalizeFrom [] cs
    else normalizeFrom (c :: run) cs

/-- The normalization form C of a text. -/
def normalize (cs : List Char) : List Char := normalizeFrom [] cs

end PaveScript.Text.Normal
