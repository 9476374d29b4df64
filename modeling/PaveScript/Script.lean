import PaveScript.Grammar.Statement
import PaveScript.Text.Lines
import PaveScript.Token.Lexer

/-!
# Scripts

A script is a text read statement by statement. Statements are separated by semicolons, empty ones
do not count, and a statement that fails costs only the text up to the next semicolon.

## Termination

`Script.step` consumes the first token of a statement, so the tokens that are left get fewer with
every statement.
-/

namespace PaveScript

/-- A script that is being read: what scanning found in it, and what is left of it. -/
structure Script where
  scan : Scan
  /-- Reports of skipped characters that nobody has collected yet. -/
  pending : List Error
  rest : List Token

/-- A statement with the text it was read from. -/
structure Parsed where
  statement : Statement
  text : String
  /-- Whether a character was skipped inside the statement. -/
  skipped : Bool
deriving DecidableEq, Inhabited

namespace Script

/-- The script of a scanned text, nothing of it read. -/
def ofScan (scan : Scan) : Script := ⟨scan, scan.errors, scan.tokens⟩

/-- The script of a text, nothing of it read. -/
def ofText [Text.Normalizer] (text : String) : Script := ofScan (Scan.ofText text)

/-- The number of tokens consumed so far. -/
def consumed (s : Script) : Nat := s.scan.tokens.length - s.rest.length

/-- The last token consumed before `rest`. -/
def lastBefore? (s : Script) (rest : List Token) : Option Token :=
  (s.scan.tokens.take (s.scan.tokens.length - rest.length)).getLast?

/-- The byte offset where the last token before `rest` ends; zero before the first token. -/
def endBefore (s : Script) (rest : List Token) : Nat :=
  ((s.lastBefore? rest).map Token.endOffset).getD 0

/-- The byte offset of the first token of `rest`, or of the end of the input. -/
def startOf (s : Script) (rest : List Token) : Nat :=
  (rest.head?.map fun t => t.start.offset).getD s.scan.stop.offset

/-- Hands over the reports of skipped characters. -/
def takePending (s : Script) : List Error × Script :=
  (s.pending, { s with pending := [] })

/-! ## Statements -/

def isSemicolon (t : Token) : Bool := t.kind = .symbol .semicolon

/-- What is left after the next semicolon. -/
def resync (ts : List Token) : List Token :=
  (ts.dropWhile fun t => !isSemicolon t).drop 1

/-- The statement that starts with `head`, up to a semicolon or the end of the input. -/
def closedStatement (safe : Bool) (head : Token) : Phrase Statement := do
  let s ← Grammar.statement safe head
  match ← Phrase.peekKind with
  | none => return s
  | some kind => if kind = .symbol .semicolon then return s else Phrase.complain .statementEnd

/-- The statement read between `before`, where it starts, and `rest`, with its text. -/
def parsed (s : Script) (statement : Statement) (before rest : List Token) : Parsed where
  statement := statement
  text := String.ofList
    (Text.trim (Text.slice s.scan.source (s.startOf before) (s.endBefore rest)))
  skipped := s.scan.skippedOffsets.any fun offset =>
    s.endBefore before ≤ offset && offset < s.startOf rest

/-- What reading one statement gives. -/
inductive Step where
  /-- There is no statement left. -/
  | done
  | parsed (statement : Parsed)
  | failed (error : Error)
deriving DecidableEq, Inhabited

/--
Reads the next statement. After a failure the script goes on behind the next semicolon that the
failed statement has not consumed.
-/
def step (safe : Bool) (s : Script) : Step × Script :=
  match s.rest.dropWhile isSemicolon with
  | [] => (.done, { s with rest := [] })
  | head :: ts =>
    match (closedStatement safe head).run ts with
    | .ok statement rest =>
      (.parsed (s.parsed statement (head :: ts) rest),
        { s with rest := rest.drop 1 })
    | .fail fault rest => (.failed (fault.error s.scan.stop), { s with rest := resync rest })

theorem length_resync_le (ts : List Token) : (resync ts).length ≤ ts.length := by
  have := (List.dropWhile_suffix (l := ts) fun t => !isSemicolon t).length_le
  simp only [resync, List.length_drop]
  omega

/-- **Every statement consumes a token,** whether it fails or not. -/
theorem length_rest_step {safe : Bool} {s s' : Script} {r : Step} (h : s.step safe = (r, s'))
    (hr : r ≠ .done) : s'.rest.length < s.rest.length := by
  unfold step at h
  have hle := (List.dropWhile_suffix (l := s.rest) isSemicolon).length_le
  split at h
  · next => simp only [Prod.mk.injEq] at h; exact absurd h.1.symm hr
  · next head ts hts =>
    have hrun := (closedStatement safe head).length_rest_le ts
    rw [hts, List.length_cons] at hle
    split at h <;> next _ rest hrest =>
      simp only [Prod.mk.injEq] at h
      rw [← h.2]
      rw [hrest, Outcome.rest] at hrun
      have := length_resync_le rest
      simp only [List.length_drop]
      omega

/-- The statements that are left, up to the first that fails, and where the script stands then. -/
def statements (safe : Bool) (s : Script) : Except Error (List Statement) × Script :=
  match _h : s.step safe with
  | (.done, s') => (.ok [], s')
  | (.failed error, s') => (.error error, s')
  | (.parsed p, s') =>
    match statements safe s' with
    | (.ok rest, s'') => (.ok (p.statement :: rest), s'')
    | (.error error, s'') => (.error error, s'')
termination_by s.rest.length
decreasing_by exact length_rest_step _h (by simp)

/-- All statements that are left. The first error of any kind fails the whole script. -/
def readAll (safe : Bool) (s : Script) : Except Error (List Statement) × Script :=
  match s.pending.head? with
  | some error => (.error error, s)
  | none => s.statements safe

/-- Reads one phrase of the grammar from where the script stands. -/
def read {α : Type} (p : Phrase α) (s : Script) : Except Error α × Script :=
  match p.run s.rest with
  | .ok a rest => (.ok a, { s with rest })
  | .fail fault rest => (.error (fault.error s.scan.stop), { s with rest })

/-- What a trace tells about reading on after a failure. -/
def resyncTrace (s : Script) : String :=
  "[parser] resynchronised at token " ++ toString s.consumed

end Script

end PaveScript
