import Mathlib.Data.List.Pairwise
import PaveScript.Proofs.Tiling
import PaveScript.Smt.Token

/-!
# Places in the prefix dialect

A text is cut into chunks that follow each other without a gap: blanks, comments, tokens and
characters that start no token. The scanner counts lines and columns as it goes along, and leaves
comments out of the count. Nothing but the end of the text can follow a comment on its line, so the
places of all tokens and reports are right, and only the end of a text is misplaced: when its last
line holds a comment, the end is where that comment begins.

* `isCut` — every text is cut into chunks, and its scan is read off them
* `mem_errors_iff` — which characters are reported
* `Scan.placed_ofText` — the places of the tokens, of the reports and of the end
-/

namespace PaveScript

namespace Text

/-! ## Lines -/

/-- What stands on the last line of a text. -/
def lastLine (a : List Char) : List Char := (a.reverse.takeWhile (· ≠ '\n')).reverse

theorem columnOf_eq (a : List Char) : columnOf a = 1 + (lastLine a).length := by
  rw [columnOf, lastLine, List.length_reverse]

theorem lastLine_newline (a : List Char) : lastLine (a ++ ['\n']) = [] := by
  simp [lastLine]

theorem lastLine_append {w : List Char} (h : '\n' ∉ w) (a : List Char) :
    lastLine (a ++ w) = lastLine a ++ w := by
  have hw : ∀ c ∈ w.reverse, decide (c ≠ '\n') = true := by
    intro c hc
    rw [List.mem_reverse] at hc
    simp only [ne_eq, decide_eq_true_eq]
    rintro rfl
    exact h hc
  rw [lastLine, lastLine, List.reverse_append, List.takeWhile_append_of_pos hw,
    List.reverse_append, List.reverse_reverse]

theorem lineOf_append (a w : List Char) : lineOf (a ++ w) = lineOf a + w.count '\n' := by
  simp only [lineOf, List.count_append]
  omega

theorem lineOf_append_of_notMem {w : List Char} (h : '\n' ∉ w) (a : List Char) :
    lineOf (a ++ w) = lineOf a := by
  rw [lineOf_append, List.count_eq_zero.mpr h, Nat.add_zero]

theorem columnOf_append {w : List Char} (h : '\n' ∉ w) (a : List Char) :
    columnOf (a ++ w) = columnOf a + w.length := by
  rw [columnOf_eq, columnOf_eq, lastLine_append h, List.length_append, Nat.add_assoc]

/-- The place `p`, a line and a column, is not behind the place `q`. -/
def UpTo (p q : Nat × Nat) : Prop := p.1 < q.1 ∨ p.1 = q.1 ∧ p.2 ≤ q.2

/-- Line and column of the place behind a text. -/
def placeOf (a : List Char) : Nat × Nat := (lineOf a, columnOf a)

/-- More text leads on. -/
theorem upTo_of_prefix {a b : List Char} (h : a <+: b) : UpTo (placeOf a) (placeOf b) := by
  obtain ⟨w, rfl⟩ := h
  by_cases hw : '\n' ∈ w
  · left
    show lineOf a < lineOf (a ++ w)
    rw [lineOf_append]
    exact Nat.lt_add_of_pos_right (List.count_pos_iff.mpr hw)
  · right
    refine ⟨(lineOf_append_of_notMem hw a).symm, ?_⟩
    show columnOf a ≤ columnOf (a ++ w)
    rw [columnOf_append hw]
    exact Nat.le_add_right ..

/-- The place behind some text on one line. -/
theorem placeOf_append {w : List Char} (h : '\n' ∉ w) (a : List Char) :
    placeOf (a ++ w) = (lineOf a, columnOf a + w.length) := by
  rw [placeOf, lineOf_append_of_notMem h, columnOf_append h]

/-- Two beginnings of a text with one place are one. -/
theorem eq_of_placeOf {a b text : List Char} (ha : a <+: text) (hb : b <+: text)
    (h : placeOf a = placeOf b) : a = b := by
  -- what the longer one has more holds no line end and no column
  have key : ∀ {a w : List Char}, placeOf a = placeOf (a ++ w) → w = [] := by
    intro a w h
    obtain ⟨hline, hcolumn⟩ := Prod.mk.inj h
    rw [lineOf_append] at hline
    have hw : '\n' ∉ w := List.count_eq_zero.mp (by omega)
    rw [columnOf_append hw] at hcolumn
    exact List.length_eq_zero_iff.mp (by omega)
  rcases List.prefix_or_prefix_of_prefix ha hb with ⟨w, rfl⟩ | ⟨w, rfl⟩
  · rw [key h, List.append_nil]
  · rw [key h.symm, List.append_nil]

end Text

namespace Smt

open Text

/-! ## Characters of a token -/

/-- The characters that never stand in a token: the line end and the mark of a comment. -/
def leavesToken (c : Char) : Bool := c == '\n' || c == '#'

/-- A character that is neither the end of a line nor the mark of a comment. -/
theorem ne_of_leavesToken {c : Char} (h : leavesToken c = false) : c ≠ '\n' ∧ c ≠ '#' := by
  simpa [leavesToken] using h

theorem hexRest_prefix (last : Char) (cs : List Char) : hexRest last cs <+: cs := by
  induction cs generalizing last with
  | nil => exact List.prefix_rfl
  | cons c cs ih =>
    rw [hexRest]
    split
    · exact List.cons_prefix_cons.mpr ⟨rfl, ih c⟩
    · exact List.nil_prefix

theorem leavesToken_of_mem_hexRest {last d : Char} {cs : List Char} (h : d ∈ hexRest last cs) :
    leavesToken d = false := by
  induction cs generalizing last with
  | nil => cases h
  | cons c cs ih =>
    rw [hexRest] at h
    split at h
    · next hc =>
      rcases List.mem_cons.mp h with rfl | h
      · by_contra hleaves
        simp only [leavesToken, Bool.not_eq_false, Bool.or_eq_true, beq_iff_eq] at hleaves
        rcases hleaves with rfl | rfl <;> simp [Digits.isHex, Digits.hexValue?] at hc
      · exact ih h
    · cases h

theorem leavesToken_of_mem_takeWhile {f : Char → Bool} (hline : f '\n' = false)
    (hmark : f '#' = false) {d : Char} {cs : List Char} (h : d ∈ cs.takeWhile f) :
    leavesToken d = false := by
  have hd : f d = true := List.mem_takeWhile_imp h
  by_contra hleaves
  simp only [leavesToken, Bool.not_eq_false, Bool.or_eq_true, beq_iff_eq] at hleaves
  rcases hleaves with rfl | rfl
  · exact absurd (hline.symm.trans hd) (by decide)
  · exact absurd (hmark.symm.trans hd) (by decide)

/-- The rest of a token stands at the head of the text, on one line and in front of comments. -/
structure GoesOn (cs rest : List Char) : Prop where
  isPrefix : rest <+: cs
  leaves : ∀ d ∈ rest, leavesToken d = false

theorem goesOn_hexRest (mark : Char) (hmark : leavesToken mark = false) (cs : List Char) :
    GoesOn (mark :: cs) (mark :: hexRest mark cs) := by
  refine ⟨List.cons_prefix_cons.mpr ⟨rfl, hexRest_prefix mark cs⟩, ?_⟩
  intro d hd
  rcases List.mem_cons.mp hd with rfl | hd
  · exact hmark
  · exact leavesToken_of_mem_hexRest hd

theorem goesOn_scanNumber (c : Char) (cs : List Char) : GoesOn cs (scanNumber c cs).2 := by
  unfold scanNumber
  split
  · exact goesOn_hexRest 'x' (by decide) _
  · exact goesOn_hexRest 'X' (by decide) _
  · exact ⟨List.takeWhile_prefix _, fun d => leavesToken_of_mem_takeWhile (by decide) (by decide)⟩

theorem goesOn_scanWord (c : Char) (cs : List Char) : GoesOn cs (scanWord c cs).2 :=
  ⟨List.takeWhile_prefix _, fun _ => leavesToken_of_mem_takeWhile (by decide) (by decide)⟩

theorem goesOn_of_scanToken {c : Char} {cs rest : List Char} {kind : TokenKind}
    (h : scanToken? c cs = some (kind, rest)) : GoesOn cs rest := by
  unfold scanToken? at h
  split at h
  · have := goesOn_scanNumber c cs
    rwa [Option.some.inj h] at this
  · split at h
    · have := goesOn_scanWord c cs
      rwa [Option.some.inj h] at this
    · obtain ⟨k, -, hk⟩ := Option.map_eq_some_iff.mp h
      obtain ⟨-, rfl⟩ := Prod.mk.inj hk
      exact ⟨List.nil_prefix, fun d hd => by cases hd⟩

/-- No line end and no comment stands in a token. -/
theorem leavesToken_of_scanToken {c d : Char} {cs rest : List Char} {kind : TokenKind}
    (hc : leavesToken c = false) (h : scanToken? c cs = some (kind, rest)) (hd : d ∈ c :: rest) :
    leavesToken d = false := by
  rcases List.mem_cons.mp hd with rfl | hd
  · exact hc
  · exact (goesOn_of_scanToken h).leaves d hd

/-! ## Chunks -/

def isBlank (c : Char) : Bool := c == '\n' || c == ' ' || c == '\t' || c == '\r'

/-- The column that is counted behind a text: a comment on the last line is left out. -/
def countedColumn (a : List Char) : Nat := 1 + ((lastLine a).takeWhile (· ≠ '#')).length

theorem takeWhile_of_notMem {w : List Char} (h : '#' ∉ w) : w.takeWhile (· ≠ '#') = w := by
  refine List.takeWhile_eq_self_iff.mpr ?_
  intro c hc
  simp only [ne_eq, decide_eq_true_eq]
  rintro rfl
  exact h hc

/-- The count is right unless there is a comment on the last line. -/
theorem countedColumn_eq_iff {a : List Char} : countedColumn a = columnOf a ↔ '#' ∉ lastLine a := by
  rw [countedColumn, columnOf_eq]
  constructor
  · intro h hmem
    have hself : (lastLine a).takeWhile (· ≠ '#') = lastLine a :=
      (List.takeWhile_prefix _).eq_of_length (by omega)
    have hhash := List.takeWhile_eq_self_iff.mp hself '#' hmem
    simp at hhash
  · intro h
    rw [takeWhile_of_notMem h]

theorem countedColumn_newline (a : List Char) : countedColumn (a ++ ['\n']) = 1 := by
  rw [countedColumn, lastLine_newline]
  rfl

/-- A comment does not change the count. -/
theorem countedColumn_comment {a body : List Char} (ha : '#' ∉ lastLine a)
    (hbody : '\n' ∉ '#' :: body) : countedColumn (a ++ '#' :: body) = countedColumn a := by
  have hcut : (lastLine a ++ '#' :: body).takeWhile (· ≠ '#') = lastLine a := by
    rw [List.takeWhile_append_of_pos (List.takeWhile_eq_self_iff.mp (takeWhile_of_notMem ha))]
    simp
  rw [countedColumn, countedColumn, lastLine_append hbody, hcut, takeWhile_of_notMem ha]

/-- The text `w` leads on along a line without a comment. -/
structure LeadsOn (a w : List Char) : Prop where
  line : lineOf (a ++ w) = lineOf a
  column : countedColumn (a ++ w) = countedColumn a + w.length
  uncommented : '#' ∉ lastLine (a ++ w)

theorem leadsOn {a w : List Char} (ha : '#' ∉ lastLine a) (hw : ∀ d ∈ w, leavesToken d = false) :
    LeadsOn a w := by
  have hnewline : '\n' ∉ w := fun h => absurd (hw _ h) (by decide)
  have hhash : '#' ∉ lastLine (a ++ w) := by
    rw [lastLine_append hnewline, List.mem_append]
    rintro (h | h)
    · exact ha h
    · exact absurd (hw _ h) (by decide)
  refine ⟨lineOf_append_of_notMem hnewline a, ?_, hhash⟩
  rw [countedColumn_eq_iff.mpr hhash, countedColumn_eq_iff.mpr ha, columnOf_append hnewline]

/-- A part of a text that scanning takes in one go. -/
inductive Chunk where
  | blank (c : Char)
  /-- A comment without the `#` that opens it. -/
  | comment (body : List Char)
  | token (kind : TokenKind) (lexeme : List Char)
  /-- A character that starts no token. -/
  | illegal (c : Char)

namespace Chunk

def text : Chunk → List Char
  | blank c => [c]
  | comment body => '#' :: body
  | token _ lexeme => lexeme
  | illegal c => [c]

/-- What a chunk is between the text `a` and the text `rest`. Only the end of a line follows a
comment, and a token is the one that its first character starts. -/
def Fits (a rest : List Char) : Chunk → Prop
  | blank c => isBlank c = true
  | comment body => '\n' ∉ body ∧ ∀ c ∈ rest.head?, c = '\n'
  | token kind lexeme => '#' ∉ lastLine a ∧ (∀ d ∈ lexeme, leavesToken d = false) ∧
      ∃ c cs, lexeme = c :: cs ∧ isBlank c = false ∧ scanToken? c (cs ++ rest) = some (kind, cs)
  | illegal c => '#' ∉ lastLine a ∧ isBlank c = false ∧ c ≠ '#' ∧ scanToken? c rest = none

/-- The text of chunks in a row. -/
def textOf (ss : List Chunk) : List Char := ss.flatMap text

theorem textOf_cons (s : Chunk) (ss : List Chunk) : textOf (s :: ss) = s.text ++ textOf ss :=
  rfl

/-- Every chunk behind the text `a` is what it has to be. -/
def AllFit (a : List Char) : List Chunk → Prop
  | [] => True
  | s :: ss => s.Fits a (textOf ss) ∧ AllFit (a ++ s.text) ss

/-- The chunks behind the text `a`, each with the text before it. -/
def spans (a : List Char) : List Chunk → List (List Char × Chunk)
  | [] => []
  | s :: ss => (a, s) :: spans (a ++ s.text) ss

/-- The token that a chunk is, at the place behind the text before it. -/
def token? : List Char × Chunk → Option Token
  | (a, token kind lexeme) => some ⟨kind, String.ofList lexeme, lineOf a, columnOf a⟩
  | _ => none

/-- The report of a character that starts no token. -/
def error? : List Char × Chunk → Option Error
  | (a, illegal c) => some (.illegal c (lineOf a) (columnOf a))
  | _ => none

/-- The scan of chunks behind the text `a`. -/
def scanOf (a : List Char) (ss : List Chunk) : Scan where
  tokens := (spans a ss).filterMap token?
  errors := (spans a ss).filterMap error?
  stopLine := lineOf (a ++ textOf ss)
  stopColumn := countedColumn (a ++ textOf ss)

theorem scanOf_nil (a : List Char) : scanOf a [] = ⟨[], [], lineOf a, countedColumn a⟩ := by
  simp [scanOf, spans, textOf]

/-- One more chunk in front adds its token or its report. -/
theorem scanOf_cons (a : List Char) (s : Chunk) (ss : List Chunk) :
    scanOf a (s :: ss) =
      { scanOf (a ++ s.text) ss with
        tokens := (token? (a, s)).toList ++ (scanOf (a ++ s.text) ss).tokens
        errors := (error? (a, s)).toList ++ (scanOf (a ++ s.text) ss).errors } := by
  simp only [scanOf, spans, textOf_cons, List.append_assoc]
  cases s <;> rfl

end Chunk

open Chunk

/-! ## Cutting a text -/

/-- Behind a comment comes a line end or nothing. -/
theorem eq_newline_of_comment {c : Char} {cs : List Char}
    (hc : c ∈ (cs.drop (cs.takeWhile (· != '\n')).length).head?) : c = '\n' := by
  obtain ⟨ds, hds⟩ := List.head?_eq_some_iff.mp hc
  have hsplit := List.prefix_iff_eq_append.mp (cs.takeWhile_prefix (· != '\n'))
  exact Lexer.eq_newline_of_takeWhile (hds ▸ hsplit.symm)

/-- A character that is scanned is no blank and opens no comment. -/
theorem scanFrom_of_leavesToken {c : Char} (hc : leavesToken c = false)
    (hblank : isBlank c = false) (line column : Nat) (cs : List Char) :
    scanFrom line column (c :: cs) =
      match scanToken? c cs with
      | some (kind, rest) =>
        (scanFrom line (column + 1 + rest.length) (cs.drop rest.length)).addToken
          ⟨kind, String.ofList (c :: rest), line, column⟩
      | none => (scanFrom line (column + 1) cs).addError (.illegal c line column) := by
  obtain ⟨hnewline, hhash⟩ := ne_of_leavesToken hc
  have hspace : ¬(c == ' ' || c == '\t' || c == '\r') = true := by
    simpa [isBlank, hnewline] using hblank
  cases htoken : scanToken? c cs <;>
    simp only [scanFrom, if_neg hnewline, if_neg hspace, if_neg hhash, htoken]

/-- The text `cs` behind `a` is cut into chunks, and its scan is read off them. -/
def IsCut (a cs : List Char) : Prop :=
  ∃ ss, AllFit a ss ∧ textOf ss = cs ∧ scanFrom (lineOf a) (countedColumn a) cs = scanOf a ss

namespace IsCut

variable {a cs rest : List Char} {c : Char}

theorem nil (a : List Char) : IsCut a [] := by
  refine ⟨[], trivial, rfl, ?_⟩
  rw [scanOf_nil, scanFrom]

/-- One more chunk in front. -/
theorem cons {s : Chunk} (hs : s.Fits a rest) (h : IsCut (a ++ s.text) rest)
    (hscan : scanFrom (lineOf a) (countedColumn a) (s.text ++ rest) =
      let behind := scanFrom (lineOf (a ++ s.text)) (countedColumn (a ++ s.text)) rest
      { behind with
        tokens := (token? (a, s)).toList ++ behind.tokens
        errors := (error? (a, s)).toList ++ behind.errors }) :
    IsCut a (s.text ++ rest) := by
  obtain ⟨ss, hfit, rfl, hbehind⟩ := h
  refine ⟨s :: ss, ⟨hs, hfit⟩, rfl, ?_⟩
  rw [hscan, scanOf_cons, hbehind]

theorem newline (h : IsCut (a ++ ['\n']) cs) : IsCut a ('\n' :: cs) := by
  refine h.cons (s := .blank '\n') rfl ?_
  have hline : lineOf (a ++ ['\n']) = lineOf a + 1 := by
    rw [lineOf_append]
    rfl
  simp only [text, List.singleton_append, hline, countedColumn_newline]
  rw [scanFrom, if_pos rfl]
  rfl

theorem blank (ha : '#' ∉ lastLine a) (hc : leavesToken c = false) (hblank : isBlank c = true)
    (h : IsCut (a ++ [c]) cs) : IsCut a (c :: cs) := by
  obtain ⟨hnewline, -⟩ := ne_of_leavesToken hc
  have hspace : (c == ' ' || c == '\t' || c == '\r') = true := by
    simpa [isBlank, hnewline] using hblank
  obtain ⟨hline, hcolumn, -⟩ := leadsOn (w := [c]) ha (by simpa using hc)
  refine h.cons (s := .blank c) hblank ?_
  simp only [text, List.singleton_append, hline, hcolumn]
  rw [scanFrom, if_neg hnewline, if_pos hspace]
  rfl

theorem comment (ha : '#' ∉ lastLine a)
    (h : IsCut (a ++ '#' :: cs.takeWhile (· != '\n'))
      (cs.drop (cs.takeWhile (· != '\n')).length)) : IsCut a ('#' :: cs) := by
  have hbody : '\n' ∉ cs.takeWhile (· != '\n') := by
    intro hmem
    simpa using List.mem_takeWhile_imp hmem
  have hwhole : '\n' ∉ '#' :: cs.takeWhile (· != '\n') := by
    simpa using hbody
  have hcs := List.prefix_iff_eq_append.mp (cs.takeWhile_prefix (· != '\n'))
  have hcut := h.cons (s := .comment (cs.takeWhile (· != '\n')))
    ⟨hbody, fun _ => eq_newline_of_comment⟩ ?_
  · rwa [text, List.cons_append, hcs] at hcut
  · simp only [text, List.cons_append, hcs, lineOf_append_of_notMem hwhole,
      countedColumn_comment ha hwhole]
    rw [scanFrom, if_neg (by decide), if_neg (by decide), if_pos rfl]
    rfl

theorem token {kind : TokenKind} (ha : '#' ∉ lastLine a) (hc : leavesToken c = false)
    (hblank : isBlank c = false) (htoken : scanToken? c cs = some (kind, rest))
    (h : IsCut (a ++ c :: rest) (cs.drop rest.length)) : IsCut a (c :: cs) := by
  have hleaves : ∀ d ∈ c :: rest, leavesToken d = false := fun d hd =>
    leavesToken_of_scanToken hc htoken hd
  obtain ⟨hline, hcolumn, -⟩ := leadsOn ha hleaves
  have hcs : rest ++ cs.drop rest.length = cs :=
    List.prefix_iff_eq_append.mp (goesOn_of_scanToken htoken).isPrefix
  have hcut := h.cons (s := .token kind (c :: rest))
    ⟨ha, hleaves, c, rest, rfl, hblank, hcs.symm ▸ htoken⟩ ?_
  · rwa [text, List.cons_append, hcs] at hcut
  · simp only [text, List.cons_append, hcs, hline, hcolumn, token?, ← countedColumn_eq_iff.mpr ha]
    rw [scanFrom_of_leavesToken hc hblank, htoken, List.length_cons, Nat.add_comm rest.length,
      ← Nat.add_assoc]
    rfl

theorem illegal (ha : '#' ∉ lastLine a) (hc : leavesToken c = false) (hblank : isBlank c = false)
    (htoken : scanToken? c cs = none) (h : IsCut (a ++ [c]) cs) : IsCut a (c :: cs) := by
  obtain ⟨hline, hcolumn, -⟩ := leadsOn (w := [c]) ha (by simpa using hc)
  refine h.cons (s := .illegal c) ⟨ha, hblank, (ne_of_leavesToken hc).2, htoken⟩ ?_
  simp only [text, List.singleton_append, hline, hcolumn, error?, ← countedColumn_eq_iff.mpr ha]
  rw [scanFrom_of_leavesToken hc hblank, htoken]
  rfl

end IsCut

/-- **Every text is cut into chunks.** It stands behind `a`, and if there is a comment on the last
line of `a` then only the end of that line can follow. -/
theorem isCut {a cs : List Char} (hopen : '#' ∈ lastLine a → ∀ c ∈ cs.head?, c = '\n') :
    IsCut a cs := by
  induction hlen : cs.length using Nat.strongRecOn generalizing a cs with
  | _ n ih =>
    cases cs with
    | nil => exact .nil a
    | cons c cs =>
      have hlt : ∀ k, (cs.drop k).length < n := by
        intro k
        rw [← hlen, List.length_cons, List.length_drop]
        omega
      by_cases hnewline : c = '\n'
      · subst hnewline
        exact .newline (ih _ (hlt 0) (by rw [lastLine_newline]; nofun) rfl)
      have ha : '#' ∉ lastLine a := fun h => hnewline (hopen h c rfl)
      by_cases hhash : c = '#'
      · subst hhash
        exact .comment ha (ih _ (hlt _) (fun _ _ => eq_newline_of_comment) rfl)
      have hc : leavesToken c = false := by simp [leavesToken, hnewline, hhash]
      have hone : '#' ∉ lastLine (a ++ [c]) := (leadsOn ha (by simpa using hc)).uncommented
      cases hblank : isBlank c with
      | true => exact .blank ha hc hblank (ih _ (hlt 0) (fun h => absurd h hone) rfl)
      | false =>
        cases htoken : scanToken? c cs with
        | none => exact .illegal ha hc hblank htoken (ih _ (hlt 0) (fun h => absurd h hone) rfl)
        | some found =>
          obtain ⟨kind, rest⟩ := found
          have hleads := leadsOn ha fun d => leavesToken_of_scanToken hc htoken (d := d)
          exact .token ha hc hblank htoken
            (ih _ (hlt _) (fun h => absurd h hleads.uncommented) rfl)

/-! ## Spans -/

namespace Chunk

/-- A chunk with the text before it and the text behind it. -/
theorem exists_of_mem_spans {a b : List Char} {s : Chunk} {ss : List Chunk} (hfit : AllFit a ss)
    (h : (b, s) ∈ spans a ss) :
    a <+: b ∧ ∃ rest, a ++ textOf ss = b ++ (s.text ++ rest) ∧ s.Fits b rest := by
  induction ss generalizing a with
  | nil => cases h
  | cons t ss ih =>
    rcases List.mem_cons.mp h with h | h
    · obtain ⟨rfl, rfl⟩ := Prod.mk.inj h
      exact ⟨List.prefix_rfl, textOf ss, by rw [textOf_cons], hfit.1⟩
    · obtain ⟨hbehind, rest, htext, hs⟩ := ih hfit.2 h
      refine ⟨(List.prefix_append a t.text).trans hbehind, rest, ?_, hs⟩
      rw [textOf_cons, ← List.append_assoc, htext]

/-- Chunks follow each other: each one ends before the next one begins. -/
theorem pairwise_spans {a : List Char} {ss : List Chunk} (hfit : AllFit a ss) :
    (spans a ss).Pairwise fun x y => x.1 ++ x.2.text <+: y.1 := by
  induction ss generalizing a with
  | nil => exact .nil
  | cons s ss ih =>
    refine List.pairwise_cons.mpr ⟨?_, ih hfit.2⟩
    rintro ⟨b, t⟩ hmem
    exact (exists_of_mem_spans hfit.2 hmem).1

/-- Every character of the text stands in a chunk. -/
theorem exists_span {a u v : List Char} {c : Char} {ss : List Chunk} (h : textOf ss = u ++ c :: v) :
    ∃ b s w z, (b, s) ∈ spans a ss ∧ s.text = w ++ c :: z ∧ a ++ u = b ++ w := by
  induction ss generalizing a u with
  | nil => simp [textOf] at h
  | cons s ss ih =>
    rw [textOf_cons, List.append_eq_append_iff] at h
    rcases h with ⟨d, rfl, hd⟩ | ⟨d, hs, hd⟩
    · obtain ⟨b, t, w, z, hmem, ht, hb⟩ := ih (a := a ++ s.text) hd
      exact ⟨b, t, w, z, List.mem_cons_of_mem _ hmem, ht, by rw [← hb, List.append_assoc]⟩
    · cases d with
      | nil =>
        -- the character is the first one behind this chunk
        obtain ⟨b, t, w, z, hmem, ht, hb⟩ :=
          ih (a := a ++ s.text) (u := []) (hd.symm.trans rfl)
        refine ⟨b, t, w, z, List.mem_cons_of_mem _ hmem, ht, ?_⟩
        rw [← hb, List.append_nil, hs, List.append_nil]
      | cons e d =>
        obtain ⟨rfl, rfl⟩ := List.cons.inj hd
        exact ⟨a, s, u, d, List.mem_cons_self, hs, rfl⟩

end Chunk

/-! ## The whole text -/

namespace Token

/-- Line and column of the first character. -/
def start (t : Token) : Nat × Nat := (t.line, t.column)

/-- Line and column behind the last character. -/
def stop (t : Token) : Nat × Nat := (t.line, t.column + t.lexeme.length)

/-- The text has the token behind `a`, and this is where the token says that it stands. -/
structure StandsBehind (t : Token) (text a : List Char) : Prop where
  lexeme : a ++ t.lexeme.toList <+: text
  start : t.start = placeOf a

end Token

namespace Scan

/-- The character behind `a` stands in a token. -/
def Covers (s : Scan) (text a : List Char) : Prop :=
  ∃ t ∈ s.tokens, ∃ b, t.StandsBehind text b ∧
    b.length ≤ a.length ∧ a.length < b.length + t.lexeme.length

/-- Nothing is to be said of the character `c` behind `a`: it stands in a token, is a blank, or
stands in a comment, that is on a line with a `#` before it or is one itself. -/
def Passes (s : Scan) (text a : List Char) (c : Char) : Prop :=
  s.Covers text a ∨ isBlank c = true ∨ '#' ∈ lastLine (a ++ [c])

/-- The tokens and the reports of a text, each where the text has it. -/
structure Placed (s : Scan) (text : List Char) : Prop where
  token : ∀ t ∈ s.tokens, ∃ a, t.StandsBehind text a
  tokens : s.tokens.Pairwise fun t u => UpTo t.stop u.start
  beforeStop : ∀ t ∈ s.tokens, UpTo t.stop (s.stopLine, s.stopColumn)
  error : ∀ e ∈ s.errors, ∃ a c, a ++ [c] <+: text ∧ e = .illegal c (lineOf a) (columnOf a)
  errors : s.errors.Pairwise fun e f =>
    ∀ p ∈ e.place?, ∀ q ∈ f.place?, UpTo (p.1, p.2 + 1) q
  passed : ∀ a c, a ++ [c] <+: text → s.Passes text a c →
    s.errors.count (.illegal c (lineOf a) (columnOf a)) = 0
  /-- Every other character has one report. -/
  reported : ∀ a c, a ++ [c] <+: text → ¬s.Passes text a c →
    s.errors.count (.illegal c (lineOf a) (columnOf a)) = 1

end Scan

namespace Chunk

variable {ss : List Chunk} {a : List Char} {c : Char}

theorem mem_tokens_iff {t : Token} : t ∈ (scanOf [] ss).tokens ↔
    ∃ b kind lexeme, (b, .token kind lexeme) ∈ spans [] ss ∧
      t = ⟨kind, String.ofList lexeme, lineOf b, columnOf b⟩ := by
  show t ∈ (spans [] ss).filterMap token? ↔ _
  rw [List.mem_filterMap]
  constructor
  · rintro ⟨⟨b, s⟩, hmem, ht⟩
    cases s with
    | token kind lexeme => exact ⟨b, kind, lexeme, hmem, (Option.some.inj ht).symm⟩
    | _ => cases ht
  · rintro ⟨b, kind, lexeme, hmem, rfl⟩
    exact ⟨_, hmem, rfl⟩

theorem mem_errors_iff {e : Error} : e ∈ (scanOf [] ss).errors ↔
    ∃ b c, (b, .illegal c) ∈ spans [] ss ∧ e = .illegal c (lineOf b) (columnOf b) := by
  show e ∈ (spans [] ss).filterMap error? ↔ _
  rw [List.mem_filterMap]
  constructor
  · rintro ⟨⟨b, s⟩, hmem, he⟩
    cases s with
    | illegal c => exact ⟨b, c, hmem, (Option.some.inj he).symm⟩
    | _ => cases he
  · rintro ⟨b, c, hmem, rfl⟩
    exact ⟨_, hmem, rfl⟩

/-- Two chunks are the same, or neither reaches into the other. -/
def Apart (x y : List Char × Chunk) : Prop :=
  x = y ∨ x.1 ++ x.2.text <+: y.1 ∨ y.1 ++ y.2.text <+: x.1

instance : Std.Symm Apart where
  symm x y := by
    rintro (h | h | h)
    · exact .inl h.symm
    · exact .inr (.inr h)
    · exact .inr (.inl h)

/-- Two chunks that hold the same character are one. -/
theorem eq_of_overlap (hfit : AllFit [] ss) {x y : List Char × Chunk} {n : Nat}
    (hx : x ∈ spans [] ss) (hy : y ∈ spans [] ss)
    (hxn : x.1.length ≤ n ∧ n < x.1.length + x.2.text.length)
    (hyn : y.1.length ≤ n ∧ n < y.1.length + y.2.text.length) : x = y := by
  have hapart : (spans [] ss).Pairwise Apart :=
    (pairwise_spans hfit).imp fun h => .inr (.inl h)
  rcases hapart.forall_of_forall (fun _ _ => .inl rfl) hx hy with h | h | h
  · exact h
  · have hle := h.length_le
    rw [List.length_append] at hle
    omega
  · have hle := h.length_le
    rw [List.length_append] at hle
    omega

section Places

variable (hfit : AllFit [] ss)
include hfit

theorem standsBehind_of_mem_spans {kind : TokenKind} {lexeme : List Char}
    (h : (a, .token kind lexeme) ∈ spans [] ss) :
    (⟨kind, String.ofList lexeme, lineOf a, columnOf a⟩ : Token).StandsBehind (textOf ss) a := by
  obtain ⟨-, rest, htext, -⟩ := exists_of_mem_spans hfit h
  refine ⟨⟨rest, ?_⟩, rfl⟩
  rw [String.toList_ofList, List.append_assoc]
  exact htext.symm

/-- A token that stands on its line ends behind its text. -/
theorem stop_of_mem_spans {kind : TokenKind} {lexeme : List Char}
    (h : (a, .token kind lexeme) ∈ spans [] ss) :
    (⟨kind, String.ofList lexeme, lineOf a, columnOf a⟩ : Token).stop = placeOf (a ++ lexeme) := by
  obtain ⟨-, rest, -, -, hleaves, -⟩ := exists_of_mem_spans hfit h
  rw [placeOf_append (fun hmem => absurd (hleaves _ hmem) (by decide))]
  simp [Token.stop]

theorem pairwise_tokens :
    (scanOf [] ss).tokens.Pairwise fun t u => UpTo t.stop u.start := by
  refine List.pairwise_filterMap.mpr ((pairwise_spans hfit).imp_of_mem ?_)
  rintro ⟨a, x⟩ ⟨b, y⟩ hx hy hle t ht u hu
  cases x with
  | token kind lexeme =>
    cases y with
    | token kind' lexeme' =>
      obtain rfl := Option.some.inj ht
      obtain rfl := Option.some.inj hu
      rw [stop_of_mem_spans hfit hx]
      exact upTo_of_prefix hle
    | _ => cases hu
  | _ => cases ht

/-- A character that starts no token takes one column. -/
theorem placeOf_of_illegal (h : (a, .illegal c) ∈ spans [] ss) :
    placeOf (a ++ [c]) = (lineOf a, columnOf a + 1) := by
  obtain ⟨-, rest, -, -, hblank, -⟩ := exists_of_mem_spans hfit h
  refine placeOf_append ?_ a
  rw [List.mem_singleton]
  rintro rfl
  exact absurd hblank (by decide)

theorem pairwise_errors :
    (scanOf [] ss).errors.Pairwise fun e f =>
      ∀ p ∈ e.place?, ∀ q ∈ f.place?, UpTo (p.1, p.2 + 1) q := by
  refine List.pairwise_filterMap.mpr ((pairwise_spans hfit).imp_of_mem ?_)
  rintro ⟨a, x⟩ ⟨b, y⟩ hx hy hle e he f hf
  cases x with
  | illegal c =>
    cases y with
    | illegal d =>
      obtain rfl := Option.some.inj he
      obtain rfl := Option.some.inj hf
      intro p hp q hq
      obtain rfl := Option.some.inj hp
      obtain rfl := Option.some.inj hq
      show UpTo (lineOf a, columnOf a + 1) (placeOf b)
      rw [← placeOf_of_illegal hfit hx]
      exact upTo_of_prefix hle
    | _ => cases hf
  | _ => cases he

theorem nodup_errors : (scanOf [] ss).errors.Nodup := by
  refine (pairwise_errors hfit).imp_of_mem ?_
  rintro e f he - hle rfl
  obtain ⟨b, c, -, rfl⟩ := mem_errors_iff.mp he
  rcases hle _ rfl _ rfl with h | ⟨-, h⟩
  · exact absurd h (Nat.lt_irrefl _)
  · exact absurd h (Nat.not_succ_le_self _)

/-- A token covers the characters of its chunk. -/
theorem covers_iff : (scanOf [] ss).Covers (textOf ss) a ↔
    ∃ b kind lexeme, (b, .token kind lexeme) ∈ spans [] ss ∧
      b.length ≤ a.length ∧ a.length < b.length + lexeme.length := by
  constructor
  · rintro ⟨t, ht, b, hstands, hfirst, hlast⟩
    obtain ⟨b', kind, lexeme, hmem, rfl⟩ := mem_tokens_iff.mp ht
    have hstands' := standsBehind_of_mem_spans hfit hmem
    obtain rfl : b = b' := eq_of_placeOf ((List.prefix_append ..).trans hstands.lexeme)
      ((List.prefix_append ..).trans hstands'.lexeme) (hstands.start.symm.trans hstands'.start)
    exact ⟨b, kind, lexeme, hmem, hfirst, by simpa using hlast⟩
  · rintro ⟨b, kind, lexeme, hmem, hfirst, hlast⟩
    exact ⟨_, mem_tokens_iff.mpr ⟨b, kind, lexeme, hmem, rfl⟩, b,
      standsBehind_of_mem_spans hfit hmem, hfirst, by simpa using hlast⟩

/-- A character that starts no token passes for nothing else. -/
theorem not_passes_of_illegal (h : (a, .illegal c) ∈ spans [] ss) :
    ¬(scanOf [] ss).Passes (textOf ss) a c := by
  obtain ⟨-, rest, -, hline, hblank, hhash, -⟩ := exists_of_mem_spans hfit h
  rintro (hcovers | hblank' | hmem)
  · obtain ⟨b, kind, lexeme, hspan, hfirst, hlast⟩ := (covers_iff hfit).mp hcovers
    have heq := eq_of_overlap hfit h hspan (n := a.length) ⟨le_rfl, by simp [text]⟩ ⟨hfirst, hlast⟩
    cases heq
  · exact absurd (hblank.symm.trans hblank') (by decide)
  · have hnewline : '\n' ∉ [c] := by
      rw [List.mem_singleton]
      rintro rfl
      exact absurd hblank (by decide)
    rw [lastLine_append hnewline, List.mem_append, List.mem_singleton] at hmem
    rcases hmem with hmem | hmem
    · exact hline hmem
    · exact hhash hmem.symm

/-- A character of the text that passes for nothing starts no token. -/
theorem illegal_of_not_passes (ha : a ++ [c] <+: textOf ss)
    (h : ¬(scanOf [] ss).Passes (textOf ss) a c) : (a, .illegal c) ∈ spans [] ss := by
  obtain ⟨v, hv⟩ := ha
  rw [List.append_assoc] at hv
  obtain ⟨b, s, w, z, hspan, hs, hb⟩ := exists_span (a := []) hv.symm
  obtain rfl : a = b ++ w := hb
  obtain ⟨-, rest, -, hs'⟩ := exists_of_mem_spans hfit hspan
  cases s with
  | blank d =>
    rcases List.append_eq_singleton_iff.mp hs.symm with ⟨rfl, hd⟩ | ⟨-, hd⟩
    · obtain ⟨rfl, -⟩ := List.cons.inj hd
      exact absurd (.inr (.inl hs')) h
    · cases hd
  | comment body =>
    -- the part of the comment up to the character begins with the mark and stays on its line
    have hpart : w ++ [c] <+: '#' :: body := ⟨z, by rw [List.append_assoc]; exact hs.symm⟩
    have hnewline : '\n' ∉ w ++ [c] := by
      intro hmem
      rcases List.mem_cons.mp (hpart.subset hmem) with hmem | hmem
      · exact absurd hmem (by decide)
      · exact hs'.1 hmem
    have hmark : '#' ∈ w ++ [c] := by
      cases w with
      | nil => exact List.mem_singleton.mpr (List.cons.inj hs).1
      | cons d w =>
        obtain ⟨rfl, -⟩ := List.cons.inj hs
        exact List.mem_cons_self
    refine absurd (.inr (.inr ?_)) h
    rw [List.append_assoc, lastLine_append hnewline]
    exact List.mem_append_right _ hmark
  | token kind lexeme =>
    obtain rfl : lexeme = w ++ c :: z := hs
    refine absurd (.inl ((covers_iff hfit).mpr ⟨b, kind, _, hspan, ?_, ?_⟩)) h
    · simp
    · simp only [List.length_append, List.length_cons]
      omega
  | illegal d =>
    rcases List.append_eq_singleton_iff.mp hs.symm with ⟨rfl, hd⟩ | ⟨-, hd⟩
    · obtain ⟨rfl, -⟩ := List.cons.inj hd
      rwa [List.append_nil]
    · cases hd

/-- **What is reported** is no part of a token, no blank and in no comment. -/
theorem mem_errors_iff_not_passes (ha : a ++ [c] <+: textOf ss) :
    .illegal c (lineOf a) (columnOf a) ∈ (scanOf [] ss).errors ↔
      ¬(scanOf [] ss).Passes (textOf ss) a c := by
  rw [mem_errors_iff]
  constructor
  · rintro ⟨b, d, hspan, he⟩
    obtain ⟨rfl, hline, hcolumn⟩ := Error.illegal.inj he
    obtain ⟨-, rest, htext, -⟩ := exists_of_mem_spans hfit hspan
    have hb : b <+: textOf ss := ⟨_, htext.symm⟩
    obtain rfl : a = b :=
      eq_of_placeOf ((List.prefix_append ..).trans ha) hb (Prod.ext hline hcolumn)
    exact not_passes_of_illegal hfit hspan
  · intro h
    exact ⟨a, c, illegal_of_not_passes hfit ha h, rfl⟩

end Places

end Chunk

/-- Text that leads on from a line without a comment does not lead back, however it is counted. -/
theorem upTo_counted {a : List Char} (ha : '#' ∉ lastLine a) (w : List Char) :
    UpTo (placeOf a) (lineOf (a ++ w), countedColumn (a ++ w)) := by
  by_cases hw : '\n' ∈ w
  · left
    show lineOf a < lineOf (a ++ w)
    rw [lineOf_append]
    exact Nat.lt_add_of_pos_right (List.count_pos_iff.mpr hw)
  · right
    refine ⟨(lineOf_append_of_notMem hw a).symm, ?_⟩
    show columnOf a ≤ countedColumn (a ++ w)
    rw [countedColumn, columnOf_eq, lastLine_append hw,
      List.takeWhile_append_of_pos (List.takeWhile_eq_self_iff.mp (takeWhile_of_notMem ha)),
      List.length_append]
    omega

theorem upTo_stop_of_mem_tokens {ss : List Chunk} (hfit : AllFit [] ss) {t : Token}
    (ht : t ∈ (scanOf [] ss).tokens) :
    UpTo t.stop ((scanOf [] ss).stopLine, (scanOf [] ss).stopColumn) := by
  obtain ⟨a, kind, lexeme, hspan, rfl⟩ := mem_tokens_iff.mp ht
  obtain ⟨-, rest, htext, hline, hleaves, -⟩ := exists_of_mem_spans hfit hspan
  rw [stop_of_mem_spans hfit hspan]
  have hcounted := upTo_counted (leadsOn hline hleaves).uncommented rest
  rw [List.append_assoc] at hcounted
  show UpTo _ (lineOf ([] ++ textOf ss), countedColumn ([] ++ textOf ss))
  rwa [htext]

/-- The tokens and the reports of chunks stand where the text has them. -/
theorem placed_scanOf {ss : List Chunk} (hfit : AllFit [] ss) :
    (scanOf [] ss).Placed (textOf ss) := by
  refine ⟨?_, pairwise_tokens hfit, fun t => upTo_stop_of_mem_tokens hfit, ?_,
    pairwise_errors hfit, ?_, ?_⟩
  · intro t ht
    obtain ⟨a, kind, lexeme, hspan, rfl⟩ := mem_tokens_iff.mp ht
    exact ⟨a, standsBehind_of_mem_spans hfit hspan⟩
  · intro e he
    obtain ⟨a, c, hspan, rfl⟩ := mem_errors_iff.mp he
    obtain ⟨-, rest, htext, -⟩ := exists_of_mem_spans hfit hspan
    refine ⟨a, c, ⟨rest, ?_⟩, rfl⟩
    rw [List.append_assoc]
    exact htext.symm
  · intro a c ha hpasses
    rw [(nodup_errors hfit).count, if_neg]
    rw [mem_errors_iff_not_passes hfit ha]
    exact not_not_intro hpasses
  · intro a c ha hpasses
    rw [(nodup_errors hfit).count, if_pos]
    exact (mem_errors_iff_not_passes hfit ha).mpr hpasses

/-- The chunks of a whole text. -/
theorem exists_chunks_ofText (text : String) :
    ∃ ss, AllFit [] ss ∧ textOf ss = text.toList ∧ Scan.ofText text = scanOf [] ss := by
  have hopen : '#' ∈ lastLine [] → ∀ c ∈ text.toList.head?, c = '\n' :=
    fun h => absurd h (by decide)
  exact isCut hopen

/-- The kind of a token is what its first character starts. -/
theorem exists_scanToken_of_mem_tokens {text : String} {t : Token}
    (h : t ∈ (Scan.ofText text).tokens) : ∃ c cs rest, scanToken? c cs = some (t.kind, rest) := by
  obtain ⟨ss, hfit, -, hscan⟩ := exists_chunks_ofText text
  rw [hscan] at h
  obtain ⟨a, kind, lexeme, hspan, rfl⟩ := mem_tokens_iff.mp h
  obtain ⟨-, rest, -, -, -, c, cs, -, -, htoken⟩ := exists_of_mem_spans hfit hspan
  exact ⟨c, _, _, htoken⟩

/--
**Tokens and reports stand where they say,** in the order of the text, and every character that is
in no token, no blank and in no comment has one report. The end of the text has the right line. Its
column leaves a comment on the last line out, so it is right if and only if there is none.
-/
theorem Scan.placed_ofText (text : String) :
    (ofText text).Placed text.toList ∧ (ofText text).stopLine = lineOf text.toList ∧
      (ofText text).stopColumn = countedColumn text.toList ∧
      ((ofText text).stopColumn = columnOf text.toList ↔ '#' ∉ lastLine text.toList) := by
  obtain ⟨ss, hfit, htext, hscan⟩ := exists_chunks_ofText text
  rw [hscan, ← htext]
  exact ⟨placed_scanOf hfit, rfl, rfl, countedColumn_eq_iff⟩

-- The end of this text is in column 19; the scan stops where the comment begins.
example : (Scan.ofText "(check-sat) # done").stopColumn = 13 := by decide +kernel

end Smt

end PaveScript
