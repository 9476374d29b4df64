import Mathlib.Data.List.Basic
import Mathlib.Data.List.Induction
import PaveScript.Proofs.Excerpt

/-!
# Where the pieces of a text stand

Every piece that scanning finds stands where it says it stands, and the pieces stand one behind the
other.

* `Text.slice_append` — the text between two offsets
* `Text.byteOffset?_after` — line and column lead back to the offset they were counted with
* `Lexer.exists_resume` — scanning starts anew in front of every piece
* `Lexer.exists_pieceAt` — a piece is what its first character begins
* `Lexer.ordered_scanFrom` — no piece begins before the one in front of it has ended
* `Scan.mem_skippedOffsets` — every skipped character is found again by its line and column
-/

namespace PaveScript

namespace Text

/-! ## Offsets -/

theorem dropBytes_append (a z : List Char) : dropBytes (byteSize a) (a ++ z) = z := by
  induction a with
  | nil => rw [byteSize_nil, dropBytes, List.nil_append]
  | cons c a ih =>
    obtain ⟨n, hn⟩ : ∃ n, byteSize (c :: a) = n + 1 :=
      Nat.exists_eq_add_one.mpr (Nat.add_pos_left c.utf8Size_pos _)
    rw [hn, List.cons_append, dropBytes, ← hn, byteSize_cons, Nat.add_sub_cancel_left, ih]

theorem takeBytes_append (a z : List Char) : takeBytes (byteSize a) (a ++ z) = a := by
  induction a with
  | nil => rw [byteSize_nil, takeBytes]
  | cons c a ih =>
    obtain ⟨n, hn⟩ : ∃ n, byteSize (c :: a) = n + 1 :=
      Nat.exists_eq_add_one.mpr (Nat.add_pos_left c.utf8Size_pos _)
    rw [hn, List.cons_append, takeBytes, ← hn, byteSize_cons, Nat.add_sub_cancel_left, ih]

/-- **The part of a text between two offsets** is what stands between them. -/
theorem slice_append (a b z : List Char) :
    slice (a ++ (b ++ z)) (byteSize a) (byteSize a + byteSize b) = b := by
  rw [slice, dropBytes_append, Nat.add_sub_cancel_left, takeBytes_append]

/-! ## Lines and columns -/

theorem skipLines_add (m n offset : Nat) (cs : List Char) :
    skipLines (m + n) offset cs = (skipLines m offset cs).bind fun r => skipLines n r.1 r.2 := by
  induction cs generalizing m offset with
  | nil =>
    cases m with
    | zero => rw [Nat.zero_add]; simp [skipLines]
    | succ m => rw [Nat.succ_add]; simp [skipLines]
  | cons c cs ih =>
    cases m with
    | zero => rw [Nat.zero_add]; simp [skipLines]
    | succ m =>
      rw [Nat.succ_add, skipLines, skipLines]
      split
      · exact ih m _
      · have := ih (m + 1) (offset + c.utf8Size)
        rwa [Nat.add_right_comm] at this

/-- A line without its end, and what comes behind it. -/
theorem skipLines_line {line : List Char} (h : ∀ c ∈ line, c ≠ '\n') (offset : Nat)
    (cs : List Char) :
    skipLines 1 offset (line ++ '\n' :: cs) =
      some (offset + byteSize (line ++ ['\n']), cs) := by
  induction line generalizing offset with
  | nil => simp [skipLines]
  | cons c line ih =>
    rw [List.forall_mem_cons] at h
    rw [List.cons_append, skipLines, if_neg h.1, ih h.2]
    simp [Nat.add_assoc]

/--
The text in front of a position is a number of lines and the beginning of one more. The line counts
the former, and the column counts the characters of the latter.
-/
theorem exists_lines (a : List Char) :
    ∃ above line, a = above ++ line ∧ (∀ c ∈ line, c ≠ '\n') ∧
      (Position.start.after a).column = line.length + 1 ∧
      1 ≤ (Position.start.after a).line ∧
      ∀ z, skipLines ((Position.start.after a).line - 1) 0 (a ++ z) =
        some (byteSize above, line ++ z) := by
  induction a using List.reverseRecOn with
  | nil =>
    exact ⟨[], [], rfl, by simp, rfl, Nat.le_refl 1, fun z => by simp [skipLines, Position.start]⟩
  | append_singleton a c ih =>
    obtain ⟨above, line, rfl, hline, hcolumn, hpos, hskip⟩ := ih
    rw [Position.after_append]
    generalize Position.start.after (above ++ line) = p at hcolumn hpos hskip ⊢
    by_cases hc : c = '\n'
    · -- the line ends here, and the next one is empty so far
      subst hc
      refine ⟨above ++ line ++ ['\n'], [], by simp, by simp, rfl, Nat.le_add_left .., fun z => ?_⟩
      have hcount : (p.after ['\n']).line - 1 = p.line - 1 + 1 := by
        show p.line + 1 - 1 = p.line - 1 + 1
        omega
      rw [hcount, skipLines_add, List.append_assoc, hskip, Option.bind_some]
      show skipLines 1 (byteSize above) (line ++ '\n' :: z) = _
      rw [skipLines_line hline]
      simp
    · have hafter : p.after [c] = ⟨p.line, p.column + 1, p.offset + c.utf8Size⟩ := by
        rw [Position.after_cons, Position.after_nil, Position.advance, if_neg hc]
      refine ⟨above, line ++ [c], by simp, ?_, ?_, ?_, fun z => ?_⟩
      · intro d hd
        rcases List.mem_append.mp hd with hd | hd
        · exact hline d hd
        · rw [List.mem_singleton.mp hd]
          exact hc
      · rw [hafter, List.length_append, hcolumn]
        rfl
      · rw [hafter]
        exact hpos
      · rw [hafter, List.append_assoc, hskip]
        simp

/-- **The line and the column of a place lead back to its offset.** -/
theorem byteOffset?_after (a z : List Char) (hz : z ≠ []) :
    byteOffset? (a ++ z) (Position.start.after a).line (Position.start.after a).column =
      some (Position.start.after a).offset := by
  obtain ⟨above, line, ha, -, hcolumn, -, hskip⟩ := exists_lines a
  have hoffset : (Position.start.after a).offset = byteSize above + byteSize line := by
    rw [offset_after, ha, byteSize_append]
    exact Nat.zero_add _
  rw [byteOffset?, hskip, hcolumn, hoffset]
  simp [hz]

end Text

/-! ## Pieces -/

namespace Piece

/-- Where a piece starts. -/
def start : Piece → Position
  | token t => t.start
  | illegal _ p => p

/-- The byte offset just after a piece. -/
def endOffset : Piece → Nat
  | token t => t.endOffset
  | illegal c p => p.offset + c.utf8Size

end Piece

namespace Lexer

/-- The context behind a piece. -/
def Context.pushPiece (ctx : Context) (piece : Piece) : Context :=
  match piece.token? with
  | some t => ctx.push t.kind
  | none => ctx

/-- The piece that begins with a character: the token that it starts there, or the character itself
if it starts none. -/
def pieceAt (ctx : Context) (p : Position) (c : Char) (cs : List Char) : Piece :=
  match scanToken? ctx.expectsFile c cs with
  | some (kind, rest) => .token ⟨kind, String.ofList (c :: rest), p⟩
  | none => .illegal c p

theorem eq_pieceAt_of_scanFrom {ctx : Context} {p : Position} {c : Char} {cs : List Char}
    {piece : Piece} {after : List Piece} (hblank : isBlank c = false) (hhash : c ≠ '#')
    (h : scanFrom ctx p (c :: cs) = piece :: after) : piece = pieceAt ctx p c cs := by
  rw [scanFrom, if_neg (by simp [hblank]), if_neg hhash] at h
  rw [pieceAt]
  cases hscan : scanToken? ctx.expectsFile c cs <;> rw [hscan] at h <;>
    exact (List.cons.inj h).1.symm

/-- **Scanning starts anew in front of every piece,** in the context that the pieces before it have
left. -/
theorem exists_resume {ctx : Context} {p : Position} {cs : List Char} {before after : List Piece}
    {piece : Piece} (h : scanFrom ctx p cs = before ++ piece :: after) :
    ∃ a c b, cs = a ++ c :: b ∧ isBlank c = false ∧ c ≠ '#' ∧ piece.start = p.after a ∧
      scanFrom (before.foldl Context.pushPiece ctx) (p.after a) (c :: b) = piece :: after := by
  fun_induction scanFrom ctx p cs generalizing before with
  | case1 => simp at h
  | case2 ctx p c cs hblank ih =>
    obtain ⟨a, d, b, rfl, hd, hhash, hstart, hscan⟩ := ih h
    exact ⟨c :: a, d, b, rfl, hd, hhash, hstart, hscan⟩
  | case3 ctx p cs comment hblank =>
    rename_i ih
    obtain ⟨a, d, b, hdrop, hd, hhash, hstart, hscan⟩ := ih h
    have hcs : cs = comment ++ (a ++ d :: b) := by
      rw [← hdrop, List.prefix_iff_eq_append.mp (List.takeWhile_prefix _)]
    refine ⟨'#' :: (comment ++ a), d, b, by simp [hcs], hd, hhash, ?_, ?_⟩
    · rw [hstart, ← Position.after_append, List.cons_append]
    · rw [← hscan, ← Position.after_append, List.cons_append]
  | case4 ctx p c cs hblank hhash kind rest hscan ih =>
    cases before with
    | nil =>
      refine ⟨[], c, cs, rfl, by simpa using hblank, hhash, ?_, ?_⟩
      · rw [← (List.cons.inj h).1]
        rfl
      · rw [List.foldl_nil, Position.after_nil, scanFrom, if_neg hblank, if_neg hhash, hscan]
        exact h
    | cons first before =>
      obtain ⟨rfl, hrest⟩ := List.cons.inj h
      obtain ⟨a, d, b, hdrop, hd, hhash', hstart, hscan'⟩ := ih hrest
      have hcs : cs = rest ++ (a ++ d :: b) := by
        rw [← hdrop, List.prefix_iff_eq_append.mp (prefix_of_scanToken hscan)]
      refine ⟨c :: (rest ++ a), d, b, by simp [hcs], hd, hhash', ?_, ?_⟩
      · rw [hstart, ← Position.after_append, List.cons_append]
      · rw [← Position.after_append, List.cons_append] at hscan'
        exact hscan'
  | case5 ctx p c cs hblank hhash hscan ih =>
    cases before with
    | nil =>
      refine ⟨[], c, cs, rfl, by simpa using hblank, hhash, ?_, ?_⟩
      · rw [← (List.cons.inj h).1]
        rfl
      · rw [List.foldl_nil, Position.after_nil, scanFrom, if_neg hblank, if_neg hhash, hscan]
        exact h
    | cons first before =>
      obtain ⟨rfl, hrest⟩ := List.cons.inj h
      obtain ⟨a, d, b, rfl, hd, hhash', hstart, hscan'⟩ := ih hrest
      exact ⟨c :: a, d, b, rfl, hd, hhash', hstart, hscan'⟩

/-- **A piece is what its first character begins** in the context that the pieces before it have
left. -/
theorem exists_pieceAt {ctx : Context} {p : Position} {cs : List Char} {before after : List Piece}
    {piece : Piece} (h : scanFrom ctx p cs = before ++ piece :: after) :
    ∃ a c b, cs = a ++ c :: b ∧
      piece = pieceAt (before.foldl Context.pushPiece ctx) (p.after a) c b := by
  obtain ⟨a, c, b, rfl, hblank, hhash, -, hscan⟩ := exists_resume h
  exact ⟨a, c, b, rfl, eq_pieceAt_of_scanFrom hblank hhash hscan⟩

theorem exists_pieceAt_of_mem {ctx : Context} {p : Position} {cs : List Char} {piece : Piece}
    (h : piece ∈ scanFrom ctx p cs) :
    ∃ a c b ctx', cs = a ++ c :: b ∧ piece = pieceAt ctx' (p.after a) c b := by
  obtain ⟨before, after, hsplit⟩ := List.append_of_mem h
  obtain ⟨a, c, b, hcs, hpiece⟩ := exists_pieceAt hsplit
  exact ⟨a, c, b, _, hcs, hpiece⟩

/-- In front of the first piece stand blanks and comments, and a comment ends with its line. -/
theorem exists_gap {ctx : Context} {p : Position} {cs : List Char} {piece : Piece}
    {after : List Piece} (h : scanFrom ctx p cs = piece :: after) :
    ∃ gap c b, cs = gap ++ c :: b ∧ isBlank c = false ∧ piece.start = p.after gap ∧
      ∀ d ∈ gap.getLast?, isBlank d = true := by
  fun_induction scanFrom ctx p cs with
  | case1 => cases h
  | case2 ctx p c cs hblank ih =>
    obtain ⟨gap, d, b, rfl, hd, hstart, hgap⟩ := ih h
    refine ⟨c :: gap, d, b, rfl, hd, hstart, fun e he => ?_⟩
    cases gap with
    | nil => exact Option.some.inj he ▸ hblank
    | cons f gap => exact hgap e he
  | case3 ctx p cs comment hblank ih =>
    obtain ⟨gap, d, b, hdrop, hd, hstart, hgap⟩ := ih h
    have hcs : cs = comment ++ (gap ++ d :: b) := by
      rw [← hdrop, List.prefix_iff_eq_append.mp (List.takeWhile_prefix _)]
    refine ⟨'#' :: (comment ++ gap), d, b, by simp [hcs], hd, ?_, fun e he => ?_⟩
    · rw [hstart, ← Position.after_append, List.cons_append]
    · cases gap with
      | nil =>
        -- the piece would begin with the end of the line
        rw [eq_newline_of_takeWhile hcs] at hd
        cases hd
      | cons f gap =>
        rw [← List.cons_append, List.getLast?_append_cons] at he
        exact hgap e he
  | case4 ctx p c cs hblank hhash kind rest hscan ih =>
    exact ⟨[], c, cs, rfl, by simpa using hblank, by rw [← (List.cons.inj h).1]; rfl, by simp⟩
  | case5 ctx p c cs hblank hhash hscan ih =>
    exact ⟨[], c, cs, rfl, by simpa using hblank, by rw [← (List.cons.inj h).1]; rfl, by simp⟩

end Lexer

/-- Pieces that stand one behind the other between two offsets. -/
structure Piece.Ordered (first last : Nat) (pieces : List Piece) : Prop where
  apart : pieces.Pairwise fun a b => a.endOffset ≤ b.start.offset
  within : ∀ piece ∈ pieces, first ≤ piece.start.offset ∧ piece.start.offset < piece.endOffset ∧
    piece.endOffset ≤ last

namespace Piece.Ordered

variable {first second last : Nat} {pieces : List Piece}

theorem mono (h : Ordered second last pieces) (hle : first ≤ second) : Ordered first last pieces :=
  ⟨h.apart, fun piece hpiece =>
    ⟨Nat.le_trans hle (h.within piece hpiece).1, (h.within piece hpiece).2⟩⟩

theorem cons {piece : Piece} (hstart : first ≤ piece.start.offset)
    (hlt : piece.start.offset < piece.endOffset) (hlast : piece.endOffset ≤ last)
    (h : Ordered piece.endOffset last pieces) : Ordered first last (piece :: pieces) := by
  refine ⟨List.pairwise_cons.mpr ⟨fun b hb => (h.within b hb).1, h.apart⟩, ?_⟩
  intro b hb
  rcases List.mem_cons.mp hb with rfl | hb
  · exact ⟨hstart, hlt, hlast⟩
  · have := h.within b hb
    exact ⟨by omega, this.2⟩

end Piece.Ordered

namespace Lexer

open Text

/-- **The pieces of a text stand one behind the other,** between its beginning and its end. -/
theorem ordered_scanFrom (ctx : Context) (p : Position) (cs : List Char) :
    Piece.Ordered p.offset (p.after cs).offset (scanFrom ctx p cs) := by
  fun_induction scanFrom ctx p cs with
  | case1 => exact ⟨.nil, by simp⟩
  | case2 ctx p c cs hblank ih =>
    refine ih.mono ?_
    rw [← Position.after_nil (p.advance c), ← Position.after_cons, offset_after]
    exact Nat.le_add_right ..
  | case3 ctx p cs comment hblank =>
    rename_i ih
    have hcs : p.after ('#' :: cs) = (p.after ('#' :: comment)).after (cs.drop comment.length) := by
      rw [← Position.after_append, List.cons_append,
        List.prefix_iff_eq_append.mp (List.takeWhile_prefix _)]
    rw [hcs]
    refine ih.mono ?_
    rw [offset_after]
    exact Nat.le_add_right ..
  | case4 ctx p c cs hblank hhash kind rest hscan ih =>
    have hcs : p.after (c :: cs) = (p.after (c :: rest)).after (cs.drop rest.length) := by
      rw [← Position.after_append, List.cons_append,
        List.prefix_iff_eq_append.mp (prefix_of_scanToken hscan)]
    have hend : (Piece.token ⟨kind, String.ofList (c :: rest), p⟩).endOffset =
        (p.after (c :: rest)).offset := by
      rw [Piece.endOffset, Token.endOffset, utf8ByteSize_ofList, offset_after]
    rw [hcs]
    refine .cons (Nat.le_refl _) ?_ ?_ (hend ▸ ih)
    · rw [hend, offset_after, byteSize_cons]
      have := c.utf8Size_pos
      show p.offset < _
      omega
    · rw [hend, offset_after (p.after (c :: rest))]
      exact Nat.le_add_right ..
  | case5 ctx p c cs hblank hhash hscan ih =>
    have hend : (Piece.illegal c p).endOffset = (p.advance c).offset := by
      rw [Piece.endOffset, ← Position.after_nil (p.advance c), ← Position.after_cons, offset_after,
        byteSize_cons, byteSize_nil, Nat.add_zero]
    refine .cons (Nat.le_refl _) (Nat.lt_add_of_pos_right c.utf8Size_pos) ?_ (hend ▸ ih)
    rw [hend, Position.after_cons, offset_after (p.advance c)]
    exact Nat.le_add_right ..

end Lexer

/-! ## Skipped characters -/

/-- **Every skipped character is found again by its line and column.** -/
theorem Scan.mem_skippedOffsets {cs : List Char} {c : Char} {p : Position}
    (h : .illegal c p ∈ (Scan.ofChars cs).pieces) :
    p.offset ∈ (Scan.ofChars cs).skippedOffsets := by
  obtain ⟨before, after, hsplit⟩ := List.append_of_mem h
  obtain ⟨a, d, b, rfl, -, -, hstart, -⟩ := Lexer.exists_resume hsplit
  obtain rfl : p = Position.start.after a := hstart
  refine List.mem_filterMap.mpr ⟨.illegal c _ _, List.mem_filterMap.mpr ⟨_, h, rfl⟩, ?_⟩
  exact Text.byteOffset?_after a (d :: b) (List.cons_ne_nil d b)

end PaveScript
