import Mathlib.Data.List.Induction
import PaveScript.Proofs.Placement
import PaveScript.Proofs.Reader

/-!
# Scanning loses nothing

A text is cut into stretches that follow each other without a gap: blanks, comments, tokens and
characters that start no token. The pieces of a scan are the last two, each at the place that the
text before it makes of the start.

* `Position.isBehind_after` — a place counts the bytes, lines and columns of the text before it
* `Lexer.exists_stretches` — every text is cut into stretches
* `Scan.mem_skipped_iff_uncovered` — which characters are skipped
* `Scan.lossless` — the tokens, the reports and the end of a text
-/

namespace PaveScript

open Text

/-! ## Places -/

namespace Text

/-- The line of the place behind a text, counted from one. -/
def lineOf (a : List Char) : Nat := 1 + a.count '\n'

/-- The column of the place behind a text, counted from one. -/
def columnOf (a : List Char) : Nat := 1 + (a.reverse.takeWhile (· ≠ '\n')).length

theorem byteSize_le_of_prefix {a b : List Char} (h : a <+: b) : byteSize a ≤ byteSize b := by
  obtain ⟨z, rfl⟩ := h
  rw [byteSize_append]
  exact Nat.le_add_right ..

theorem byteSize_pos {a : List Char} (h : a ≠ []) : 0 < byteSize a := by
  obtain ⟨c, cs, rfl⟩ := List.exists_cons_of_ne_nil h
  exact Nat.add_pos_left c.utf8Size_pos _

/-- Of two beginnings of a text the longer one has more bytes. -/
theorem byteSize_lt_of_prefix {a b cs : List Char} (ha : a <+: cs) (hb : b <+: cs)
    (h : a.length < b.length) : byteSize a < byteSize b := by
  obtain ⟨z, rfl⟩ := List.prefix_of_prefix_length_le ha hb h.le
  have hz : z ≠ [] := by
    rintro rfl
    simp at h
  rw [byteSize_append]
  exact Nat.lt_add_of_pos_right (byteSize_pos hz)

/-- Of two beginnings of a text the one with fewer bytes is a beginning of the other. -/
theorem prefix_of_byteSize_le {a e cs : List Char} (ha : a <+: cs) (he : e <+: cs)
    (h : byteSize a ≤ byteSize e) : a <+: e := by
  by_cases hlen : a.length ≤ e.length
  · exact List.prefix_of_prefix_length_le ha he hlen
  · have := byteSize_lt_of_prefix he ha (Nat.not_le.mp hlen)
    omega

end Text

/-- A place with the bytes, the lines and the columns of the text before it. -/
structure Position.IsBehind (p : Position) (a : List Char) : Prop where
  offset : p.offset = byteSize a
  line : p.line = lineOf a
  column : p.column = columnOf a

/-- **The place behind a text counts that text.** -/
theorem Position.isBehind_after (a : List Char) : (start.after a).IsBehind a := by
  induction a using List.reverseRecOn with
  | nil => exact ⟨rfl, rfl, rfl⟩
  | append_singleton a c ih =>
    have hoffset : (start.after (a ++ [c])).offset = byteSize (a ++ [c]) := by
      rw [offset_after]
      exact Nat.zero_add _
    rw [after_append] at hoffset ⊢
    by_cases hc : c = '\n'
    · -- a new line begins, and nothing of it is in front of the place
      subst hc
      refine ⟨hoffset, ?_, ?_⟩
      · show (start.after a).line + 1 = _
        rw [ih.line]
        simp [lineOf, Nat.add_assoc]
      · show 1 = _
        simp [columnOf]
    · have hafter : (start.after a).after [c] =
          ⟨(start.after a).line, (start.after a).column + 1,
            (start.after a).offset + c.utf8Size⟩ := by
        rw [after_cons, after_nil, advance, if_neg hc]
      refine ⟨hoffset, ?_, ?_⟩
      · rw [hafter, ih.line]
        simp [lineOf, hc]
      · rw [hafter, ih.column]
        simp [columnOf, hc, Nat.add_assoc]

/-! ## Stretches -/

/-- A part of a text that scanning takes in one go. -/
inductive Stretch where
  | blank (c : Char)
  /-- A comment without the `#` that opens it. -/
  | comment (body : List Char)
  | token (kind : TokenKind) (lexeme : List Char)
  /-- A character that starts no token. -/
  | illegal (c : Char)

namespace Stretch

open Lexer

def text : Stretch → List Char
  | blank c => [c]
  | comment body => '#' :: body
  | token _ lexeme => lexeme
  | illegal c => [c]

/-- The piece that a stretch is at a place. -/
def piece? (p : Position) : Stretch → Option Piece
  | token kind lexeme => some (.token ⟨kind, String.ofList lexeme, p⟩)
  | illegal c => some (.illegal c p)
  | _ => none

/-- What a stretch is in front of a text: a comment goes on to the end of its line. -/
def Fits (rest : List Char) : Stretch → Prop
  | blank c => isBlank c = true
  | comment body => '\n' ∉ body ∧ ∀ c ∈ rest.head?, c = '\n'
  | token _ lexeme => lexeme ≠ []
  | illegal c => isBlank c = false ∧ c ≠ '#'

/-- The text of stretches in a row. -/
def textOf (ss : List Stretch) : List Char := ss.flatMap text

theorem textOf_cons (s : Stretch) (ss : List Stretch) : textOf (s :: ss) = s.text ++ textOf ss :=
  rfl

theorem textOf_append (ss ts : List Stretch) : textOf (ss ++ ts) = textOf ss ++ textOf ts :=
  List.flatMap_append

/-- Every stretch is what it has to be. -/
def AllFit : List Stretch → Prop
  | [] => True
  | s :: ss => s.Fits (textOf ss) ∧ AllFit ss

/-- The pieces of stretches in a row, the first of which starts at a place. -/
def pieces (p : Position) : List Stretch → List Piece
  | [] => []
  | s :: ss => (s.piece? p).toList ++ pieces (p.after s.text) ss

theorem AllFit.fits {before after : List Stretch} {s : Stretch}
    (h : AllFit (before ++ s :: after)) : s.Fits (textOf after) := by
  induction before with
  | nil => exact h.1
  | cons t before ih => exact ih h.2

theorem pieces_append (p : Position) (ss ts : List Stretch) :
    pieces p (ss ++ ts) = pieces p ss ++ pieces (p.after (textOf ss)) ts := by
  induction ss generalizing p with
  | nil => rfl
  | cons s ss ih =>
    rw [List.cons_append, pieces, pieces, ih, List.append_assoc, textOf_cons,
      Position.after_append]

/-- A piece starts at its stretch and covers the text of it. -/
theorem span_of_piece {p : Position} {s : Stretch} {piece : Piece} (h : s.piece? p = some piece) :
    piece.start = p ∧ piece.endOffset = p.offset + byteSize s.text := by
  cases s with
  | token kind lexeme =>
    obtain rfl := Option.some.inj h
    exact ⟨rfl, by rw [Piece.endOffset, Token.endOffset, utf8ByteSize_ofList]; rfl⟩
  | illegal c =>
    obtain rfl := Option.some.inj h
    exact ⟨rfl, rfl⟩
  | _ => cases h

/-- The pieces of stretches stand between the beginning and the end of them. -/
theorem within_of_mem_pieces {p : Position} {ss : List Stretch} {piece : Piece}
    (h : piece ∈ pieces p ss) :
    p.offset ≤ piece.start.offset ∧ piece.endOffset ≤ p.offset + byteSize (textOf ss) := by
  induction ss generalizing p with
  | nil => cases h
  | cons s ss ih =>
    rw [textOf_cons, byteSize_append]
    rcases List.mem_append.mp h with h | h
    · obtain ⟨hstart, hend⟩ := span_of_piece (Option.mem_toList.mp h)
      rw [hstart, hend]
      omega
    · have hrest := ih h
      rw [offset_after] at hrest
      omega

/-- A piece stands before a stretch, or is the stretch, or stands behind it. -/
theorem mem_pieces_split {before after : List Stretch} {s : Stretch} {piece : Piece}
    (h : piece ∈ pieces .start (before ++ s :: after)) :
    piece.endOffset ≤ byteSize (textOf before) ∨
      s.piece? (Position.start.after (textOf before)) = some piece ∨
      byteSize (textOf before ++ s.text) ≤ piece.start.offset := by
  have hstart : ∀ a, (Position.start.after a).offset = byteSize a :=
    fun a => (Position.isBehind_after a).offset
  rw [pieces_append, pieces, List.mem_append, List.mem_append] at h
  rcases h with h | h | h
  · have hwithin := (within_of_mem_pieces h).2
    exact .inl (hwithin.trans_eq (Nat.zero_add _))
  · exact .inr (.inl (Option.mem_toList.mp h))
  · have hwithin := (within_of_mem_pieces h).1
    rw [← Position.after_append, hstart] at hwithin
    exact .inr (.inr hwithin)

/-- A piece comes from a stretch at its place. -/
theorem exists_of_mem_pieces {p : Position} {ss : List Stretch} {piece : Piece}
    (h : piece ∈ pieces p ss) :
    ∃ before s after, ss = before ++ s :: after ∧
      s.piece? (p.after (textOf before)) = some piece := by
  induction ss generalizing p with
  | nil => cases h
  | cons s ss ih =>
    rcases List.mem_append.mp h with h | h
    · exact ⟨[], s, ss, rfl, Option.mem_toList.mp h⟩
    · obtain ⟨before, t, after, rfl, hpiece⟩ := ih h
      refine ⟨s :: before, t, after, rfl, ?_⟩
      rwa [textOf_cons, Position.after_append]

theorem mem_pieces_of_piece {before after : List Stretch} {s : Stretch} {piece : Piece}
    (h : s.piece? (Position.start.after (textOf before)) = some piece) :
    piece ∈ pieces .start (before ++ s :: after) := by
  rw [pieces_append, pieces]
  exact List.mem_append_right _ (List.mem_append_left _ (Option.mem_toList.mpr h))

end Stretch

namespace Lexer

open Stretch

/-- **Every text is cut into stretches,** and its pieces are theirs. -/
theorem exists_stretches (ctx : Context) (p : Position) (cs : List Char) :
    ∃ ss, AllFit ss ∧ cs = textOf ss ∧ scanFrom ctx p cs = pieces p ss := by
  fun_induction scanFrom ctx p cs with
  | case1 => exact ⟨[], trivial, rfl, rfl⟩
  | case2 ctx p c cs hblank ih =>
    obtain ⟨ss, hfit, rfl, hscan⟩ := ih
    exact ⟨.blank c :: ss, ⟨hblank, hfit⟩, rfl, hscan⟩
  | case3 ctx p cs comment hblank ih =>
    obtain ⟨ss, hfit, hdrop, hscan⟩ := ih
    have hcs : comment ++ textOf ss = cs := by
      rw [← hdrop]
      exact List.prefix_iff_eq_append.mp (List.takeWhile_prefix _)
    refine ⟨.comment comment :: ss, ⟨⟨?_, ?_⟩, hfit⟩, ?_, hscan⟩
    · intro hmem
      simpa using List.all_eq_true.mp List.all_takeWhile _ hmem
    · intro c hc
      obtain ⟨ds, hds⟩ := List.head?_eq_some_iff.mp hc
      exact eq_newline_of_takeWhile (hds ▸ hcs.symm)
    · rw [← hcs]
      rfl
  | case4 ctx p c cs hblank hhash kind rest hscan ih =>
    obtain ⟨ss, hfit, hdrop, hrest⟩ := ih
    have hcs : rest ++ textOf ss = cs := by
      rw [← hdrop]
      exact List.prefix_iff_eq_append.mp (prefix_of_scanToken hscan)
    refine ⟨.token kind (c :: rest) :: ss, ⟨List.cons_ne_nil _ _, hfit⟩, ?_, ?_⟩
    · rw [← hcs]
      rfl
    · rw [hrest]
      rfl
  | case5 ctx p c cs hblank hhash hscan ih =>
    obtain ⟨ss, hfit, rfl, hrest⟩ := ih
    refine ⟨.illegal c :: ss, ⟨⟨by simpa using hblank, hhash⟩, hfit⟩, rfl, ?_⟩
    rw [hrest]
    rfl

end Lexer

/-! ## Skipped characters -/

namespace Stretch

/-- The character of a stretch that starts no token, with the text before it. -/
def skipped? (a : List Char) : Stretch → Option (List Char × Char)
  | illegal c => some (a, c)
  | _ => none

/-- The characters that start no token in stretches behind a text, each with the text before it. -/
def skipped (a : List Char) : List Stretch → List (List Char × Char)
  | [] => []
  | s :: ss => (s.skipped? a).toList ++ skipped (a ++ s.text) ss

/-- The report of a character that starts no token. -/
def report (x : List Char × Char) : Error := .illegal x.2 (lineOf x.1) (columnOf x.1)

theorem errors_pieces (a : List Char) (ss : List Stretch) :
    (pieces (Position.start.after a) ss).filterMap Piece.error? = (skipped a ss).map report := by
  induction ss generalizing a with
  | nil => rfl
  | cons s ss ih =>
    rw [pieces, skipped, ← Position.after_append, List.filterMap_append, List.map_append, ih]
    cases s with
    | illegal c =>
      have hplace := Position.isBehind_after a
      show [Error.illegal c _ _] ++ _ = _
      rw [hplace.line, hplace.column]
      rfl
    | _ => rfl

theorem skipped?_eq_some_iff {a b : List Char} {c : Char} {s : Stretch} :
    s.skipped? a = some (b, c) ↔ s = .illegal c ∧ b = a := by
  cases s <;> simp [skipped?, eq_comm, and_comm]

/-- A character is skipped where its stretch stands. -/
theorem mem_skipped_iff {a b : List Char} {c : Char} {ss : List Stretch} :
    (b, c) ∈ skipped a ss ↔
      ∃ before after, ss = before ++ .illegal c :: after ∧ b = a ++ textOf before := by
  induction ss generalizing a with
  | nil => simp [skipped]
  | cons s ss ih =>
    rw [skipped, List.mem_append, Option.mem_toList, skipped?_eq_some_iff, ih]
    constructor
    · rintro (⟨rfl, rfl⟩ | ⟨before, after, rfl, rfl⟩)
      · exact ⟨[], ss, rfl, (List.append_nil b).symm⟩
      · exact ⟨s :: before, after, rfl, by rw [textOf_cons, List.append_assoc]⟩
    · rintro ⟨_ | ⟨t, before⟩, after, hss, rfl⟩
      · exact .inl ⟨(List.cons.inj hss).1, List.append_nil a⟩
      · obtain ⟨rfl, rfl⟩ := List.cons.inj hss
        exact .inr ⟨before, after, rfl, by rw [textOf_cons, List.append_assoc]⟩

/-- Skipped characters are listed in the order of the text. -/
theorem pairwise_skipped (a : List Char) (ss : List Stretch) :
    (skipped a ss).Pairwise fun x y => byteSize x.1 < byteSize y.1 := by
  induction ss generalizing a with
  | nil => exact .nil
  | cons s ss ih =>
    rw [skipped]
    refine List.pairwise_append.mpr ⟨?_, ih _, ?_⟩
    · cases s <;> simp [skipped?]
    · rintro ⟨b, c⟩ hx ⟨d, e⟩ hy
      obtain ⟨rfl, rfl⟩ := skipped?_eq_some_iff.mp (Option.mem_toList.mp hx)
      obtain ⟨before, -, -, rfl⟩ := mem_skipped_iff.mp hy
      have := c.utf8Size_pos
      simp only [text, byteSize_append, byteSize_cons, byteSize_nil]
      omega

/-- The stretch that holds a character of the text. -/
theorem exists_stretch_of_textOf {ss : List Stretch} {a b : List Char} {c : Char}
    (h : textOf ss = a ++ c :: b) :
    ∃ before s after u v, ss = before ++ s :: after ∧ s.text = u ++ c :: v ∧
      a = textOf before ++ u := by
  induction ss generalizing a with
  | nil => simp [textOf] at h
  | cons s ss ih =>
    rw [textOf_cons, List.append_eq_append_iff] at h
    rcases h with ⟨d, rfl, hd⟩ | ⟨d, hs, hd⟩
    · obtain ⟨before, t, after, u, v, rfl, ht, rfl⟩ := ih hd
      exact ⟨s :: before, t, after, u, v, rfl, ht, by rw [textOf_cons, List.append_assoc]⟩
    · cases d with
      | nil =>
        -- the character is the first one behind this stretch
        obtain ⟨before, t, after, u, v, rfl, ht, hu⟩ := ih (a := []) (hd.symm.trans rfl)
        refine ⟨s :: before, t, after, u, v, rfl, ht, ?_⟩
        rw [textOf_cons, List.append_assoc, ← hu, hs, List.append_nil, List.append_nil]
      | cons e d =>
        obtain ⟨rfl, rfl⟩ := List.cons.inj hd
        exact ⟨[], s, ss, a, d, rfl, hs, rfl⟩

end Stretch

/-! ## The whole text -/

namespace Scan

open Stretch

/-- The character behind `a` stands inside a token. -/
def Covered (s : Scan) (a : List Char) : Prop :=
  ∃ t ∈ s.tokens, t.start.offset ≤ byteSize a ∧ byteSize a < t.endOffset

/-- The character behind `a` stands in a comment: from a `#` to the end of the line, and no token
and no skipped character is in between. -/
def Commented (s : Scan) (a : List Char) : Prop :=
  ∃ before body after, s.source = before ++ '#' :: (body ++ after) ∧
    '\n' ∉ body ∧ (∀ c ∈ after.head?, c = '\n') ∧
    before.length ≤ a.length ∧ a.length ≤ before.length + body.length ∧
    ∀ piece ∈ s.pieces, piece.endOffset ≤ byteSize before ∨
      byteSize (before ++ '#' :: body) ≤ piece.start.offset

/-- The tokens, the reports and the end of a text, each where the text has it. -/
structure Lossless (s : Scan) : Prop where
  /-- A token stands where it says that it stands. -/
  place : ∀ t ∈ s.tokens, ∃ a b, s.source = a ++ (t.lexeme.toList ++ b) ∧ t.start.IsBehind a
  lexeme : ∀ t ∈ s.tokens, slice s.source t.start.offset t.endOffset = t.lexeme.toList
  apart : s.tokens.Pairwise fun t u =>
    t.start.offset < u.start.offset ∧ t.endOffset ≤ u.start.offset
  /-- A piece is what its first character begins in the context of the pieces before it, so a
  character that is reported begins no token. -/
  begun : ∀ front piece back, s.pieces = front ++ piece :: back → ∃ a c b, s.source = a ++ c :: b ∧
    piece = Lexer.pieceAt (front.foldl Lexer.Context.pushPiece {}) (Position.start.after a) c b
  /-- What is no token, no blank and no comment is reported, in the order of the text. -/
  reported : ∃ skipped : List (List Char × Char), s.errors = skipped.map report ∧
    skipped.Pairwise (fun x y => byteSize x.1 < byteSize y.1) ∧
    ∀ a c, (a, c) ∈ skipped ↔
      a ++ [c] <+: s.source ∧ ¬s.Covered a ∧ Lexer.isBlank c = false ∧ ¬s.Commented a
  /-- No report comes twice. -/
  nodup : s.errors.Nodup
  stop : s.stop.IsBehind s.source
  beforeStop : ∀ t ∈ s.tokens, t.start.offset < s.stop.offset ∧ t.endOffset ≤ s.stop.offset

variable {cs : List Char} {ss : List Stretch}

theorem mem_tokens {s : Scan} {t : Token} : t ∈ s.tokens ↔ .token t ∈ s.pieces := by
  rw [tokens, List.mem_filterMap]
  constructor
  · rintro ⟨_ | _, hpiece, ht⟩
    · exact Option.some.inj ht ▸ hpiece
    · cases ht
  · intro ht
    exact ⟨.token t, ht, rfl⟩

/-- The stretches of a text, with the pieces of its scan. -/
theorem exists_stretches (cs : List Char) :
    ∃ ss, AllFit ss ∧ cs = textOf ss ∧ (ofChars cs).pieces = Stretch.pieces .start ss :=
  Lexer.exists_stretches {} .start cs

/-- A token with the text before it and behind it. -/
theorem exists_place {t : Token} (ht : t ∈ (ofChars cs).tokens) :
    ∃ a b, cs = a ++ (t.lexeme.toList ++ b) ∧ t.start = Position.start.after a := by
  obtain ⟨ss, -, rfl, hpieces⟩ := exists_stretches cs
  rw [mem_tokens, hpieces] at ht
  obtain ⟨before, s, after, rfl, hpiece⟩ := exists_of_mem_pieces ht
  refine ⟨textOf before, textOf after, ?_, (span_of_piece hpiece).1⟩
  rw [textOf_append, textOf_cons]
  cases s with
  | token kind lexeme =>
    obtain rfl := Piece.token.inj (Option.some.inj hpiece)
    rw [String.toList_ofList]
    rfl
  | _ => cases hpiece

theorem pairwise_tokens (cs : List Char) :
    (ofChars cs).tokens.Pairwise fun t u =>
      t.start.offset < u.start.offset ∧ t.endOffset ≤ u.start.offset := by
  have hordered := Lexer.ordered_scanFrom {} .start cs
  refine List.pairwise_filterMap.mpr (hordered.apart.imp_of_mem ?_)
  intro x y hx _ hle t ht u hu
  obtain ⟨-, hlt, -⟩ := hordered.within x hx
  cases x with
  | token x =>
    cases y with
    | token y =>
      obtain rfl := Option.some.inj ht
      obtain rfl := Option.some.inj hu
      exact ⟨Nat.lt_of_lt_of_le hlt hle, hle⟩
    | illegal => cases hu
  | illegal => cases ht

section Places

variable {before after : List Stretch} {u v : List Char} {c : Char}

theorem not_covered_of_illegal
    (hpieces : (ofChars cs).pieces = Stretch.pieces .start (before ++ .illegal c :: after)) :
    ¬(ofChars cs).Covered (textOf before) := by
  rintro ⟨t, ht, hstart, hend⟩
  rw [mem_tokens, hpieces] at ht
  rcases mem_pieces_split ht with h | h | h
  · exact absurd h (Nat.not_le.mpr hend)
  · cases h
  · have hc := c.utf8Size_pos
    have hle : byteSize (textOf before ++ [c]) ≤ byteSize (textOf before) := h.trans hstart
    simp only [byteSize_append, byteSize_cons] at hle
    omega

/-- A skipped character is a piece of its own, so no comment goes past it. -/
theorem not_commented_of_illegal (hcs : cs = textOf (before ++ .illegal c :: after))
    (hpieces : (ofChars cs).pieces = Stretch.pieces .start (before ++ .illegal c :: after)) :
    ¬(ofChars cs).Commented (textOf before) := by
  rintro ⟨first, body, last, hsource, -, -, hfirst, hlast, hclear⟩
  replace hsource : cs = first ++ '#' :: (body ++ last) := hsource
  have hplace := (Position.isBehind_after (textOf before)).offset
  have hbefore : textOf before <+: cs := by
    rw [hcs, textOf_append]
    exact List.prefix_append ..
  have hmem : .illegal c (Position.start.after (textOf before)) ∈ (ofChars cs).pieces := by
    rw [hpieces]
    exact mem_pieces_of_piece rfl
  rcases hclear _ hmem with h | h
  · have hc := c.utf8Size_pos
    have hle : byteSize first ≤ byteSize (textOf before) :=
      byteSize_le_of_prefix (List.prefix_of_prefix_length_le ⟨_, hsource.symm⟩ hbefore hfirst)
    simp only [Piece.endOffset, hplace] at h
    omega
  · have hcomment : first ++ '#' :: body <+: cs := ⟨last, by simp [hsource]⟩
    have hlt : byteSize (textOf before) < byteSize (first ++ '#' :: body) :=
      byteSize_lt_of_prefix hbefore hcomment (by simp; omega)
    simp only [Piece.start, hplace] at h
    omega

theorem covered_of_token {kind : TokenKind}
    (hpieces : (ofChars cs).pieces =
      Stretch.pieces .start (before ++ .token kind (u ++ c :: v) :: after)) :
    (ofChars cs).Covered (textOf before ++ u) := by
  have hplace := (Position.isBehind_after (textOf before)).offset
  refine ⟨⟨kind, String.ofList (u ++ c :: v), .after .start (textOf before)⟩, ?_, ?_, ?_⟩
  · rw [mem_tokens, hpieces]
    exact mem_pieces_of_piece rfl
  · rw [hplace, byteSize_append]
    exact Nat.le_add_right ..
  · have hc := c.utf8Size_pos
    rw [Token.endOffset, Lexer.utf8ByteSize_ofList, hplace]
    simp only [byteSize_append, byteSize_cons]
    omega

theorem commented_of_comment {body : List Char} (hbody : '#' :: body = u ++ c :: v)
    (hfit : AllFit (before ++ .comment body :: after))
    (hcs : cs = textOf (before ++ .comment body :: after))
    (hpieces : (ofChars cs).pieces = Stretch.pieces .start (before ++ .comment body :: after)) :
    (ofChars cs).Commented (textOf before ++ u) := by
  have hlength := congrArg List.length hbody
  simp only [List.length_append, List.length_cons] at hlength
  refine ⟨textOf before, body, textOf after, ?_, hfit.fits.1, hfit.fits.2, ?_, ?_, ?_⟩
  · show cs = _
    rw [hcs, textOf_append, textOf_cons]
    rfl
  · rw [List.length_append]
    exact Nat.le_add_right ..
  · rw [List.length_append]
    omega
  · intro piece hpiece
    rw [hpieces] at hpiece
    rcases mem_pieces_split hpiece with h | h | h
    · exact .inl h
    · cases h
    · exact .inr h

end Places

/-- **What is skipped** is no part of a token, no blank and in no comment. -/
theorem mem_skipped_iff_uncovered (hfit : AllFit ss) (hcs : cs = textOf ss)
    (hpieces : (ofChars cs).pieces = Stretch.pieces .start ss) (a : List Char) (c : Char) :
    (a, c) ∈ skipped [] ss ↔ a ++ [c] <+: cs ∧ ¬(ofChars cs).Covered a ∧
      Lexer.isBlank c = false ∧ ¬(ofChars cs).Commented a := by
  rw [mem_skipped_iff]
  constructor
  · rintro ⟨before, after, rfl, rfl⟩
    refine ⟨?_, not_covered_of_illegal hpieces, hfit.fits.1, not_commented_of_illegal hcs hpieces⟩
    rw [hcs, textOf_append, textOf_cons, ← List.append_assoc]
    exact List.prefix_append ..
  · rintro ⟨⟨b, hb⟩, hcovered, hblank, hcommented⟩
    rw [List.append_assoc, hcs] at hb
    obtain ⟨before, s, after, u, v, rfl, hs, rfl⟩ := exists_stretch_of_textOf hb.symm
    cases s with
    | blank d =>
      rcases List.append_eq_singleton_iff.mp hs.symm with ⟨-, hs⟩ | ⟨-, hs⟩
      · obtain ⟨rfl, -⟩ := List.cons.inj hs
        exact absurd (hfit.fits.symm.trans hblank) (by decide)
      · cases hs
    | comment body => exact absurd (commented_of_comment hs hfit hcs hpieces) hcommented
    | token kind lexeme =>
      obtain rfl : lexeme = u ++ c :: v := hs
      exact absurd (covered_of_token hpieces) hcovered
    | illegal d =>
      rcases List.append_eq_singleton_iff.mp hs.symm with ⟨rfl, hs⟩ | ⟨-, hs⟩
      · obtain ⟨rfl, -⟩ := List.cons.inj hs
        exact ⟨before, after, rfl, List.append_nil _⟩
      · cases hs

/-- Two characters of a text with one report are one character. -/
theorem byteSize_eq_of_report {a b : List Char} {c d : Char} (ha : a ++ [c] <+: cs)
    (hb : b ++ [d] <+: cs) (h : report (a, c) = report (b, d)) : byteSize a = byteSize b := by
  obtain ⟨-, hline, hcolumn⟩ := Error.illegal.inj h
  obtain ⟨y, hy⟩ := ha
  obtain ⟨z, hz⟩ := hb
  have hoffset : ∀ {a y : List Char} {c : Char}, a ++ [c] ++ y = cs →
      byteOffset? cs (lineOf a) (columnOf a) = some (byteSize a) := by
    rintro a y c rfl
    have hplace := Position.isBehind_after a
    rw [← hplace.line, ← hplace.column, ← hplace.offset, List.append_assoc]
    exact byteOffset?_after a ([c] ++ y) (List.cons_ne_nil c y)
  have hsome := hoffset hy
  rw [show lineOf a = lineOf b from hline, show columnOf a = columnOf b from hcolumn,
    hoffset hz] at hsome
  exact (Option.some.inj hsome).symm

/-- **Scanning loses nothing,** and every place is right. -/
theorem lossless_ofChars (cs : List Char) : (ofChars cs).Lossless := by
  obtain ⟨ss, hfit, rfl, hpieces⟩ := exists_stretches cs
  have hskipped := mem_skipped_iff_uncovered hfit rfl hpieces
  have herrors : (ofChars (textOf ss)).errors = (skipped [] ss).map report := by
    rw [errors, hpieces]
    exact errors_pieces [] ss
  refine ⟨?_, ?_, pairwise_tokens _, fun front piece back h => Lexer.exists_pieceAt h,
    ⟨_, herrors, pairwise_skipped [] ss, hskipped⟩, ?_, Position.isBehind_after _, ?_⟩
  · intro t ht
    obtain ⟨a, b, hcs, hstart⟩ := exists_place ht
    exact ⟨a, b, hcs, hstart ▸ Position.isBehind_after a⟩
  · intro t ht
    obtain ⟨a, b, hcs, hstart⟩ := exists_place ht
    have hoffset : t.start.offset = byteSize a := hstart ▸ (Position.isBehind_after a).offset
    have hend : t.endOffset = byteSize a + byteSize t.lexeme.toList := by
      rw [Token.endOffset, hoffset, ← Lexer.utf8ByteSize_ofList t.lexeme.toList,
        String.ofList_toList]
    show slice (textOf ss) _ _ = _
    rw [hoffset, hend, hcs, slice_append]
  · rw [herrors]
    refine List.pairwise_map.mpr ((pairwise_skipped [] ss).imp_of_mem ?_)
    rintro ⟨a, c⟩ ⟨b, d⟩ hx hy hlt h
    exact absurd (byteSize_eq_of_report ((hskipped a c).mp hx).1 ((hskipped b d).mp hy).1 h)
      (Nat.ne_of_lt hlt)
  · intro t ht
    obtain ⟨-, hlt, hle⟩ :=
      (Lexer.ordered_scanFrom {} .start (textOf ss)).within _ (mem_tokens.mp ht)
    exact ⟨Nat.lt_of_lt_of_le hlt hle, hle⟩

/-- **Scanning a text loses nothing of its normal form.** Reading the text piece by piece gives the
same pieces, then the end, once, and nothing more. -/
theorem lossless [Normalizer] (text : String) :
    (ofText text).source = Normalizer.normalize text.toList ∧ (ofText text).Lossless ∧
      (Reader.ofText text).drain.1 =
        (ofText text).pieces.map .piece ++ [.stop (ofText text).stop] ∧
      (Reader.ofText text).drain.2.next = (none, (Reader.ofText text).drain.2) :=
  ⟨rfl, lossless_ofChars _, Reader.drain_ofText text⟩

end Scan

end PaveScript
