import Mathlib.Data.List.Forall2
import PaveScript.Proofs.Clause
import PaveScript.Proofs.Tiling

/-!
# Texts that are put together

Two texts with the end of a line and a semicolon between them have the tokens that they have apart,
and the semicolon. The end of the line ends the last token and the last comment of the first text;
the semicolon makes sure that no file name is due where the second text begins. Only the places of
its tokens change, all by the same number of bytes.

* `Token.Moved` — a token at another place
* `scanFrom_append_newline` — scanning does not look past the end of a line
* `moved_scanFrom` — the same text at another place
* `exists_tokens_joined` — the two together
-/

namespace PaveScript

/-! ## Tokens at another place -/

/-- The same token, `d` bytes further on. -/
structure Token.Moved (d : Nat) (t u : Token) : Prop where
  kind : u.kind = t.kind
  lexeme : u.lexeme = t.lexeme
  offset : u.start.offset = d + t.start.offset

namespace Token.Moved

variable {d : Nat} {t u : Token}

theorem refl (t : Token) : Moved 0 t t := ⟨rfl, rfl, (Nat.zero_add _).symm⟩

theorem endOffset (h : Moved d t u) : u.endOffset = d + t.endOffset := by
  rw [Token.endOffset, Token.endOffset, h.lexeme, h.offset, Nat.add_assoc]

theorem isSemicolon_eq (h : Moved d t u) : Script.isSemicolon u = Script.isSemicolon t := by
  rw [Script.isSemicolon, Script.isSemicolon, h.kind]

end Token.Moved

/-- The same piece, `d` bytes further on. -/
def Piece.Moved (d : Nat) : Piece → Piece → Prop
  | .token t, .token u => t.Moved d u
  | .illegal c _, .illegal c' _ => c' = c
  | _, _ => False

/-- Tokens in a row, all of them `d` bytes further on. -/
abbrev AllMoved (d : Nat) : List Token → List Token → Prop := List.Forall₂ (Token.Moved d)

namespace AllMoved

variable {d : Nat} {ts us : List Token}

theorem refl (ts : List Token) : AllMoved 0 ts ts := List.forall₂_same.mpr fun t _ => .refl t

theorem alike (h : AllMoved d ts us) : Alike ts us := by
  induction h with
  | nil => exact .refl []
  | cons hhead _ ih =>
    show _ :: _ = _ :: _
    rw [hhead.kind, ih]

theorem exists_append {vs : List Token} (h : AllMoved d (ts ++ us) vs) :
    ∃ ts' us', vs = ts' ++ us' ∧ AllMoved d ts ts' ∧ AllMoved d us us' := by
  induction ts generalizing vs with
  | nil => exact ⟨[], vs, rfl, .nil, h⟩
  | cons t ts ih =>
    cases h with
    | cons hhead htail =>
      obtain ⟨ts', us', rfl, hts, hus⟩ := ih htail
      exact ⟨_ :: ts', us', rfl, .cons hhead hts, hus⟩

/-- Semicolons in front do not count at either place. -/
theorem dropWhile (h : AllMoved d ts us) :
    AllMoved d (ts.dropWhile Script.isSemicolon) (us.dropWhile Script.isSemicolon) := by
  induction h with
  | nil => exact .nil
  | @cons t u ts us hhead htail ih =>
    rw [List.dropWhile_cons, List.dropWhile_cons, hhead.isSemicolon_eq]
    split
    · exact ih
    · exact .cons hhead htail

end AllMoved

namespace Lexer

/-! ## Up to the end of a line -/

/-- A comment does not go past the end of its line. -/
theorem takeWhile_append_newline (cs ds : List Char) :
    (cs ++ '\n' :: ds).takeWhile (· != '\n') = cs.takeWhile (· != '\n') := by
  induction cs with
  | nil => simp
  | cons c cs ih => by_cases hc : c = '\n' <;> simp [hc, ih]

/-- **Scanning does not look past the end of a line:** what stands in front of it is scanned as if
it stood alone. -/
theorem scanFrom_append_newline (ctx : Context) (p : Position) (cs ds : List Char) :
    scanFrom ctx p (cs ++ '\n' :: ds) =
      scanFrom ctx p cs ++
        scanFrom ((scanFrom ctx p cs).foldl Context.pushPiece ctx) (p.after cs) ('\n' :: ds) := by
  have hbroken : Broken ('\n' :: ds) := broken_cons (by decide) ds
  fun_induction scanFrom ctx p cs with
  | case1 ctx p => rfl
  | case2 ctx p c cs hblank ih =>
    rw [List.cons_append, scanFrom_blank _ _ hblank, ih, Position.after_cons]
  | case3 ctx p cs comment hblank ih =>
    have hsplit : cs = comment ++ cs.drop comment.length :=
      (List.prefix_iff_eq_append.mp (List.takeWhile_prefix _)).symm
    have hafter : p.after ('#' :: cs) =
        (p.after ('#' :: comment)).after (cs.drop comment.length) := by
      rw [← Position.after_append, List.cons_append, ← hsplit]
    have hdrop : (cs ++ '\n' :: ds).drop comment.length =
        cs.drop comment.length ++ '\n' :: ds :=
      List.drop_append_of_le_length (List.takeWhile_prefix _).length_le
    rw [List.cons_append, scanFrom, if_neg (by decide), if_pos rfl]
    simp only [takeWhile_append_newline]
    rw [hafter, ← ih]
    exact congrArg _ hdrop
  | case4 ctx p c cs hblank hhash kind rest hscan ih =>
    have hsplit : cs = rest ++ cs.drop rest.length :=
      (List.prefix_iff_eq_append.mp (prefix_of_scanToken hscan)).symm
    have hafter : p.after (c :: cs) = (p.after (c :: rest)).after (cs.drop rest.length) := by
      rw [← Position.after_append, List.cons_append, ← hsplit]
    have hscan' := (scanToken?_append hbroken ctx.expectsFile c).trans hscan
    rw [hsplit, List.append_assoc] at hscan'
    rw [hafter, List.foldl_cons, List.cons_append, List.cons_append]
    nth_rewrite 1 [hsplit]
    rw [List.append_assoc, scanFrom_token ctx p (by simpa using hblank) hhash hscan', ih]
    rfl
  | case5 ctx p c cs hblank hhash hscan ih =>
    have hscan' := (scanToken?_append hbroken ctx.expectsFile c).trans hscan
    rw [List.cons_append, scanFrom, if_neg hblank, if_neg hhash, hscan', List.foldl_cons, ih]
    rfl

/-! ## The same text at another place -/

/-- **A text has the same pieces at every place** behind which the same tokens can stand. -/
theorem moved_scanFrom {ctx ctx' : Context} (h : ctx.Agrees ctx') {p q : Position} {d : Nat}
    (hq : q.offset = d + p.offset) (cs : List Char) :
    List.Forall₂ (Piece.Moved d) (scanFrom ctx p cs) (scanFrom ctx' q cs) := by
  have hafter : ∀ {p q : Position}, q.offset = d + p.offset → ∀ cs : List Char,
      (q.after cs).offset = d + (p.after cs).offset := by
    intro p q hq cs
    rw [Text.offset_after, Text.offset_after, hq, Nat.add_assoc]
  fun_induction scanFrom ctx p cs generalizing ctx' q with
  | case1 ctx p =>
    rw [scanFrom]
    exact .nil
  | case2 ctx p c cs hblank ih =>
    rw [scanFrom_blank _ _ hblank]
    exact ih h (hafter hq [c])
  | case3 ctx p cs comment hblank =>
    rename_i ih
    rw [scanFrom, if_neg hblank, if_pos rfl]
    exact ih h (hafter hq ('#' :: comment))
  | case4 ctx p c cs hblank hhash kind rest hscan ih =>
    rw [scanFrom, if_neg hblank, if_neg hhash, ← h.1, hscan]
    exact .cons ⟨rfl, rfl, hq⟩ (ih (h.push kind) (hafter hq (c :: rest)))
  | case5 ctx p c cs hblank hhash hscan ih =>
    rw [scanFrom, if_neg hblank, if_neg hhash, ← h.1, hscan]
    exact .cons rfl (ih h (hafter hq [c]))

end Lexer

/-- Pieces at another place: their tokens, and whether a character is skipped. -/
theorem moved_pieces {d : Nat} {ps qs : List Piece} (h : List.Forall₂ (Piece.Moved d) ps qs) :
    AllMoved d (ps.filterMap Piece.token?) (qs.filterMap Piece.token?) ∧
      (qs.filterMap Piece.error? = [] ↔ ps.filterMap Piece.error? = []) := by
  induction h with
  | nil => exact ⟨.nil, Iff.rfl⟩
  | @cons piece piece' ps qs hhead _ ih =>
    cases piece with
    | token t =>
      cases piece' with
      | token u => exact ⟨.cons hhead ih.1, ih.2⟩
      | illegal => cases hhead
    | illegal c q =>
      cases piece' with
      | token => cases hhead
      | illegal => exact ⟨ih.1, iff_of_false (by simp [Piece.error?]) (by simp [Piece.error?])⟩

/-! ## Two texts -/

open Lexer Script

/-- The pieces of two texts with the end of a line and a semicolon between them. -/
theorem exists_pieces_joined (a b : List Char) :
    ∃ ctx : Context, (Scan.ofChars (a ++ '\n' :: ';' :: b)).pieces =
      (Scan.ofChars a).pieces ++
        .token ⟨.symbol .semicolon, ";", Position.start.after (a ++ ['\n'])⟩ ::
          scanFrom (ctx.push (.symbol .semicolon)) (Position.start.after (a ++ ['\n', ';'])) b := by
  refine ⟨(scanFrom {} .start a).foldl Context.pushPiece {}, ?_⟩
  show scanFrom {} Position.start (a ++ '\n' :: ';' :: b) = _
  rw [scanFrom_append_newline, scanFrom_blank _ _ (by decide), scanFrom_semicolon,
    Position.after_append, Position.after_append]
  rfl

/-- **The tokens of two texts with the end of a line and a semicolon between them** are those of the
texts and the semicolon, and a character is skipped only where it is skipped in one of them. -/
theorem exists_tokens_joined (a b : List Char) :
    ∃ semi moved, isSemicolon semi = true ∧
      (Scan.ofChars (a ++ '\n' :: ';' :: b)).tokens = (Scan.ofChars a).tokens ++ semi :: moved ∧
      AllMoved (Text.byteSize (a ++ ['\n', ';'])) (Scan.ofChars b).tokens moved ∧
      ((Scan.ofChars (a ++ '\n' :: ';' :: b)).errors = [] ↔
        (Scan.ofChars a).errors = [] ∧ (Scan.ofChars b).errors = []) := by
  obtain ⟨ctx, hpieces⟩ := exists_pieces_joined a b
  have hplace : (Position.start.after (a ++ ['\n', ';'])).offset =
      Text.byteSize (a ++ ['\n', ';']) + Position.start.offset := by
    rw [Text.offset_after, Nat.add_comm]
  -- no file name is due at the beginning of a text, and none behind a semicolon
  have hagrees : Context.Agrees {} (ctx.push (.symbol .semicolon)) :=
    Calm.start.agrees (calm_semicolon ctx)
  obtain ⟨hmoved, herrors⟩ := moved_pieces (moved_scanFrom hagrees hplace b)
  refine ⟨⟨.symbol .semicolon, ";", Position.start.after (a ++ ['\n'])⟩, _, rfl, ?_, hmoved, ?_⟩
  · rw [Scan.tokens, hpieces, List.filterMap_append]
    rfl
  · rw [Scan.errors, hpieces, List.filterMap_append, List.append_eq_nil_iff]
    exact and_congr_right fun _ => herrors

end PaveScript
