import PaveScript.Proofs.Tiling
import PaveScript.Text.Lines

/-!
# No white space at the ends of a statement

No token has white space in it. So the text from the beginning of one token to the end of another
one begins and ends with other characters, and trimming it leaves it as it is.

* `Lexer.isBlankChar_of_scanToken` — the characters of a token
* `Scan.trim_slice` — the text from one token to another
-/

namespace PaveScript

namespace Lexer

/-! ## The characters of a token -/

theorem isBlankChar_of_isPathChar {c : Char} (h : isPathChar c = true) :
    Text.isBlankChar c = false := by
  simp only [isPathChar, Bool.or_eq_true, beq_iff_eq] at h
  rcases h with ((((((h | rfl) | rfl) | rfl) | rfl) | rfl) | rfl) | rfl
  · simp only [Char.isAlphanum, Bool.or_eq_true, isAlpha_iff, Char.isDigit_iff_toNat,
      Char.reduceToNat] at h
    simp only [Text.isBlankChar, Bool.or_eq_false_iff, Bool.and_eq_false_iff,
      decide_eq_false_iff_not, beq_eq_false_iff_ne]
    omega
  all_goals decide

theorem isPathChar_of_mem_decimalRest {cs : List Char} {d : Char} (h : d ∈ decimalRest cs) :
    isPathChar d = true := by
  have hdigits : ∀ {ds : List Char}, d ∈ ds.takeWhile Char.isDigit → isPathChar d = true :=
    fun hd => isPathChar_of_isDigit (List.mem_takeWhile_imp hd)
  unfold decimalRest at h
  split at h
  · rcases List.mem_append.mp h with h | h
    · exact hdigits h
    · rcases List.mem_cons.mp h with rfl | h
      · decide
      · exact hdigits h
  · exact hdigits h

theorem isPathChar_of_mem_hexFractionRest {cs : List Char} {d : Char}
    (h : d ∈ hexFractionRest cs) : isPathChar d = true := by
  unfold hexFractionRest at h
  split at h
  · split at h
    · rcases List.mem_cons.mp h with rfl | h
      · decide
      · exact isPathChar_of_isHex (List.mem_takeWhile_imp h)
    · cases h
  · cases h

theorem isPathChar_of_mem_hexExponentRest {cs : List Char} {d : Char}
    (h : d ∈ hexExponentRest cs) : isPathChar d = true := by
  have hmark : ∀ {mark : Char}, (mark == 'p' || mark == 'P') = true → isPathChar mark = true := by
    intro mark hmark
    rcases (Bool.or_eq_true _ _).mp hmark with hmark | hmark <;> rw [beq_iff_eq.mp hmark] <;> decide
  unfold hexExponentRest at h
  split at h
  · split at h
    · next hp =>
      split at h
      · split at h
        · rcases List.mem_cons.mp h with rfl | h
          · exact hmark hp
          · rcases List.mem_cons.mp h with rfl | h
            · decide
            · exact isPathChar_of_isDigit (List.mem_takeWhile_imp h)
        · cases h
      · split at h
        · rcases List.mem_cons.mp h with rfl | h
          · exact hmark hp
          · exact isPathChar_of_isDigit (List.mem_takeWhile_imp h)
        · cases h
    · cases h
  · cases h

theorem isPathChar_of_mem_hexRest {cs : List Char} {d : Char} (h : d ∈ hexRest cs) :
    isPathChar d = true := by
  simp only [hexRest, List.mem_append] at h
  obtain (h | h) | h := h
  · exact isPathChar_of_isHex (List.mem_takeWhile_imp h)
  · exact isPathChar_of_mem_hexFractionRest h
  · exact isPathChar_of_mem_hexExponentRest h

theorem isPathChar_of_mem_scanNumber {c d : Char} {cs : List Char} (h : d ∈ (scanNumber c cs).2) :
    isPathChar d = true := by
  unfold scanNumber at h
  split at h
  · exact (List.mem_cons.mp h).elim (· ▸ by decide) isPathChar_of_mem_hexRest
  · exact (List.mem_cons.mp h).elim (· ▸ by decide) isPathChar_of_mem_hexRest
  · exact isPathChar_of_mem_decimalRest h

theorem isBlankChar_of_scanSymbol {c : Char} {cs r : List Char} {k : TokenKind}
    (h : scanSymbol? c cs = some (k, r)) : ∀ d ∈ c :: r, Text.isBlankChar d = false := by
  suffices (c :: r).any Text.isBlankChar = false by simpa using this
  unfold scanSymbol? at h
  split at h
  · obtain ⟨-, rfl⟩ := Prod.mk.inj (Option.some.inj h)
    decide
  · obtain ⟨-, rfl⟩ := Prod.mk.inj (Option.some.inj h)
    decide
  · obtain ⟨s, hs, hsymbol⟩ := Option.map_eq_some_iff.mp h
    obtain ⟨-, rfl⟩ := Prod.mk.inj hsymbol
    unfold symbol? at hs
    split at hs <;> first | decide | cases hs

/-- **No token has white space in it.** -/
theorem isBlankChar_of_scanToken {fileExpected : Bool} {c : Char} {cs r : List Char} {k : TokenKind}
    (h : scanToken? fileExpected c cs = some (k, r)) :
    ∀ d ∈ c :: r, Text.isBlankChar d = false := by
  unfold scanToken? at h
  split at h
  · next found hfile =>
    obtain rfl := Option.some.inj h
    split at hfile
    · unfold scanFileName? at hfile
      split at hfile
      · cases hfile
      · next hc =>
        simp only at hfile
        split at hfile
        · cases hfile
        · split at hfile
          · cases hfile
          · obtain ⟨-, rfl⟩ := Prod.mk.inj (Option.some.inj hfile)
            refine List.forall_mem_cons.mpr ⟨isBlankChar_of_isPathChar (by simpa using hc), ?_⟩
            exact fun d hd => isBlankChar_of_isPathChar (List.mem_takeWhile_imp hd)
    · cases hfile
  · split at h
    · next hc =>
      have hr : (scanNumber c cs).2 = r := congrArg Prod.snd (Option.some.inj h)
      refine List.forall_mem_cons.mpr ⟨isBlankChar_of_isPathChar (isPathChar_of_isDigit hc), ?_⟩
      exact fun d hd => isBlankChar_of_isPathChar (isPathChar_of_mem_scanNumber (hr ▸ hd))
    · split at h
      · next hc =>
        obtain ⟨-, rfl⟩ := Prod.mk.inj (Option.some.inj h)
        have hword : ∀ {d : Char}, isWordRest d = true → Text.isBlankChar d = false :=
          fun hd => isBlankChar_of_isPathChar (isPathChar_of_isWordRest hd)
        exact List.forall_mem_cons.mpr ⟨hword (isWordRest_of_isWordStart hc),
          fun d hd => hword (List.mem_takeWhile_imp hd)⟩
      · exact isBlankChar_of_scanSymbol h

end Lexer

/-! ## From one token to another -/

namespace Scan

open Text

variable {cs : List Char} {t u : Token}

/-- A token is a text without white space, and not empty. -/
theorem isBlankChar_of_mem_tokens (ht : t ∈ (ofChars cs).tokens) :
    t.lexeme.toList ≠ [] ∧ ∀ d ∈ t.lexeme.toList, isBlankChar d = false := by
  obtain ⟨a, c, b, ctx, -, hpiece⟩ := Lexer.exists_pieceAt_of_mem (mem_tokens.mp ht)
  unfold Lexer.pieceAt at hpiece
  split at hpiece
  · next kind rest hscan =>
    rw [Piece.token.inj hpiece, String.toList_ofList]
    exact ⟨List.cons_ne_nil c rest, Lexer.isBlankChar_of_scanToken hscan⟩
  · cases hpiece

/-- Tokens end behind the beginning of every token before them. -/
theorem start_le_endOffset {before after : List Token} {head : Token}
    (h : (ofChars cs).tokens = before ++ head :: after) (ht : t ∈ head :: after) :
    head.start.offset ≤ t.endOffset := by
  rcases List.mem_cons.mp ht with rfl | ht
  · exact Nat.le_add_right _ _
  · have hpairwise := pairwise_tokens cs
    rw [h] at hpairwise
    obtain ⟨-, hbehind, -⟩ := List.pairwise_append.mp hpairwise
    have hlt := ((List.pairwise_cons.mp hbehind).1 t ht).1
    exact Nat.le_trans (Nat.le_of_lt hlt) (Nat.le_add_right _ _)

/-- The text from one token to another one that does not end before it, with the text around it. -/
theorem exists_between (ht : t ∈ (ofChars cs).tokens) (hu : u ∈ (ofChars cs).tokens)
    (h : t.start.offset ≤ u.endOffset) :
    ∃ a x z, cs = a ++ (x ++ z) ∧ t.start.offset = byteSize a ∧
      u.endOffset = byteSize a + byteSize x ∧ t.lexeme.toList <+: x ++ z ∧
      u.lexeme.toList <:+ a ++ x := by
  obtain ⟨a, b, ha, hstart⟩ := exists_place ht
  obtain ⟨c, z, hc, hstart'⟩ := exists_place hu
  have hfirst : t.start.offset = byteSize a := hstart ▸ (Position.isBehind_after a).offset
  have hlast : u.endOffset = byteSize (c ++ u.lexeme.toList) := by
    rw [Token.endOffset, hstart', (Position.isBehind_after c).offset, byteSize_append,
      ← Lexer.utf8ByteSize_ofList u.lexeme.toList, String.ofList_toList]
  have hthrough : c ++ u.lexeme.toList <+: cs := ⟨z, by rw [List.append_assoc, ← hc]⟩
  obtain ⟨x, hx⟩ : a <+: c ++ u.lexeme.toList :=
    prefix_of_byteSize_le ⟨_, ha.symm⟩ hthrough (hfirst ▸ hlast ▸ h)
  have hcs : cs = a ++ (x ++ z) := by
    rw [hc, ← List.append_assoc, ← hx, List.append_assoc]
  refine ⟨a, x, z, hcs, hfirst, by rw [hlast, ← hx, byteSize_append], ⟨b, ?_⟩, ⟨c, hx.symm⟩⟩
  exact (List.append_cancel_left (hcs.symm.trans ha)).symm

/-- **The text from one token to another** has no white space at its ends. -/
theorem trim_slice (ht : t ∈ (ofChars cs).tokens) (hu : u ∈ (ofChars cs).tokens)
    (h : t.start.offset ≤ u.endOffset) :
    trim (slice cs t.start.offset u.endOffset) = slice cs t.start.offset u.endOffset := by
  obtain ⟨a, x, z, hcs, hfirst, hlast, ⟨b, hb⟩, ⟨e, he⟩⟩ := exists_between ht hu h
  have hslice : slice cs t.start.offset u.endOffset = x := by
    rw [hfirst, hlast, hcs, slice_append]
  rw [hslice]
  obtain ⟨ht, hblank⟩ := isBlankChar_of_mem_tokens ht
  obtain ⟨hu, hblank'⟩ := isBlankChar_of_mem_tokens hu
  refine trim_eq_self (fun c hc => hblank c ?_) fun c hc => hblank' c ?_
  · have hhead : (x ++ z).head? = some c := by rw [List.head?_append, hc]; rfl
    rw [← hb, List.head?_append_of_ne_nil _ ht] at hhead
    exact List.mem_of_head? hhead
  · have hend : (a ++ x).getLast? = some c := by rw [List.getLast?_append, hc]; rfl
    rw [← he, List.getLast?_append_of_ne_nil _ hu] at hend
    exact List.mem_of_getLast? hend

end Scan

end PaveScript
