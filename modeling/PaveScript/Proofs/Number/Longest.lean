import PaveScript.Proofs.Literals
import PaveScript.Proofs.Number.Pattern
import PaveScript.Proofs.Number.Whole
import PaveScript.Proofs.Tiling

/-!
# Numbers are scanned by longest match

The scanner takes a fraction or an exponent only if the digits that it needs follow, and gives the
rest back to the tokens behind the number. What it takes is the longest beginning of the text that
the pattern of numbers allows. This has two halves: what is taken is a number (`isDecimal_taken`,
`isHexadecimal_taken`), and every number that the text begins with is part of it
(`decimalRest_covers`, `hexRest_covers`).

* `IsLongest` — the longest beginning of a text that matches a pattern
* `isLongest_scanNumber` — what is taken from a digit on
* `numbers_longest` — the number tokens of a text
-/

namespace PaveScript

open Lexer

namespace Pattern

/-- The longest beginning of a text that matches a pattern. -/
structure IsLongest (P : List Char → Prop) (w cs : List Char) : Prop where
  isPrefix : w <+: cs
  fits : P w
  longest : ∀ v, v <+: cs → P v → v.length ≤ w.length

/-- The pattern of the number that a text begins with. -/
def numberAt (cs : List Char) : List Char → Prop :=
  if (Literal.hexBody? cs).isSome then IsHexadecimal else IsDecimal

theorem numberAt_hex {mark : Char} (h : mark = 'x' ∨ mark = 'X') (cs : List Char) :
    numberAt ('0' :: mark :: cs) = IsHexadecimal := by
  rcases h with rfl | rfl <;> rfl

/-! ## Decimal numbers -/

theorem isDecimal_taken {c : Char} (hc : c.isDigit = true) (cs : List Char) :
    IsDecimal (c :: decimalRest cs) := by
  have hwhole : ∀ d ∈ c :: cs.takeWhile Char.isDigit, d.isDigit = true :=
    List.forall_mem_cons.mpr ⟨hc, fun _ => List.mem_takeWhile_imp⟩
  unfold decimalRest
  split
  · exact .point (List.cons_ne_nil c _) hwhole fun _ => List.mem_takeWhile_imp
  · exact .whole (List.cons_ne_nil c _) hwhole

/-- **Every decimal number that a text begins with is taken.** -/
theorem decimalRest_covers {v : List Char} (h : IsDecimal v) (c : Char) {cs : List Char}
    (hv : v <+: c :: cs) : v <+: c :: decimalRest cs := by
  cases h with
  | whole hne hws =>
    obtain ⟨d, ws, rfl⟩ := List.exists_cons_of_ne_nil hne
    obtain ⟨rfl, z, rfl⟩ := List.cons_prefix_cons.mp hv
    rw [List.forall_mem_cons] at hws
    refine List.cons_prefix_cons.mpr ⟨rfl, ?_⟩
    -- with a point behind the digits or without one, the digits come first
    have hwhole : ws <+: (ws ++ z).takeWhile Char.isDigit := by
      rw [List.takeWhile_append_of_pos hws.2]
      exact List.prefix_append ..
    unfold decimalRest
    split
    · exact hwhole.trans (List.prefix_append ..)
    · exact hwhole
  | point hne hws hfs =>
    rename_i ws fs
    obtain ⟨d, ws, rfl⟩ := List.exists_cons_of_ne_nil hne
    rw [List.cons_append] at hv ⊢
    obtain ⟨rfl, z, rfl⟩ := List.cons_prefix_cons.mp hv
    rw [List.forall_mem_cons] at hws
    have hpoint : ∀ c ∈ ('.' :: (fs ++ z)).head?, c.isDigit = false := by
      rintro _ ⟨⟩
      rfl
    obtain ⟨htake, hdrop⟩ := takeWhile_append_delimited _ hws.2 hpoint
    refine List.cons_prefix_cons.mpr ⟨rfl, ?_⟩
    rw [List.append_assoc, List.cons_append]
    simp only [decimalRest, htake, hdrop, List.takeWhile_append_of_pos hfs]
    rw [← List.cons_append, ← List.append_assoc]
    exact List.prefix_append ..

/-! ## Hexadecimal numbers -/

theorem isHex_takeWhile (cs : List Char) : ∀ c ∈ cs.takeWhile Digits.isHex, Digits.isHex c = true :=
  List.all_eq_true.mp List.all_takeWhile

/-- Where a character of a class comes first, its run is not empty. -/
theorem takeWhile_ne_nil {p : Char → Bool} {cs : List Char}
    (h : (cs.head?.map p).getD false = true) : cs.takeWhile p ≠ [] := by
  cases cs with
  | nil => cases h
  | cons c cs =>
    have hc : p c = true := h
    simp [hc]

theorem isFraction_taken (cs : List Char) : IsFraction (hexFractionRest cs) := by
  unfold hexFractionRest
  split
  · next rest =>
    split
    · next hahead => exact .digits (takeWhile_ne_nil hahead) (isHex_takeWhile rest)
    · exact .none
  · exact .none

theorem isExponent_taken (cs : List Char) : IsExponent (hexExponentRest cs) := by
  unfold hexExponentRest
  split
  · next mark rest =>
    split
    · next hmark =>
      have hmark' : mark = 'p' ∨ mark = 'P' := by simpa using hmark
      split
      · split
        · next hahead =>
          exact .negative hmark' (takeWhile_ne_nil hahead) fun _ => List.mem_takeWhile_imp
        · exact .none
      · split
        · next hahead =>
          exact .plain hmark' (takeWhile_ne_nil hahead) fun _ => List.mem_takeWhile_imp
        · exact .none
    · exact .none
  · exact .none

theorem isHexadecimal_taken {mark : Char} (h : mark = 'x' ∨ mark = 'X') (cs : List Char) :
    IsHexadecimal ('0' :: mark :: hexRest cs) := by
  simp only [hexRest, List.append_assoc]
  exact .mk h (isHex_takeWhile cs) (isFraction_taken _) (isExponent_taken _)

theorem hexExponentRest_covers {es : List Char} (h : IsExponent es) (z : List Char) :
    es <+: hexExponentRest (es ++ z) := by
  cases h with
  | none => exact List.nil_prefix
  | plain hmark hne hds =>
    rename_i mark ds
    have hmark' : (mark == 'p' || mark == 'P') = true := by simpa using hmark
    obtain ⟨d, ds, rfl⟩ := List.exists_cons_of_ne_nil hne
    have hd : d.isDigit = true := hds d List.mem_cons_self
    rw [List.cons_append, hexExponentRest, if_pos hmark', if_pos (by exact hd),
      List.takeWhile_append_of_pos hds]
    · exact List.cons_prefix_cons.mpr ⟨rfl, List.prefix_append ..⟩
    · -- no sign is due: a digit follows the mark
      rintro digits hsign
      obtain ⟨rfl, -⟩ := List.cons.inj hsign
      exact absurd hd (by decide)
  | negative hmark hne hds =>
    rename_i mark ds
    have hmark' : (mark == 'p' || mark == 'P') = true := by simpa using hmark
    obtain ⟨d, ds, rfl⟩ := List.exists_cons_of_ne_nil hne
    have hd : d.isDigit = true := hds d List.mem_cons_self
    rw [List.cons_append, List.cons_append, hexExponentRest, if_pos hmark', if_pos (by exact hd),
      List.takeWhile_append_of_pos hds]
    exact List.cons_prefix_cons.mpr ⟨rfl, List.cons_prefix_cons.mpr ⟨rfl, List.prefix_append ..⟩⟩

theorem hexFractionRest_covers {fs : List Char} (h : IsFraction fs) (z : List Char) :
    fs <+: hexFractionRest (fs ++ z) := by
  cases h with
  | none => exact List.nil_prefix
  | digits hne hfs =>
    rename_i fs
    obtain ⟨d, fs, rfl⟩ := List.exists_cons_of_ne_nil hne
    have hd : Digits.isHex d = true := hfs d List.mem_cons_self
    rw [List.cons_append, hexFractionRest, if_pos (by exact hd), List.takeWhile_append_of_pos hfs]
    exact List.cons_prefix_cons.mpr ⟨rfl, List.prefix_append ..⟩

/-- In front of the mark of an exponent a fraction ends. -/
theorem hexFractionRest_of_mark {fs : List Char} (h : IsFraction fs) {mark : Char}
    (hmark : mark = 'p' ∨ mark = 'P') (z : List Char) :
    hexFractionRest (fs ++ mark :: z) = fs := by
  have hz : ∀ c ∈ (mark :: z).head?, Digits.isHex c = false := by
    rintro _ ⟨⟩
    rcases hmark with rfl | rfl <;> decide
  cases h with
  | none => rcases hmark with rfl | rfl <;> rfl
  | digits hne hfs =>
    obtain ⟨hahead, htake⟩ := digits_ahead hne hfs hz
    rw [List.cons_append, hexFractionRest, if_pos hahead, htake]

/-- **Every hexadecimal number that a text begins with is taken.** -/
theorem hexRest_covers {ws fs es : List Char} (hws : ∀ c ∈ ws, Digits.isHex c = true)
    (hfs : IsFraction fs) (hes : IsExponent es) (z : List Char) :
    ws ++ (fs ++ es) <+: hexRest (ws ++ (fs ++ es) ++ z) := by
  by_cases hempty : fs ++ es = []
  · -- digits alone: more of them may follow
    rw [hempty, List.append_nil]
    simp only [hexRest, List.takeWhile_append_of_pos hws, List.append_assoc]
    exact List.prefix_append ..
  have hhead : ∀ c ∈ (fs ++ es ++ z).head?, Digits.isHex c = false := by
    intro c hc
    rw [List.head?_append_of_ne_nil _ hempty] at hc
    exact not_isHex_head hfs hes c hc
  obtain ⟨htake, hdrop⟩ := takeWhile_append_delimited (fs ++ es ++ z) hws hhead
  rw [List.append_assoc, hexRest]
  simp only [htake, hdrop]
  rw [List.append_assoc, List.append_assoc]
  refine (List.prefix_append_right_inj ws).mpr ?_
  by_cases hes' : es = []
  · subst hes'
    rw [List.append_nil, List.nil_append]
    exact (hexFractionRest_covers hfs z).trans (List.prefix_append ..)
  · -- an exponent ends the fraction in front of it
    have hfraction : hexFractionRest (fs ++ (es ++ z)) = fs := by
      cases hes with
      | none => exact absurd rfl hes'
      | plain hmark _ _ => exact hexFractionRest_of_mark hfs hmark _
      | negative hmark _ _ => exact hexFractionRest_of_mark hfs hmark _
    rw [hfraction, List.drop_left]
    exact (List.prefix_append_right_inj fs).mpr (hexExponentRest_covers hes z)

/-! ## From a digit on -/

/-- Which of the two scanners a digit and the text behind it call for. -/
theorem scanNumber_cases (c : Char) (cs : List Char) :
    (∃ mark rest, (mark = 'x' ∨ mark = 'X') ∧ c :: cs = '0' :: mark :: rest ∧
      scanNumber c cs = (hexKind ('0' :: mark :: hexRest rest), mark :: hexRest rest)) ∨
    (Literal.hexBody? (c :: cs) = none ∧
      scanNumber c cs = (decimalKind (c :: decimalRest cs), decimalRest cs)) := by
  unfold scanNumber
  split
  · next rest => exact .inl ⟨'x', rest, .inl rfl, rfl, rfl⟩
  · next rest => exact .inl ⟨'X', rest, .inr rfl, rfl, rfl⟩
  · next hx hX =>
    refine .inr ⟨?_, rfl⟩
    unfold Literal.hexBody?
    split
    · next heq =>
      obtain ⟨rfl, rfl⟩ := List.cons.inj heq
      exact absurd rfl (hx _ rfl)
    · next heq =>
      obtain ⟨rfl, rfl⟩ := List.cons.inj heq
      exact absurd rfl (hX _ rfl)
    · rfl

/-- **What is taken from a digit on is the longest number there.** -/
theorem isLongest_scanNumber {c : Char} (hc : c.isDigit = true) (cs : List Char) :
    IsLongest (numberAt (c :: cs)) (c :: (scanNumber c cs).2) (c :: cs) := by
  refine ⟨List.cons_prefix_cons.mpr ⟨rfl, prefix_scanNumber c cs⟩, ?_, ?_⟩
  · rcases scanNumber_cases c cs with ⟨mark, rest, hmark, htext, hscan⟩ | ⟨hdecimal, hscan⟩
    · obtain ⟨rfl, rfl⟩ := List.cons.inj htext
      rw [hscan, numberAt_hex hmark]
      exact isHexadecimal_taken hmark rest
    · rw [hscan, numberAt, hdecimal]
      exact isDecimal_taken hc cs
  · intro v hv hfits
    refine List.IsPrefix.length_le ?_
    rcases scanNumber_cases c cs with ⟨mark, rest, hmark, htext, hscan⟩ | ⟨hdecimal, hscan⟩
    · obtain ⟨rfl, rfl⟩ := List.cons.inj htext
      rw [numberAt_hex hmark] at hfits
      rw [hscan]
      cases hfits with
      | mk _ hws hfs hes =>
        obtain ⟨-, hv⟩ := List.cons_prefix_cons.mp hv
        obtain ⟨rfl, z, rfl⟩ := List.cons_prefix_cons.mp hv
        exact List.cons_prefix_cons.mpr
          ⟨rfl, List.cons_prefix_cons.mpr ⟨rfl, hexRest_covers hws hfs hes z⟩⟩
    · rw [numberAt, hdecimal] at hfits
      rw [hscan]
      exact decimalRest_covers hfits c hv

/-! ## Conversion -/

theorem ofText?_point {ws fs : List Char} (hne : ws ≠ [])
    (h : ∀ c ∈ ws ++ fs, c.isDigit = true) : (Double.ofText? (ws ++ '.' :: fs)).isSome = true := by
  have hread := Double.readUnsigned?_point hne h
  obtain ⟨c, ws, rfl⟩ := List.exists_cons_of_ne_nil hne
  have hc : c.isDigit = true := h c List.mem_cons_self
  unfold Double.ofText?
  split
  -- a digit is neither of the signs
  · next heq =>
    obtain ⟨rfl, -⟩ := List.cons.inj heq
    exact absurd hc (by decide)
  · next heq =>
    obtain ⟨rfl, -⟩ := List.cons.inj heq
    exact absurd hc (by decide)
  · rw [hread]
    rfl

/-- **A decimal number is read, or it is too large.** -/
theorem IsDecimal.ofDecimal_ne_malformed {cs : List Char} (h : IsDecimal cs) :
    Literal.ofDecimal cs ≠ .error .malformed := by
  cases h with
  | whole hne hws =>
    rw [Literal.ofDecimal_of_isDigit hne hws]
    split <;> simp
  | point hne hws hfs =>
    obtain ⟨x, hx⟩ := Option.isSome_iff_exists.mp
      (ofText?_point hne (List.forall_mem_append.mpr ⟨hws, hfs⟩))
    rw [Literal.ofDecimal, if_pos (by simp), hx]
    simp only
    split <;> simp

/-- A token whose kind is what its text reads as, in the base that its mark tells. -/
structure Converted (kind : TokenKind) (lexeme : List Char) : Prop where
  overflow : kind = .overflow ↔ ∃ e, read lexeme = .error e
  value : ∀ l, read lexeme = .ok l → Grammar.literal? kind = some l
  decimal : Literal.hexBody? lexeme = none → read lexeme ≠ .error .malformed

theorem Converted.of_read {kind : TokenKind} {lexeme : List Char}
    (herror : ∀ e, read lexeme = .error e → kind = .overflow)
    (hok : ∀ l, read lexeme = .ok l → Grammar.literal? kind = some l)
    (hdecimal : Literal.hexBody? lexeme = none → read lexeme ≠ .error .malformed) :
    Converted kind lexeme := by
  refine ⟨⟨?_, fun ⟨e, he⟩ => herror e he⟩, hok, hdecimal⟩
  rintro rfl
  cases hread : read lexeme with
  | error e => exact ⟨e, rfl⟩
  | ok l => cases hok l hread

theorem converted_hexKind {mark : Char} (h : mark = 'x' ∨ mark = 'X') (cs : List Char) :
    Converted (hexKind ('0' :: mark :: cs)) ('0' :: mark :: cs) := by
  have hbody : Literal.hexBody? ('0' :: mark :: cs) = some cs := by
    rcases h with rfl | rfl <;> rfl
  have hread : read ('0' :: mark :: cs) = Literal.ofHex ('0' :: mark :: cs) := by
    rw [read, hbody]
    rfl
  refine .of_read ?_ ?_ fun hnone => ?_
  · intro e he
    rw [hexKind, ← hread, he]
  · intro l hl
    rw [hread] at hl
    obtain ⟨x, -, rfl⟩ := Literal.ofHex_cases hl
    rw [hexKind, hl]
    rfl
  · rw [hbody] at hnone
    cases hnone

/-- The mark of hexadecimal numbers does not stand in a decimal one. -/
theorem IsDecimal.hexBody?_eq_none {cs : List Char} (h : IsDecimal cs) :
    Literal.hexBody? cs = none := by
  obtain ⟨c, r, rfl, -, hr, -⟩ := h.exists_cons
  unfold Literal.hexBody?
  split
  · next heq =>
    obtain ⟨-, rfl⟩ := List.cons.inj heq
    exact absurd (hr 'x' List.mem_cons_self) (by decide)
  · next heq =>
    obtain ⟨-, rfl⟩ := List.cons.inj heq
    exact absurd (hr 'X' List.mem_cons_self) (by decide)
  · rfl

theorem IsDecimal.converted {cs : List Char} (h : IsDecimal cs) :
    Converted (decimalKind cs) cs := by
  have hread : read cs = Literal.ofDecimal cs := by
    rw [read, h.hexBody?_eq_none]
    rfl
  refine .of_read ?_ ?_ fun _ => ?_
  · intro e he
    rw [decimalKind, ← hread, he]
  · intro l hl
    rw [decimalKind, ← hread, hl]
    rfl
  · rw [hread]
    exact h.ofDecimal_ne_malformed

theorem converted_scanNumber {c : Char} (hc : c.isDigit = true) (cs : List Char) :
    Converted (scanNumber c cs).1 (c :: (scanNumber c cs).2) := by
  rcases scanNumber_cases c cs with ⟨mark, rest, hmark, htext, hscan⟩ | ⟨-, hscan⟩
  · obtain ⟨rfl, rfl⟩ := List.cons.inj htext
    rw [hscan]
    exact converted_hexKind hmark _
  · rw [hscan]
    exact (isDecimal_taken hc cs).converted

end Pattern

/-! ## In a text -/

namespace Lexer

open Pattern

theorem file?_scanFileName {c : Char} {cs rest : List Char} {k : TokenKind}
    (h : scanFileName? c cs = some (k, rest)) : (Grammar.file? k).isSome = true := by
  unfold scanFileName? at h
  split at h
  · cases h
  · simp only at h
    split at h
    · cases h
    · split at h
      · cases h
      · obtain ⟨rfl, -⟩ := Prod.mk.inj (Option.some.inj h)
        split <;> rfl

/-- Where no file name is read, a digit begins a number. -/
theorem scanToken?_of_isDigit {fileExpected : Bool} {c : Char} {cs rest : List Char} {k : TokenKind}
    (hc : c.isDigit = true) (h : scanToken? fileExpected c cs = some (k, rest))
    (hfile : Grammar.file? k = none) : scanNumber c cs = (k, rest) := by
  unfold scanToken? at h
  split at h
  · next found hfound =>
    obtain rfl := Option.some.inj h
    split at hfound
    · have := file?_scanFileName hfound
      rw [hfile] at this
      cases this
    · cases hfound
  · rw [if_pos hc] at h
    exact Option.some.inj h

theorem isDigit_eq_false_of_scanToken {fileExpected : Bool} {c : Char} {cs : List Char}
    (h : scanToken? fileExpected c cs = none) : c.isDigit = false := by
  rw [Bool.eq_false_iff]
  intro hc
  unfold scanToken? at h
  split at h
  · cases h
  · rw [if_pos hc] at h
    cases h

end Lexer

namespace Scan

open Pattern

/--
**Numbers are scanned by longest match.** No digit of a text is skipped, and a token that begins
with one and is no file name stands where the text before it ends. Its text is the longest beginning
of the text from there on that the pattern of hexadecimal numbers allows, if their mark stands
there, and that the pattern of decimal numbers allows otherwise. The token tells that there is no
value exactly when this text reads as none, which for a decimal number means that it is too large.
-/
theorem numbers_longest [Text.Normalizer] (text : String) :
    (∀ c p, .illegal c p ∈ (ofText text).pieces → c.isDigit = false) ∧
    ∀ t ∈ (ofText text).tokens, (∃ c ∈ t.lexeme.toList.head?, c.isDigit = true) →
      Grammar.file? t.kind = none →
      ∃ a b, (ofText text).source = a ++ b ∧ t.start = Position.start.after a ∧
        IsLongest (numberAt b) t.lexeme.toList b ∧ Converted t.kind t.lexeme.toList := by
  constructor
  · intro c p hpiece
    obtain ⟨a, d, ds, ctx, -, hfound⟩ := exists_pieceAt_of_mem hpiece
    unfold pieceAt at hfound
    split at hfound
    · cases hfound
    · next hscan =>
      obtain ⟨rfl, -⟩ := Piece.illegal.inj hfound
      exact isDigit_eq_false_of_scanToken hscan
  · rintro t ht ⟨c, hhead, hc⟩ hfile
    obtain ⟨a, d, ds, ctx, hsource, hfound⟩ := exists_pieceAt_of_mem (mem_tokens.mp ht)
    unfold pieceAt at hfound
    split at hfound
    · next kind rest hscan =>
      obtain rfl := Piece.token.inj hfound
      simp only [String.toList_ofList, List.head?_cons, Option.mem_some_iff] at hhead hfile ⊢
      subst hhead
      have hnumber := scanToken?_of_isDigit hc hscan hfile
      have hlongest := isLongest_scanNumber hc ds
      have hconverted := converted_scanNumber hc ds
      rw [hnumber] at hlongest hconverted
      exact ⟨a, d :: ds, hsource, rfl, hlongest, hconverted⟩
    · cases hfound

/-- The point and the mark behind `0x1` are given back, since no digit follows them. -/
theorem numbers_longest_givenBack :
    let t : Token := ⟨.hexFloat (.ofInt 1), "0x1", ⟨1, 5, 4⟩⟩
    t ∈ (ofText "2.5.0x1.p-").tokens ∧ Grammar.file? t.kind = none ∧
      ∃ a b, (ofText "2.5.0x1.p-").source = a ++ b ∧ t.start = Position.start.after a ∧
        IsLongest (numberAt b) "0x1".toList b ∧ Converted t.kind "0x1".toList := by
  have htoken : ⟨.hexFloat (.ofInt 1), "0x1", ⟨1, 5, 4⟩⟩ ∈ (ofText "2.5.0x1.p-").tokens := by
    decide +kernel
  exact ⟨htoken, rfl, (numbers_longest "2.5.0x1.p-").2 _ htoken ⟨'0', rfl, rfl⟩ rfl⟩

end Scan

end PaveScript
