import PaveScript.Proofs.Excerpt
import PaveScript.Proofs.Scanned
import PaveScript.Smt.Token
import PaveScript.Text.Normal.Form

/-!
# Numbers in both dialects

What a number looks like does not depend on the dialect, but each dialect has a scanner of its own.
The statement language looks ahead: a point or an exponent counts only if the digits it needs
follow. The prefix dialect takes every character that could belong to a number, whatever the order.
On a text that is a number both take all of it, and both give it to the same reader.

* `IsDecimal`, `IsHexadecimal` — the patterns of numbers
* `hexRest_of_parts` — the two scanners go on to the end of a number
* `scanned_alike` — a number is one token in both dialects, with one value
-/

namespace PaveScript

namespace Pattern

/-! ## The patterns -/

/-- One or more digits, then, if there is a point, any number of digits. -/
inductive IsDecimal : List Char → Prop
  | whole {ws : List Char} (hne : ws ≠ []) (hws : ∀ c ∈ ws, c.isDigit = true) : IsDecimal ws
  | point {ws fs : List Char} (hne : ws ≠ []) (hws : ∀ c ∈ ws, c.isDigit = true)
      (hfs : ∀ c ∈ fs, c.isDigit = true) : IsDecimal (ws ++ '.' :: fs)

/-- Nothing, or a point and one or more hexadecimal digits. -/
inductive IsFraction : List Char → Prop
  | none : IsFraction []
  | digits {fs : List Char} (hne : fs ≠ []) (hfs : ∀ c ∈ fs, Digits.isHex c = true) :
      IsFraction ('.' :: fs)

/-- Nothing, or `p`, a minus sign if there is one, and one or more decimal digits. -/
inductive IsExponent : List Char → Prop
  | none : IsExponent []
  | plain {mark : Char} {ds : List Char} (hmark : mark = 'p' ∨ mark = 'P') (hne : ds ≠ [])
      (hds : ∀ c ∈ ds, c.isDigit = true) : IsExponent (mark :: ds)
  | negative {mark : Char} {ds : List Char} (hmark : mark = 'p' ∨ mark = 'P') (hne : ds ≠ [])
      (hds : ∀ c ∈ ds, c.isDigit = true) : IsExponent (mark :: '-' :: ds)

/-- The mark `0x`, any number of hexadecimal digits, a fraction and an exponent. -/
inductive IsHexadecimal : List Char → Prop
  | mk {mark : Char} {ws fs es : List Char} (hmark : mark = 'x' ∨ mark = 'X')
      (hws : ∀ c ∈ ws, Digits.isHex c = true) (hfs : IsFraction fs) (hes : IsExponent es) :
      IsHexadecimal ('0' :: mark :: (ws ++ (fs ++ es)))

/-- A number as a script writes it, without a sign. -/
def IsNumber (cs : List Char) : Prop := IsDecimal cs ∨ IsHexadecimal cs

/-! ## What stands in a number -/

theorem IsDecimal.exists_cons {cs : List Char} (h : IsDecimal cs) :
    ∃ c r, cs = c :: r ∧ c.isDigit = true ∧ (∀ d ∈ r, d.isDigit = true ∨ d = '.') ∧
      Lexer.decimalRest r = r := by
  cases h with
  | whole hne hws =>
    obtain ⟨c, ws, rfl⟩ := List.exists_cons_of_ne_nil hne
    rw [List.forall_mem_cons] at hws
    have hrest := Lexer.decimalRest_whole hws.2 Lexer.broken_nil.delimited
    rw [List.append_nil] at hrest
    exact ⟨c, ws, rfl, hws.1, fun d hd => .inl (hws.2 d hd), hrest⟩
  | point hne hws hfs =>
    rename_i ws fs
    obtain ⟨c, ws, rfl⟩ := List.exists_cons_of_ne_nil hne
    rw [List.forall_mem_cons] at hws
    have hrest := Lexer.decimalRest_point (List.forall_mem_append.mpr ⟨hws.2, hfs⟩)
      Lexer.broken_nil.delimited
    rw [List.append_nil] at hrest
    refine ⟨c, ws ++ '.' :: fs, rfl, hws.1, ?_, hrest⟩
    rw [List.forall_mem_append, List.forall_mem_cons]
    exact ⟨fun d hd => .inl (hws.2 d hd), .inr rfl, fun d hd => .inl (hfs d hd)⟩

theorem IsFraction.isHex_or_point {fs : List Char} (h : IsFraction fs) :
    ∀ c ∈ fs, Digits.isHex c = true ∨ c = '.' := by
  cases h with
  | none => simp
  | digits hne hfs =>
    rw [List.forall_mem_cons]
    exact ⟨.inr rfl, fun c hc => .inl (hfs c hc)⟩

theorem isHex_of_isDigit {c : Char} (h : c.isDigit = true) : Digits.isHex c = true := by
  simp [Digits.isHex, Digits.hexValue?, h]

theorem isPathChar_of_isHex_or_point {c : Char} (h : Digits.isHex c = true ∨ c = '.') :
    Lexer.isPathChar c = true := by
  rcases h with h | rfl
  · exact Lexer.isPathChar_of_isHex h
  · decide

theorem IsExponent.isPathChar {es : List Char} (h : IsExponent es) :
    ∀ c ∈ es, Lexer.isPathChar c = true := by
  have hletter : ∀ mark : Char, mark = 'p' ∨ mark = 'P' → Lexer.isPathChar mark = true := by
    rintro mark (rfl | rfl) <;> decide
  cases h with
  | none => simp
  | plain hmark hne hds =>
    rw [List.forall_mem_cons]
    exact ⟨hletter _ hmark, fun c hc => Lexer.isPathChar_of_isDigit (hds c hc)⟩
  | negative hmark hne hds =>
    rw [List.forall_mem_cons, List.forall_mem_cons]
    exact ⟨hletter _ hmark, by decide, fun c hc => Lexer.isPathChar_of_isDigit (hds c hc)⟩

/-- Every number could be part of a file name, so none holds a blank or a character that another
one would be merged with. -/
theorem IsNumber.isPathChar {cs : List Char} (h : IsNumber cs) :
    ∀ c ∈ cs, Lexer.isPathChar c = true := by
  rcases h with h | h
  · obtain ⟨c, r, rfl, hc, hr, -⟩ := h.exists_cons
    rw [List.forall_mem_cons]
    refine ⟨Lexer.isPathChar_of_isDigit hc, ?_⟩
    intro d hd
    rcases hr d hd with hd | rfl
    · exact Lexer.isPathChar_of_isDigit hd
    · decide
  · cases h with
    | mk hmark hws hfs hes =>
      simp only [List.forall_mem_cons, List.forall_mem_append]
      refine ⟨by decide, ?_, fun c hc => Lexer.isPathChar_of_isHex (hws c hc),
        fun c hc => isPathChar_of_isHex_or_point (hfs.isHex_or_point c hc), hes.isPathChar⟩
      rcases hmark with rfl | rfl <;> decide

/-! ## The look ahead of the statement language -/

theorem not_isHex_head {fs es : List Char} (hfs : IsFraction fs) (hes : IsExponent es) :
    ∀ c ∈ (fs ++ es).head?, Digits.isHex c = false := by
  intro c hc
  cases hfs with
  | digits hne hfs =>
    obtain rfl := Option.some.inj hc
    decide
  | none =>
    cases hes with
    | none => cases hc
    | plain hmark hne hds | negative hmark hne hds =>
      obtain rfl := Option.some.inj hc
      rcases hmark with rfl | rfl <;> decide

/-- Looking ahead finds the digits that are needed, and all of them are taken. -/
theorem digits_ahead {p : Char → Bool} {ds rest : List Char} (hne : ds ≠ [])
    (hds : ∀ c ∈ ds, p c = true) (hrest : ∀ c ∈ rest.head?, p c = false) :
    ((ds ++ rest).head?.map p).getD false = true ∧ (ds ++ rest).takeWhile p = ds := by
  refine ⟨?_, (Lexer.takeWhile_append_delimited rest hds hrest).1⟩
  obtain ⟨d, ds, rfl⟩ := List.exists_cons_of_ne_nil hne
  exact hds d List.mem_cons_self

theorem hexFractionRest_append_exponent {fs es : List Char} (hfs : IsFraction fs)
    (hes : IsExponent es) : Lexer.hexFractionRest (fs ++ es) = fs := by
  cases hfs with
  | none =>
    cases hes with
    | none => rfl
    | plain hmark hne hds | negative hmark hne hds => rcases hmark with rfl | rfl <;> rfl
  | digits hne hfs =>
    have hes' : ∀ c ∈ es.head?, Digits.isHex c = false := not_isHex_head .none hes
    obtain ⟨hahead, htake⟩ := digits_ahead hne hfs hes'
    rw [List.cons_append, Lexer.hexFractionRest, if_pos hahead]
    exact congrArg _ htake

theorem hexExponentRest_of_isExponent {es : List Char} (h : IsExponent es) :
    Lexer.hexExponentRest es = es := by
  have hend : ∀ c ∈ ([] : List Char).head?, c.isDigit = false := by simp
  cases h with
  | none => rfl
  | plain hmark hne hds =>
    rename_i mark ds
    have hmark' : (mark == 'p' || mark == 'P') = true := by simpa using hmark
    obtain ⟨hahead, htake⟩ := digits_ahead hne hds hend
    rw [List.append_nil] at hahead htake
    rw [Lexer.hexExponentRest, if_pos hmark', if_pos hahead, htake]
    -- no sign is due: a digit follows the mark
    rintro digits rfl
    exact absurd (hds '-' List.mem_cons_self) (by decide)
  | negative hmark hne hds =>
    rename_i mark ds
    have hmark' : (mark == 'p' || mark == 'P') = true := by simpa using hmark
    obtain ⟨hahead, htake⟩ := digits_ahead hne hds hend
    rw [List.append_nil] at hahead htake
    rw [Lexer.hexExponentRest, if_pos hmark', if_pos hahead, htake]

theorem hexRest_of_parts {ws fs es : List Char} (hws : ∀ c ∈ ws, Digits.isHex c = true)
    (hfs : IsFraction fs) (hes : IsExponent es) :
    Lexer.hexRest (ws ++ (fs ++ es)) = ws ++ (fs ++ es) := by
  obtain ⟨htake, hdrop⟩ := Lexer.takeWhile_append_delimited (fs ++ es) hws (not_isHex_head hfs hes)
  simp only [Lexer.hexRest, htake, hdrop, hexFractionRest_append_exponent hfs hes,
    List.drop_left, hexExponentRest_of_isExponent hes, List.append_assoc]

end Pattern

/-! ## The run of the prefix dialect -/

namespace Smt

open Pattern

/-- Digits and points are taken one by one; only the last of them matters for what follows. -/
theorem hexRest_append {cs : List Char} (h : ∀ c ∈ cs, Digits.isHex c = true ∨ c = '.')
    (last : Char) (es : List Char) :
    ∃ last', hexRest last (cs ++ es) = cs ++ hexRest last' es := by
  induction cs generalizing last with
  | nil => exact ⟨last, rfl⟩
  | cons c cs ih =>
    rw [List.forall_mem_cons] at h
    obtain ⟨last', hrest⟩ := ih h.2 c
    refine ⟨last', ?_⟩
    rw [List.cons_append, hexRest, if_pos, hrest, List.cons_append]
    rcases h.1 with hc | rfl
    · simp [hc]
    · simp

theorem hexRest_of_isDigit {ds : List Char} (h : ∀ c ∈ ds, c.isDigit = true) (last : Char) :
    hexRest last ds = ds := by
  obtain ⟨last', hrest⟩ := hexRest_append (fun c hc => .inl (isHex_of_isDigit (h c hc))) last []
  simpa [hexRest] using hrest

theorem hexRest_of_isExponent {es : List Char} (h : IsExponent es) (last : Char) :
    hexRest last es = es := by
  cases h with
  | none => rfl
  | plain hmark hne hds =>
    rcases hmark with rfl | rfl <;> simp [hexRest, hexRest_of_isDigit hds]
  | negative hmark hne hds =>
    -- the hyphen is taken because the mark stands right before it
    rcases hmark with rfl | rfl <;> simp [hexRest, hexRest_of_isDigit hds]

theorem hexRest_of_parts {ws fs es : List Char} (hws : ∀ c ∈ ws, Digits.isHex c = true)
    (hfs : IsFraction fs) (hes : IsExponent es) (last : Char) :
    hexRest last (ws ++ (fs ++ es)) = ws ++ (fs ++ es) := by
  have hdigits : ∀ c ∈ ws ++ fs, Digits.isHex c = true ∨ c = '.' :=
    List.forall_mem_append.mpr ⟨fun c hc => .inl (hws c hc), hfs.isHex_or_point⟩
  obtain ⟨last', hrest⟩ := hexRest_append hdigits last es
  rw [← List.append_assoc, hrest, hexRest_of_isExponent hes]

theorem decimalRest_of_class {cs : List Char} (h : ∀ c ∈ cs, c.isDigit = true ∨ c = '.') :
    decimalRest cs = cs := by
  refine List.takeWhile_eq_self_iff.mpr ?_
  intro c hc
  simpa using h c hc

theorem scanNumber_of_head {c : Char} {cs : List Char} (h : ∀ d ∈ cs.head?, d ≠ 'x' ∧ d ≠ 'X') :
    scanNumber c cs = (numberKind (Literal.ofDecimal (c :: decimalRest cs)), decimalRest cs) := by
  unfold scanNumber
  split
  · exact absurd rfl (h 'x' rfl).1
  · exact absurd rfl (h 'X' rfl).2
  · rfl

/-- A text that is one token from its first digit to its end. -/
theorem ofText_of_scanNumber {text : String} {c : Char} {r : List Char} {kind : TokenKind}
    (htext : text.toList = c :: r) (hc : c.isDigit = true) (hscan : scanNumber c r = (kind, r)) :
    (Scan.ofText text).tokens = [⟨kind, text, 1, 1⟩] ∧ (Scan.ofText text).errors = [] := by
  have hline : c ≠ '\n' := by
    rintro rfl
    exact absurd hc (by decide)
  have hpath := Lexer.isPathChar_of_isDigit hc
  have hblank : (c == ' ' || c == '\t' || c == '\r') = false := by
    have h := Lexer.isBlank_of_isPathChar hpath
    simp only [Lexer.isBlank, Bool.or_eq_false_iff] at h ⊢
    exact h.1.1
  have htoken : scanToken? c r = some (kind, r) := by
    rw [scanToken?, if_pos hc, hscan]
  have hlexeme : String.ofList (c :: r) = text := by
    rw [← htext, String.ofList_toList]
  rw [Scan.ofText, htext, scanFrom, if_neg hline, hblank,
    if_neg Bool.false_ne_true, if_neg (Lexer.ne_hash_of_isPathChar hpath), htoken]
  simp [scanFrom, Scan.addToken, hlexeme]

end Smt

namespace Lexer

/-- A text that is one token from its first digit to its end. -/
theorem ofText_of_scanNumber [Text.Normalizer] {text : String} {c : Char} {r : List Char}
    {kind : TokenKind} (htext : text.toList = c :: r) (hpath : ∀ d ∈ c :: r, isPathChar d = true)
    (hc : c.isDigit = true) (hscan : scanNumber c r = (kind, r)) :
    (Scan.ofText text).tokens = [⟨kind, text, .start⟩] ∧ (Scan.ofText text).errors = [] := by
  have hnormal : Text.Normalizer.normalize (c :: r) = c :: r :=
    Text.Normalizer.normalize_of_small fun d hd =>
      Nat.lt_of_lt_of_le (toNat_lt_of_isPathChar (hpath d hd)) (by decide)
  have htoken : scanToken? (Context.expectsFile {}) c (r ++ []) = some (kind, r) := by
    rw [List.append_nil, scanToken?_of_calm Calm.start, if_pos hc, hscan]
  have hfirst := hpath c List.mem_cons_self
  have hpieces := scanFrom_token {} .start (isBlank_of_isPathChar hfirst)
    (ne_hash_of_isPathChar hfirst) htoken
  rw [List.append_nil, scanFrom, ← htext, String.ofList_toList] at hpieces
  rw [← htext] at hnormal
  simp [Scan.tokens, Scan.errors, Scan.ofText, Scan.ofChars, hnormal, hpieces, Piece.token?,
    Piece.error?]

end Lexer

namespace Pattern

/-! ## Both dialects -/

/-- How a number is read: in the base that its mark tells. -/
def read (cs : List Char) : Except LiteralError Literal :=
  if (Literal.hexBody? cs).isSome then Literal.ofHex cs else Literal.ofDecimal cs

/-- The tokens that a number becomes in the two dialects. The statement language tells
hexadecimal floats from other numbers, the prefix dialect does not. -/
inductive Carry : Except LiteralError Literal → TokenKind → Smt.TokenKind → Prop
  | overflow (e : LiteralError) : Carry (.error e) .overflow .overflow
  | integer (i : Int) : Carry (.ok (.integer i)) (.number (.integer i)) (.number (.integer i))
  | real (x : Double) : Carry (.ok (.real x)) (.number (.real x)) (.number (.real x))
  | hexFloat (x : Double) : Carry (.ok (.hexFloat x)) (.hexFloat x) (.number (.hexFloat x))

theorem carry_decimal {c : Char} (hc : c.isDigit = true) (cs : List Char) :
    Carry (Literal.ofDecimal (c :: cs)) (Lexer.decimalKind (c :: cs))
      (Smt.numberKind (Literal.ofDecimal (c :: cs))) := by
  unfold Lexer.decimalKind
  cases hread : Literal.ofDecimal (c :: cs) with
  | error e => exact .overflow e
  | ok l =>
    have hplain := Literal.plain_of_ofDecimal hc hread
    cases l with
    | integer i => exact .integer i
    | real x => exact .real x
    | hexFloat x => exact hplain.elim

theorem carry_hexadecimal (cs : List Char) :
    Carry (Literal.ofHex cs) (Lexer.hexKind cs) (Smt.numberKind (Literal.ofHex cs)) := by
  unfold Lexer.hexKind
  cases hread : Literal.ofHex cs with
  | ok l =>
    obtain ⟨x, rfl, -⟩ := Literal.unsigned_of_ofHex hread
    exact .hexFloat x
  | error e => exact .overflow e

/-- Both scanners take the whole of a number, whose first character is the digit `c`, and give it to
the same reader. -/
def ScansAlike (c : Char) (r : List Char) : Prop :=
  ∃ kind kind', Lexer.scanNumber c r = (kind, r) ∧ Smt.scanNumber c r = (kind', r) ∧
    Carry (read (c :: r)) kind kind'

theorem IsDecimal.scansAlike {cs : List Char} (h : IsDecimal cs) :
    ∃ c r, cs = c :: r ∧ c.isDigit = true ∧ ScansAlike c r := by
  obtain ⟨c, r, rfl, hc, hr, hrest⟩ := h.exists_cons
  have hhead := Lexer.head_ne_hexMark hr Lexer.broken_nil.delimited
  rw [List.append_nil] at hhead
  have hread : read (c :: r) = Literal.ofDecimal (c :: r) := by
    rw [read, if_neg]
    unfold Literal.hexBody?
    split
    · next heq =>
      obtain ⟨-, rfl⟩ := List.cons.inj heq
      exact absurd rfl (hhead 'x' rfl).1
    · next heq =>
      obtain ⟨-, rfl⟩ := List.cons.inj heq
      exact absurd rfl (hhead 'X' rfl).2
    · decide
  refine ⟨c, r, rfl, hc, Lexer.decimalKind (c :: r),
    Smt.numberKind (Literal.ofDecimal (c :: r)), ?_, ?_, ?_⟩
  · rw [Lexer.scanNumber_of_head hhead, hrest]
  · rw [Smt.scanNumber_of_head hhead, Smt.decimalRest_of_class hr]
  · rw [hread]
    exact carry_decimal hc r

theorem IsHexadecimal.scansAlike {cs : List Char} (h : IsHexadecimal cs) :
    ∃ c r, cs = c :: r ∧ c.isDigit = true ∧ ScansAlike c r := by
  obtain ⟨hmark, hws, hfs, hes⟩ := h
  rename_i mark ws fs es
  have hread : read ('0' :: mark :: (ws ++ (fs ++ es))) =
      Literal.ofHex ('0' :: mark :: (ws ++ (fs ++ es))) := by
    rcases hmark with rfl | rfl <;> rfl
  refine ⟨'0', mark :: (ws ++ (fs ++ es)), rfl, by decide,
    Lexer.hexKind ('0' :: mark :: (ws ++ (fs ++ es))),
    Smt.numberKind (Literal.ofHex ('0' :: mark :: (ws ++ (fs ++ es)))), ?_, ?_, ?_⟩
  · rcases hmark with rfl | rfl <;> simp only [Lexer.scanNumber, hexRest_of_parts hws hfs hes]
  · rcases hmark with rfl | rfl <;> simp only [Smt.scanNumber, Smt.hexRest_of_parts hws hfs hes]
  · rw [hread]
    exact carry_hexadecimal _

/--
**The two dialects read numbers alike.** A number is one token in both, it is the whole text, and
nothing is reported. Both tokens carry the value that the number is read as, or both tell that there
is none.
-/
theorem scanned_alike [Text.Normalizer] {text : String} (h : IsNumber text.toList) :
    ∃ kind kind',
      (Scan.ofText text).tokens = [⟨kind, text, .start⟩] ∧ (Scan.ofText text).errors = [] ∧
      (Smt.Scan.ofText text).tokens = [⟨kind', text, 1, 1⟩] ∧
      (Smt.Scan.ofText text).errors = [] ∧
      Carry (read text.toList) kind kind' := by
  obtain ⟨c, r, htext, hc, kind, kind', hscan, hscan', hcarry⟩ :
      ∃ c r, text.toList = c :: r ∧ c.isDigit = true ∧ ScansAlike c r := by
    rcases h with h | h
    · exact h.scansAlike
    · exact h.scansAlike
  rw [← htext] at hcarry
  have hpath : ∀ d ∈ c :: r, Lexer.isPathChar d = true := by
    rw [← htext]
    exact h.isPathChar
  obtain ⟨htokens, herrors⟩ := Lexer.ofText_of_scanNumber htext hpath hc hscan
  obtain ⟨htokens', herrors'⟩ := Smt.ofText_of_scanNumber htext hc hscan'
  exact ⟨kind, kind', htokens, herrors, htokens', herrors', hcarry⟩

theorem isNumber_threeQuarters : IsNumber "0X1.8p-1".toList := by
  have hparts : "0X1.8p-1".toList = '0' :: 'X' :: (['1'] ++ (['.', '8'] ++ ['p', '-', '1'])) := by
    decide
  have hwhole : ∀ c ∈ ['1'], Digits.isHex c = true := List.all_eq_true.mp rfl
  have hfraction : IsFraction ['.', '8'] := .digits (by decide) (List.all_eq_true.mp rfl)
  have hexponent : IsExponent ['p', '-', '1'] :=
    .negative (.inl rfl) (by decide) (List.all_eq_true.mp rfl)
  rw [hparts]
  exact .inr (.mk (.inr rfl) hwhole hfraction hexponent)

/-- Three quarters are a token with their value in both dialects; a number past the bound has no
value in either. -/
theorem scanned_alike_threeQuarters :
    (∃ x, (Scan.ofText "0X1.8p-1").tokens = [⟨.hexFloat x, "0X1.8p-1", .start⟩] ∧
      (Smt.Scan.ofText "0X1.8p-1").tokens = [⟨.number (.hexFloat x), "0X1.8p-1", 1, 1⟩] ∧
      x = (Double.ofInt 3).mul (.twoPow (-2))) ∧
    (Scan.ofText "2147483648").tokens = [⟨.overflow, "2147483648", .start⟩] ∧
      (Smt.Scan.ofText "2147483648").tokens = [⟨.overflow, "2147483648", 1, 1⟩] := by
  constructor
  · obtain ⟨kind, kind', htokens, -, htokens', -, hcarry⟩ := scanned_alike isNumber_threeQuarters
    obtain ⟨x, hx⟩ : ∃ x, x = (Double.ofInt 3).mul (.twoPow (-2)) := ⟨_, rfl⟩
    have hread : read "0X1.8p-1".toList = .ok (.hexFloat x) := by
      rw [hx]
      decide +kernel
    rw [hread] at hcarry
    cases hcarry
    exact ⟨x, htokens, htokens', hx⟩
  · have hdigits : "2147483648".toList.all Char.isDigit = true := by decide
    have hnumber : IsNumber "2147483648".toList :=
      .inl (.whole (by decide) (List.all_eq_true.mp hdigits))
    obtain ⟨kind, kind', htokens, -, htokens', -, hcarry⟩ := scanned_alike hnumber
    have hread : read "2147483648".toList = .error .overflow := by decide +kernel
    rw [hread] at hcarry
    cases hcarry
    exact ⟨htokens, htokens'⟩

end Pattern

end PaveScript
