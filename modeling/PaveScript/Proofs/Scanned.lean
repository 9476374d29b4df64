import Mathlib.Data.List.TakeWhile
import PaveScript.Proofs.Canonical.Printable
import PaveScript.Proofs.Double.ReadBack

/-!
# The tokens of a text

Not every `TokenKind` stands in a text: a literal that is scanned has no sign and is within the
bound, a name is a word that is no keyword, and a file name ends in an extension.
`TokenKind.Scanned` says this of one kind, and it holds of all tokens of all texts
(`scanned_of_mem_tokens`).
-/

namespace PaveScript

/-! ## Signs

No operation on doubles that carry no sign gives one that does.
-/

namespace Double

theorem negative_ofInt (n : Nat) : (ofInt n).negative = false := by
  simp [ofInt, nearest, ofRank]

theorem negative_twoPow (e : Int) : (twoPow e).negative = false := by
  unfold twoPow
  split
  · rfl
  · split <;> rfl

theorem signedUnits_nonneg {x : Double} (h : x.negative = false) : 0 ≤ x.signedUnits := by
  simp [signedUnits, h]

theorem negative_add {x y : Double} (hx : x.negative = false) (hy : y.negative = false) :
    (x.add y).negative = false := by
  have hsum : ¬x.signedUnits + y.signedUnits < 0 := by
    have := signedUnits_nonneg hx
    have := signedUnits_nonneg hy
    omega
  unfold add
  split
  · rfl
  · split
    · split
      · rfl
      · exact hx
    · split
      · exact hy
      · simp only
        split
        · simp [ofRank, hx]
        · simp [nearest, ofRank, hsum]

theorem negative_mul {x y : Double} (hx : x.negative = false) (hy : y.negative = false) :
    (x.mul y).negative = false := by
  unfold mul
  split
  · rfl
  · simp only [hx, hy]
    split
    · split <;> rfl
    · rfl

end Double

/-! ## Literals -/

namespace Literal

theorem negative_hexWhole {cs : List Char} {m x : Double} (hm : m.negative = false)
    (h : cs.foldlM (fun m c => (Digits.hexValue? c).map (pushHex m)) m = some x) :
    x.negative = false := by
  induction cs generalizing m with
  | nil =>
    obtain rfl := Option.some.inj h
    exact hm
  | cons c cs ih =>
    rw [List.foldlM_cons, Option.bind_eq_bind, Option.bind_eq_some_iff] at h
    obtain ⟨y, hy, hrest⟩ := h
    obtain ⟨d, -, rfl⟩ := Option.map_eq_some_iff.mp hy
    exact ih (Double.negative_add (Double.negative_mul hm (Double.negative_ofInt 16))
      (Double.negative_ofInt d)) hrest

theorem negative_hexFraction {cs : List Char} {m scale x : Double} (hm : m.negative = false)
    (hscale : scale.negative = false) (h : hexFraction m scale cs = some x) :
    x.negative = false := by
  induction cs generalizing m scale with
  | nil =>
    obtain rfl := Option.some.inj h
    exact hm
  | cons c cs ih =>
    rw [hexFraction] at h
    split at h
    · cases h
    · next d _ =>
      exact ih (Double.negative_add hm (Double.negative_mul (Double.negative_ofInt d) hscale))
        (Double.negative_mul hscale (Double.negative_twoPow _)) h

theorem negative_hexValue {body : List Char} {x : Double} (h : hexValue? body = some x) :
    x.negative = false := by
  simp only [hexValue?, Option.bind_eq_bind, Option.bind_eq_some_iff, Option.pure_def] at h
  obtain ⟨m, hm, m', hm', h⟩ := h
  have hwhole : m.negative = false := negative_hexWhole rfl hm
  have hfraction : m'.negative = false :=
    negative_hexFraction hwhole (Double.negative_twoPow _) hm'
  split at h <;>
  · obtain ⟨e, -, hx⟩ := Option.bind_eq_some_iff.mp h
    obtain rfl := Option.some.inj hx
    exact Double.negative_mul hfraction (Double.negative_twoPow e)

/-- What is read as a hexadecimal literal has no sign and is within the bound. -/
theorem unsigned_of_ofHex {cs : List Char} {l : Literal} (h : ofHex cs = .ok l) :
    ∃ x, l = .hexFloat x ∧ l.Unsigned := by
  unfold ofHex at h
  split at h
  · cases h
  · next x hx =>
    obtain ⟨body, -, hbody⟩ := Option.bind_eq_some_iff.mp hx
    split at h
    · cases h
    · next hbound =>
      obtain rfl := Except.ok.inj h
      simp only [Bool.or_eq_true, Bool.not_eq_true', not_or, Bool.not_eq_false,
        Bool.not_eq_true] at hbound
      exact ⟨x, rfl, hbound.1, negative_hexValue hbody, hbound.2⟩

/-- A text that starts with a digit is read without a sign. -/
theorem exists_ofRank_of_ofText {c : Char} {cs : List Char} {x : Double} (hc : c.isDigit = true)
    (h : Double.ofText? (c :: cs) = some x) : ∃ r, x = .ofRank false r := by
  unfold Double.ofText? at h
  split at h
  · next heq =>
    obtain ⟨rfl, -⟩ := List.cons.inj heq
    exact absurd hc (by decide)
  · next heq =>
    obtain ⟨rfl, -⟩ := List.cons.inj heq
    exact absurd hc (by decide)
  · obtain ⟨d, -, rfl⟩ := Option.map_eq_some_iff.mp h
    exact ⟨_, rfl⟩

/-- What is read as a decimal literal has no sign and is within the bound. -/
theorem plain_of_ofDecimal {c : Char} {cs : List Char} {l : Literal} (hc : c.isDigit = true)
    (h : ofDecimal (c :: cs) = .ok l) : l.Plain := by
  unfold ofDecimal at h
  split at h
  · split at h
    · cases h
    · next x hx =>
      split at h
      · cases h
      · next hbound =>
        obtain rfl := Except.ok.inj h
        obtain ⟨r, rfl⟩ := exists_ofRank_of_ofText hc hx
        have hle : exceedsBound (.ofRank false r) = false := by simpa using hbound
        have hrank := rank_le_of_not_exceedsBound (Nat.min_le_right r infinityRank) rfl hle
        have hlt : Double.nearestRank (bound * Double.one) 1 < infinityRank := by decide +kernel
        exact ⟨decide_eq_true (Nat.lt_of_le_of_lt hrank hlt), rfl, hle⟩
  · split at h
    · cases h
    · split at h
      · cases h
      · next hbound =>
        obtain rfl := Except.ok.inj h
        exact ⟨Int.natCast_nonneg _, by omega⟩

end Literal

/-! ## Tokens -/

open Lexer

/-- What holds of the kinds of tokens that stand in a text. -/
def TokenKind.Scanned : TokenKind → Prop
  | .identifier x => IsName x
  | .number l => l.Plain
  | .hexFloat x => (Literal.hexFloat x).Unsigned
  | .inputFile path => IsFileName path.toList ['k', 'd', 'k']
  | .outputFile path => ∃ ext, IsFileName path.toList ext
  | _ => True

namespace Lexer

theorem scanned_decimalKind {c : Char} (hc : c.isDigit = true) (cs : List Char) :
    (decimalKind (c :: cs)).Scanned := by
  unfold decimalKind
  split
  · next l hl => exact Literal.plain_of_ofDecimal hc hl
  · trivial

theorem scanned_hexKind (cs : List Char) : (hexKind cs).Scanned := by
  unfold hexKind
  split
  · next l hl =>
    obtain ⟨x, rfl, hx⟩ := Literal.unsigned_of_ofHex hl
    exact hx
  · trivial

theorem scanned_scanNumber {c : Char} (hc : c.isDigit = true) (cs : List Char) :
    (scanNumber c cs).1.Scanned := by
  unfold scanNumber
  split
  · exact scanned_hexKind _
  · exact scanned_hexKind _
  · exact scanned_decimalKind hc _

theorem scanned_scanWord {c : Char} (hc : isWordStart c = true) (cs : List Char) :
    (scanWord c cs).1.Scanned := by
  have hword : isWord (c :: cs.takeWhile isWordRest) = true := by
    simp [isWord, hc]
  simp only [scanWord, wordKind]
  split
  · trivial
  · next hnone =>
    refine ⟨by rwa [String.toList_ofList], fun k hk heq => ?_⟩
    rw [Keyword.ofWord?, List.find?_eq_none] at hnone
    exact hnone k hk (by rw [heq]; exact beq_self_eq_true _)

/-- An extension is what stands behind the last point. -/
theorem eq_append_of_extension {path ext : List Char} (h : extension? path = some ext) :
    ∃ base, path = base ++ '.' :: ext := by
  unfold extension? at h
  split at h
  · next hpoint =>
    obtain rfl := Option.some.inj h
    have hmem : '.' ∈ path.reverse := by simpa using hpoint
    -- the last point is the first one from behind
    have hsplit : path.reverse.takeWhile (· != '.') ++ path.reverse.dropWhile (· != '.') =
        path.reverse := List.takeWhile_append_dropWhile
    have hhead := List.head?_dropWhile_not (· != '.') path.reverse
    cases hdrop : path.reverse.dropWhile (· != '.') with
    | nil => exact absurd (List.dropWhile_eq_nil_iff.mp hdrop '.' hmem) (by decide)
    | cons c rest =>
      rw [hdrop] at hsplit hhead
      obtain rfl : c = '.' := by simpa using hhead
      have hpath := congrArg List.reverse hsplit
      exact ⟨rest.reverse, by simpa using hpath.symm⟩
  · cases h

theorem scanned_scanFileName {c : Char} {cs rest : List Char} {k : TokenKind}
    (h : scanFileName? c cs = some (k, rest)) : k.Scanned := by
  unfold scanFileName? at h
  split at h
  · cases h
  · next hc =>
    simp only at h
    split at h
    · cases h
    · next ext hext =>
      split at h
      · cases h
      · next halpha =>
        obtain ⟨rfl, rfl⟩ := Prod.mk.inj (Option.some.inj h)
        have hfile : IsFileName (String.ofList (c :: cs.takeWhile isPathChar)).toList ext := by
          rw [String.toList_ofList]
          refine ⟨List.forall_mem_cons.mpr ⟨by simpa using hc, fun d => List.mem_takeWhile_imp⟩,
            ?_, ?_, eq_append_of_extension hext⟩
          · simp_all
          · simp_all
        split
        · next hkdk =>
          subst hkdk
          exact hfile
        · exact ⟨ext, hfile⟩

/-- **A token that is scanned is of a scanned kind.** -/
theorem scanned_scanToken {fileExpected : Bool} {c : Char} {cs rest : List Char} {k : TokenKind}
    (h : scanToken? fileExpected c cs = some (k, rest)) : k.Scanned := by
  unfold scanToken? at h
  split at h
  · next found hfile =>
    obtain rfl := Option.some.inj h
    split at hfile
    · exact scanned_scanFileName hfile
    · cases hfile
  · split at h
    · next hdigit =>
      have := scanned_scanNumber hdigit cs
      rwa [Option.some.inj h] at this
    · split at h
      · next hstart =>
        have := scanned_scanWord hstart cs
        rwa [Option.some.inj h] at this
      · unfold scanSymbol? at h
        split at h
        · obtain ⟨rfl, -⟩ := Prod.mk.inj (Option.some.inj h)
          trivial
        · obtain ⟨rfl, -⟩ := Prod.mk.inj (Option.some.inj h)
          trivial
        · obtain ⟨s, -, hs⟩ := Option.map_eq_some_iff.mp h
          obtain ⟨rfl, -⟩ := Prod.mk.inj hs
          trivial

theorem scanned_of_mem_scanFrom {ctx : Context} {p : Position} {cs : List Char} {t : Token}
    (h : .token t ∈ scanFrom ctx p cs) : t.kind.Scanned := by
  fun_induction scanFrom ctx p cs with
  | case1 => cases h
  | case2 ctx p c cs hblank ih => exact ih h
  | case3 ctx p cs hblank comment ih => exact ih h
  | case4 ctx p c cs hblank hhash kind rest hscan ih =>
    rcases List.mem_cons.mp h with h | h
    · obtain rfl := Piece.token.inj h
      exact scanned_scanToken hscan
    · exact ih h
  | case5 ctx p c cs hblank hhash hscan ih =>
    rcases List.mem_cons.mp h with h | h
    · cases h
    · exact ih h

end Lexer

/-- **All tokens of a text are of scanned kinds.** -/
theorem scanned_of_mem_tokens [Text.Normalizer] {text : String} {t : Token}
    (h : t ∈ (Scan.ofText text).tokens) : t.kind.Scanned := by
  obtain ⟨piece, hpiece, ht⟩ := List.mem_filterMap.mp h
  cases piece with
  | token u =>
    obtain rfl := Option.some.inj ht
    exact scanned_of_mem_scanFrom hpiece
  | illegal c p => cases ht

end PaveScript
