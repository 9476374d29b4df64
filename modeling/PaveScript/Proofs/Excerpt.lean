import Mathlib.Data.List.TakeWhile
import PaveScript.Proofs.Lexing

/-!
# Texts that are cut out

A piece of a text scans to the same tokens wherever it stands, as long as it is cut where every
token ends: at a blank, a comment, a semicolon or the end.

* `scanToken?_append` — no token looks past such a place
* `Lexed` — a text with the tokens it consists of; `Lexed.scanFrom_append` is what scanning makes of
  it, and `exists_lexed` finds it in a longer text
* `Lexed.relocate` — the same text at another place
-/

namespace PaveScript

namespace Lexer

/-! ## Where every token ends -/

/-- The characters that no token goes on with. -/
def isBreak (c : Char) : Bool := isBlank c || c == '#' || c == ';'

/-- A text that is empty or starts where every token ends. -/
def Broken (cs : List Char) : Prop := ∀ c ∈ cs.head?, isBreak c = true

theorem broken_nil : Broken [] := by
  intro c hc
  cases hc

theorem broken_cons {c : Char} (h : isBreak c = true) (cs : List Char) : Broken (c :: cs) := by
  intro d hd
  rw [← Option.some.inj hd]
  exact h

theorem isPathChar_of_isBreak {c : Char} (h : isBreak c = true) : isPathChar c = false := by
  cases hpath : isPathChar c with
  | false => rfl
  | true =>
    have hblank := isBlank_of_isPathChar hpath
    have hhash := ne_hash_of_isPathChar hpath
    simp only [isBreak, hblank, Bool.false_or, Bool.or_eq_true, beq_iff_eq] at h
    rcases h with h | h
    · exact absurd h hhash
    · subst h
      exact absurd hpath (by decide)

theorem isWordRest_of_isHex {c : Char} (h : Digits.isHex c = true) : isWordRest c = true := by
  have hletter : 97 ≤ c.toNat ∧ c.toNat ≤ 122 ∨ 65 ≤ c.toNat ∧ c.toNat ≤ 90 →
      isWordRest c = true := by
    intro hc
    have halpha : c.isAlpha = true := isAlpha_iff.mpr (by omega)
    simp [isWordRest, Char.isAlphanum, halpha]
  unfold Digits.isHex Digits.hexValue? at h
  split at h
  · next hdigit => exact isWordRest_of_isDigit hdigit
  · split at h
    · next hrange =>
      simp only [Bool.and_eq_true, decide_eq_true_eq, Char.le_def, UInt32.le_iff_toNat_le] at hrange
      exact hletter (.inl ⟨hrange.1, Nat.le_trans hrange.2 (by decide)⟩)
    · split at h
      · next hrange =>
        simp only [Bool.and_eq_true, decide_eq_true_eq, Char.le_def,
          UInt32.le_iff_toNat_le] at hrange
        exact hletter (.inr ⟨hrange.1, Nat.le_trans hrange.2 (by decide)⟩)
      · cases h

/-- A class of characters that are all allowed in file names ends at a break. -/
theorem not_of_isBreak {f : Char → Bool} (hf : ∀ c, f c = true → isPathChar c = true) {c : Char}
    (h : isBreak c = true) : f c = false := by
  cases hc : f c with
  | false => rfl
  | true => exact absurd (hf c hc) (by simp [isPathChar_of_isBreak h])

theorem isPathChar_of_isDigit {c : Char} (h : c.isDigit = true) : isPathChar c = true :=
  isPathChar_of_isWordRest (isWordRest_of_isDigit h)

theorem isPathChar_of_isHex {c : Char} (h : Digits.isHex c = true) : isPathChar c = true :=
  isPathChar_of_isWordRest (isWordRest_of_isHex h)

section

variable {x y : List Char} (hy : Broken y)

include hy

theorem takeWhile_append_broken {f : Char → Bool} (hf : ∀ c, f c = true → isPathChar c = true) :
    (x ++ y).takeWhile f = x.takeWhile f := by
  induction x with
  | nil =>
    cases y with
    | nil => rfl
    | cons c y => simp [not_of_isBreak hf (hy c rfl)]
  | cons c x ih => by_cases hc : f c <;> simp [hc, ih]

theorem dropWhile_append_broken {f : Char → Bool} (hf : ∀ c, f c = true → isPathChar c = true) :
    (x ++ y).dropWhile f = x.dropWhile f ++ y := by
  induction x with
  | nil =>
    cases y with
    | nil => rfl
    | cons c y => simp [not_of_isBreak hf (hy c rfl)]
  | cons c x ih => by_cases hc : f c <;> simp [hc, ih]

/-- Nothing but a break follows a text. -/
theorem head?_ne_of_broken {c : Char} (hc : isBreak c = false) : y.head? ≠ some c := by
  intro h
  exact absurd (hy c h) (by simp [hc])

theorem decimalRest_append : decimalRest (x ++ y) = decimalRest x := by
  unfold decimalRest
  rw [takeWhile_append_broken hy fun _ => isPathChar_of_isDigit,
    dropWhile_append_broken hy fun _ => isPathChar_of_isDigit]
  cases x.dropWhile Char.isDigit with
  | nil =>
    have hpoint := head?_ne_of_broken hy (c := '.') (by decide)
    cases y with
    | nil => rfl
    | cons d y =>
      simp only [List.nil_append]
      split
      · next heq => exact absurd (by rw [heq]; rfl) hpoint
      · rfl
  | cons d rest =>
    simp only [List.cons_append]
    by_cases hd : d = '.'
    · subst hd
      simp only [takeWhile_append_broken hy fun _ => isPathChar_of_isDigit]
    · split
      · next heq => exact absurd (List.cons.inj heq).1 hd
      · split
        · next heq => exact absurd (List.cons.inj heq).1 hd
        · rfl

/-- The look at the next character does not depend on what follows a break. -/
theorem head?_map_append {f : Char → Bool} (hf : ∀ c, f c = true → isPathChar c = true) :
    ((x ++ y).head?.map f).getD false = (x.head?.map f).getD false := by
  cases x with
  | cons c x => rfl
  | nil =>
    cases y with
    | nil => rfl
    | cons c y => simp [not_of_isBreak hf (hy c rfl)]

theorem hexFractionRest_append : hexFractionRest (x ++ y) = hexFractionRest x := by
  cases x with
  | nil =>
    have hpoint := head?_ne_of_broken hy (c := '.') (by decide)
    cases y with
    | nil => rfl
    | cons d y =>
      simp only [List.nil_append]
      unfold hexFractionRest
      split
      · next heq => exact absurd (by rw [heq]; rfl) hpoint
      · rfl
  | cons d x =>
    rw [List.cons_append]
    by_cases hd : d = '.'
    · subst hd
      simp only [hexFractionRest, head?_map_append hy fun _ => isPathChar_of_isHex,
        takeWhile_append_broken hy fun _ => isPathChar_of_isHex]
    · have hother : ∀ cs, hexFractionRest (d :: cs) = [] := by
        intro cs
        unfold hexFractionRest
        split
        · next heq => exact absurd (List.cons.inj heq).1 hd
        · rfl
      rw [hother, hother]

theorem hexExponentRest_append : hexExponentRest (x ++ y) = hexExponentRest x := by
  cases x with
  | nil =>
    cases y with
    | nil => rfl
    | cons c y =>
      have hmark : (c == 'p' || c == 'P') = false :=
        not_of_isBreak (f := fun c => c == 'p' || c == 'P') (by simp; decide) (hy c rfl)
      simp [hexExponentRest, hmark]
  | cons mark x =>
    rw [List.cons_append]
    have hdigit : ∀ z : List Char, ((z ++ y).head?.map Char.isDigit).getD false =
        (z.head?.map Char.isDigit).getD false :=
      fun z => head?_map_append hy fun _ => isPathChar_of_isDigit
    have htake : ∀ z : List Char, (z ++ y).takeWhile Char.isDigit = z.takeWhile Char.isDigit :=
      fun z => takeWhile_append_broken hy fun _ => isPathChar_of_isDigit
    -- behind the mark stands a sign or not, and it is the same one in both texts
    have hsigned : ∀ z : List Char, hexExponentRest (mark :: '-' :: z) =
        if (mark == 'p' || mark == 'P') && (z.head?.map Char.isDigit).getD false then
          mark :: '-' :: z.takeWhile Char.isDigit else [] := by
      intro z
      by_cases hmark : (mark == 'p' || mark == 'P') <;> simp [hexExponentRest, hmark]
    have hplain : ∀ z : List Char, z.head? ≠ some '-' → hexExponentRest (mark :: z) =
        if (mark == 'p' || mark == 'P') && (z.head?.map Char.isDigit).getD false then
          mark :: z.takeWhile Char.isDigit else [] := by
      intro z hz
      unfold hexExponentRest
      by_cases hmark : (mark == 'p' || mark == 'P')
      · simp only [hmark, if_true, Bool.true_and]
        split
        · exact absurd rfl hz
        · rfl
      · simp [hmark]
    by_cases hsign : x.head? = some '-'
    · obtain ⟨z, rfl⟩ : ∃ z, x = '-' :: z := by
        cases x with
        | nil => cases hsign
        | cons d z => exact ⟨z, by rw [Option.some.inj hsign]⟩
      rw [List.cons_append, hsigned, hsigned, hdigit, htake]
    · have hsign' : (x ++ y).head? ≠ some '-' := by
        cases x with
        | nil => exact head?_ne_of_broken hy (by decide)
        | cons d z => exact hsign
      rw [hplain _ hsign', hplain _ hsign, hdigit, htake]

omit hy in
theorem length_hexFractionRest_le (cs : List Char) : (hexFractionRest cs).length ≤ cs.length := by
  unfold hexFractionRest
  split
  · next rest =>
    have := (List.takeWhile_prefix (l := rest) Digits.isHex).length_le
    split
    · simpa using this
    · simp
  · simp

theorem hexRest_append : hexRest (x ++ y) = hexRest x := by
  unfold hexRest
  simp only [takeWhile_append_broken hy fun _ => isPathChar_of_isHex,
    dropWhile_append_broken hy fun _ => isPathChar_of_isHex, hexFractionRest_append hy,
    List.drop_append_of_le_length (length_hexFractionRest_le _), hexExponentRest_append hy]

omit hy in
theorem Broken.delimited {y : List Char} (hy : Broken y) : Delimited y := by
  intro c hc
  have hpath := isPathChar_of_isBreak (hy c hc)
  have hword : isWordRest c = false := not_of_isBreak (fun _ => isPathChar_of_isWordRest) (hy c hc)
  simp only [isDelimiter, hword, Bool.not_false, Bool.true_and, Bool.and_eq_true, bne_iff_ne]
  constructor
  · rintro rfl
    exact absurd hpath (by decide)
  · rintro rfl
    exact absurd (hy '=' hc) (by decide)

omit hy in
/-- Only a zero starts a hexadecimal number. -/
theorem scanNumber_of_ne {c : Char} (hc : c ≠ '0') (cs : List Char) :
    scanNumber c cs = (decimalKind (c :: decimalRest cs), decimalRest cs) := by
  unfold scanNumber
  split
  · exact absurd rfl hc
  · exact absurd rfl hc
  · rfl

theorem scanNumber_append (c : Char) : scanNumber c (x ++ y) = scanNumber c x := by
  by_cases hmark : ∀ d ∈ x.head?, d ≠ 'x' ∧ d ≠ 'X'
  · have hmark' : ∀ d ∈ (x ++ y).head?, d ≠ 'x' ∧ d ≠ 'X' := by
      cases x with
      | nil =>
        intro d hd
        constructor
        all_goals
          rintro rfl
          exact absurd hd (head?_ne_of_broken hy (by decide))
      | cons d x => exact hmark
    rw [scanNumber_of_head hmark', scanNumber_of_head hmark, decimalRest_append hy]
  · cases x with
    | nil => simp at hmark
    | cons d x =>
      have hd : d = 'x' ∨ d = 'X' := by
        by_cases hx : d = 'x'
        · exact .inl hx
        · by_cases hX : d = 'X'
          · exact .inr hX
          · exact absurd (by simp [hx, hX]) hmark
      by_cases hc : c = '0'
      · subst hc
        rcases hd with rfl | rfl <;> simp only [List.cons_append, scanNumber, hexRest_append hy]
      · rw [scanNumber_of_ne hc, scanNumber_of_ne hc, decimalRest_append hy]

omit hy in
/-- A sign is told by its first character and a look at the next one. -/
theorem scanSymbol?_congr (c : Char) {cs ds : List Char} (h : cs.head? = ds.head?) :
    scanSymbol? c cs = scanSymbol? c ds := by
  have hequals : (∃ rest, cs = '=' :: rest) ↔ ∃ rest, ds = '=' :: rest := by
    rw [← List.head?_eq_some_iff, ← List.head?_eq_some_iff, h]
  unfold scanSymbol?
  split
  · next rest =>
    obtain ⟨rest', rfl⟩ := hequals.mp ⟨rest, rfl⟩
    rfl
  · next rest =>
    obtain ⟨rest', rfl⟩ := hequals.mp ⟨rest, rfl⟩
    rfl
  · next hless hgreater =>
    split
    · next rest =>
      obtain ⟨rest', rfl⟩ := hequals.mpr ⟨rest, rfl⟩
      exact absurd rfl (hless rest' rfl)
    · next rest =>
      obtain ⟨rest', rfl⟩ := hequals.mpr ⟨rest, rfl⟩
      exact absurd rfl (hgreater rest' rfl)
    · rfl

theorem scanSymbol?_append (c : Char) : scanSymbol? c (x ++ y) = scanSymbol? c x := by
  cases x with
  | nil =>
    rw [List.nil_append, scanSymbol?_of_delimited hy.delimited,
      scanSymbol?_of_delimited broken_nil.delimited]
  | cons d x => exact scanSymbol?_congr c rfl

/-- **No token looks past a break.** -/
theorem scanToken?_append (fileExpected : Bool) (c : Char) :
    scanToken? fileExpected c (x ++ y) = scanToken? fileExpected c x := by
  have hfile : scanFileName? c (x ++ y) = scanFileName? c x := by
    simp only [scanFileName?, takeWhile_append_broken hy fun _ => id]
  have hword : scanWord c (x ++ y) = scanWord c x := by
    simp only [scanWord, takeWhile_append_broken hy fun _ => isPathChar_of_isWordRest]
  simp only [scanToken?, hfile, hword, scanNumber_append hy, scanSymbol?_append hy]

end

/-! ## Texts with their tokens -/

/--
A text with the tokens it consists of, from the context and the position in front of it to the
context behind it. The text ends with its last token.
-/
inductive Lexed : Context → Position → List Char → List Token → Context → Prop
  | nil {ctx : Context} {p : Position} : Lexed ctx p [] [] ctx
  | blank {ctx ctx' : Context} {p : Position} {c : Char} {cs : List Char} {t : Token}
    {ts : List Token} (hc : isBlank c = true) (h : Lexed ctx (p.advance c) cs (t :: ts) ctx') :
    Lexed ctx p (c :: cs) (t :: ts) ctx'
  | comment {ctx ctx' : Context} {p : Position} {body cs : List Char} {t : Token} {ts : List Token}
    (hbody : ∀ c ∈ body, c ≠ '\n')
    (h : Lexed ctx (p.after ('#' :: body)) ('\n' :: cs) (t :: ts) ctx') :
    Lexed ctx p ('#' :: (body ++ '\n' :: cs)) (t :: ts) ctx'
  | token {ctx ctx' : Context} {p : Position} {c : Char} {r cs : List Char} {k : TokenKind}
    {ts : List Token} (hblank : isBlank c = false) (hhash : c ≠ '#')
    (hscan : scanToken? ctx.expectsFile c (r ++ cs) = some (k, r))
    (h : Lexed (ctx.push k) (p.after (c :: r)) cs ts ctx') :
    Lexed ctx p (c :: (r ++ cs)) (⟨k, String.ofList (c :: r), p⟩ :: ts) ctx'

/-- A comment goes up to the end of its line. -/
theorem scanFrom_comment (ctx : Context) (p : Position) {body : List Char}
    (h : ∀ c ∈ body, c ≠ '\n') (cs : List Char) :
    scanFrom ctx p ('#' :: (body ++ '\n' :: cs)) =
      scanFrom ctx (p.after ('#' :: body)) ('\n' :: cs) := by
  have hbody : (body ++ '\n' :: cs).takeWhile (· != '\n') = body := by
    rw [List.takeWhile_append_of_pos (by simpa using h)]
    simp
  rw [scanFrom, if_neg (by decide), if_pos rfl]
  simp only [hbody, List.drop_left]

theorem utf8ByteSize_ofList (cs : List Char) :
    (String.ofList cs).utf8ByteSize = Text.byteSize cs := by
  induction cs with
  | nil => rfl
  | cons c cs ih =>
    have hcons : String.ofList (c :: cs) = String.singleton c ++ String.ofList cs := by simp
    rw [hcons, Text.byteSize_cons, ← ih]
    simp

namespace Lexed

variable {ctx ctx' : Context} {p : Position} {x y : List Char} {ts : List Token}

/-- **What scanning makes of a text,** whatever stands behind it. -/
theorem scanFrom_append (h : Lexed ctx p x ts ctx') (hy : Broken y) :
    scanFrom ctx p (x ++ y) = ts.map .token ++ scanFrom ctx' (p.after x) y := by
  induction h with
  | nil => rfl
  | blank hc _ ih => rw [List.cons_append, scanFrom_blank _ _ hc, ih, Position.after_cons]
  | @comment _ _ p body cs _ _ hbody _ ih =>
    rw [List.cons_append, List.append_assoc, List.cons_append, scanFrom_comment _ _ hbody,
      ← List.cons_append, ih, ← Position.after_append, List.cons_append]
  | @token _ _ p c r cs k ts hblank hhash hscan _ ih =>
    rw [List.cons_append, List.append_assoc]
    have hscan' := (scanToken?_append hy _ c).trans hscan
    rw [List.append_assoc] at hscan'
    rw [scanFrom_token _ p hblank hhash hscan', ih, ← Position.after_append, List.cons_append,
      List.map_cons, List.cons_append]

theorem eq_nil (h : Lexed ctx p x [] ctx') : x = [] := by
  cases h
  rfl

/-- The last token ends where the text ends. -/
theorem endOffset_getLast {t : Token} (h : Lexed ctx p x ts ctx') (ht : ts.getLast? = some t) :
    t.endOffset = (p.after x).offset := by
  induction h with
  | nil => cases ht
  | blank _ _ ih => exact ih ht
  | @comment _ _ p body cs _ _ _ _ ih =>
    rw [ih ht, ← Position.after_append, List.cons_append]
  | @token _ _ p c r cs k ts _ _ _ h ih =>
    cases ts with
    | nil =>
      rw [List.getLast?_singleton, Option.some_inj] at ht
      rw [← ht, h.eq_nil, List.append_nil, Text.offset_after, Token.endOffset, utf8ByteSize_ofList]
    | cons u us =>
      rw [List.getLast?_cons_cons] at ht
      rw [ih ht, ← Position.after_append, List.cons_append]

/-- The first token starts where the text starts, unless a blank or a comment is in front of it. -/
theorem start_head {c : Char} {t : Token} (h : Lexed ctx p (c :: x) (t :: ts) ctx')
    (hblank : isBlank c = false) (hhash : c ≠ '#') : t.start = p := by
  cases h with
  | blank hc => exact absurd hc (by simp [hblank])
  | comment => exact absurd rfl hhash
  | token => rfl

end Lexed

/-! ## The same text at another place -/

/-- Two contexts behind which the same tokens can stand. -/
def Context.Agrees (a b : Context) : Prop :=
  a.expectsFile = b.expectsFile ∧
    (a.last = some (.keyword .output) ↔ b.last = some (.keyword .output))

theorem Context.Agrees.push {a b : Context} (h : a.Agrees b) (k : TokenKind) :
    (a.push k).Agrees (b.push k) := by
  refine ⟨?_, Iff.rfl⟩
  by_cases hb : b.last = some (.keyword .output)
  · simp [Context.expectsFile, Context.push, hb, h.2.mpr hb]
  · simp [Context.expectsFile, Context.push, hb, mt h.2.mp hb]

theorem Calm.agrees {a b : Context} (ha : Calm a) (hb : Calm b) : a.Agrees b :=
  ⟨ha.1.trans hb.1.symm, iff_of_false ha.2 hb.2⟩

/-- **A text has tokens of the same kinds at every place** behind which the same tokens can
stand. -/
theorem Lexed.relocate {ctx ctx' b : Context} {p : Position} {x : List Char} {ts : List Token}
    (h : Lexed ctx p x ts ctx') (hb : ctx.Agrees b) (q : Position) :
    ∃ us b', Lexed b q x us b' ∧ us.map Token.kind = ts.map Token.kind := by
  induction h generalizing b q with
  | nil => exact ⟨[], b, .nil, rfl⟩
  | @blank _ _ _ c _ _ _ hc _ ih =>
    obtain ⟨us, b', hus, hkinds⟩ := ih hb (q.advance c)
    obtain ⟨u, us, rfl, -, -⟩ := List.map_eq_cons_iff.mp hkinds
    exact ⟨_, b', .blank hc hus, hkinds⟩
  | @comment _ _ _ body _ _ _ hbody _ ih =>
    obtain ⟨us, b', hus, hkinds⟩ := ih hb (q.after ('#' :: body))
    obtain ⟨u, us, rfl, -, -⟩ := List.map_eq_cons_iff.mp hkinds
    exact ⟨_, b', .comment hbody hus, hkinds⟩
  | @token _ _ _ c r _ k _ hblank hhash hscan _ ih =>
    obtain ⟨us, b', hus, hkinds⟩ := ih (hb.push k) (q.after (c :: r))
    rw [hb.1] at hscan
    exact ⟨_, b', .token hblank hhash hscan hus, by simp [hkinds]⟩

/-! ## Finding a text in a longer one -/

theorem kind_scanNumber_ne (c : Char) (cs : List Char) (s : Symbol) :
    (scanNumber c cs).1 ≠ .symbol s := by
  have hhex : ∀ lexeme, hexKind lexeme ≠ .symbol s := by
    intro lexeme
    unfold hexKind
    split <;> simp
  unfold scanNumber
  split
  · exact hhex _
  · exact hhex _
  · show decimalKind _ ≠ _
    unfold decimalKind
    split <;> simp

theorem kind_scanWord_ne (c : Char) (cs : List Char) (s : Symbol) :
    (scanWord c cs).1 ≠ .symbol s := by
  show wordKind _ ≠ _
  unfold wordKind
  split <;> simp

theorem kind_scanFileName_ne {c : Char} {cs r : List Char} {k : TokenKind}
    (h : scanFileName? c cs = some (k, r)) (s : Symbol) : k ≠ .symbol s := by
  unfold scanFileName? at h
  split at h
  · cases h
  · simp only at h
    split at h
    · cases h
    · split at h
      · cases h
      · obtain ⟨rfl, -⟩ := Prod.mk.inj (Option.some.inj h)
        split <;> simp

/-- No number, word or file name is a sign. -/
theorem scanSymbol?_of_scanToken {fileExpected : Bool} {c : Char} {cs r : List Char} {s : Symbol}
    (h : scanToken? fileExpected c cs = some (.symbol s, r)) :
    scanSymbol? c cs = some (.symbol s, r) := by
  unfold scanToken? at h
  split at h
  · next found hfile =>
    obtain rfl := Option.some.inj h
    split at hfile
    · exact absurd rfl (kind_scanFileName_ne hfile s)
    · cases hfile
  · split at h
    · exact absurd (congrArg Prod.fst (Option.some.inj h)) (kind_scanNumber_ne c cs s)
    · split at h
      · exact absurd (congrArg Prod.fst (Option.some.inj h)) (kind_scanWord_ne c cs s)
      · exact h

/-- A semicolon is a token of one character. -/
theorem eq_semicolon_of_scanToken {fileExpected : Bool} {c : Char} {cs r : List Char}
    (h : scanToken? fileExpected c cs = some (.symbol .semicolon, r)) : c = ';' ∧ r = [] := by
  replace h := scanSymbol?_of_scanToken h
  unfold scanSymbol? at h
  split at h
  · cases h
  · cases h
  · obtain ⟨s, hs, hsymbol⟩ := Option.map_eq_some_iff.mp h
    obtain ⟨hkind, rfl⟩ := Prod.mk.inj hsymbol
    obtain rfl : s = .semicolon := by simpa using hkind
    unfold symbol? at hs
    split at hs <;> first | exact ⟨rfl, rfl⟩ | cases hs

/-! What a token goes on with stands at the head of the text behind its first character. -/

theorem prefix_decimalRest (cs : List Char) : decimalRest cs <+: cs := by
  have hsplit := List.takeWhile_append_dropWhile (p := Char.isDigit) (l := cs)
  simp only [decimalRest]
  generalize cs.takeWhile Char.isDigit = whole, cs.dropWhile Char.isDigit = behind at hsplit ⊢
  subst hsplit
  split
  · exact (List.prefix_append_right_inj whole).mpr
      (List.cons_prefix_cons.mpr ⟨rfl, List.takeWhile_prefix _⟩)
  · exact List.prefix_append whole behind

theorem prefix_hexFractionRest (cs : List Char) : hexFractionRest cs <+: cs := by
  unfold hexFractionRest
  split
  · split
    · exact List.cons_prefix_cons.mpr ⟨rfl, List.takeWhile_prefix _⟩
    · exact List.nil_prefix
  · exact List.nil_prefix

theorem prefix_hexExponentRest (cs : List Char) : hexExponentRest cs <+: cs := by
  unfold hexExponentRest
  split
  · split
    · split
      · split
        · exact List.cons_prefix_cons.mpr
            ⟨rfl, List.cons_prefix_cons.mpr ⟨rfl, List.takeWhile_prefix _⟩⟩
        · exact List.nil_prefix
      · split
        · exact List.cons_prefix_cons.mpr ⟨rfl, List.takeWhile_prefix _⟩
        · exact List.nil_prefix
    · exact List.nil_prefix
  · exact List.nil_prefix

theorem prefix_hexRest (cs : List Char) : hexRest cs <+: cs := by
  have hsplit := List.takeWhile_append_dropWhile (p := Digits.isHex) (l := cs)
  simp only [hexRest]
  generalize cs.takeWhile Digits.isHex = whole, cs.dropWhile Digits.isHex = behind at hsplit ⊢
  have hbehind := prefix_hexFractionRest behind
  generalize hexFractionRest behind = fraction at hbehind ⊢
  obtain ⟨more, rfl⟩ := hbehind
  subst hsplit
  rw [List.drop_left, List.append_assoc]
  exact (List.prefix_append_right_inj whole).mpr
    ((List.prefix_append_right_inj fraction).mpr (prefix_hexExponentRest more))

theorem prefix_scanNumber (c : Char) (cs : List Char) : (scanNumber c cs).2 <+: cs := by
  unfold scanNumber
  split
  · exact List.cons_prefix_cons.mpr ⟨rfl, prefix_hexRest _⟩
  · exact List.cons_prefix_cons.mpr ⟨rfl, prefix_hexRest _⟩
  · exact prefix_decimalRest _

theorem prefix_of_scanToken {fileExpected : Bool} {c : Char} {cs r : List Char} {k : TokenKind}
    (h : scanToken? fileExpected c cs = some (k, r)) : r <+: cs := by
  unfold scanToken? at h
  split at h
  · next found hfile =>
    obtain rfl := Option.some.inj h
    split at hfile
    · unfold scanFileName? at hfile
      split at hfile
      · cases hfile
      · simp only at hfile
        split at hfile
        · cases hfile
        · split at hfile
          · cases hfile
          · obtain ⟨-, rfl⟩ := Prod.mk.inj (Option.some.inj hfile)
            exact List.takeWhile_prefix _
    · cases hfile
  · split at h
    · have := prefix_scanNumber c cs
      rwa [Option.some.inj h] at this
    · split at h
      · obtain ⟨-, rfl⟩ := Prod.mk.inj (Option.some.inj h)
        exact List.takeWhile_prefix _
      · unfold scanSymbol? at h
        split at h
        · obtain ⟨-, rfl⟩ := Prod.mk.inj (Option.some.inj h)
          exact List.cons_prefix_cons.mpr ⟨rfl, List.nil_prefix⟩
        · obtain ⟨-, rfl⟩ := Prod.mk.inj (Option.some.inj h)
          exact List.cons_prefix_cons.mpr ⟨rfl, List.nil_prefix⟩
        · obtain ⟨s, -, hs⟩ := Option.map_eq_some_iff.mp h
          obtain ⟨-, rfl⟩ := Prod.mk.inj hs
          exact List.nil_prefix

/-- What stands in front of a semicolon or the end starts where every token ends. -/
theorem broken_of_scanFrom {ctx : Context} {p : Position} {cs : List Char}
    (h : ∀ piece ∈ (scanFrom ctx p cs).head?,
      ∃ t : Token, piece = .token t ∧ t.kind = .symbol .semicolon) : Broken cs := by
  cases cs with
  | nil => exact broken_nil
  | cons c cs =>
    by_cases hblank : isBlank c = true
    · exact broken_cons (by simp [isBreak, hblank]) cs
    · by_cases hhash : c = '#'
      · exact broken_cons (by simp [isBreak, hhash]) cs
      · rw [scanFrom, if_neg hblank, if_neg hhash] at h
        cases hscan : scanToken? ctx.expectsFile c cs with
        | none =>
          rw [hscan] at h
          obtain ⟨t, ht, -⟩ := h _ rfl
          cases ht
        | some found =>
          obtain ⟨k, r⟩ := found
          rw [hscan] at h
          obtain ⟨t, ht, hk⟩ := h _ rfl
          obtain rfl := Piece.token.inj ht
          obtain rfl : k = .symbol .semicolon := hk
          rw [(eq_semicolon_of_scanToken hscan).1]
          exact broken_cons (by decide) cs

/-- A comment ends where its line ends, unless the text does. -/
theorem eq_newline_of_takeWhile {cs ds : List Char} {d : Char}
    (h : cs = cs.takeWhile (· != '\n') ++ d :: ds) : d = '\n' := by
  have hsplit := List.takeWhile_append_dropWhile (p := (· != '\n')) (l := cs)
  have hbehind : cs.dropWhile (· != '\n') = d :: ds := List.append_cancel_left (hsplit.trans h)
  have hstop := List.head?_dropWhile_not (· != '\n') cs
  simpa [hbehind] using hstop

/--
**Tokens in a row are a text,** if nothing but a semicolon or the end comes behind them. What is
left starts where every token ends.
-/
theorem exists_lexed {ctx : Context} {p : Position} {cs : List Char} {ts : List Token}
    {more : List Piece} (h : scanFrom ctx p cs = ts.map .token ++ more)
    (hmore : ∀ piece ∈ more.head?, ∃ t : Token, piece = .token t ∧ t.kind = .symbol .semicolon) :
    ∃ x y ctx', cs = x ++ y ∧ Lexed ctx p x ts ctx' ∧ Broken y ∧
      scanFrom ctx' (p.after x) y = more := by
  have hnil : ∀ {ctx p cs}, scanFrom ctx p cs = more → ∃ x y ctx', cs = x ++ y ∧
      Lexed ctx p x [] ctx' ∧ Broken y ∧ scanFrom ctx' (p.after x) y = more :=
    fun {ctx p cs} h => ⟨[], cs, ctx, rfl, .nil, broken_of_scanFrom (h ▸ hmore), h⟩
  cases ts with
  | nil => exact hnil h
  | cons t ts =>
    rw [List.map_cons, List.cons_append] at h
    fun_induction scanFrom ctx p cs generalizing t ts with
    | case1 => cases h
    | case2 ctx p c cs hblank ih =>
      obtain ⟨x, y, ctx', rfl, hx, hy, hrest⟩ := ih t ts h
      exact ⟨c :: x, y, ctx', rfl, .blank hblank hx, hy, hrest⟩
    | case3 ctx p cs comment hblank ih =>
      obtain ⟨x, y, ctx', hdrop, hx, hy, hrest⟩ := ih t ts h
      have hcs : cs = comment ++ (x ++ y) := by
        rw [← hdrop, List.prefix_iff_eq_append.mp (List.takeWhile_prefix _)]
      cases x with
      | nil => cases hx
      | cons d x =>
        -- the comment ends at the end of its line, since a token comes behind it
        have hd : d = '\n' := eq_newline_of_takeWhile hcs
        subst hd
        have hbody : ∀ c ∈ comment, c ≠ '\n' := by
          intro c hc
          simpa using List.mem_takeWhile_imp hc
        refine ⟨'#' :: (comment ++ '\n' :: x), y, ctx', ?_, .comment hbody hx, hy, ?_⟩
        · simp [hcs]
        · rw [← hrest, ← List.cons_append, Position.after_append]
    | case4 ctx p c cs hblank hhash kind rest hscan ih =>
      obtain ⟨htoken, hbehind⟩ := List.cons.inj h
      obtain rfl := Piece.token.inj htoken
      have hcs : cs = rest ++ cs.drop rest.length :=
        List.prefix_iff_eq_append.mp (prefix_of_scanToken hscan) |>.symm
      obtain ⟨x, y, ctx', hdrop, hx, hy, hmore'⟩ : ∃ x y ctx', cs.drop rest.length = x ++ y ∧
          Lexed (ctx.push kind) (p.after (c :: rest)) x ts ctx' ∧ Broken y ∧
          scanFrom ctx' ((p.after (c :: rest)).after x) y = more := by
        cases ts with
        | nil => exact hnil hbehind
        | cons u us => exact ih u us hbehind
      rw [hcs, hdrop, ← List.append_assoc] at hscan
      rw [scanToken?_append hy] at hscan
      refine ⟨c :: (rest ++ x), y, ctx', ?_, .token (by simpa using hblank) hhash hscan hx, hy, ?_⟩
      · rw [hcs, hdrop, List.cons_append, List.append_assoc]
      · rw [← hmore', ← Position.after_append, List.cons_append]
    | case5 ctx p c cs hblank hhash hscan ih => cases (List.cons.inj h).1

end Lexer

end PaveScript
