import PaveScript.Token.Lexer

/-!
# Texts that scan to known tokens

`Scans P cs ks Q` says that the text `cs` scans to tokens of the kinds `ks` without a report,
whatever comes before and after it. What comes before is a context that `P` holds of, and `Q` holds
of the context behind the text. What comes after has to start with a delimiter, so that the last
token of the text ends where the text ends.

Almost all texts start and end in a *calm* context, one in which no file name is due. Only the
words `file` and `output` disturb it.
-/

namespace PaveScript

/-- The sign of a binary operator. -/
def BinaryOp.sign : BinaryOp → Symbol
  | .add => .plus
  | .sub => .minus
  | .mul => .star
  | .div => .slash
  | .pow => .caret

/-- The sign of a comparison. -/
def Comparison.sign : Comparison → Symbol
  | .lt => .less
  | .gt => .greater
  | .le => .lessEqual
  | .ge => .greaterEqual
  | .eq => .equals

namespace Lexer

/-! ## Characters -/

theorem isWordRest_of_isWordStart {c : Char} (h : isWordStart c = true) : isWordRest c = true := by
  simp only [isWordStart, isWordRest, Char.isAlphanum, Bool.or_eq_true] at h ⊢
  rcases h with h | h
  · exact Or.inl (Or.inl h)
  · exact Or.inr h

theorem isWordRest_of_isDigit {c : Char} (h : c.isDigit = true) : isWordRest c = true := by
  simp [isWordRest, Char.isAlphanum, h]

theorem isPathChar_of_isWordRest {c : Char} (h : isWordRest c = true) : isPathChar c = true := by
  simp only [isWordRest] at h
  simp only [isPathChar, h, Bool.true_or]

/-- The letters by their numbers. -/
theorem isAlpha_iff {c : Char} :
    c.isAlpha = true ↔ 65 ≤ c.toNat ∧ c.toNat ≤ 90 ∨ 97 ≤ c.toNat ∧ c.toNat ≤ 122 := by
  show (decide (65 ≤ c.val ∧ c.val ≤ 90) || (decide (97 ≤ c.val) && decide (c.val ≤ 122))) =
    true ↔ _
  simp only [Bool.or_eq_true, Bool.and_eq_true, decide_eq_true_eq, UInt32.le_iff_toNat_le]
  rfl

theorem toNat_lt_of_isAlphanum {c : Char} (h : c.isAlphanum = true) : c.toNat < 128 := by
  simp only [Char.isAlphanum, Bool.or_eq_true, isAlpha_iff, Char.isDigit_iff_toNat,
    Char.reduceToNat] at h
  omega

/-- The characters of file names, and so those of words and numbers, are visible ASCII. -/
theorem toNat_lt_of_isPathChar {c : Char} (h : isPathChar c = true) : c.toNat < 128 := by
  simp only [isPathChar, Bool.or_eq_true, beq_iff_eq] at h
  rcases h with ((((((h | rfl) | rfl) | rfl) | rfl) | rfl) | rfl) | rfl
  · exact toNat_lt_of_isAlphanum h
  all_goals decide

theorem isBlank_of_isPathChar {c : Char} (h : isPathChar c = true) : isBlank c = false := by
  have hlt := toNat_lt_of_isPathChar h
  simp only [isBlank, Bool.or_eq_false_iff, beq_eq_false_iff_ne]
  refine ⟨⟨⟨⟨?_, ?_⟩, ?_⟩, ?_⟩, by omega⟩
  all_goals
    rintro rfl
    exact absurd h (by decide)

theorem ne_hash_of_isPathChar {c : Char} (h : isPathChar c = true) : c ≠ '#' := by
  rintro rfl
  exact absurd h (by decide)

/-! ## One token -/

theorem scanFrom_blank (ctx : Context) (p : Position) {c : Char} (h : isBlank c = true)
    (cs : List Char) : scanFrom ctx p (c :: cs) = scanFrom ctx (p.advance c) cs := by
  rw [scanFrom, if_pos h]

/-- A token at the head of a text. -/
theorem scanFrom_token (ctx : Context) (p : Position) {c : Char} {r rest : List Char}
    {k : TokenKind} (hblank : isBlank c = false) (hhash : c ≠ '#')
    (h : scanToken? ctx.expectsFile c (r ++ rest) = some (k, r)) :
    scanFrom ctx p (c :: (r ++ rest)) =
      .token ⟨k, String.ofList (c :: r), p⟩ ::
        scanFrom (ctx.push k) (p.after (c :: r)) rest := by
  rw [scanFrom, if_neg (by simp [hblank]), if_neg hhash]
  simp [h]

/-- The characters that end a word and a number, and that make no longer sign with `<` and `>`. -/
def isDelimiter (c : Char) : Bool := !isWordRest c && c != '.' && c != '='

/-- A text that is empty or starts with a delimiter. -/
def Delimited (cs : List Char) : Prop := ∀ c ∈ cs.head?, isDelimiter c = true

theorem delimited_cons {c : Char} (h : isDelimiter c = true) (cs : List Char) :
    Delimited (c :: cs) := by
  intro d hd
  rw [← Option.some.inj hd]
  exact h

/-! ## Texts -/

/-- From a context in `P`, the text `cs` scans to `ks` and leads to a context in `Q`. -/
def Scans (P : Context → Prop) (cs : List Char) (ks : List TokenKind) (Q : Context → Prop) :
    Prop :=
  (∀ c ∈ cs, c.toNat < 128) ∧
  ∀ (ctx : Context) (p : Position) (rest : List Char), P ctx → Delimited rest →
    ∃ (ts : List Token) (ctx' : Context), ts.map Token.kind = ks ∧ Q ctx' ∧
      scanFrom ctx p (cs ++ rest) = ts.map .token ++ scanFrom ctx' (p.after cs) rest

namespace Scans

variable {P Q R : Context → Prop} {c : Char} {cs ds r : List Char} {k : TokenKind}
  {ks ls : List TokenKind}

theorem nil : Scans P [] [] P :=
  ⟨by simp, fun ctx p rest hP _ => ⟨[], ctx, rfl, hP, rfl⟩⟩

/-- Two texts of which the second starts with a delimiter. -/
theorem append (h : Scans P cs ks Q) (hd : isDelimiter c = true)
    (h' : Scans Q (c :: ds) ls R) : Scans P (cs ++ c :: ds) (ks ++ ls) R := by
  refine ⟨?_, ?_⟩
  · intro d hmem
    rcases List.mem_append.mp hmem with hmem | hmem
    · exact h.1 d hmem
    · exact h'.1 d hmem
  · intro ctx p rest hP hrest
    obtain ⟨ts, ctx', hts, hQ, hscan⟩ := h.2 ctx p (c :: ds ++ rest) hP (delimited_cons hd _)
    obtain ⟨us, ctx'', hus, hR, hscan'⟩ := h'.2 ctx' (p.after cs) rest hQ hrest
    refine ⟨ts ++ us, ctx'', by rw [List.map_append, hts, hus], hR, ?_⟩
    rw [List.append_assoc, hscan, hscan', List.map_append, List.append_assoc,
      Position.after_append]

/-- A blank leaves no trace. -/
theorem blank (hc : isBlank c = true) (hlt : c.toNat < 128) (h : Scans P cs ks Q) :
    Scans P (c :: cs) ks Q := by
  refine ⟨?_, ?_⟩
  · intro d hmem
    rcases List.mem_cons.mp hmem with rfl | hmem
    · exact hlt
    · exact h.1 d hmem
  · intro ctx p rest hP hrest
    rw [List.cons_append, scanFrom_blank ctx p hc]
    exact h.2 ctx (p.advance c) rest hP hrest

/-- A token in front of more text, which tells where the token ends. -/
theorem token (hlt : ∀ d ∈ c :: r, d.toNat < 128) (hblank : isBlank c = false) (hhash : c ≠ '#')
    (hscan : ∀ ctx rest, P ctx →
      scanToken? ctx.expectsFile c (r ++ (cs ++ rest)) = some (k, r))
    (hQ : ∀ ctx, P ctx → Q (ctx.push k)) (h : Scans Q cs ks R) :
    Scans P (c :: (r ++ cs)) (k :: ks) R := by
  refine ⟨?_, ?_⟩
  · intro d hmem
    rw [← List.cons_append] at hmem
    rcases List.mem_append.mp hmem with hmem | hmem
    · exact hlt d hmem
    · exact h.1 d hmem
  · intro ctx p rest hP hrest
    obtain ⟨ts, ctx', hts, hR, hrun⟩ :=
      h.2 (ctx.push k) (p.after (c :: r)) rest (hQ ctx hP) hrest
    refine ⟨⟨k, String.ofList (c :: r), p⟩ :: ts, ctx', by rw [List.map_cons, hts], hR, ?_⟩
    rw [List.cons_append, List.append_assoc, scanFrom_token ctx p hblank hhash (hscan ctx rest hP),
      hrun, ← Position.after_append, List.cons_append, List.map_cons, List.cons_append]

/-- A token that ends in front of a delimiter. -/
theorem delimitedToken (hlt : ∀ d ∈ c :: r, d.toNat < 128) (hblank : isBlank c = false)
    (hhash : c ≠ '#')
    (hscan : ∀ ctx rest, P ctx → Delimited rest →
      scanToken? ctx.expectsFile c (r ++ rest) = some (k, r))
    (hQ : ∀ ctx, P ctx → Q (ctx.push k)) : Scans P (c :: r) [k] Q := by
  refine ⟨hlt, ?_⟩
  intro ctx p rest hP hrest
  exact ⟨[⟨k, String.ofList (c :: r), p⟩], ctx.push k, rfl, hQ ctx hP,
    scanFrom_token ctx p hblank hhash (hscan ctx rest hP hrest)⟩

end Scans

/-! ## Calm contexts -/

/-- No file name is due, and none will be due behind an equals sign. -/
def Calm (ctx : Context) : Prop :=
  ctx.expectsFile = false ∧ ctx.last ≠ some (.keyword .output)

theorem Calm.start : Calm {} := by
  simp [Calm, Context.expectsFile]

/-- The words behind which a file name may be due. -/
def disturbing : List TokenKind := [.keyword .file, .keyword .output]

theorem Calm.push {ctx : Context} (h : Calm ctx) {k : TokenKind} (hk : k ∉ disturbing) :
    Calm (ctx.push k) := by
  simp only [disturbing, List.mem_cons, List.not_mem_nil, or_false, not_or] at hk
  simp [Calm, Context.push, Context.expectsFile, hk.1, hk.2, h.2]

theorem scanToken?_of_calm {ctx : Context} (h : Calm ctx) (c : Char) (cs : List Char) :
    scanToken? ctx.expectsFile c cs =
      if c.isDigit then some (scanNumber c cs)
      else if isWordStart c then some (scanWord c cs)
      else scanSymbol? c cs := by
  rw [h.1]
  rfl

namespace Scans

variable {P Q R : Context → Prop} {c : Char} {cs ds r : List Char} {k : TokenKind}
  {ks ls : List TokenKind}

/-- A space. -/
theorem space (h : Scans P cs ks Q) : Scans P (' ' :: cs) ks Q :=
  .blank (by decide) (by decide) h

/-- The signs of one character that start no longer one. -/
def signs : List (Char × Symbol) :=
  [('+', .plus), ('-', .minus), ('*', .star), ('/', .slash), ('^', .caret), ('=', .equals),
    ('(', .openParen), (')', .closeParen), ('[', .openBracket), (']', .closeBracket),
    (',', .comma), (';', .semicolon)]

theorem scanSymbol?_of_mem_signs {s : Symbol} (h : (c, s) ∈ signs) (cs : List Char) :
    scanSymbol? c cs = some (.symbol s, []) := by
  simp only [signs, List.mem_cons, List.not_mem_nil, or_false, Prod.mk.injEq] at h
  rcases h with ⟨rfl, rfl⟩ | ⟨rfl, rfl⟩ | ⟨rfl, rfl⟩ | ⟨rfl, rfl⟩ | ⟨rfl, rfl⟩ | ⟨rfl, rfl⟩ |
    ⟨rfl, rfl⟩ | ⟨rfl, rfl⟩ | ⟨rfl, rfl⟩ | ⟨rfl, rfl⟩ | ⟨rfl, rfl⟩ | ⟨rfl, rfl⟩ <;>
    rfl

/-- A sign where no file name is due. -/
theorem sign {s : Symbol} (hs : (c, s) ∈ signs) (hP : ∀ ctx, P ctx → ctx.expectsFile = false)
    (hQ : ∀ ctx, P ctx → Q (ctx.push (.symbol s))) (h : Scans Q cs ks R) :
    Scans P (c :: cs) (.symbol s :: ks) R := by
  have hchar : ∀ q ∈ signs, q.1.toNat < 128 ∧ isBlank q.1 = false ∧ q.1 ≠ '#' ∧
      q.1.isDigit = false ∧ isWordStart q.1 = false := by decide
  obtain ⟨hlt, hblank, hhash, hdigit, hword⟩ := hchar (c, s) hs
  refine .token (r := []) (by simpa using hlt) hblank hhash ?_ hQ h
  intro ctx rest hctx
  rw [scanToken?, hP ctx hctx]
  simp only [Bool.false_eq_true, if_false, hdigit, hword]
  exact scanSymbol?_of_mem_signs hs _

/-- A sign in a calm context. -/
theorem calmSign {s : Symbol} (hs : (c, s) ∈ signs) (h : Scans Calm cs ks R) :
    Scans Calm (c :: cs) (.symbol s :: ks) R :=
  .sign hs (fun _ hctx => hctx.1) (fun _ hctx => hctx.push (by simp [disturbing])) h

end Scans

/-! ## Words -/

/-- A class of characters runs up to a delimiter. -/
theorem takeWhile_append_delimited {p : Char → Bool} {r : List Char} (rest : List Char)
    (hr : ∀ d ∈ r, p d = true) (hrest : ∀ c ∈ rest.head?, p c = false) :
    (r ++ rest).takeWhile p = r ∧ (r ++ rest).dropWhile p = rest := by
  rw [List.takeWhile_append_of_pos hr, List.dropWhile_append_of_pos hr]
  cases rest with
  | nil => simp
  | cons c rest =>
    have hc : p c = false := hrest c rfl
    simp [hc]

theorem isWordRest_of_isDelimiter {c : Char} (h : isDelimiter c = true) :
    isWordRest c = false := by
  simp only [isDelimiter, Bool.and_eq_true, Bool.not_eq_true'] at h
  exact h.1.1

/-- A letter or an underscore, then letters, digits and underscores. -/
def isWord : List Char → Bool
  | [] => false
  | c :: r => isWordStart c && r.all isWordRest

theorem exists_cons_of_isWord {w : List Char} (h : isWord w = true) :
    ∃ c r, w = c :: r ∧ isWordStart c = true ∧ ∀ d ∈ r, isWordRest d = true := by
  cases w with
  | nil => cases h
  | cons c r =>
    simp only [isWord, Bool.and_eq_true, List.all_eq_true] at h
    exact ⟨c, r, rfl, h.1, h.2⟩

theorem isDigit_of_isWordStart {c : Char} (h : isWordStart c = true) : c.isDigit = false := by
  simp only [isWordStart, Bool.or_eq_true, isAlpha_iff, beq_iff_eq] at h
  rcases h with h | rfl
  · rw [Bool.eq_false_iff, ne_eq, Char.isDigit_iff_toNat]
    simp only [Char.reduceToNat]
    omega
  · decide

/-- A word where no file name is due. -/
theorem Scans.word {P Q : Context → Prop} {w : List Char} (hw : isWord w = true)
    (hP : ∀ ctx, P ctx → ctx.expectsFile = false)
    (hQ : ∀ ctx, P ctx → Q (ctx.push (wordKind (String.ofList w)))) :
    Scans P w [wordKind (String.ofList w)] Q := by
  obtain ⟨c, r, rfl, hc, hr⟩ := exists_cons_of_isWord hw
  have hpath : ∀ d ∈ c :: r, isPathChar d = true := by
    intro d hd
    rcases List.mem_cons.mp hd with rfl | hd
    · exact isPathChar_of_isWordRest (isWordRest_of_isWordStart hc)
    · exact isPathChar_of_isWordRest (hr d hd)
  have hcpath := hpath c List.mem_cons_self
  refine .delimitedToken (fun d hd => toNat_lt_of_isPathChar (hpath d hd))
    (isBlank_of_isPathChar hcpath) (ne_hash_of_isPathChar hcpath) ?_ hQ
  intro ctx rest hctx hrest
  have htake := takeWhile_append_delimited rest hr fun d hd =>
    isWordRest_of_isDelimiter (hrest d hd)
  rw [scanToken?, hP ctx hctx]
  simp [isDigit_of_isWordStart hc, hc, scanWord, htake.1]

/-- A name that scans as an identifier: a word that is no keyword in any letter case. -/
def IsName (x : String) : Prop :=
  isWord x.toList = true ∧ ∀ k ∈ Keyword.all, x.map Char.toLower ≠ k.word

theorem wordKind_of_isName {x : String} (h : IsName x) : wordKind x = .identifier x := by
  have hnone : Keyword.ofWord? x = none := by
    rw [Keyword.ofWord?, List.find?_eq_none]
    intro k hk
    simpa using (h.2 k hk).symm
  rw [wordKind, hnone]

theorem Scans.name {x : String} (h : IsName x) :
    Scans Calm x.toList [.identifier x] Calm := by
  have hkind : wordKind (String.ofList x.toList) = .identifier x := by
    rw [String.ofList_toList, wordKind_of_isName h]
  rw [← hkind]
  refine .word h.1 (fun _ hctx => hctx.1) fun _ hctx => hctx.push ?_
  rw [hkind]
  simp [disturbing]

theorem mem_all (k : Keyword) : k ∈ Keyword.all := by
  cases k with
  | func f => cases f <;> decide
  | _ => decide

/-- A keyword is spelled as a word, and its spelling is recognised. -/
theorem word_scanned (k : Keyword) :
    isWord k.word.toList = true ∧ wordKind k.word = .keyword k := by
  have hall : ∀ k ∈ Keyword.all, isWord k.word.toList = true ∧ wordKind k.word = .keyword k := by
    decide +kernel
  exact hall k (mem_all k)

/-- A keyword but `file` and `output`. -/
theorem Scans.keyword {k : Keyword} (hk : .keyword k ∉ disturbing) :
    Scans Calm k.word.toList [.keyword k] Calm := by
  have hkind : wordKind (String.ofList k.word.toList) = .keyword k := by
    rw [String.ofList_toList, (word_scanned k).2]
  rw [← hkind]
  refine .word (word_scanned k).1 (fun _ hctx => hctx.1) fun _ hctx => hctx.push ?_
  rwa [hkind]

/-! ## Numbers -/

theorem isDigit_of_isDelimiter {c : Char} (h : isDelimiter c = true) : c.isDigit = false := by
  cases hd : c.isDigit with
  | false => rfl
  | true =>
    have := isWordRest_of_isDelimiter h
    rw [isWordRest_of_isDigit hd] at this
    cases this

theorem decimalRest_whole {cs rest : List Char} (h : ∀ d ∈ cs, d.isDigit = true)
    (hrest : Delimited rest) : decimalRest (cs ++ rest) = cs := by
  obtain ⟨htake, hdrop⟩ := takeWhile_append_delimited rest h fun d hd =>
    isDigit_of_isDelimiter (hrest d hd)
  rw [decimalRest, htake, hdrop]
  cases rest with
  | nil => rfl
  | cons c rest =>
    have hc : c ≠ '.' := by
      have hd := hrest c rfl
      rintro rfl
      exact absurd hd (by decide)
    split
    · next heq => exact absurd (List.cons.inj heq).1 hc
    · rfl

theorem decimalRest_point {cs fraction rest : List Char}
    (h : ∀ d ∈ cs ++ fraction, d.isDigit = true) (hrest : Delimited rest) :
    decimalRest (cs ++ '.' :: fraction ++ rest) = cs ++ '.' :: fraction := by
  have hcs : ∀ d ∈ cs, d.isDigit = true := fun d hd => h d (List.mem_append_left _ hd)
  have hfr : ∀ d ∈ fraction, d.isDigit = true := fun d hd => h d (List.mem_append_right _ hd)
  obtain ⟨htake, hdrop⟩ := takeWhile_append_delimited ('.' :: (fraction ++ rest)) hcs
    (by simp)
  have hfraction := takeWhile_append_delimited rest hfr fun d hd =>
    isDigit_of_isDelimiter (hrest d hd)
  rw [List.append_assoc, List.cons_append, decimalRest, htake, hdrop]
  simp only [hfraction.1]

/-- No mark of hexadecimal numbers stands behind the first digit. -/
theorem scanNumber_of_head {c : Char} {cs : List Char} (h : ∀ d ∈ cs.head?, d ≠ 'x' ∧ d ≠ 'X') :
    scanNumber c cs = (decimalKind (c :: decimalRest cs), decimalRest cs) := by
  unfold scanNumber
  split
  · exact absurd rfl (h 'x' rfl).1
  · exact absurd rfl (h 'X' rfl).2
  · rfl

/-- What can stand behind the first digit of a decimal number. -/
theorem head_ne_hexMark {cs rest : List Char} (h : ∀ d ∈ cs, d.isDigit = true ∨ d = '.')
    (hrest : Delimited rest) : ∀ d ∈ (cs ++ rest).head?, d ≠ 'x' ∧ d ≠ 'X' := by
  intro d hd
  have hclass : (d.isDigit = true ∨ d = '.') ∨ isDelimiter d = true := by
    cases cs with
    | nil => exact Or.inr (hrest d hd)
    | cons c cs =>
      obtain rfl := Option.some.inj hd
      exact Or.inl (h c List.mem_cons_self)
  constructor
  all_goals
    rintro rfl
    exact absurd hclass (by decide)

/-- A decimal number whose rest is known in front of every delimiter. -/
theorem Scans.numberOf {c : Char} {r : List Char} (hc : c.isDigit = true)
    (hr : ∀ d ∈ r, d.isDigit = true ∨ d = '.')
    (hrest : ∀ rest, Delimited rest → decimalRest (r ++ rest) = r) :
    Scans Calm (c :: r) [decimalKind (c :: r)] Calm := by
  have hpath : ∀ d, d.isDigit = true ∨ d = '.' → isPathChar d = true := by
    rintro d (hd | rfl)
    · exact isPathChar_of_isWordRest (isWordRest_of_isDigit hd)
    · decide
  have hcpath := hpath c (Or.inl hc)
  have hkind : decimalKind (c :: r) ∉ disturbing := by
    unfold decimalKind
    split <;> simp [disturbing]
  refine .delimitedToken ?_ (isBlank_of_isPathChar hcpath) (ne_hash_of_isPathChar hcpath) ?_
    fun _ hctx => hctx.push hkind
  · intro d hd
    rcases List.mem_cons.mp hd with rfl | hd
    · exact toNat_lt_of_isPathChar hcpath
    · exact toNat_lt_of_isPathChar (hpath d (hr d hd))
  · intro ctx rest hctx hdel
    rw [scanToken?_of_calm hctx, if_pos hc, scanNumber_of_head (head_ne_hexMark hr hdel),
      hrest rest hdel]

/-- Digits. -/
theorem Scans.whole {cs : List Char} (hne : cs ≠ []) (h : ∀ d ∈ cs, d.isDigit = true) :
    Scans Calm cs [decimalKind cs] Calm := by
  obtain ⟨c, cs, rfl⟩ := List.exists_cons_of_ne_nil hne
  have hcs : ∀ d ∈ cs, d.isDigit = true := fun d hd => h d (List.mem_cons_of_mem c hd)
  exact .numberOf (h c List.mem_cons_self) (fun d hd => Or.inl (hcs d hd)) fun rest hrest =>
    decimalRest_whole hcs hrest

/-- Digits with a point among or behind them. -/
theorem Scans.point {whole fraction : List Char} (hne : whole ≠ [])
    (h : ∀ d ∈ whole ++ fraction, d.isDigit = true) :
    Scans Calm (whole ++ '.' :: fraction) [decimalKind (whole ++ '.' :: fraction)] Calm := by
  obtain ⟨c, cs, rfl⟩ := List.exists_cons_of_ne_nil hne
  have hcs : ∀ d ∈ cs ++ fraction, d.isDigit = true := fun d hd => h d (List.mem_cons_of_mem c hd)
  refine .numberOf (h c List.mem_cons_self) ?_ fun rest hrest => decimalRest_point hcs hrest
  intro d hd
  rcases List.mem_append.mp hd with hd | hd
  · exact Or.inl (hcs d (List.mem_append_left _ hd))
  · rcases List.mem_cons.mp hd with rfl | hd
    · exact Or.inr rfl
    · exact Or.inl (hcs d (List.mem_append_right _ hd))

/-! ## Operators -/

theorem Scans.operator (op : BinaryOp) :
    Scans Calm op.symbol.toList [.symbol op.sign] Calm := by
  cases op <;> exact .calmSign (by decide) .nil

/-- A sign of one character, if no equals sign makes it a longer one. -/
theorem scanSymbol?_of_delimited {rest : List Char} (h : Delimited rest) (c : Char) :
    scanSymbol? c rest = (symbol? c).map fun s => (.symbol s, []) := by
  have hequals : ∀ ds, rest ≠ '=' :: ds := by
    rintro ds rfl
    exact absurd (h '=' rfl) (by decide)
  unfold scanSymbol?
  split
  · exact absurd rfl (hequals _)
  · exact absurd rfl (hequals _)
  · rfl

/-- A sign that is the same one in front of every delimiter. -/
theorem Scans.signOf {c : Char} {r : List Char} {sign : Symbol}
    (hlt : ∀ d ∈ c :: r, d.toNat < 128) (hhash : c ≠ '#')
    (hclass : (isBlank c || c.isDigit || isWordStart c) = false)
    (hscan : ∀ rest, Delimited rest → scanSymbol? c (r ++ rest) = some (.symbol sign, r)) :
    Scans Calm (c :: r) [.symbol sign] Calm := by
  simp only [Bool.or_eq_false_iff] at hclass
  obtain ⟨⟨hblank, hdigit⟩, hword⟩ := hclass
  refine .delimitedToken hlt hblank hhash ?_ fun _ hctx => hctx.push (by simp [disturbing])
  intro ctx rest hctx hrest
  rw [scanToken?_of_calm hctx, hdigit, hword, if_neg Bool.false_ne_true,
    if_neg Bool.false_ne_true, hscan rest hrest]

theorem Scans.comparison (op : Comparison) :
    Scans Calm op.symbol.toList [.symbol op.sign] Calm := by
  cases op with
  -- the delimiter is no equals sign, so the short signs stay short
  | lt =>
    exact .signOf (c := '<') (r := []) (by simp) (by decide) (by decide) fun _ h =>
      scanSymbol?_of_delimited h '<'
  | gt =>
    exact .signOf (c := '>') (r := []) (by simp) (by decide) (by decide) fun _ h =>
      scanSymbol?_of_delimited h '>'
  | le => exact .signOf (c := '<') (r := ['=']) (by simp) (by decide) (by decide) fun _ _ => rfl
  | ge => exact .signOf (c := '>') (r := ['=']) (by simp) (by decide) (by decide) fun _ _ => rfl
  | eq => exact .calmSign (by decide) .nil

/-! ## File names -/

/-- Path characters that end in a point and letters. -/
def IsFileName (path ext : List Char) : Prop :=
  (∀ c ∈ path, isPathChar c = true) ∧ ext ≠ [] ∧ (∀ c ∈ ext, c.isAlpha = true) ∧
    ∃ base, path = base ++ '.' :: ext

/-- The kind of a file name. -/
def fileKind (path ext : List Char) : TokenKind :=
  if ext = ['k', 'd', 'k'] then .inputFile (String.ofList path)
  else .outputFile (String.ofList path)

theorem extension?_append {base ext : List Char} (h : ∀ c ∈ ext, c.isAlpha = true) :
    extension? (base ++ '.' :: ext) = some ext := by
  have hpoint : ∀ c ∈ ext.reverse, (c != '.') = true := by
    intro c hc
    have halpha := h c (List.mem_reverse.mp hc)
    rw [bne_iff_ne]
    rintro rfl
    exact absurd halpha (by decide)
  rw [extension?, if_pos (by simp), List.reverse_append, List.reverse_cons, List.append_assoc,
    List.takeWhile_append_of_pos hpoint]
  simp

/-- A file name where one is due, in front of a character of another class. -/
theorem Scans.file {path ext cs : List Char} {ks : List TokenKind} {P R : Context → Prop} {c : Char}
    (hname : IsFileName path ext) (hP : ∀ ctx, P ctx → ctx.expectsFile = true)
    (hc : isPathChar c = false) (h : Scans Calm (c :: cs) ks R) :
    Scans P (path ++ c :: cs) (fileKind path ext :: ks) R := by
  obtain ⟨hpath, hne, halpha, base, hbase⟩ := hname
  have hcalm : ∀ ctx : Context, Calm (ctx.push (fileKind path ext)) := by
    intro ctx
    unfold fileKind
    split <;> simp [Calm, Context.push, Context.expectsFile]
  obtain ⟨d, r, rfl⟩ := List.exists_cons_of_ne_nil (l := path) (by simp [hbase])
  have hd := hpath d List.mem_cons_self
  have hr : ∀ e ∈ r, isPathChar e = true := fun e he => hpath e (List.mem_cons_of_mem d he)
  -- not `delimitedToken`: a parenthesis is a delimiter but goes on the path
  refine .token (fun e he => toNat_lt_of_isPathChar (hpath e he)) (isBlank_of_isPathChar hd)
    (ne_hash_of_isPathChar hd) ?_ (fun ctx _ => hcalm ctx) h
  intro ctx rest hctx
  have htake := takeWhile_append_delimited (c :: cs ++ rest) hr (by simpa using hc)
  have hext : extension? (d :: r) = some ext := by rw [hbase, extension?_append halpha]
  have hall : ext.all Char.isAlpha = true := List.all_eq_true.mpr halpha
  rw [scanToken?, hP ctx hctx, if_pos rfl, scanFileName?, htake.1]
  simp [hd, hext, hne, hall, fileKind]

/-! ## Whole texts -/

/-- **A text that scans to known kinds has tokens of these kinds and no report.** -/
theorem Scans.ofText [Text.Normalizer] {text : String} {ks : List TokenKind} {R : Context → Prop}
    (h : Scans Calm text.toList ks R) :
    (Scan.ofText text).tokens.map Token.kind = ks ∧ (Scan.ofText text).errors = [] := by
  obtain ⟨hlt, hscan⟩ := h
  obtain ⟨ts, ctx, hts, -, hpieces⟩ := hscan {} Position.start [] Calm.start (by simp [Delimited])
  have hnormal : Text.Normalizer.normalize text.toList = text.toList :=
    Text.Normalizer.normalize_of_small fun c hc => Nat.lt_of_lt_of_le (hlt c hc) (by decide)
  -- the end of the text ends the last token, as a delimiter would
  rw [List.append_nil, scanFrom, List.append_nil] at hpieces
  have htokens : (Scan.ofText text).pieces = ts.map .token := by
    rw [Scan.ofText, Scan.ofChars, hnormal, hpieces]
  constructor
  · rw [Scan.tokens, htokens, List.filterMap_map]
    simpa [Function.comp_def, Piece.token?] using hts
  · rw [Scan.errors, htokens, List.filterMap_map]
    simp [Function.comp_def, Piece.error?]

end Lexer

end PaveScript
