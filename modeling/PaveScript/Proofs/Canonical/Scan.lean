import PaveScript.Proofs.Canonical.Word
import PaveScript.Proofs.Double.ReadBack

/-!
# Canonical texts scan to their words

One lemma for each kind of tree. The text of a part is followed by a space, a comma, a closing
parenthesis or bracket or a semicolon, and all of these are delimiters.
-/

namespace PaveScript

open Lexer

/-! ## Forms

How canonical texts are put together. Every part is scanned in a calm context and leaves one.
-/

section

variable {cs ds os : List Char} {v w : List TokenKind} {k : TokenKind} {R : Context → Prop}

theorem scans_parens (h : Scans Calm cs v Calm) :
    Scans Calm ('(' :: (cs ++ [')'])) (.symbol .openParen :: (v ++ [.symbol .closeParen])) Calm :=
  .calmSign (by decide) (.append h (by decide) (.calmSign (by decide) .nil))

/-- A keyword with an argument in parentheses. -/
theorem scans_call {f : Keyword} (hf : .keyword f ∉ disturbing) (h : Scans Calm cs v Calm) :
    Scans Calm (f.word.toList ++ '(' :: (cs ++ [')']))
      (.keyword f :: .symbol .openParen :: (v ++ [.symbol .closeParen])) Calm :=
  .append (.keyword hf) (by decide) (scans_parens h)

/-- Two parts with a comma between them. -/
theorem scans_pair (hv : Scans Calm cs v Calm) (hw : Scans Calm ds w R) :
    Scans Calm (cs ++ ',' :: ' ' :: ds) (v ++ .symbol .comma :: w) R :=
  .append hv (by decide) (.calmSign (by decide) (.space hw))

/-- Two parts with a sign or a word between them. -/
theorem scans_between (hv : Scans Calm cs v Calm) (hk : Scans Calm os [k] Calm)
    (hw : Scans Calm ds w R) : Scans Calm (cs ++ ' ' :: (os ++ ' ' :: ds)) (v ++ k :: w) R :=
  .append hv (by decide) (.space (.append hk (by decide) (.space hw)))

/-- A keyword and a space. -/
theorem scans_keyword {f : Keyword} (hf : .keyword f ∉ disturbing) (h : Scans Calm cs v R) :
    Scans Calm (f.word.toList ++ ' ' :: cs) (.keyword f :: v) R :=
  .append (.keyword hf) (by decide) (.space h)

/-- A name and a space. -/
theorem scans_name {x : String} (hx : IsName x) (h : Scans Calm cs v R) :
    Scans Calm (x.toList ++ ' ' :: cs) (.identifier x :: v) R :=
  .append (.name hx) (by decide) (.space h)

/-- An equals sign and a space. -/
theorem scans_equals (h : Scans Calm cs v R) :
    Scans Calm ('=' :: ' ' :: cs) (.symbol .equals :: v) R :=
  .calmSign (by decide) (.space h)

end

/-! ## Numbers -/

namespace Literal

theorem scans_digits {n : Nat} (h : n ≤ bound) :
    Scans Calm (Digits.text n).toList [.number (.integer n)] Calm := by
  have hkind : decimalKind (Digits.decimal n) = .number (.integer n) := by
    rw [decimalKind, ofDecimal_decimal h]
  rw [Digits.text, String.toList_ofList, ← hkind]
  exact .whole (Digits.decimal_ne_nil n) fun _ hd => Digits.isDigit_of_mem_decimal hd

theorem scans_real {x : Double} (hfin : x.isFinite = true) (hneg : x.negative = false)
    (hle : exceedsBound x = false) :
    Scans Calm (real x).text.toList [.number (.real x)] Calm := by
  have hkind : decimalKind (real x).text.toList = .number (.real x) := by
    rw [decimalKind, ofDecimal_text_real hfin hneg hle]
  obtain ⟨whole, fraction, htext, hne, hdigit, -⟩ := Double.exists_realText hfin hneg
  rw [← hkind, htext]
  exact .point hne hdigit

theorem Unsigned.scans {l : Literal} (h : l.Unsigned) :
    Scans Calm l.text.toList [.number l.decimal] Calm := by
  cases l with
  | integer i =>
    obtain ⟨n, rfl⟩ := Int.eq_ofNat_of_zero_le h.1
    have hn : n ≤ bound := Int.ofNat_le.mp h.2
    have htext : (integer n).text = Digits.text n := by simp [text, Digits.intText]
    rw [htext]
    exact scans_digits hn
  | real x => exact scans_real h.1 h.2.1 h.2.2
  | hexFloat x =>
    obtain ⟨hfin, hneg, hle⟩ := h
    cases hint : x.isIntegral with
    | true =>
      have hwhole := wholePart_le_bound hfin hneg hle
      have hdecimal : (hexFloat x).decimal = .integer x.wholePart := by simp [decimal, hint, hneg]
      have hsign : x.signText = "" := by simp [Double.signText, hneg]
      rw [hdecimal, text, Double.text_of_isIntegral hint hwhole, hsign, String.empty_append]
      exact scans_digits hwhole
    | false =>
      have hdecimal : (hexFloat x).decimal = .real x := by simp [decimal, hint]
      have htext : (hexFloat x).text = (real x).text := by simp [text, hint]
      rw [hdecimal, htext]
      exact scans_real hfin hneg hle

/-- The text of a negative literal is a minus sign and the text of the opposite one. -/
theorem text_of_isNegative {l : Literal} (h : l.isNegative = true) (hneg : l.negate.Unsigned) :
    l.text = "-" ++ l.negate.text := by
  cases l with
  | integer i =>
    have hi : i < 0 := by simpa [isNegative] using h
    have hi' : ¬-i < 0 := by omega
    rw [negate, text, text, Digits.intText, Digits.intText, if_pos hi, if_neg hi', Int.natAbs_neg]
  | real x =>
    have hint : x.neg.isIntegral = x.isIntegral := rfl
    rw [negate, text, text, hint]
    split
    · exact Double.wholeText_neg h
    · exact Double.text_neg hneg.1 h
  | hexFloat x => exact Double.text_neg hneg.1 h

theorem decimal_negate {l : Literal} (h : l.isNegative = true) :
    l.negate.decimal = l.decimal.negate := by
  cases l with
  | integer i => rfl
  | real x => rfl
  | hexFloat x =>
    have hneg : x.negative = true := h
    have hint : x.neg.isIntegral = x.isIntegral := rfl
    have hwhole : x.neg.wholePart = x.wholePart := rfl
    rw [negate, decimal, decimal, hint, hwhole]
    split
    · simp [negate, Double.neg, hneg]
    · rfl

/-- A literal that may be negative is one without sign or starts with a minus sign. -/
theorem Signed.cases {l : Literal} (h : l.Signed Unsigned) :
    (l.isNegative = false ∧ l.Unsigned) ∨ (l.isNegative = true ∧ l.negate.Unsigned) := by
  rcases h with h | ⟨m, hm, rfl⟩
  · exact Or.inl ⟨h.isNegative, h⟩
  · rw [negate_negate]
    cases m with
    | integer i =>
      by_cases hi : i = 0
      · -- an integer zero has no opposite of its own, while a real zero has
        subst hi
        exact Or.inl ⟨rfl, hm⟩
      · have hpos : 0 < i := by
          have := hm.1
          omega
        exact Or.inr ⟨by simpa [isNegative, negate] using hpos, hm⟩
    | real x => exact Or.inr ⟨by simpa [isNegative, negate, Double.neg] using hm.2.1, hm⟩
    | hexFloat x => exact Or.inr ⟨by simpa [isNegative, negate, Double.neg] using hm.2.1, hm⟩

theorem Signed.scans {l : Literal} (h : l.Signed Unsigned) :
    Scans Calm l.text.toList l.word Calm := by
  rcases h.cases with ⟨-, h⟩ | ⟨hneg, h⟩
  · rw [h.word]
    exact h.scans
  · have htext : l.text.toList = '-' :: l.negate.text.toList := by
      rw [text_of_isNegative hneg h]
      simp
    rw [htext, word, if_pos hneg, ← decimal_negate hneg]
    exact .calmSign (by decide) h.scans

end Literal

theorem Numeral.WellFormed.scans {safe : Bool} {n : Numeral}
    (h : n.WellFormed safe Literal.Unsigned) : Scans Calm n.text.toList n.word Calm := by
  induction n with
  | literal l => exact Literal.Signed.scans h
  | approx n ih =>
    have htext : (Numeral.approx n).text.toList =
        Keyword.approx.word.toList ++ '(' :: (n.text.toList ++ [')']) := by
      simp [Numeral.text, Keyword.word]
    rw [htext]
    exact scans_call (by decide) (ih h.2)
  | dec a b iha ihb =>
    have htext : (Numeral.dec a b).text.toList =
        Keyword.dec.word.toList ++ '(' ::
          (a.text.toList ++ ',' :: ' ' :: b.text.toList ++ [')']) := by
      simp [Numeral.text, Keyword.word]
    have hword : (Numeral.dec a b).word = .keyword .dec :: .symbol .openParen ::
        (a.word ++ .symbol .comma :: b.word ++ [.symbol .closeParen]) := by
      simp [Numeral.word]
    rw [htext, hword]
    exact scans_call (by decide) (scans_pair (iha h.1) (ihb h.2))
  | rat a l ih =>
    have htext : (Numeral.rat a l).text.toList =
        Keyword.rat.word.toList ++ '(' ::
          (a.text.toList ++ ',' :: ' ' :: l.text.toList ++ [')']) := by
      simp [Numeral.text, Keyword.word]
    have hword : (Numeral.rat a l).word = .keyword .rat :: .symbol .openParen ::
        (a.word ++ .symbol .comma :: [.number l.decimal] ++ [.symbol .closeParen]) := by
      simp [Numeral.word]
    rw [htext, hword]
    exact scans_call (by decide) (scans_pair (ih h.1) h.2.scans)

/-! ## Expressions and conditions -/

theorem Expr.WellFormed.scans {safe : Bool} {e : Expr} (h : e.WellFormed safe Literal.Unsigned) :
    Scans Calm e.text.toList e.word Calm := by
  induction e with
  | number n => exact h.numeral.scans
  | ident x => exact .name h
  | binary op a b iha ihb =>
    have htext : (Expr.binary op a b).text.toList =
        '(' :: (a.text.toList ++ ' ' :: (op.symbol.toList ++ ' ' :: b.text.toList) ++ [')']) := by
      simp [Expr.text]
    rw [htext]
    exact scans_parens (scans_between (iha h.1) (.operator op) (ihb h.2))
  | neg e ih =>
    have htext : (Expr.neg e).text.toList = '-' :: e.text.toList := by simp [Expr.text]
    rw [htext]
    exact .calmSign (by decide) (ih h)
  | call f e ih =>
    have htext : (Expr.call f e).text.toList =
        (Keyword.func f).word.toList ++ '(' :: (e.text.toList ++ [')']) := by
      simp [Expr.text, Keyword.word]
    rw [htext]
    exact scans_call (by simp [disturbing]) (ih h)

theorem BoolExpr.WellFormed.scans {safe : Bool} {b : BoolExpr}
    (h : b.WellFormed safe Literal.Unsigned) : Scans Calm b.text.toList b.word Calm := by
  induction b with
  | compare op a b =>
    have htext : (BoolExpr.compare op a b).text.toList =
        a.text.toList ++ ' ' :: (op.symbol.toList ++ ' ' :: b.text.toList) := by
      simp [BoolExpr.text]
    rw [htext]
    exact scans_between h.1.scans (.comparison op) h.2.scans
  | and a b iha ihb =>
    have htext : (BoolExpr.and a b).text.toList =
        '(' :: (a.text.toList ++ ' ' :: (Keyword.and.word.toList ++ ' ' :: b.text.toList) ++
          [')']) := by
      simp [BoolExpr.text, Keyword.word]
    rw [htext]
    exact scans_parens (scans_between (iha h.1) (.keyword (by decide)) (ihb h.2))
  | or a b iha ihb =>
    have htext : (BoolExpr.or a b).text.toList =
        '(' :: (a.text.toList ++ ' ' :: (Keyword.or.word.toList ++ ' ' :: b.text.toList) ++
          [')']) := by
      simp [BoolExpr.text, Keyword.word]
    rw [htext]
    exact scans_parens (scans_between (iha h.1) (.keyword (by decide)) (ihb h.2))

/-! ## Statements -/

theorem Binding.WellFormed.scans {safe : Bool} {b : Binding}
    (h : b.WellFormed safe Literal.Unsigned) : Scans Calm b.text.toList b.word Calm := by
  have htext : b.text.toList = b.name.toList ++ ' ' :: '=' :: ' ' :: b.expr.text.toList := by
    simp [Binding.text]
  rw [htext]
  exact scans_name h.1 (scans_equals h.2.scans)

theorem scans_links {safe : Bool} {bs : List Binding} (hne : bs ≠ [])
    (h : ∀ b ∈ bs, b.WellFormed safe Literal.Unsigned) :
    Scans Calm (String.intercalate ", " (bs.map Binding.text)).toList (linksWord bs) Calm := by
  induction bs with
  | nil => exact absurd rfl hne
  | cons b bs ih =>
    have hb := (h b List.mem_cons_self).scans
    cases bs with
    | nil => simpa using hb
    | cons c bs =>
      have htext : (String.intercalate ", " ((b :: c :: bs).map Binding.text)).toList =
          b.text.toList ++ ',' :: ' ' ::
            (String.intercalate ", " ((c :: bs).map Binding.text)).toList := by
        simp
      rw [htext, linksWord_cons_cons]
      exact scans_pair hb (ih (by simp) fun d hd => h d (List.mem_cons_of_mem b hd))

theorem scans_bindings {safe : Bool} {bs : List Binding}
    (h : ∀ b ∈ bs, b.WellFormed safe Literal.Unsigned) {cs : List Char} {ks : List TokenKind}
    {R : Context → Prop} (hcs : Scans Calm cs ks R) :
    Scans Calm ((bindingsText bs).toList ++ cs) (bindingsWord bs ++ ks) R := by
  cases bs with
  | nil => exact hcs
  | cons b bs =>
    have htext : (bindingsText (b :: bs)).toList ++ cs = Keyword.letIn.word.toList ++ ' ' ::
        ((String.intercalate ", " ((b :: bs).map Binding.text)).toList ++ ' ' ::
          (Keyword.within.word.toList ++ ' ' :: cs)) := by
      simp [bindingsText, Keyword.word]
    have hword : bindingsWord (b :: bs) ++ ks = .keyword .letIn ::
        (linksWord (b :: bs) ++ .keyword .within :: ks) := by
      simp [bindingsWord]
    rw [htext, hword]
    exact scans_keyword (by decide) (scans_between (scans_links (by simp) h)
      (.keyword (by decide)) hcs)

/-! ### Settings -/

/-- The context behind the word `output`. -/
def AfterOutput (ctx : Context) : Prop :=
  ctx.expectsFile = false ∧ ctx.last = some (.keyword .output)

theorem scans_output : Scans Calm Keyword.output.word.toList [.keyword .output] AfterOutput := by
  have hkind : wordKind (String.ofList Keyword.output.word.toList) = .keyword .output := by
    rw [String.ofList_toList, (word_scanned _).2]
  rw [← hkind]
  refine .word (word_scanned .output).1 (fun _ hctx => hctx.1) fun ctx hctx => ?_
  rw [hkind]
  simp [AfterOutput, Context.push, Context.expectsFile]

/-- Behind the word `file` a file name is due. -/
theorem scans_fileWord :
    Scans Calm Keyword.file.word.toList [.keyword .file] (fun ctx => ctx.expectsFile = true) := by
  have hkind : wordKind (String.ofList Keyword.file.word.toList) = .keyword .file := by
    rw [String.ofList_toList, (word_scanned _).2]
  rw [← hkind]
  refine .word (word_scanned .file).1 (fun _ hctx => hctx.1) fun ctx hctx => ?_
  rw [hkind]
  simp [Context.push, Context.expectsFile]

theorem fileKind_eq {path : String} {ext : List Char} (h : IsFileName path.toList ext) :
    fileKind path.toList ext = fileToken path := by
  obtain ⟨-, -, halpha, base, hbase⟩ := h
  rw [fileKind, fileToken, String.ofList_toList, hbase, extension?_append halpha]
  simp

theorem scans_outputFile {file : String} {ext : List Char} (h : IsFileName file.toList ext)
    {cs : List Char} {ks : List TokenKind} {R : Context → Prop}
    (hcs : Scans Calm (';' :: cs) ks R) :
    Scans Calm ((Setting.output file).text.toList ++ ';' :: cs)
      ((Setting.output file).word ++ ks) R := by
  have htext : (Setting.output file).text.toList ++ ';' :: cs =
      Keyword.output.word.toList ++ ' ' :: '=' :: ' ' :: (file.toList ++ ';' :: cs) := by
    -- By `eq_def`, here and below: an equation for each case is slow to derive from its string.
    simp [Setting.text.eq_def, Keyword.word]
  have hword : (Setting.output file).word ++ ks =
      .keyword .output :: .symbol .equals :: fileKind file.toList ext :: ks := by
    rw [fileKind_eq h]
    rfl
  rw [htext, hword]
  refine .append scans_output (by decide) (.space (.sign (by decide) (fun _ hctx => hctx.1) ?_
    (.space (.file h (fun _ hctx => hctx) (by decide) hcs))))
  intro ctx hctx
  simp [Context.push, Context.expectsFile, hctx.2]

theorem scans_truth (b : Bool) : Scans Calm (boolText b).toList [truthWord b] Calm := by
  cases b with
  | true => exact .keyword (k := .yes) (by decide)
  | false => exact .keyword (k := .no) (by decide)

/-- A keyword with an equals sign and a value, in front of a semicolon. -/
theorem scans_assignment {k : Keyword} (hk : .keyword k ∉ disturbing) {text value : List Char}
    (htext : text = k.word.toList ++ ' ' :: '=' :: ' ' :: value) {w : List TokenKind}
    (h : Scans Calm value w Calm) {cs : List Char} {ks : List TokenKind} {R : Context → Prop}
    (hcs : Scans Calm (';' :: cs) ks R) :
    Scans Calm (text ++ ';' :: cs) (.keyword k :: .symbol .equals :: (w ++ ks)) R := by
  have hassoc : text ++ ';' :: cs =
      k.word.toList ++ ' ' :: '=' :: ' ' :: (value ++ ';' :: cs) := by simp [htext]
  rw [hassoc]
  exact scans_keyword hk (scans_equals (.append h (by decide) hcs))

/-- A keyword with a name, an equals sign and a value, in front of a semicolon. -/
theorem scans_namedAssignment {k : Keyword} (hk : .keyword k ∉ disturbing) {x : String}
    (hx : IsName x) {text value : List Char}
    (htext : text = k.word.toList ++ ' ' :: (x.toList ++ ' ' :: '=' :: ' ' :: value))
    {w : List TokenKind} (h : Scans Calm value w Calm) {cs : List Char} {ks : List TokenKind}
    {R : Context → Prop} (hcs : Scans Calm (';' :: cs) ks R) :
    Scans Calm (text ++ ';' :: cs) (.keyword k :: .identifier x :: .symbol .equals :: (w ++ ks))
      R := by
  have hassoc : text ++ ';' :: cs =
      k.word.toList ++ ' ' :: (x.toList ++ ' ' :: '=' :: ' ' :: (value ++ ';' :: cs)) := by
    simp [htext]
  rw [hassoc]
  exact scans_keyword hk (scans_name hx (scans_equals (.append h (by decide) hcs)))

theorem scans_safeInput (b : Bool) {cs : List Char} {ks : List TokenKind} {R : Context → Prop}
    (hcs : Scans Calm (';' :: cs) ks R) :
    Scans Calm ((Setting.safeInput b).text.toList ++ ';' :: cs)
      ((Setting.safeInput b).word ++ ks) R := by
  have htext : (Setting.safeInput b).text.toList ++ ';' :: cs =
      Keyword.safe.word.toList ++ ' ' ::
        (Keyword.input.word.toList ++ ' ' :: '=' :: ' ' :: (boolText b).toList ++ ';' :: cs) := by
    simp [Setting.text.eq_def, Keyword.word]
  rw [htext]
  exact scans_keyword (by decide) (scans_assignment (by decide) rfl (scans_truth b) hcs)

theorem scans_pavingMode (mode : PavingMode) {cs : List Char} {ks : List TokenKind}
    {R : Context → Prop} (hcs : Scans Calm (';' :: cs) ks R) :
    Scans Calm ((Setting.pavingMode mode).text.toList ++ ';' :: cs)
      ((Setting.pavingMode mode).word ++ ks) R := by
  have htext : (Setting.pavingMode mode).text.toList ++ ';' :: cs =
      Keyword.paving.word.toList ++ ' ' ::
        (Keyword.mode.word.toList ++ ' ' :: '=' :: ' ' :: mode.keyword.word.toList ++
          ';' :: cs) := by
    cases mode <;> simp [Setting.text.eq_def, Keyword.word, PavingMode.name, PavingMode.keyword]
  rw [htext]
  exact scans_keyword (by decide)
    (scans_assignment (by decide) rfl (.keyword (by cases mode <;> decide)) hcs)

/-- A setting in front of a semicolon. -/
theorem Setting.WellFormed.scans {safe : Bool} {s : Setting}
    (h : s.WellFormed safe Literal.Unsigned) {cs : List Char} {ks : List TokenKind}
    {R : Context → Prop} (hcs : Scans Calm (';' :: cs) ks R) :
    Scans Calm (s.text.toList ++ ';' :: cs) (s.word ++ ks) R := by
  cases s with
  | precision n =>
    exact scans_assignment (k := .precision) (by decide)
      (by simp [Setting.text.eq_def, Keyword.word]) (Numeral.WellFormed.scans h) hcs
  | resolution l =>
    exact scans_assignment (k := .resolution) (by decide)
      (by simp [Setting.text.eq_def, Keyword.word]) (Literal.Unsigned.scans h) hcs
  | variableResolution x l =>
    exact scans_namedAssignment (k := .resolution) (by decide) h.1
      (by simp [Setting.text.eq_def, Keyword.word]) (Literal.Unsigned.scans h.2) hcs
  | granularity l =>
    exact scans_assignment (k := .granularity) (by decide)
      (by simp [Setting.text.eq_def, Keyword.word]) (Literal.Unsigned.scans h) hcs
  | depth l =>
    exact scans_assignment (k := .depth) (by decide)
      (by simp [Setting.text.eq_def, Keyword.word]) (Literal.Unsigned.scans h) hcs
  | varSelect l =>
    exact scans_assignment (k := .varSelect) (by decide)
      (by simp [Setting.text.eq_def, Keyword.word]) (Literal.Unsigned.scans h) hcs
  | bp b =>
    exact scans_assignment (k := .bp) (by decide)
      (by simp [Setting.text.eq_def, Keyword.word]) (scans_truth b) hcs
  | safeInput b => exact scans_safeInput b hcs
  | debug b =>
    exact scans_assignment (k := .debug) (by decide)
      (by simp [Setting.text.eq_def, Keyword.word]) (scans_truth b) hcs
  | name x =>
    exact scans_assignment (k := .name) (by decide)
      (by simp [Setting.text.eq_def, Keyword.word]) (.name h) hcs
  | output file =>
    obtain ⟨ext, h⟩ := h
    exact scans_outputFile h hcs
  | pavingMode mode => exact scans_pavingMode mode hcs

/-! ### Statements -/

section

variable {safe : Bool} {k : Keyword} {ds : List Char} {ks : List TokenKind} {R : Context → Prop}

/-- A keyword with a let chain and what the chain is for, in front of a semicolon. -/
theorem scans_problem (hk : .keyword k ∉ disturbing) {bs : List Binding}
    (hbs : ∀ b ∈ bs, b.WellFormed safe Literal.Unsigned) {text body : List Char}
    (htext : text = k.word.toList ++ ' ' :: ((bindingsText bs).toList ++ body))
    {w : List TokenKind} (h : Scans Calm body w Calm) (hcs : Scans Calm (';' :: ds) ks R) :
    Scans Calm (text ++ ';' :: ds) (.keyword k :: (bindingsWord bs ++ w ++ ks)) R := by
  have hassoc : text ++ ';' :: ds =
      k.word.toList ++ ' ' :: ((bindingsText bs).toList ++ (body ++ ';' :: ds)) := by
    simp [htext]
  rw [hassoc, List.append_assoc]
  exact scans_keyword hk (scans_bindings hbs (.append h (by decide) hcs))

/-- The difference that a constraint is, against zero. -/
theorem Constraint.scans {c : Constraint} (h : c.expr.WellFormed safe Literal.Unsigned) :
    Scans Calm c.text.toList (c.expr.word ++ [.symbol c.op.sign, .number (.integer 0)]) Calm := by
  have hzero : (Digits.text 0).toList = ['0'] := by
    rw [Digits.text, String.toList_ofList, Digits.decimal]
    rfl
  have htext : c.text.toList =
      c.expr.text.toList ++ ' ' :: (c.op.symbol.toList ++ ' ' :: (Digits.text 0).toList) := by
    simp [Constraint.text, hzero]
  rw [htext]
  exact scans_between h.scans (.comparison c.op) (Literal.scans_digits (Nat.zero_le _))

theorem Interval.scans {i : Interval} (hl : i.lower.WellFormed safe Literal.Unsigned)
    (hu : i.upper.WellFormed safe Literal.Unsigned) (hcs : Scans Calm (';' :: ds) ks R) :
    Scans Calm (i.text.toList ++ ';' :: ds) (.symbol .openBracket ::
      (i.lower.word ++ .symbol .comma :: (i.upper.word ++ [.symbol .closeBracket])) ++ ks) R := by
  have htext : i.text.toList ++ ';' :: ds =
      '[' :: (i.lower.text.toList ++ ',' :: ' ' :: (i.upper.text.toList ++ ']' :: ';' :: ds)) := by
    simp [Interval.text]
  rw [htext, List.cons_append, List.append_assoc, List.cons_append, List.append_assoc]
  exact .calmSign (by decide) (scans_pair hl.scans
    (.append hu.scans (by decide) (.calmSign (by decide) hcs)))

theorem scans_declare (kind : VarKind) {x : String} (hx : IsName x) {i : Interval}
    (hl : i.lower.WellFormed safe Literal.Unsigned) (hu : i.upper.WellFormed safe Literal.Unsigned)
    (hcs : Scans Calm (';' :: ds) ks R) :
    Scans Calm ((Statement.declare x i kind).text.toList ++ ';' :: ds)
      ((Statement.declare x i kind).word ++ ks) R := by
  have htext : (Statement.declare x i kind).text.toList ++ ';' :: ds =
      kind.keyword.word.toList ++ ' ' :: (x.toList ++ ' ' :: (Keyword.within.word.toList ++ ' ' ::
        (i.text.toList ++ ';' :: ds))) := by
    cases kind <;> simp [Statement.text.eq_def, Keyword.word, VarKind.word, VarKind.keyword]
  rw [htext]
  exact scans_keyword (by cases kind <;> decide) (scans_name hx (scans_keyword (by decide)
    (i.scans hl hu hcs)))

theorem scans_set {s : Setting} (h : s.WellFormed safe Literal.Unsigned)
    (hcs : Scans Calm (';' :: ds) ks R) :
    Scans Calm ((Statement.set s).text.toList ++ ';' :: ds) ((Statement.set s).word ++ ks) R := by
  have htext : (Statement.set s).text.toList ++ ';' :: ds =
      Keyword.setting.word.toList ++ ' ' :: (s.text.toList ++ ';' :: ds) := by
    simp [Statement.text.eq_def, Keyword.word]
  rw [htext]
  exact scans_keyword (by decide) (h.scans hcs)

/-- The semicolon behind `output` makes the context calm again. -/
theorem scans_resetOutput {ls : List TokenKind} (hds : Scans Calm ds ls R) :
    Scans Calm (Statement.resetOutput.text.toList ++ ';' :: ds)
      (Statement.resetOutput.word ++ .symbol .semicolon :: ls) R := by
  have htext : Statement.resetOutput.text.toList ++ ';' :: ds =
      Keyword.reset.word.toList ++ ' ' :: (Keyword.output.word.toList ++ ';' :: ds) := by
    simp [Statement.text.eq_def, Keyword.word]
  rw [htext]
  refine scans_keyword (by decide) (.append scans_output (by decide) ?_)
  refine .sign (by decide) (fun _ hctx => hctx.1) (fun ctx _ => ?_) hds
  simp [Calm, Context.push, Context.expectsFile]

theorem scans_action (a : Action) (hcs : Scans Calm (';' :: ds) ks R) :
    Scans Calm ((Statement.action a).text.toList ++ ';' :: ds)
      ((Statement.action a).word ++ ks) R := by
  have htext : (Statement.action a).text = a.keyword.word := by cases a <;> rfl
  rw [htext]
  exact .append (.keyword (by cases a <;> decide)) (by decide) hcs

/-- A keyword, the word `paving` and a name, in front of a semicolon. -/
theorem scans_pavingName (hk : .keyword k ∉ disturbing) {x : String} (hx : IsName x)
    {text : List Char} (htext : text = k.word.toList ++ ' ' :: (Keyword.paving.word.toList ++
      ' ' :: x.toList)) (hcs : Scans Calm (';' :: ds) ks R) :
    Scans Calm (text ++ ';' :: ds) (.keyword k :: .keyword .paving :: .identifier x :: ks) R := by
  have hassoc : text ++ ';' :: ds = k.word.toList ++ ' ' :: (Keyword.paving.word.toList ++ ' ' ::
      (x.toList ++ ';' :: ds)) := by
    simp [htext]
  rw [hassoc]
  exact scans_keyword hk (scans_keyword (by decide) (.append (.name hx) (by decide) hcs))

theorem scans_axes {axes : PlotAxes} (h : ∀ y ∈ axes.names, IsName y)
    (hcs : Scans Calm (';' :: ds) ks R) :
    Scans Calm ((String.intercalate " " axes.names).toList ++ ';' :: ds)
      (axes.names.map .identifier ++ ks) R := by
  cases axes with
  | two y z =>
    simp only [PlotAxes.names, List.forall_mem_cons] at h
    have htext : (String.intercalate " " (PlotAxes.two y z).names).toList ++ ';' :: ds =
        y.toList ++ ' ' :: (z.toList ++ ';' :: ds) := by
      simp [PlotAxes.names]
    rw [htext]
    exact scans_name h.1 (.append (.name h.2.1) (by decide) hcs)
  | three y z u =>
    simp only [PlotAxes.names, List.forall_mem_cons] at h
    have htext : (String.intercalate " " (PlotAxes.three y z u).names).toList ++ ';' :: ds =
        y.toList ++ ' ' :: (z.toList ++ ' ' :: (u.toList ++ ';' :: ds)) := by
      simp [PlotAxes.names]
    rw [htext]
    exact scans_name h.1 (scans_name h.2.1 (.append (.name h.2.2.1) (by decide) hcs))

theorem scans_plot {x : String} (hx : IsName x) {axes : PlotAxes}
    (h : ∀ y ∈ axes.names, IsName y) (hcs : Scans Calm (';' :: ds) ks R) :
    Scans Calm ((Statement.plot x axes).text.toList ++ ';' :: ds)
      ((Statement.plot x axes).word ++ ks) R := by
  have htext : (Statement.plot x axes).text.toList ++ ';' :: ds =
      Keyword.plot.word.toList ++ ' ' :: (x.toList ++ ' ' ::
        ((String.intercalate " " axes.names).toList ++ ';' :: ds)) := by
    simp [Statement.text.eq_def, Keyword.word]
  rw [htext]
  exact scans_keyword (by decide) (scans_name hx (scans_axes h hcs))

theorem scans_universal {b : BoolExpr} (h : b.WellFormed safe Literal.Unsigned)
    (hcs : Scans Calm (';' :: ds) ks R) :
    Scans Calm ((Statement.universal b).text.toList ++ ';' :: ds)
      ((Statement.universal b).word ++ ks) R := by
  have htext : (Statement.universal b).text.toList ++ ';' :: ds =
      Keyword.universal.word.toList ++ ' ' :: (b.text.toList ++ ';' :: ds) := by
    simp [Statement.text.eq_def, Keyword.word]
  rw [htext]
  exact scans_keyword (by decide) (.append h.scans (by decide) hcs)

theorem scans_readFile {path : String} (h : IsFileName path.toList ['k', 'd', 'k'])
    (hcs : Scans Calm (';' :: ds) ks R) :
    Scans Calm ((Statement.readFile path).text.toList ++ ';' :: ds)
      ((Statement.readFile path).word ++ ks) R := by
  have htext : (Statement.readFile path).text.toList ++ ';' :: ds =
      Keyword.file.word.toList ++ ' ' :: (path.toList ++ ';' :: ds) := by
    simp [Statement.text.eq_def, Keyword.word]
  have hword : (Statement.readFile path).word ++ ks =
      .keyword .file :: fileKind path.toList ['k', 'd', 'k'] :: ks := by
    rw [fileKind, if_pos rfl, String.ofList_toList]
    rfl
  rw [htext, hword]
  exact .append scans_fileWord (by decide) (.space (.file h (fun _ hctx => hctx) (by decide) hcs))

end

/-- **A statement and its semicolon** scan to the word of the statement and a semicolon. -/
theorem Statement.WellFormed.scans {safe : Bool} {s : Statement}
    (h : s.WellFormed safe Literal.Unsigned) {ds : List Char} {ls : List TokenKind}
    {R : Context → Prop} (hds : Scans Calm ds ls R) :
    Scans Calm (s.text.toList ++ ';' :: ds) (s.word ++ .symbol .semicolon :: ls) R := by
  have hcs : Scans Calm (';' :: ds) (.symbol .semicolon :: ls) R := .calmSign (by decide) hds
  cases s with
  | declare x i kind => exact scans_declare kind h.1 h.2.1 h.2.2 hcs
  | const x n =>
    exact scans_namedAssignment (k := .constant) (by decide) h.1
      (by simp [Statement.text.eq_def, Keyword.word]) h.2.scans hcs
  | objective bs e =>
    exact scans_problem (k := .objfn) (by decide) h.1
      (by simp [Statement.text.eq_def, Keyword.word]) h.2.scans hcs
  | differential bs e =>
    exact scans_problem (k := .dfeq) (by decide) h.1
      (by simp [Statement.text.eq_def, Keyword.word]) h.2.scans hcs
  | constraint bs c =>
    exact scans_problem (k := .cnstr) (by decide) h.1
      (by simp [Statement.text.eq_def, Keyword.word]) (Constraint.scans h.2) hcs
  | define x e =>
    exact scans_namedAssignment (k := .define) (by decide) h.1
      (by simp [Statement.text.eq_def, Keyword.word]) h.2.scans hcs
  | set s => exact scans_set h hcs
  | resetOutput => exact scans_resetOutput hds
  | action a => exact scans_action a hcs
  | savePaving x =>
    exact scans_pavingName (k := .save) (by decide) h
      (by simp [Statement.text.eq_def, Keyword.word]) hcs
  | loadPaving x =>
    exact scans_pavingName (k := .load) (by decide) h
      (by simp [Statement.text.eq_def, Keyword.word]) hcs
  | plot x axes => exact scans_plot h.1 h.2 hcs
  | universal b => exact scans_universal h hcs
  | readFile path => exact scans_readFile h hcs
  | quit => exact .append (.keyword (k := .quit) (by decide)) (by decide) hcs
  | help => exact .append (.keyword (k := .help) (by decide)) (by decide) hcs

/-- The word of a list of statements: each one is closed by a semicolon. -/
def formatWord (ss : List Statement) : List TokenKind :=
  ss.flatMap fun s => s.word ++ [.symbol .semicolon]

/-- **A canonical text scans to the word of its statements.** -/
theorem scans_format {safe : Bool} {ss : List Statement}
    (h : ∀ s ∈ ss, s.WellFormed safe Literal.Unsigned) :
    Scans Calm (Statement.format ss).toList (formatWord ss) Calm := by
  induction ss with
  | nil => exact .nil
  | cons s ss ih =>
    have hs := h s List.mem_cons_self
    have hss := ih fun t ht => h t (List.mem_cons_of_mem s ht)
    have htext : (Statement.format (s :: ss)).toList =
        s.text.toList ++ ';' :: '\n' :: (Statement.format ss).toList := by
      simp [Statement.format]
    have hword : formatWord (s :: ss) = s.word ++ .symbol .semicolon :: formatWord ss := by
      simp [formatWord]
    rw [htext, hword]
    exact hs.scans (.blank (by decide) (by decide) hss)

end PaveScript
