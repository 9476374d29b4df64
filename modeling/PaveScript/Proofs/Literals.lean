import Mathlib.Data.List.Forall2
import PaveScript.Proofs.Clause
import PaveScript.Proofs.Scanned
import PaveScript.Proofs.Segment
import PaveScript.Proofs.Stability

/-!
# The literals of a statement

The bound of literals is enforced in one place, where the text of a number is read, and nowhere in
the grammar. It holds for every literal of every statement all the same: a literal of a tree is that
of a number token of its word, as it stands or negated, and a word with a number that is too large
derives nothing.

* `StatementDerives.accounts` — the literals of a tree are those of its word
* `reads_of_mem_tokens` — a number token carries what its text reads as
* `literals_of_step` — the literals of a statement that was read
-/

namespace PaveScript

open Grammar Phrase

/-! ## Words and their literals -/

/-- The second literal is the first one or its negation. -/
def Literal.UpToSign (l l' : Literal) : Prop := l' = l ∨ l' = l.negate

/-- A word without a number that is too large, and the literals of its number tokens in order, each
as it stands or negated. -/
structure Accounts (w : List TokenKind) (ls : List Literal) : Prop where
  overflow : .overflow ∉ w
  literals : List.Forall₂ Literal.UpToSign (w.filterMap literal?) ls

namespace Accounts

variable {v w : List TokenKind} {ls ms : List Literal} {k : TokenKind} {l : Literal}

theorem nil : Accounts [] [] := ⟨by simp, .nil⟩

theorem append (hv : Accounts v ls) (hw : Accounts w ms) : Accounts (v ++ w) (ls ++ ms) := by
  refine ⟨by simp [hv.overflow, hw.overflow], ?_⟩
  rw [List.filterMap_append]
  exact List.rel_append hv.literals hw.literals

/-- A token that is no number adds nothing. -/
theorem skip (h : Accounts w ls) (hk : literal? k = none) (hoverflow : k ≠ .overflow) :
    Accounts (k :: w) ls := by
  refine ⟨by simp [h.overflow, hoverflow.symm], ?_⟩
  rw [List.filterMap_cons_none hk]
  exact h.literals

theorem symbol (h : Accounts w ls) (s : Symbol) : Accounts (.symbol s :: w) ls :=
  h.skip rfl (by simp)

theorem keyword (h : Accounts w ls) (word : Keyword) : Accounts (.keyword word :: w) ls :=
  h.skip rfl (by simp)

theorem identifier (h : Accounts w ls) (x : String) : Accounts (.identifier x :: w) ls :=
  h.skip rfl (by simp)

/-- Two words with a sign between them. -/
theorem between (hv : Accounts v ls) (s : Symbol) (hw : Accounts w ms) :
    Accounts (v ++ .symbol s :: w) (ls ++ ms) :=
  hv.append (hw.symbol s)

/-- A word that a sign closes. -/
theorem close (h : Accounts w ls) (s : Symbol) : Accounts (w ++ [.symbol s]) ls := by
  have := h.between s nil
  rwa [List.append_nil] at this

/-- A word that consists of a number token. -/
theorem singleton (h : LiteralToken k l) {l' : Literal} (hl : l.UpToSign l') :
    Accounts [k] [l'] := by
  refine ⟨by cases h <;> simp, ?_⟩
  rw [List.filterMap_cons_some (literal?_of_literalToken h)]
  exact .cons hl .nil

theorem number (l : Literal) : Accounts [.number l] [l] := singleton (.number l) (.inl rfl)

end Accounts

namespace Grammar

theorem NumberDerives.accounts {n : Nat} {w : List TokenKind} {a : Numeral}
    (h : NumberDerives n w a) : Accounts w a.literals := by
  induction h with
  | literal h => exact .singleton h (.inl rfl)
  | negated h => exact (Accounts.singleton h (.inr rfl)).symbol _
  | approx h ih => exact ((ih.close _).symbol _).keyword _
  | dec ha hb iha ihb => exact ((iha.between _ (ihb.close _)).symbol _).keyword _
  | rat l h ih => exact ((ih.between _ ((Accounts.number l).close _)).symbol _).keyword _

/-- **The literals of an expression are those of its word, in the same order.** -/
theorem Derives.accounts {l : Level} {n : Nat} {w : List TokenKind} {e : Expr}
    (h : Derives l n w e) : Accounts w e.literals := by
  induction h with
  | number h unsigned => exact h.accounts
  | ident x => exact Accounts.nil.identifier x
  | group h ih => exact (ih.close _).symbol _
  | call f h ih => exact ((ih.close _).symbol _).keyword _
  | primary h ih => exact ih
  | neg h ih => exact ih.symbol _
  | unary h ih => exact ih
  | power h ih => exact ih
  | product h ih => exact ih
  | pow ha hb iha ihb => exact iha.between _ ihb
  | mul ha hb iha ihb => exact iha.between _ ihb
  | div ha hb iha ihb => exact iha.between _ ihb
  | add ha hb iha ihb => exact iha.between _ ihb
  | sub ha hb iha ihb => exact iha.between _ ihb

/-- Two expressions with a comparison between them. -/
theorem accounts_compare {v w : List TokenKind} {k : TokenKind} {op : Comparison}
    {ls ms : List Literal} (hv : Accounts v ls) (hk : ComparisonToken k op) (hw : Accounts w ms) :
    Accounts (v ++ k :: w) (ls ++ ms) := by
  obtain ⟨s, rfl, -⟩ := hk.exists_symbol
  exact hv.between s hw

theorem ConditionDerives.accounts {l : Junction} {n : Nat} {w : List TokenKind} {b : BoolExpr}
    (h : ConditionDerives l n w b) : Accounts w b.literals := by
  induction h with
  | compare ha hk hb => exact accounts_compare ha.accounts hk hb.accounts
  | group h ih => exact (ih.close _).symbol _
  | atom h ih => exact ih
  | and ha hb iha ihb => exact iha.append (ihb.keyword _)
  | conjunction h ih => exact ih
  | or ha hb iha ihb => exact iha.append (ihb.keyword _)

theorem LinksDerive.accounts {n : Nat} {w : List TokenKind} {bs : List Binding}
    (h : LinksDerive n w bs) : Accounts w (bindingsLiterals bs) := by
  induction h with
  | last x h =>
    have := (h.accounts.symbol .equals).identifier x
    simpa [bindingsLiterals] using this
  | cons x h hs ih =>
    have := ((h.accounts.between .comma ih).symbol .equals).identifier x
    simpa [bindingsLiterals] using this

theorem BindingsDerive.accounts {n : Nat} {w : List TokenKind} {bs : List Binding}
    (h : BindingsDerive n w bs) : Accounts w (bindingsLiterals bs) := by
  cases h with
  | none => exact .nil
  | chain h =>
    have := (h.accounts.append (Accounts.nil.keyword .within)).keyword .letIn
    simpa using this

theorem PreambleDerives.accounts {n : Nat} {w : List TokenKind} {bs : List Binding}
    (h : PreambleDerives n w bs) : Accounts w (bindingsLiterals bs) := by
  cases h with
  | bare h => exact h.accounts
  | equals h => exact h.accounts.symbol _

theorem SettingDerives.accounts {n : Nat} {w : List TokenKind} {s : Setting}
    (h : SettingDerives n w s) : Accounts w s.literals := by
  cases h with
  | precision h => exact (h.accounts.symbol _).keyword _
  | resolution l => exact ((Accounts.number l).symbol _).keyword _
  | variableResolution x l => exact (((Accounts.number l).symbol _).identifier x).keyword _
  | granularity l => exact ((Accounts.number l).symbol _).keyword _
  | depth l => exact ((Accounts.number l).symbol _).keyword _
  | varSelect l => exact ((Accounts.number l).symbol _).keyword _
  | bp b => exact ((Accounts.nil.keyword _).symbol _).keyword _
  | safeInput b => exact (((Accounts.nil.keyword _).symbol _).keyword _).keyword _
  | debug b => exact ((Accounts.nil.keyword _).symbol _).keyword _
  | name x => exact ((Accounts.nil.identifier x).symbol _).keyword _
  | output hfile =>
    cases hfile with
    | input file => exact ((Accounts.nil.skip rfl (by simp)).symbol _).keyword _
    | output file => exact ((Accounts.nil.skip rfl (by simp)).symbol _).keyword _
  | pavingMode mode => exact (((Accounts.nil.keyword _).symbol _).keyword _).keyword _

/-- A zero on the right of a constraint is left out, and nothing else. -/
theorem literals_normalize_sublist (lhs : Expr) (op : Comparison) (rhs : Expr) :
    (Constraint.normalize lhs op rhs).expr.literals.Sublist (lhs.literals ++ rhs.literals) := by
  unfold Constraint.normalize
  split
  · exact List.sublist_append_left ..
  · exact .refl _

/-- **The literals of a statement are those of its word,** but for a zero that a constraint is
compared with. -/
theorem StatementDerives.accounts {n : Nat} {w : List TokenKind} {s : Statement}
    (h : StatementDerives n w s) : ∃ ls, Accounts w ls ∧ s.literals.Sublist ls := by
  cases h with
  | declare kind x ha hb =>
    exact ⟨_, ((((ha.accounts.between _ (hb.accounts.close _)).symbol _).keyword _).identifier
      x).keyword _, .refl _⟩
  | const x h => exact ⟨_, ((h.accounts.symbol _).identifier x).keyword _, .refl _⟩
  | objective hbs he => exact ⟨_, (hbs.accounts.append he.accounts).keyword _, .refl _⟩
  | differential hbs he => exact ⟨_, (hbs.accounts.append he.accounts).keyword _, .refl _⟩
  | constraint hbs ha hk hb =>
    refine ⟨_, (hbs.accounts.append (accounts_compare ha.accounts hk hb.accounts)).keyword _, ?_⟩
    exact (List.Sublist.refl _).append (literals_normalize_sublist ..)
  | define x h => exact ⟨_, ((h.accounts.symbol _).identifier x).keyword _, .refl _⟩
  | set h => exact ⟨_, h.accounts.keyword _, .refl _⟩
  | resetOutput => exact ⟨_, (Accounts.nil.keyword _).keyword _, .refl _⟩
  | action a => exact ⟨_, Accounts.nil.keyword _, .refl _⟩
  | savePaving x => exact ⟨_, ((Accounts.nil.identifier x).keyword _).keyword _, .refl _⟩
  | loadPaving x => exact ⟨_, ((Accounts.nil.identifier x).keyword _).keyword _, .refl _⟩
  | plot x axes =>
    have haxes : ∀ xs : List String, Accounts (xs.map .identifier) [] := by
      intro xs
      induction xs with
      | nil => exact .nil
      | cons x xs ih => exact ih.identifier x
    exact ⟨_, ((haxes _).identifier x).keyword _, .refl _⟩
  | universal h => exact ⟨_, h.accounts.keyword _, .refl _⟩
  | readFile path => exact ⟨_, (Accounts.nil.skip rfl (by simp)).keyword _, .refl _⟩
  | quit => exact ⟨_, Accounts.nil.keyword _, .refl _⟩
  | exit => exact ⟨_, Accounts.nil.keyword _, .refl _⟩
  | help => exact ⟨_, Accounts.nil.keyword _, .refl _⟩

end Grammar

/-! ## Number tokens and their texts -/

namespace Literal

/-- What is read as a decimal literal is an integer within the bound, or a real that was found not
to exceed it. -/
theorem ofDecimal_cases {cs : List Char} {l : Literal} (h : ofDecimal cs = .ok l) :
    (∃ n : Nat, n ≤ bound ∧ l = .integer n) ∨ ∃ x, exceedsBound x = false ∧ l = .real x := by
  unfold ofDecimal at h
  split at h
  · split at h
    · cases h
    · next x hx =>
      split at h
      · cases h
      · next hbound => exact .inr ⟨x, by simpa using hbound, (Except.ok.inj h).symm⟩
  · split at h
    · cases h
    · split at h
      · cases h
      · next hbound => exact .inl ⟨_, Nat.not_lt.mp hbound, (Except.ok.inj h).symm⟩

theorem ofHex_cases {cs : List Char} {l : Literal} (h : ofHex cs = .ok l) :
    ∃ x, exceedsBound x = false ∧ l = .hexFloat x := by
  obtain ⟨x, rfl, hx⟩ := unsigned_of_ofHex h
  exact ⟨x, hx.2.2, rfl⟩

end Literal

/-- A number token carries what its text reads as. -/
def Token.Reads (t : Token) : Prop :=
  match t.kind with
  | .number l => Literal.ofDecimal t.lexeme.toList = .ok l
  | .hexFloat x => Literal.ofHex t.lexeme.toList = .ok (.hexFloat x)
  | _ => True

namespace Lexer

theorem reads_decimal (cs : List Char) (p : Position) :
    (⟨decimalKind cs, String.ofList cs, p⟩ : Token).Reads := by
  unfold decimalKind
  split
  · next l hl => simpa [Token.Reads] using hl
  · trivial

theorem reads_hex (cs : List Char) (p : Position) :
    (⟨hexKind cs, String.ofList cs, p⟩ : Token).Reads := by
  unfold hexKind
  split
  · next l hl =>
    obtain ⟨x, -, rfl⟩ := Literal.ofHex_cases hl
    simpa [Token.Reads, Literal.toDouble] using hl
  · trivial

theorem reads_scanNumber (c : Char) (cs : List Char) (p : Position) :
    (⟨(scanNumber c cs).1, String.ofList (c :: (scanNumber c cs).2), p⟩ : Token).Reads := by
  unfold scanNumber
  split
  · exact reads_hex _ p
  · exact reads_hex _ p
  · exact reads_decimal _ p

/-- A token that is no number reads as it is. -/
theorem reads_of_literal?_eq_none {t : Token} (h : literal? t.kind = none) : t.Reads := by
  unfold Token.Reads
  split
  · next hk => rw [hk] at h; cases h
  · next hk => rw [hk] at h; cases h
  · trivial

theorem literal?_scanFileName {c : Char} {cs rest : List Char} {k : TokenKind}
    (h : scanFileName? c cs = some (k, rest)) : literal? k = none := by
  unfold scanFileName? at h
  split at h
  · cases h
  · simp only at h
    split at h
    · cases h
    · split at h
      · cases h
      · obtain ⟨rfl, -⟩ := Prod.mk.inj (Option.some.inj h)
        split <;> rfl

theorem literal?_scanWord (c : Char) (cs : List Char) : literal? (scanWord c cs).1 = none := by
  simp only [scanWord, wordKind]
  split <;> rfl

theorem literal?_scanSymbol {c : Char} {cs rest : List Char} {k : TokenKind}
    (h : scanSymbol? c cs = some (k, rest)) : literal? k = none := by
  unfold scanSymbol? at h
  split at h
  · obtain ⟨rfl, -⟩ := Prod.mk.inj (Option.some.inj h)
    rfl
  · obtain ⟨rfl, -⟩ := Prod.mk.inj (Option.some.inj h)
    rfl
  · obtain ⟨s, -, hs⟩ := Option.map_eq_some_iff.mp h
    obtain ⟨rfl, -⟩ := Prod.mk.inj hs
    rfl

/-- **A token that is scanned carries what its text reads as.** Only numbers carry anything. -/
theorem reads_scanToken {fileExpected : Bool} {c : Char} {cs rest : List Char} {k : TokenKind}
    (h : scanToken? fileExpected c cs = some (k, rest)) (p : Position) :
    (⟨k, String.ofList (c :: rest), p⟩ : Token).Reads := by
  unfold scanToken? at h
  split at h
  · next found hfile =>
    obtain rfl := Option.some.inj h
    split at hfile
    · exact reads_of_literal?_eq_none (literal?_scanFileName hfile)
    · cases hfile
  · split at h
    · have := reads_scanNumber c cs p
      rwa [Option.some.inj h] at this
    · split at h
      · have := literal?_scanWord c cs
        rw [Option.some.inj h] at this
        exact reads_of_literal?_eq_none this
      · exact reads_of_literal?_eq_none (literal?_scanSymbol h)

theorem reads_of_mem_scanFrom {ctx : Context} {p : Position} {cs : List Char} {t : Token}
    (h : .token t ∈ scanFrom ctx p cs) : t.Reads := by
  fun_induction scanFrom ctx p cs with
  | case1 => cases h
  | case2 ctx p c cs hblank ih => exact ih h
  | case3 ctx p cs hblank comment ih => exact ih h
  | case4 ctx p c cs hblank hhash kind rest hscan ih =>
    rcases List.mem_cons.mp h with h | h
    · obtain rfl := Piece.token.inj h
      exact reads_scanToken hscan p
    · exact ih h
  | case5 ctx p c cs hblank hhash hscan ih =>
    rcases List.mem_cons.mp h with h | h
    · cases h
    · exact ih h

end Lexer

/-- **All tokens of a text carry what their texts read as.** -/
theorem reads_of_mem_tokens [Text.Normalizer] {text : String} {t : Token}
    (h : t ∈ (Scan.ofText text).tokens) : t.Reads := by
  obtain ⟨piece, hpiece, ht⟩ := List.mem_filterMap.mp h
  cases piece with
  | token u =>
    obtain rfl := Option.some.inj ht
    exact Lexer.reads_of_mem_scanFrom hpiece
  | illegal c p => cases ht

/-- What the text of a number token read as was found to be within the bound. -/
theorem Token.Reads.within {t : Token} (h : t.Reads) {l : Literal} (hl : literal? t.kind = some l) :
    (∃ n : Nat, n ≤ Literal.bound ∧ l = .integer n) ∨
    (∃ v, l = .real v ∧ Literal.ofDecimal t.lexeme.toList = .ok (.real v) ∧
      Literal.exceedsBound v = false) ∨
    ∃ v, l = .hexFloat v ∧ Literal.ofHex t.lexeme.toList = .ok (.hexFloat v) ∧
      Literal.exceedsBound v = false := by
  unfold Token.Reads at h
  split at h
  · next m hk =>
    rw [hk] at hl
    obtain rfl : m = l := Option.some.inj hl
    rcases Literal.ofDecimal_cases h with hn | ⟨v, hv, rfl⟩
    · exact .inl hn
    · exact .inr (.inl ⟨v, rfl, h, hv⟩)
  · next v hk =>
    rw [hk] at hl
    obtain rfl : .hexFloat v = l := Option.some.inj hl
    obtain ⟨x, hx, heq⟩ := Literal.ofHex_cases h
    obtain rfl : v = x := Literal.hexFloat.inj heq
    exact .inr (.inr ⟨v, rfl, h, hx⟩)
  · next hnumber hhex =>
    cases hk : t.kind with
    | number m => exact absurd hk (hnumber m)
    | hexFloat v => exact absurd hk (hhex v)
    | _ => rw [hk] at hl; cases hl

/-! ## Statements -/

theorem exists_upToSign_of_mem {ks ls : List Literal} (h : List.Forall₂ Literal.UpToSign ks ls)
    {l' : Literal} (hl' : l' ∈ ls) : ∃ l ∈ ks, l.UpToSign l' := by
  induction h with
  | nil => cases hl'
  | cons hhead _ ih =>
    rcases List.mem_cons.mp hl' with rfl | hl'
    · exact ⟨_, List.mem_cons_self, hhead⟩
    · obtain ⟨l, hl, hsign⟩ := ih hl'
      exact ⟨l, List.mem_cons_of_mem _ hl, hsign⟩

/-- A literal of an accounted word is carried by one of its tokens, up to its sign. -/
theorem Accounts.exists_token {ts : List Token} {ls : List Literal}
    (h : Accounts (ts.map Token.kind) ls) {l' : Literal} (hl' : l' ∈ ls) :
    ∃ t ∈ ts, ∃ l, literal? t.kind = some l ∧ l.UpToSign l' := by
  obtain ⟨l, hl, hsign⟩ := exists_upToSign_of_mem h.literals hl'
  obtain ⟨k, hk, hliteral⟩ := List.mem_filterMap.mp hl
  obtain ⟨t, ht, rfl⟩ := List.mem_map.mp hk
  exact ⟨t, ht, l, hliteral, hsign⟩

namespace Script

/-- The tokens that a step takes for a statement, and what they derive. -/
theorem exists_used_of_step {s : Script} {safe : Bool} {p : Parsed}
    (h : (s.step safe).1 = .parsed p) :
    ∃ used rest, s.rest.dropWhile isSemicolon = used ++ rest ∧
      p = s.parsed p.statement (used ++ rest) rest ∧
      (s.step safe).2 = s.goOn (rest.drop 1) ∧
      Within safe StatementDerives (used.map Token.kind) p.statement := by
  obtain ⟨head, ts, statement, rest, hts, hrun, rfl⟩ := exists_run_of_step h
  obtain ⟨used, rfl, hderives⟩ :=
    yields_statement safe head ts statement rest (run_statement_of_closed hrun)
  refine ⟨head :: used, rest, hts, rfl, ?_, hderives⟩
  rw [step_eq safe hts, hrun]
  rfl

/--
**No literal that is too large reaches a statement.** The script may stand anywhere in its text. The
tokens that a statement was read from hold no number that is too large; every integer of the
statement is within the bound on both sides; and every real and every hexadecimal number of it is,
up to its sign, the value that the text of one of these tokens reads as, which was found not to
exceed the bound.
-/
theorem literals_of_step [Text.Normalizer] {text : String} {s : Script}
    (hscan : s.scan = Scan.ofText text) (hrest : s.rest <:+ s.scan.tokens) {safe : Bool}
    {p : Parsed} (hstep : (s.step safe).1 = .parsed p) :
    ∃ used rest, s.rest.dropWhile isSemicolon = used ++ rest ∧
      p = s.parsed p.statement (used ++ rest) rest ∧
      (s.step safe).2 = s.goOn (rest.drop 1) ∧
      (∀ t ∈ used, t.kind ≠ .overflow) ∧
      (∀ i : Int, .integer i ∈ p.statement.literals →
        -(Literal.bound : Int) ≤ i ∧ i ≤ Literal.bound) ∧
      (∀ x, .real x ∈ p.statement.literals →
        ∃ t ∈ used, ∃ v, Literal.ofDecimal t.lexeme.toList = .ok (.real v) ∧
          Literal.exceedsBound v = false ∧ (x = v ∨ x = v.neg)) ∧
      ∀ x, .hexFloat x ∈ p.statement.literals →
        ∃ t ∈ used, ∃ v, Literal.ofHex t.lexeme.toList = .ok (.hexFloat v) ∧
          Literal.exceedsBound v = false ∧ (x = v ∨ x = v.neg) := by
  obtain ⟨used, rest, hused, hp, hnext, n, -, hderives, -⟩ := exists_used_of_step hstep
  obtain ⟨ls, haccounts, hls⟩ := hderives.accounts
  have hreads : ∀ t ∈ used, t.Reads := by
    intro t ht
    have hmem : t ∈ s.rest.dropWhile isSemicolon := hused ▸ List.mem_append_left rest ht
    have htoken : t ∈ s.scan.tokens :=
      hrest.subset ((List.dropWhile_suffix isSemicolon).subset hmem)
    rw [hscan] at htoken
    exact reads_of_mem_tokens htoken
  -- every literal of the statement is that of a token, up to its sign
  have hliteral : ∀ l' ∈ p.statement.literals,
      ∃ t ∈ used, ∃ l, literal? t.kind = some l ∧ l.UpToSign l' :=
    fun l' hl' => haccounts.exists_token (hls.subset hl')
  refine ⟨used, rest, hused, hp, hnext, fun t ht hoverflow => ?_, fun i hi => ?_, fun x hx => ?_,
    fun x hx => ?_⟩
  · exact haccounts.overflow (hoverflow ▸ List.mem_map_of_mem ht)
  · obtain ⟨t, ht, l, hl, hsign⟩ := hliteral _ hi
    rcases (hreads t ht).within hl with ⟨m, hm, rfl⟩ | ⟨v, rfl, -⟩ | ⟨v, rfl, -⟩
    · rcases hsign with h | h <;> obtain rfl := Literal.integer.inj h <;> omega
    · rcases hsign with h | h <;> cases h
    · rcases hsign with h | h <;> cases h
  · obtain ⟨t, ht, l, hl, hsign⟩ := hliteral _ hx
    rcases (hreads t ht).within hl with ⟨m, hm, rfl⟩ | ⟨v, rfl, hv, hbound⟩ | ⟨v, rfl, -⟩
    · rcases hsign with h | h <;> cases h
    · exact ⟨t, ht, v, hv, hbound, hsign.imp Literal.real.inj Literal.real.inj⟩
    · rcases hsign with h | h <;> cases h
  · obtain ⟨t, ht, l, hl, hsign⟩ := hliteral _ hx
    rcases (hreads t ht).within hl with ⟨m, hm, rfl⟩ | ⟨v, rfl, -⟩ | ⟨v, rfl, hv, hbound⟩
    · rcases hsign with h | h <;> cases h
    · rcases hsign with h | h <;> cases h
    · exact ⟨t, ht, v, hv, hbound, hsign.imp Literal.hexFloat.inj Literal.hexFloat.inj⟩

/-- A script that stands in front of the second of three statements. -/
def boundsScript : Script :=
  let s := ofText "pave; var x in [rat(-2147483647, 3), dec(0.5, -0x1.8p1)]; pave"
  s.goOn (s.rest.drop 2)

theorem literals_of_step_boundsScript :
    ∃ used : List Token, (∀ t ∈ used, t.kind ≠ .overflow) ∧
      (-(Literal.bound : Int) ≤ -2147483647 ∧ -2147483647 ≤ (Literal.bound : Int)) ∧
      ∃ t ∈ used, ∃ v, Literal.ofHex t.lexeme.toList = .ok (.hexFloat v) ∧
        Literal.exceedsBound v = false ∧
        ((Double.ofInt 3).neg = v ∨ (Double.ofInt 3).neg = v.neg) := by
  let lower : Numeral := .rat (.literal (.integer (-2147483647))) (.integer 3)
  let upper : Numeral :=
    .dec (.literal (.real (.twoPow (-1)))) (.literal (.hexFloat (Double.ofInt 3).neg))
  have hstep : (boundsScript.step false).1 =
      .parsed ⟨.declare "x" ⟨.number lower, .number upper⟩ .var,
        "var x in [rat(-2147483647, 3), dec(0.5, -0x1.8p1)]", false⟩ := by
    decide +kernel
  obtain ⟨used, -, -, -, -, hoverflow, hinteger, -, hhex⟩ :=
    literals_of_step rfl (List.drop_suffix 2 _) hstep
  exact ⟨used, hoverflow, hinteger _ (by decide +kernel), hhex _ (by decide +kernel)⟩

end Script

end PaveScript
