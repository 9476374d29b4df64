import PaveScript.Proofs.Grammar.Completeness

/-!
# Everything that is read has a derivation

What `numeral` and `expressionIn` consume is a word that derives the value they return. The
nesting of the derivation stays within the room that the parser had, and under safe input the word
is free of `approx`.
-/

namespace PaveScript.Grammar

open Phrase

/-! ## Numbers -/

/-- `w` derives the number `a` within `room` levels and is allowed. -/
def NumberFits (safe : Bool) (room : Nat) (w : List TokenKind) (a : Numeral) : Prop :=
  ∃ n ≤ room, NumberDerives n w a ∧ Allowed safe w

/-- The same one level further in, where there has to be room for it. -/
def NumberFitsInside (safe : Bool) (room : Nat) (w : List TokenKind) (a : Numeral) : Prop :=
  ∃ n, n + 1 ≤ room ∧ NumberDerives n w a ∧ Allowed safe w

theorem literalToken_of_literal? {k : TokenKind} {l : Literal} (h : literal? k = some l) :
    LiteralToken k l := by
  cases k with
  | number m => obtain rfl := Option.some.inj h; exact .number m
  | hexFloat x => obtain rfl := Option.some.inj h; exact .hexFloat x
  | _ => cases h

theorem LiteralToken.allowed {k : TokenKind} {l : Literal} (h : LiteralToken k l) (safe : Bool) :
    Allowed safe [k] := by
  cases h <;> simp

theorem yields_plainNumber : Yields plainNumber fun w l _ => w = [.number l] := by
  refine (Yields.takeKind plain?).mono ?_
  rintro w l _ ⟨k, rfl, hk⟩
  cases k with
  | number m => obtain rfl := Option.some.inj hk; rfl
  | _ => cases hk

/-- An approximate number has been read completely when safe input refuses it. -/
theorem yields_unlessSafe (safe : Bool) (a : Numeral) :
    Yields (if safe = true then Parser.stop .approximate else pure (Numeral.approx a)) fun w b _ =>
      safe = false ∧ w = [] ∧ b = Numeral.approx a := by
  cases safe with
  | true => exact .of_fail (p := Parser.stop .approximate) fun ts => ⟨_, _, rfl⟩
  | false => exact (Yields.pure _).mono fun w b _ h => ⟨rfl, h⟩

theorem yields_numeralWith {safe : Bool} {room : Nat} {inner : Option (Phrase Numeral)}
    (hin : Yields (nested inner) fun w a _ => NumberFitsInside safe room w a) :
    Yields (numeralWith safe inner) fun w a _ => NumberFits safe room w a := by
  rw [numeralWith]
  refine Yields.mono (.accept (.map (.takeKind literal?)) (.accept
    (.expect_then (.bind hin fun a => .expect_then (yields_unlessSafe safe a))) (.accept
    (.expect_then (.bind hin fun a => .expect_then (.bind hin fun b => .expect_then (.pure _))))
    (.accept
      (.expect_then (.bind hin fun a => .expect_then
        (.bind yields_plainNumber fun b => .expect_then (.pure _))))
      (.map (.takeKind literal?)))))) ?_
  -- a sign, then the three words in their order, and a literal when none of them stands there
  rintro w a _ (⟨_, rfl, l, rfl, k, rfl, hl⟩ | ⟨-, h⟩)
  · have hl := literalToken_of_literal? hl
    exact ⟨0, Nat.zero_le _, .negated hl, by simpa using hl.allowed safe⟩
  rcases h with ⟨_, rfl, _, rfl, w, _, a, rfl, ⟨n, hn, hd, -⟩, _, rfl, rfl, rfl, rfl⟩ | ⟨-, h⟩
  · exact ⟨n + 1, hn, .approx hd, by simp [Allowed]⟩
  rcases h with ⟨_, rfl, _, rfl, v, _, a, rfl, ⟨m, hm, hda, ha⟩, _, rfl, w, _, b, rfl,
    ⟨n, hn, hdb, hb⟩, _, rfl, rfl, rfl⟩ | ⟨-, h⟩
  · refine ⟨max m n + 1, by omega, .dec hda hdb, ?_⟩
    simp [ha, hb]
  rcases h with ⟨_, rfl, _, rfl, w, _, a, rfl, ⟨n, hn, hd, ha⟩, _, rfl, _, _, l, rfl, rfl, _, rfl,
    rfl, rfl⟩ | ⟨-, l, rfl, k, rfl, hl⟩
  · refine ⟨n + 1, hn, .rat l hd, ?_⟩
    simp [ha]
  · have hl := literalToken_of_literal? hl
    exact ⟨0, Nat.zero_le _, .literal hl, hl.allowed safe⟩

/-- **What is read as a number derives that number.** -/
theorem yields_numeral (safe : Bool) (room : Nat) :
    Yields (numeral safe room) fun w a _ => NumberFits safe room w a := by
  induction room with
  | zero => exact yields_numeralWith (Yields.complain.mono fun _ _ _ h => h.elim)
  | succ room ih =>
    refine @yields_numeralWith safe (room + 1) (some (numeral safe room)) (ih.mono ?_)
    rintro w a _ ⟨n, hn, h⟩
    exact ⟨n, Nat.succ_le_succ hn, h⟩

/-! ## Expressions -/

/-- `w` derives `e` at a level within `room` levels of nesting and is allowed. -/
def Fits (safe : Bool) (room : Nat) (l : Level) (w : List TokenKind) (e : Expr) : Prop :=
  ∃ n ≤ room, Derives l n w e ∧ Allowed safe w

/-- The same one level further in, where there has to be room for it. -/
def FitsInside (safe : Bool) (room : Nat) (l : Level) (w : List TokenKind) (e : Expr) : Prop :=
  ∃ n, n + 1 ≤ room ∧ Derives l n w e ∧ Allowed safe w

theorem name?_eq_some {k : TokenKind} {x : String} (h : name? k = some x) :
    k = .identifier x := by
  cases k with
  | identifier y => obtain rfl := Option.some.inj h; rfl
  | _ => cases h

theorem function?_eq_some {k : TokenKind} {f : Function} (h : function? k = some f) :
    k = .keyword (.func f) := by
  unfold function? at h
  split at h
  · obtain rfl := Option.some.inj h; rfl
  · cases h

theorem yields_operandWith {safe : Bool} {room : Nat} {number : Phrase Numeral}
    {inner : Option (Phrase Expr)}
    (hnumber : Yields number fun w a _ => NumberFits safe room w a)
    (hin : Yields (nested inner) fun w e _ => FitsInside safe room .sum w e) :
    Yields (operandWith number inner) fun w e _ => Fits safe room .primary w e := by
  rw [operandWith]
  refine Yields.mono (.peekKind fun k => .ite (.map hnumber) (.takeKind? (fun x => .pure _)
    (.accept (.bind hin fun e => .expect_then (.pure _))
      (.takeKind? (fun f => .expect_then (.bind hin fun e => .expect_then (.pure _)))
        .complain)))) ?_
  -- a number, a name, a group and a call, in the order in which they are tried
  rintro w e next (⟨hk, a, rfl, n, hn, hd, ha⟩ | ⟨-, h⟩)
  · refine ⟨n, hn, .number hd ?_, ha⟩
    intro hminus
    simp [hminus, startsNumber] at hk
  rcases h with ⟨k, _, x, rfl, hx, rfl, rfl⟩ | ⟨-, h⟩
  · obtain rfl := name?_eq_some hx
    exact ⟨0, Nat.zero_le _, .ident x, by simp⟩
  rcases h with ⟨_, rfl, w, _, e, rfl, ⟨n, hn, hd, ha⟩, _, rfl, rfl, rfl⟩ | ⟨-, h⟩
  · exact ⟨n + 1, hn, .group hd, by simpa using ha⟩
  rcases h with ⟨k, _, f, rfl, hf, _, rfl, w, _, e, rfl, ⟨n, hn, hd, ha⟩, _, rfl, rfl, rfl⟩ | ⟨-, h⟩
  · obtain rfl := function?_eq_some hf
    exact ⟨n + 1, hn, .call f hd, by simpa using ha⟩
  · exact h.elim

theorem yields_unaryWith {safe : Bool} {room : Nat} {number : Phrase Numeral}
    {inner : Option (Phrase Expr)}
    (hnumber : Yields number fun w a _ => NumberFits safe room w a)
    (hunary : Yields (nested inner) fun w e _ => FitsInside safe room .unary w e)
    (hsum : Yields (nested (inner.map expressionOf)) fun w e _ => FitsInside safe room .sum w e) :
    Yields (unaryWith number inner) fun w e _ => Fits safe room .unary w e := by
  rw [unaryWith]
  refine Yields.mono (.accept (.map hunary) (yields_operandWith hnumber hsum)) ?_
  rintro w e _ (⟨w, rfl, e, rfl, n, hn, hd, ha⟩ | ⟨-, n, hn, hd, ha⟩)
  · exact ⟨n + 1, hn, .neg hd, by simpa using ha⟩
  · exact ⟨n, hn, .primary hd, ha⟩

/-- One more operand on the right of a chain. -/
theorem Fits.binary {safe : Bool} {room : Nat} {l l' : Level} {v w : List TokenKind} {a b e : Expr}
    {s : Symbol} (ha : Fits safe room l v a) (hb : Fits safe room l' w b)
    (h : ∀ m n, Derives l m v a → Derives l' n w b →
      Derives l (max m n) (v ++ .symbol s :: w) e) :
    Fits safe room l (v ++ .symbol s :: w) e := by
  obtain ⟨m, hm, hda, hal⟩ := ha
  obtain ⟨n, hn, hdb, hbl⟩ := hb
  exact ⟨max m n, by omega, h m n hda hdb, by simp [hal, hbl]⟩

theorem yields_power {safe : Bool} {room : Nat} {operand : Phrase Expr}
    (h : Yields operand fun w e _ => Fits safe room .unary w e) :
    Yields (chain power? operand) fun w e next =>
      Fits safe room .power w e ∧ next.bind power? = none := by
  refine Yields.chain (S := fun w e _ => Fits safe room .power w e) h ?_ ?_
  · rintro w e _ ⟨n, hn, hd, ha⟩
    exact ⟨n, hn, .unary hd, ha⟩
  · intro v w a b k _ f ha hf hb
    unfold power? at hf
    split at hf
    · obtain rfl := Option.some.inj hf
      exact ha.binary hb fun m n => .pow
    · cases hf

theorem yields_product {safe : Bool} {room : Nat} {operand : Phrase Expr}
    (h : Yields operand fun w e next => Fits safe room .power w e ∧ next.bind power? = none) :
    Yields (chain product? operand) fun w e next =>
      (Fits safe room .product w e ∧ next.bind power? = none) ∧ next.bind product? = none := by
  refine Yields.chain (S := fun w e next => Fits safe room .product w e ∧ next.bind power? = none)
    h ?_ ?_
  · rintro w e _ ⟨⟨n, hn, hd, ha⟩, hnext⟩
    exact ⟨⟨n, hn, .power hd, ha⟩, hnext⟩
  · rintro v w a b k _ f ⟨ha, -⟩ hf ⟨hb, hnext⟩
    refine ⟨?_, hnext⟩
    unfold product? at hf
    split at hf
    · obtain rfl := Option.some.inj hf
      exact ha.binary hb fun m n => .mul
    · obtain rfl := Option.some.inj hf
      exact ha.binary hb fun m n => .div
    · cases hf

/-- The three binary levels over operands that fit. -/
theorem yields_expressionOf {safe : Bool} {room : Nat} {operand : Phrase Expr}
    (h : Yields operand fun w e _ => Fits safe room .unary w e) :
    Yields (expressionOf operand) fun w e next =>
      Fits safe room .sum w e ∧ EndsExpression next := by
  refine (Yields.chain (S := fun w e next =>
    Fits safe room .sum w e ∧ next.bind power? = none ∧ next.bind product? = none)
    (yields_product (yields_power h)) ?_ ?_).mono ?_
  · rintro w e _ ⟨⟨⟨n, hn, hd, ha⟩, hpow⟩, hprod⟩
    exact ⟨⟨n, hn, .product hd, ha⟩, hpow, hprod⟩
  · rintro v w a b k _ f ⟨ha, -⟩ hf ⟨⟨hb, hpow⟩, hprod⟩
    refine ⟨?_, hpow, hprod⟩
    unfold sum? at hf
    split at hf
    · obtain rfl := Option.some.inj hf
      exact ha.binary hb fun m n => .add
    · obtain rfl := Option.some.inj hf
      exact ha.binary hb fun m n => .sub
    · cases hf
  · rintro w e _ ⟨⟨hfits, hpow, hprod⟩, hsum⟩
    exact ⟨hfits, endsExpression_iff.mpr ⟨hpow, hprod, hsum⟩⟩

theorem yields_unary (safe : Bool) (room : Nat) :
    Yields (unary safe room) fun w e _ => Fits safe room .unary w e := by
  induction room with
  | zero =>
    exact yields_unaryWith (yields_numeral safe 0) (Yields.complain.mono fun _ _ _ h => h.elim)
      (Yields.complain.mono fun _ _ _ h => h.elim)
  | succ room ih =>
    refine @yields_unaryWith safe (room + 1) _ (some (unary safe room))
      (yields_numeral safe (room + 1)) (ih.mono ?_) ((yields_expressionOf ih).mono ?_)
    · rintro w e _ ⟨n, hn, h⟩
      exact ⟨n, Nat.succ_le_succ hn, h⟩
    · rintro w e _ ⟨⟨n, hn, h⟩, -⟩
      exact ⟨n, Nat.succ_le_succ hn, h⟩

/-- **What is read as an expression derives that expression,** and no operator follows it. -/
theorem yields_expressionIn (safe : Bool) (room : Nat) :
    Yields (expressionIn safe room) fun w e next =>
      Fits safe room .sum w e ∧ EndsExpression next :=
  yields_expressionOf (yields_unary safe room)

/-! ## Both directions -/

/--
**The expression parser recognises its grammar, no more and no less.** It reads `e` and leaves
`rest` exactly when the tokens before `rest` derive `e` without nesting deeper than the limit,
safe input has nothing to refuse in them, and no operator follows.
-/
theorem run_expression_eq_ok_iff (safe : Bool) (ts : List Token) (e : Expr) (rest : List Token) :
    (expression safe).run ts = .ok e rest ↔
      ∃ (us : List Token) (n : Nat), ts = us ++ rest ∧ Derives .sum n (us.map Token.kind) e ∧
        n ≤ nestingLimit ∧ (safe = true → .keyword .approx ∉ us.map Token.kind) ∧
        ∀ k ∈ operators, headKind rest ≠ some k := by
  constructor
  · intro hrun
    obtain ⟨us, rfl, ⟨n, hn, hd, ha⟩, hend⟩ := yields_expressionIn safe nestingLimit ts e rest hrun
    exact ⟨us, n, rfl, hd, hn, ha, hend⟩
  · rintro ⟨us, n, rfl, hd, hn, ha, hend⟩
    exact (hd.decides safe nestingLimit hend us rest rfl rfl).1 ⟨hn, ha⟩

end PaveScript.Grammar
