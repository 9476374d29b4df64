import PaveScript.Proofs.Grammar.Derivation
import PaveScript.Proofs.Phrase

/-!
# Every derivation is read

A word that derives a number or an expression is read as it, if it does not nest deeper than there
is room for and if safe input allows it, and the parser fails on the word otherwise. So a derivation
`Decides` what its parser does.

The chains of the three looser levels do not end with the words that derive their parts, so the
induction over a derivation carries `ReadsAt`: how far the chain of a level has come after a word.
-/

namespace PaveScript.Grammar

open Phrase

/-! ## Levels of nesting -/

/-- The parser of the next level, none when there is no room. -/
def below {α : Type} (p : Nat → Phrase α) : (room : Nat) → Option (Phrase α)
  | 0 => none
  | room + 1 => some (p room)

theorem numeral_eq (safe : Bool) (room : Nat) :
    numeral safe room = numeralWith safe (below (numeral safe) room) := by
  cases room <;> rfl

theorem unary_eq (safe : Bool) (room : Nat) :
    unary safe room = unaryWith (numeral safe room) (below (unary safe) room) := by
  cases room <;> rfl

theorem map_below_unary (safe : Bool) (room : Nat) :
    (below (unary safe) room).map expressionOf = below (expressionIn safe) room := by
  cases room <;> rfl

/-- Safe input allows a word without `approx` only. -/
def Allowed (safe : Bool) (w : List TokenKind) : Prop :=
  safe = true → .keyword .approx ∉ w

@[simp]
theorem allowed_nil (safe : Bool) : Allowed safe [] := by
  simp [Allowed]

@[simp]
theorem allowed_append {safe : Bool} {v w : List TokenKind} :
    Allowed safe (v ++ w) ↔ Allowed safe v ∧ Allowed safe w := by
  simp only [Allowed, List.mem_append, not_or]
  exact imp_and

@[simp]
theorem allowed_cons {safe : Bool} {k : TokenKind} {w : List TokenKind}
    (h : k ≠ .keyword .approx) : Allowed safe (k :: w) ↔ Allowed safe w := by
  simp [Allowed, h.symm]

/-- Two parts have room where the deeper one has. -/
theorem fits_and_fits {m n room : Nat} {φ ψ : Prop} :
    (m ≤ room ∧ φ) ∧ n ≤ room ∧ ψ ↔ max m n ≤ room ∧ φ ∧ ψ := by
  rw [Nat.max_le, and_and_and_comm]

/-- One level further in there is room for one level less. -/
theorem decides_nested {α : Type} {p : Nat → Phrase α} {w : List TokenKind} {a : α} {n : Nat}
    {φ : Prop} {next : Option TokenKind}
    (h : ∀ room, Decides (p room) w a (n ≤ room ∧ φ) next) (room : Nat) :
    Decides (nested (below p room)) w a (n + 1 ≤ room ∧ φ) next := by
  cases room with
  | zero =>
    refine (Decides.fail fun ts => ⟨_, _, run_complain _ ts⟩).congr ?_
    simp
  | succ room =>
    refine (h room).congr ?_
    rw [Nat.succ_le_succ_iff]

/-! ## Numbers -/

theorem literal?_of_literalToken {k : TokenKind} {l : Literal} (h : LiteralToken k l) :
    literal? k = some l := by
  cases h <;> rfl

theorem decides_plainNumber (l : Literal) (next : Option TokenKind) :
    Decides plainNumber [.number l] l True next :=
  Decides.takeKind (f := plain?) rfl

/-- **A word that derives a number is read as that number** where it does not nest too deep. -/
theorem NumberDerives.decides {n : Nat} {w : List TokenKind} {a : Numeral}
    (h : NumberDerives n w a) (safe : Bool) (room : Nat) (next : Option TokenKind) :
    Decides (numeral safe room) w a (n ≤ room ∧ Allowed safe w) next := by
  induction h generalizing room next with
  | @literal k l h =>
    rw [numeral_eq, numeralWith]
    have hs : ∀ s, k ≠ .symbol s := by cases h <;> simp
    have hw : ∀ t, k ≠ .keyword t := by cases h <;> simp
    refine Decides.congr (φ := True) ?_ (by simp [Allowed, (hw .approx).symm])
    refine Decides.accept_else (by simp [hs]) (.accept_else (by simp [hw]) ?_)
    refine Decides.accept_else (by simp [hw]) (.accept_else (by simp [hw]) ?_)
    exact .map (.takeKind (literal?_of_literalToken h))
  | @negated k l h =>
    rw [numeral_eq, numeralWith]
    have hk : k ≠ .keyword .approx := by cases h <;> simp
    refine Decides.congr (φ := True) ?_ (by simp [Allowed, hk.symm])
    exact .accept_then (.map (.takeKind (literal?_of_literalToken h)))
  | @approx n w a h ih =>
    rw [numeral_eq, numeralWith]
    refine Decides.accept_else (by simp) (.accept_then (.expect_then ?_))
    refine (Decides.bind (decides_nested (fun room => ih room _) room)
      (.expect_then (φ := safe = false) ?_)).congr ?_
    · -- the number has been read completely before safe input refuses it
      cases safe with
      | true =>
        have hstop : Decides (Parser.stop .approximate) [] (Numeral.approx a) False next :=
          .fail fun ts => ⟨_, _, rfl⟩
        exact hstop.congr (by simp)
      | false => exact (Decides.pure _).congr (by simp)
    · cases safe <;> simp [Allowed]
  | @dec m n v w a b ha hb iha ihb =>
    rw [numeral_eq, numeralWith]
    refine Decides.accept_else (by simp) (.accept_else (by simp) (.accept_then (.expect_then ?_)))
    refine (Decides.bind (decides_nested (fun room => iha room _) room)
      (.expect_then (.bind (decides_nested (fun room => ihb room _) room)
        (.expect_then (.pure _))))).congr ?_
    rw [and_true, fits_and_fits, Nat.add_max_add_right]
    simp
  | @rat n w a l h ih =>
    rw [numeral_eq, numeralWith]
    refine Decides.accept_else (by simp) (.accept_else (by simp) (.accept_else (by simp)
      (.accept_then (.expect_then ?_))))
    refine (Decides.bind (decides_nested (fun room => ih room _) room)
      (.expect_then (.bind (decides_plainNumber l _) (.expect_then (.pure _))))).congr ?_
    simp

/-! ## Expressions -/

/-- A primary with `room` levels left. -/
def primaryIn (safe : Bool) (room : Nat) : Phrase Expr :=
  operandWith (numeral safe room) (below (expressionIn safe) room)

theorem unary_eq_primaryIn (safe : Bool) (room : Nat) :
    unary safe room = (do
      if ← accept (.symbol .minus) then return .neg (← nested (below (unary safe) room))
      else primaryIn safe room) := by
  rw [unary_eq, unaryWith, map_below_unary]
  rfl

/-- The signs of the binary operators. -/
def operators : List TokenKind :=
  [.symbol .plus, .symbol .minus, .symbol .star, .symbol .slash, .symbol .caret]

/-- Whether an expression ends in front of a token: no operator continues it. -/
def EndsExpression (next : Option TokenKind) : Prop := ∀ k ∈ operators, next ≠ some k

theorem endsExpression_some {k : TokenKind} (h : k ∉ operators) : EndsExpression (some k) := by
  intro j hj heq
  exact h (Option.some.inj heq ▸ hj)

/--
What a level reads from a word. The binary levels stop only at the end of the whole chain, and the
tighter ones must not go on with the token behind it.
-/
def ReadsAt (safe : Bool) (room : Nat) (w : List TokenKind) (e : Expr) (fits : Prop)
    (next : Option TokenKind) : Level → Prop
  | .primary => Decides (primaryIn safe room) w e fits next
  | .unary => Decides (unary safe room) w e fits next
  | .power => Chained power? (unary safe room) w e fits next
  | .product =>
    next.bind power? = none →
      Chained product? (chain power? (unary safe room)) w e fits next
  | .sum =>
    next.bind power? = none → next.bind product? = none →
      Chained sum? (chain product? (chain power? (unary safe room))) w e fits next

theorem endsExpression_iff {next : Option TokenKind} :
    EndsExpression next ↔
      next.bind power? = none ∧ next.bind product? = none ∧ next.bind sum? = none := by
  cases next with
  | none => simp [EndsExpression]
  | some k =>
    constructor
    · intro h
      have hk : k ∉ operators := fun hk => h k hk rfl
      simp only [Option.bind_some]
      unfold power? product? sum?
      refine ⟨?_, ?_, ?_⟩ <;> split <;> first | rfl | exact absurd (by decide) hk
    · rintro ⟨hpow, hprod, hsum⟩
      refine endsExpression_some fun hk => ?_
      simp only [operators, List.mem_cons, List.not_mem_nil, or_false] at hk
      rcases hk with rfl | rfl | rfl | rfl | rfl
      · cases hsum
      · cases hsum
      · cases hprod
      · cases hprod
      · cases hpow

/-- A sum in front of a token that does not continue it is an expression. -/
theorem ReadsAt.expression {safe : Bool} {room : Nat} {w : List TokenKind} {e : Expr}
    {φ : Prop} {next : Option TokenKind} (h : ReadsAt safe room w e φ next .sum)
    (hn : EndsExpression next) : Decides (expressionIn safe room) w e φ next := by
  obtain ⟨hpow, hprod, hsum⟩ := endsExpression_iff.mp hn
  exact (h hpow hprod).finish hsum

theorem Derives.reads {l : Level} {n : Nat} {w : List TokenKind} {e : Expr}
    (h : Derives l n w e) (safe : Bool) (room : Nat) (next : Option TokenKind) :
    ReadsAt safe room w e (n ≤ room ∧ Allowed safe w) next l := by
  -- the parts are read with less room and in front of other tokens
  induction h generalizing room next with
  | @number n w a h unsigned =>
    obtain ⟨k, v, rfl, hk⟩ := h.startsNumber unsigned
    refine Decides.peekKind ?_
    rw [if_pos (by simpa using hk)]
    exact .map (h.decides safe room next)
  | ident x =>
    refine Decides.peekKind ?_
    rw [if_neg (by simp [startsNumber])]
    refine Decides.congr (φ := True) ?_ (by simp)
    exact Decides.takeKind?_some rfl (.pure _)
  | @group n w e h ih =>
    have hn : EndsExpression (some (.symbol .closeParen)) := endsExpression_some (by decide)
    refine Decides.peekKind ?_
    rw [if_neg (by simp [startsNumber])]
    refine Decides.takeKind?_none (by simp [name?]) (.accept_then ?_)
    refine Decides.congr (φ := (n + 1 ≤ room ∧ Allowed safe w) ∧ True) ?_ (by simp)
    exact Decides.bind (decides_nested (fun room => (ih room _).expression hn) room)
      (.expect_then (.pure _))
  | @call n w e f h ih =>
    have hn : EndsExpression (some (.symbol .closeParen)) := endsExpression_some (by decide)
    refine Decides.peekKind ?_
    rw [if_neg (by simp [startsNumber])]
    refine Decides.takeKind?_none (by simp [name?]) (.accept_else (by simp) ?_)
    refine Decides.takeKind?_some rfl (.expect_then ?_)
    refine Decides.congr (φ := (n + 1 ≤ room ∧ Allowed safe w) ∧ True) ?_ (by simp)
    exact Decides.bind (decides_nested (fun room => (ih room _).expression hn) room)
      (.expect_then (.pure _))
  | @primary n w e h ih =>
    show Decides _ _ _ _ _
    rw [unary_eq_primaryIn]
    exact .accept_else (h.head?_ne_minus next) (ih room next)
  | @neg n w e h ih =>
    show Decides _ _ _ _ _
    rw [unary_eq_primaryIn]
    refine (Decides.accept_then (.map (decides_nested (fun room => ih room next) room))).congr ?_
    simp
  | unary h ih => exact .operand (ih room next)
  | @pow m n v w a b ha hb iha ihb =>
    -- the chain is not finished after its first operands: the operator stands behind them
    refine (Chained.step (iha room _) rfl (ihb room next)).congr ?_
    rw [fits_and_fits]
    simp
  | power h ih => exact fun hn => .operand ((ih room next).finish hn)
  | @mul m n v w a b ha hb iha ihb =>
    -- the operands are chains of the next tighter level, and these are finished
    intro hn
    refine (Chained.step (iha room _ rfl) rfl ((ihb room next).finish hn)).congr ?_
    rw [fits_and_fits]
    simp
  | @div m n v w a b ha hb iha ihb =>
    intro hn
    refine (Chained.step (iha room _ rfl) rfl ((ihb room next).finish hn)).congr ?_
    rw [fits_and_fits]
    simp
  | product h ih => exact fun hpow hprod => .operand ((ih room next hpow).finish hprod)
  | @add m n v w a b ha hb iha ihb =>
    intro hpow hprod
    refine (Chained.step (iha room _ rfl rfl) rfl ((ihb room next hpow).finish hprod)).congr ?_
    rw [fits_and_fits]
    simp
  | @sub m n v w a b ha hb iha ihb =>
    intro hpow hprod
    refine (Chained.step (iha room _ rfl rfl) rfl ((ihb room next hpow).finish hprod)).congr ?_
    rw [fits_and_fits]
    simp

/-- **A word that derives an expression is read as that expression,** and only if it does not
nest too deep and holds nothing that safe input refuses. -/
theorem Derives.decides {n : Nat} {w : List TokenKind} {e : Expr} (h : Derives .sum n w e)
    (safe : Bool) (room : Nat) {next : Option TokenKind} (hn : EndsExpression next) :
    Decides (expressionIn safe room) w e (n ≤ room ∧ Allowed safe w) next :=
  (h.reads safe room next).expression hn

end PaveScript.Grammar
