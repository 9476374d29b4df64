import PaveScript.Proofs.Cursor.Simulation

/-!
# Numbers, expressions and conditions with a cursor

How deep a reader may still go is the limit less the depth, so from depth `d` the procedures do as
the phrases with `nestingLimit - d` levels of room do. The induction goes inwards, from the deepest
level on: `inwards`.
-/

namespace PaveScript.Cursor

open Grammar

variable {sure : Prop} {ts : List Token} {safe : Bool} {d : Nat}

/-- What holds of a level when it holds of all levels further in, holds of every level. -/
theorem inwards {P : Nat → Prop} (h : ∀ d, (∀ e, d < e → e ≤ nestingLimit → P e) → P d) (d : Nat) :
    P d := by
  induction hroom : nestingLimit - d using Nat.strongRecOn generalizing d with
  | _ room ih => exact h d fun e he hle => ih (nestingLimit - e) (by omega) e rfl

/-! ## Numbers -/

theorem simulates_plainNumber :
    Simulates sure ts d (fun _ => plainNumber (stream ts)) Grammar.plainNumber :=
  .takeKind

theorem simulates_number (d : Nat) :
    Simulates sure ts d (number (stream ts) safe) (numeral safe (nestingLimit - d)) := by
  induction d using inwards with
  | h d ih =>
    have hin : Simulates sure ts d (fun fuel => nested (stream ts) (number (stream ts) safe fuel))
        (Phrase.nested (below (numeral safe) (nestingLimit - d))) :=
      .nested (ih (d + 1) (Nat.lt_succ_self d))
    refine .succ ?_
    simp only [number]
    rw [numeral_eq, numeralWith]
    refine Simulates.accept.bind fun _ => .ite ?_ ?_
    · exact .map .takeKind
    refine Simulates.accept.bind fun _ => .ite ?_ ?_
    · exact .expect_then (hin.bind fun a => .expect_then (.ite (.stop _) (.pure _)))
    refine Simulates.accept.bind fun _ => .ite ?_ ?_
    · exact .expect_then (hin.bind fun a => .expect_then (hin.bind fun b => .expect_then (.pure _)))
    refine Simulates.accept.bind fun _ => .ite ?_ ?_
    · exact .expect_then (hin.bind fun a => .expect_then
        (simulates_plainNumber.bind fun b => .expect_then (.pure _)))
    · exact .map .takeKind

/-! ## Expressions -/

/-- An operand, given what holds one level further in. -/
theorem simulates_operand {inner : Nat → Procedure Expr}
    (hin : Simulates sure ts d (fun fuel => nested (stream ts) (inner fuel))
      (Phrase.nested (below (expressionIn safe) (nestingLimit - d)))) :
    Simulates sure ts d (fun fuel => primary (stream ts) safe fuel (inner fuel))
      (primaryIn safe (nestingLimit - d)) := by
  refine Simulates.peekKind.bind fun kind => .ite (.map (simulates_number d)) ?_
  refine Simulates.takeKind?.bind fun name => ?_
  cases name with
  | some name => exact .pure _
  | none =>
    refine Simulates.accept.bind fun _ => .ite ?_ (Simulates.takeKind?.bind fun f => ?_)
    · exact hin.bind fun e => .expect_then (.pure _)
    · cases f with
      | some f => exact .expect_then (hin.bind fun e => .expect_then (.pure _))
      | none => exact .complain

/-! A sign takes a level away from the operand, and the levels may run out at any sign. -/

theorem run_unary_of_ne {rest : List Token} (h : headKind rest ≠ some (.symbol .minus))
    (room : Nat) : (Grammar.unary safe room).run rest = (primaryIn safe room).run rest := by
  rw [unary_eq_primaryIn, Phrase.run_bind_ok (by rw [Phrase.run_accept, if_neg h])]
  rfl

theorem run_unary_minus {k : Token} (h : k.kind = .symbol .minus) (safe : Bool) (room : Nat)
    (rest : List Token) :
    (Grammar.unary safe (room + 1)).run (k :: rest) =
      (do return Expr.neg (← Grammar.unary safe room)).run rest := by
  rw [unary_eq_primaryIn,
    Phrase.run_bind_ok (by rw [Phrase.run_accept, headKind_cons, h, if_pos rfl])]
  rfl

theorem run_unary_minus_zero {k : Token} (h : k.kind = .symbol .minus) (safe : Bool)
    (rest : List Token) :
    (Grammar.unary safe 0).run (k :: rest) = .fail (.unexpected .nesting rest.head?) rest := by
  rw [unary_eq_primaryIn,
    Phrase.run_bind_ok (by rw [Phrase.run_accept, headKind_cons, h, if_pos rfl])]
  rfl

theorem simulates_negated {operand : Nat → Procedure Expr} {n : Nat} {p : Phrase Expr}
    (hn : d + n ≤ nestingLimit) (h : Simulates sure ts (d + n) operand p) :
    Simulates sure ts d (fun fuel => negated (operand fuel) n) (do return Expr.neg^[n] (← p)) := by
  intro rest t ht
  have hin : (t.moved { t.now with depth := t.now.depth + n }).At ts rest (d + n) := by
    rw [ht.depth_eq]
    exact ht.moved_depth hn
  refine .after (runOn_move _ t) List.suffix_rfl (ht.leads_moved _) ?_
  exact (h.rise hin).run_bind fun e => .pure (Expr.neg^[n] e)

/-- The minus signs behind the first `n`, and what is done with all of them. What is done has more
fuel than the loop has left. -/
theorem simulates_signsFrom {n : Nat} {finish : Nat → Nat → Procedure Expr}
    (hn : d + n ≤ nestingLimit)
    (hfinish : ∀ k, d + k ≤ nestingLimit → Simulates sure ts d (fun fuel => finish fuel k)
      (do return Expr.neg^[k] (← primaryIn safe (nestingLimit - (d + k))))) :
    Simulates sure ts d (fun fuel => signsFrom (stream ts) fuel n >>= finish fuel)
      (do return Expr.neg^[n] (← Grammar.unary safe (nestingLimit - (d + n)))) := by
  induction hroom : nestingLimit - (d + n) using Nat.strongRecOn generalizing n finish with
  | _ room ih =>
    refine .succ fun rest t ht => ?_
    simp only [signsFrom, bind_assoc]
    by_cases hkind : headKind rest = some (.symbol .minus)
    · obtain ⟨k, rest, rfl, hk⟩ := exists_cons_of_headKind hkind
      refine .take ht (runOn_accept_of_kind ht hk) ?_
      simp only [if_true, bind_assoc]
      refine .look (runOn_counters _) ?_
      simp only [ht.moved_next.depth_eq]
      by_cases hroom' : nestingLimit < d + (n + 1)
      · obtain rfl : 0 = room := by omega
        rw [Phrase.run_bind_fail (run_unary_minus_zero hk safe rest)]
        simp only [if_pos hroom']
        exact .fail (runOn_complain ht.moved_next .nesting) ht.moved_next
      · obtain ⟨r, rfl⟩ : ∃ r, room = r + 1 := ⟨nestingLimit - (d + (n + 1)), by omega⟩
        -- the next sign is one more to come back from, and one level less
        have hrun : (do return Expr.neg^[n] (← Grammar.unary safe (r + 1)) : Phrase Expr).run
            (k :: rest) = (do return Expr.neg^[n + 1] (← Grammar.unary safe r)).run rest := by
          rw [Parser.run_bind, run_unary_minus hk, Parser.run_bind, Parser.run_bind]
          cases (Grammar.unary safe r).run rest <;> rfl
        rw [hrun]
        simp only [if_neg hroom']
        exact ih r (by omega) (by omega) (fun k hk => (hfinish k hk).more) (by omega) rest _
          ht.moved_next
    · have hrun : (do return Expr.neg^[n] (← Grammar.unary safe room) : Phrase Expr).run rest =
          (do return Expr.neg^[n] (← primaryIn safe room)).run rest := by
        rw [Parser.run_bind, run_unary_of_ne hkind, Parser.run_bind]
      rw [hrun, ← hroom]
      exact .look (runOn_accept_of_ne ht hkind) ((hfinish n hn).more rest t ht)

theorem simulates_unary {inner : Nat → Procedure Expr}
    (hprimary : ∀ e, d ≤ e → e ≤ nestingLimit →
      Simulates sure ts e (fun fuel => primary (stream ts) safe fuel (inner fuel))
        (primaryIn safe (nestingLimit - e))) :
    Simulates sure ts d (fun fuel => unary (stream ts) safe fuel (inner fuel))
      (Grammar.unary safe (nestingLimit - d)) := by
  refine .of_le fun hd => ?_
  intro rest t ht
  have hrun : (do return Expr.neg^[0] (← Grammar.unary safe (nestingLimit - d)) : Phrase Expr).run
      rest = (Grammar.unary safe (nestingLimit - d)).run rest := by
    rw [Parser.run_bind]
    cases (Grammar.unary safe (nestingLimit - d)).run rest <;> rfl
  rw [← hrun]
  refine simulates_signsFrom (n := 0) hd (fun k hk => ?_) rest t ht
  exact simulates_negated hk (hprimary (d + k) (Nat.le_add_right d k) hk)

/-- An expression, given what holds of its operands. -/
theorem simulates_expressionIn
    (hprimary : ∀ e, d ≤ e → e ≤ nestingLimit →
      Simulates sure ts e
        (fun fuel => primary (stream ts) safe fuel (expression (stream ts) safe fuel))
        (primaryIn safe (nestingLimit - e))) :
    Simulates sure ts d (expression (stream ts) safe) (expressionIn safe (nestingLimit - d)) :=
  .succ (simulates_unary hprimary).chain.chain.chain

theorem simulates_primary (d : Nat) :
    Simulates sure ts d
      (fun fuel => primary (stream ts) safe fuel (expression (stream ts) safe fuel))
      (primaryIn safe (nestingLimit - d)) := by
  induction d using inwards with
  | h d ih =>
    exact simulates_operand (.nested fun _ => simulates_expressionIn ih)

theorem simulates_expression (d : Nat) :
    Simulates sure ts d (expression (stream ts) safe) (expressionIn safe (nestingLimit - d)) :=
  simulates_expressionIn fun e _ _ => simulates_primary e

/-! ## Conditions -/

theorem simulates_comparison (d : Nat) :
    Simulates sure ts d (comparison (stream ts) safe)
      (comparisonOf (expressionIn safe (nestingLimit - d))) := by
  refine (simulates_expression d).bind fun lhs => Simulates.takeKind.bind fun op =>
    (simulates_expression d).bind fun rhs => Simulates.peekKind.bind fun kind => .ite ?_ (.pure _)
  exact Simulates.complain

theorem simulates_blame {m : Nat → Procedure BoolExpr} {p : Phrase BoolExpr} (first : Fault)
    (h : Simulates sure ts d m p) :
    Simulates sure ts d (fun fuel => settle (m fuel) (blame first))
      (p.mapFault fun fault => if fault.isGrammatical then first else fault) := by
  intro rest t ht
  obtain ⟨o, hs, ho, u, hrun, hu, hlead⟩ := h rest t ht
  cases o with
  | ok b mid =>
    refine ⟨.ok b mid, hs, fun h => ?_, u, hrun.settle (.of_runOn rfl), hu, hlead⟩
    simp only [Parser.mapFault, ← ho h]
  | fail fault mid =>
    refine ⟨.fail (if fault.isGrammatical then first else fault) mid, hs, fun h => ?_, u,
      hrun.settle (.of_runOn rfl), hu, hlead⟩
    simp only [Parser.mapFault, ← ho h]

/-- A condition in parentheses, which is read again from its start. -/
theorem endsAs_group {k : Token} {rest : List Token} {t u : Track}
    {inner : Nat → Procedure BoolExpr} {p : Option (Phrase BoolExpr)} (first : Fault)
    (hin : Simulates sure ts d (fun fuel => nested (stream ts) (inner fuel)) (.nested p))
    (ht : t.At ts (k :: rest) d) (hu : u.now.Inside ts) (hdepth : u.now.depth = d) :
    EndsAs sure ts (k :: rest) d u ((conditionGroup first p).run (k :: rest)) fun fuel => do
      move fun c => { c with pos := t.now.pos + 1 }
      let b ← settle (nested (stream ts) (inner fuel)) (blame first)
      expect (stream ts) (.symbol .closeParen) .conditionClose
      return b := by
  have hback : (u.moved { u.now with pos := t.now.pos + 1 }).At ts rest d :=
    ⟨ht.moved_next.isSuffix, ht.moved_next.pos_add, hdepth, ht.depth_le⟩
  have hlead : u.Leads ts (u.moved { u.now with pos := t.now.pos + 1 }) :=
    ⟨[u.now], rfl, by simpa using hu⟩
  rw [conditionGroup, Phrase.run_bind_ok (by rfl)]
  refine .after (runOn_move _ u) (List.suffix_cons k rest) hlead ?_
  exact ((simulates_blame first hin).bind fun b => .expect_then (.pure b)) rest _ hback

theorem simulates_atom {inner : Nat → Procedure BoolExpr}
    (hin : Simulates sure ts d (fun fuel => nested (stream ts) (inner fuel))
      (Phrase.nested (below (conditionIn safe) (nestingLimit - d)))) :
    Simulates sure ts d (fun fuel => atom (stream ts) safe fuel (inner fuel))
      (atomWith (expressionIn safe (nestingLimit - d))
        (below (conditionIn safe) (nestingLimit - d))) := by
  intro rest t ht
  obtain ⟨o, hs, ho, u, hrun, hu, hlead⟩ := simulates_comparison d rest t ht
  refine .look (runOn_counters t) ?_
  rw [run_atomWith]
  cases o with
  | ok b mid =>
    refine ⟨.ok b mid, hs, fun h => ?_, u, hrun.settle (.of_runOn rfl), hu, hlead⟩
    rw [← ho h]
  | fail first mid =>
    refine .settle hrun List.suffix_rfl hlead (.look (runOn_cellAt ht.inside.pos_le u) ?_)
    simp only [ht.head?_eq]
    by_cases hgroup : rest.head?.map Token.kind = some (.symbol .openParen) ∧ first.isGrammatical
    · obtain ⟨k, rest, rfl, hk⟩ := exists_cons_of_headKind hgroup.1
      simp only [if_pos hgroup]
      refine (endsAs_group first hin ht hu.inside hu.depth_eq).congr fun h => ?_
      rw [← ho h]
      exact (if_pos hgroup).symm
    · simp only [if_neg hgroup]
      refine ⟨.fail first mid, hs, fun h => ?_, .here rfl hu⟩
      rw [← ho h]
      exact (if_neg hgroup).symm

theorem simulates_condition (d : Nat) :
    Simulates sure ts d (condition (stream ts) safe) (conditionIn safe (nestingLimit - d)) := by
  induction d using inwards with
  | h d ih =>
    rw [conditionIn_eq]
    exact .succ (simulates_atom (.nested (ih (d + 1) (Nat.lt_succ_self d)))).chain.chain

end PaveScript.Cursor
