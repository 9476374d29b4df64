import PaveScript.Proofs.Grammar.Locality
import PaveScript.Proofs.Grammar.Soundness

/-!
# Conditions are read as they are derived

An opening parenthesis may begin an expression or a condition, and the parser tries the expression
first. On the word of a condition in parentheses this first reading has to fail, and to fail by the
grammar, so that the second reading is tried (`ConditionDerives.refusesGroup`). Where the word of a
comparison nests too deep the second reading is tried too, and it has to fail as well
(`run_conditionGroup_of_derives`).

* `ConditionDerives.decides` — a word that derives a condition is read as it
* `yields_conditionIn` — what is read as a condition derives it
* `run_condition_recognises` — both directions, and that no word derives two conditions
-/

namespace PaveScript.Grammar

open Phrase

/-! ## Groups -/

theorem run_chain_fail {α : Type} {op? : TokenKind → Option (α → α → α)} {p : Phrase α}
    {ts left : List Token} {f : Fault} (h : p.run ts = .fail f left) :
    (chain op? p).run ts = .fail f left := by
  rw [run_chain, h]

/-- A group is read by the level below, whatever stands in it. -/
theorem run_unary_group {safe : Bool} {room : Nat} {t : Token} (ht : t.kind = .symbol .openParen)
    (ts : List Token) :
    (unary safe room).run (t :: ts) =
      (do let e ← nested (below (expressionIn safe) room)
          let _ ← expect (.symbol .closeParen) .closeParen
          return e : Phrase Expr).run ts := by
  have hminus : (accept (.symbol .minus)).run (t :: ts) = .ok false (t :: ts) := by
    simp [run_accept, ht]
  have hname : (takeKind? name?).run (t :: ts) = .ok none (t :: ts) := by
    simp [run_takeKind?, ht, name?]
  have hopen : (accept (.symbol .openParen)).run (t :: ts) = .ok true ts := by
    simp [run_accept, ht]
  rw [unary_eq_primaryIn, run_bind_ok hminus, if_neg (by simp), primaryIn, operandWith,
    run_bind_ok (run_peekKind _), if_neg (by simp [ht, startsNumber]), run_bind_ok hname,
    run_bind_ok hopen, if_pos rfl]

/-- The expression fails where the group does. -/
theorem run_expressionIn_group_fail {safe : Bool} {room : Nat} {t : Token}
    (ht : t.kind = .symbol .openParen) {ts left : List Token} {f : Fault}
    (h : (nested (below (expressionIn safe) room)).run ts = .fail f left) :
    (expressionIn safe room).run (t :: ts) = .fail f left := by
  refine run_chain_fail (run_chain_fail (run_chain_fail ?_))
  rw [run_unary_group ht, run_bind_fail h]

/-- The expression fails where the group is not closed. -/
theorem run_expressionIn_group_open {safe : Bool} {room : Nat} {t : Token}
    (ht : t.kind = .symbol .openParen) {ts rest : List Token} {e : Expr}
    (h : (nested (below (expressionIn safe) room)).run ts = .ok e rest)
    (hrest : headKind rest ≠ some (.symbol .closeParen)) :
    (expressionIn safe room).run (t :: ts) = .fail (.unexpected .closeParen rest.head?) rest := by
  refine run_chain_fail (run_chain_fail (run_chain_fail ?_))
  rw [run_unary_group ht, run_bind_ok h]
  refine run_bind_fail ?_
  rw [run_expect]
  cases rest with
  | nil => rfl
  | cons u us =>
    have hu : u.kind ≠ .symbol .closeParen := fun hu => hrest (by rw [headKind_cons, hu])
    simp only [if_neg hu, List.head?_cons]

/-! ## The first reading -/

theorem comparison?_eq_some_iff {k : TokenKind} {op : Comparison} :
    comparison? k = some op ↔ ComparisonToken k op := by
  constructor
  · intro h
    unfold comparison? at h
    split at h
    all_goals cases h
    · exact .less
    · exact .greater
    · exact .lessEqual
    · exact .greaterEqual
    · exact .equals
  · intro h
    cases h <;> rfl

namespace ComparisonToken

variable {k : TokenKind} {op : Comparison}

theorem endsExpression (h : ComparisonToken k op) : EndsExpression (some k) := by
  cases h <;> exact endsExpression_some (by decide)

theorem exists_symbol (h : ComparisonToken k op) :
    ∃ s : Symbol, k = .symbol s ∧ s ≠ .closeParen := by
  cases h <;> exact ⟨_, rfl, by decide⟩

end ComparisonToken

/-- What holds of the expression parser on a parenthesis and a word that nests `n` deep. -/
def RefusesGroup (safe : Bool) (n : Nat) (w : List TokenKind) : Prop :=
  ∀ (room : Nat) (t : Token) (ts rest : List Token), t.kind = .symbol .openParen →
    ts.map Token.kind = w →
    ∃ f left, (expressionIn safe room).run (t :: (ts ++ rest)) = .fail f left ∧
      (n + 1 ≤ room → Allowed safe w → f.isGrammatical = true)

/-- A longer word is refused because its first part is. -/
theorem RefusesGroup.append {safe : Bool} {m n : Nat} {v : List TokenKind}
    (h : RefusesGroup safe m v) (hmn : m ≤ n) (w : List TokenKind) :
    RefusesGroup safe n (v ++ w) := by
  intro room t ts rest ht hts
  obtain ⟨vs, ws, rfl, hvs, -⟩ := List.map_eq_append_iff.mp hts
  obtain ⟨f, left, hrun, hgram⟩ := h room t vs (ws ++ rest) ht hvs
  rw [List.append_assoc]
  refine ⟨f, left, hrun, fun hroom hallowed => hgram (by omega) (allowed_append.mp hallowed).1⟩

/--
**No expression begins with a parenthesis and a condition.** If the condition is not too deep and
safe input has nothing to refuse in it, the fault is about the grammar.
-/
theorem ConditionDerives.refusesGroup {l : Junction} {n : Nat} {w : List TokenKind} {b : BoolExpr}
    (h : ConditionDerives l n w b) (safe : Bool) : RefusesGroup safe n w := by
  induction h with
  | @compare m n v w k op a b ha hk hb =>
    intro room t ts rest ht hts
    obtain ⟨ls, vs, rfl, hls, hvs⟩ := List.map_eq_append_iff.mp hts
    obtain ⟨o, rs, rfl, ho, -⟩ := List.map_eq_cons_iff.mp hvs
    rw [List.append_assoc, List.cons_append]
    cases room with
    | zero =>
      exact ⟨_, _, run_expressionIn_group_fail ht (run_complain .nesting _), fun h => by omega⟩
    | succ room =>
      have hnext : headKind (o :: (rs ++ rest)) = some k := by rw [headKind_cons, ho]
      have hread := ha.decides safe room hk.endsExpression ls (o :: (rs ++ rest)) hls hnext
      by_cases hfits : m ≤ room ∧ Allowed safe v
      · -- the comparison sign stands where the parenthesis has to be closed
        obtain ⟨s, rfl, hs⟩ := hk.exists_symbol
        refine ⟨_, _, run_expressionIn_group_open ht (hread.1 hfits) ?_, fun _ _ => ?_⟩
        · rw [hnext]
          simpa using hs
        · simp [Fault.isGrammatical, ho]
      · obtain ⟨f, left, hrun⟩ := hread.2 hfits
        refine ⟨f, left, run_expressionIn_group_fail ht hrun, fun hroom hallowed => ?_⟩
        exact absurd ⟨by omega, (allowed_append.mp hallowed).1⟩ hfits
  | @group n w b h ih =>
    intro room t ts rest ht hts
    obtain ⟨u, us, rfl, hu, hus⟩ := List.map_eq_cons_iff.mp hts
    obtain ⟨us, cs, rfl, hus, -⟩ := List.map_eq_append_iff.mp hus
    rw [List.cons_append, List.append_assoc]
    cases room with
    | zero =>
      exact ⟨_, _, run_expressionIn_group_fail ht (run_complain .nesting _), fun h => by omega⟩
    | succ room =>
      obtain ⟨f, left, hrun, hgram⟩ := ih room u us (cs ++ rest) hu hus
      refine ⟨f, left, run_expressionIn_group_fail ht hrun, fun hroom hallowed => ?_⟩
      rw [allowed_cons (by simp), allowed_append] at hallowed
      exact hgram (by omega) hallowed.1
  | atom h ih => exact ih
  | and ha hb iha ihb => exact iha.append (Nat.le_max_left ..) _
  | conjunction h ih => exact ih
  | or ha hb iha ihb => exact iha.append (Nat.le_max_left ..) _

/-! ## The second reading -/

/-- A group at the beginning of a word. -/
def StartsWithGroup (v : List TokenKind) : Prop :=
  ∃ u m e tail, v = .symbol .openParen :: (u ++ .symbol .closeParen :: tail) ∧ Derives .sum m u e

/-- A chain begins as its first operand does. -/
theorem startsWithGroup_chain {v w : List TokenKind} {s : Symbol} (hs : s ≠ .openParen)
    (hv : (v ++ .symbol s :: w).head? = some (.symbol .openParen))
    (ih : v.head? = some (.symbol .openParen) → StartsWithGroup v) :
    StartsWithGroup (v ++ .symbol s :: w) := by
  cases v with
  | nil =>
    simp only [List.nil_append, List.head?_cons, Option.some.injEq, TokenKind.symbol.injEq] at hv
    exact absurd hv hs
  | cons k v =>
    obtain ⟨u, m, e, tail, heq, hd⟩ := ih hv
    exact ⟨u, m, e, tail ++ .symbol s :: w, by rw [heq]; simp, hd⟩

/-- An expression that begins with a parenthesis begins with a group. -/
theorem Derives.startsWithGroup {l : Level} {n : Nat} {v : List TokenKind} {e : Expr}
    (h : Derives l n v e) (hv : v.head? = some (.symbol .openParen)) : StartsWithGroup v := by
  induction h with
  | number h unsigned =>
    obtain ⟨k, v, rfl, hk⟩ := h.startsNumber unsigned
    obtain rfl := Option.some.inj hv
    exact absurd hk (by decide)
  | ident x => cases hv
  | @group n w e h ih => exact ⟨w, n, e, [], rfl, h⟩
  | call f h ih => cases hv
  | primary h ih => exact ih hv
  | neg h ih => cases hv
  | unary h ih => exact ih hv
  | pow ha hb iha ihb => exact startsWithGroup_chain (by simp) hv iha
  | power h ih => exact ih hv
  | mul ha hb iha ihb => exact startsWithGroup_chain (by simp) hv iha
  | div ha hb iha ihb => exact startsWithGroup_chain (by simp) hv iha
  | product h ih => exact ih hv
  | add ha hb iha ihb => exact startsWithGroup_chain (by simp) hv iha
  | sub ha hb iha ihb => exact startsWithGroup_chain (by simp) hv iha

/-- A comparison is not finished by a parenthesis behind its first expression. -/
theorem run_comparisonOf_of_derives (safe : Bool) (room : Nat) {n : Nat} {v : List TokenKind}
    {e : Expr} (h : Derives .sum n v e) {ts rest : List Token} (hts : ts.map Token.kind = v)
    (hrest : headKind rest = some (.symbol .closeParen)) :
    ∃ f left, (comparisonOf (expressionIn safe room)).run (ts ++ rest) = .fail f left := by
  have hread := h.decides safe room (endsExpression_some (by decide)) ts rest hts hrest
  by_cases hfits : n ≤ room ∧ Allowed safe v
  · have hsign : Grammar.comparisonSign.run rest =
        .fail (.unexpected .comparison rest.head?) rest := by
      rw [Grammar.comparisonSign, run_takeKind, hrest]
      rfl
    exact ⟨_, _, by rw [comparisonOf, run_bind_ok (hread.1 hfits), run_bind_fail hsign]⟩
  · obtain ⟨f, left, hrun⟩ := hread.2 hfits
    exact ⟨f, left, by rw [comparisonOf, run_bind_fail hrun]⟩

/-- A condition with `room` levels left fails where its first atom does. -/
theorem run_conditionIn_fail {safe : Bool} {room : Nat} {ts left : List Token} {f : Fault}
    (h : (atomWith (expressionIn safe room) (below (conditionIn safe) room)).run ts =
      .fail f left) :
    (conditionIn safe room).run ts = .fail f left := by
  rw [conditionIn_eq]
  exact run_chain_fail (run_chain_fail h)

/-- A group fails where the condition in it does. -/
theorem run_conditionGroup_fail {first f : Fault} {inner : Option (Phrase BoolExpr)} {t : Token}
    {ts left : List Token} (h : (nested inner).run ts = .fail f left) :
    ∃ g left, (conditionGroup first inner).run (t :: ts) = .fail g left := by
  rw [run_conditionGroup, h]
  exact ⟨_, _, rfl⟩

/-- The tokens of an expression that begins with a parenthesis. -/
theorem exists_group_tokens {n : Nat} {e : Expr} {ts : List Token}
    (h : Derives .sum n (ts.map Token.kind) e) (hopen : headKind ts = some (.symbol .openParen)) :
    ∃ t us c vs m e', ts = t :: (us ++ c :: vs) ∧ c.kind = .symbol .closeParen ∧
      Derives .sum m (us.map Token.kind) e' := by
  have hhead : (ts.map Token.kind).head? = some (.symbol .openParen) := by
    rw [List.head?_map]
    exact hopen
  obtain ⟨u, m, e', tail, hword, hd⟩ := h.startsWithGroup hhead
  obtain ⟨t, us, rfl, -, hus⟩ := List.map_eq_cons_iff.mp hword
  obtain ⟨us, vs, rfl, rfl, hvs⟩ := List.map_eq_append_iff.mp hus
  obtain ⟨c, vs, rfl, hc, -⟩ := List.map_eq_cons_iff.mp hvs
  exact ⟨t, us, c, vs, m, e', rfl, hc, hd⟩

theorem headKind_append_of_derives {n : Nat} {e : Expr} {ts : List Token}
    (h : Derives .sum n (ts.map Token.kind) e) (rest : List Token) :
    headKind (ts ++ rest) = headKind ts := by
  obtain ⟨k, v, hts, -⟩ := h.exists_head
  obtain ⟨t, ts, rfl, -⟩ := List.map_eq_cons_iff.mp hts
  rfl

/-- An expression in front of a closing parenthesis is no condition if no group begins it that
could be one. -/
theorem run_conditionIn_of_group {safe : Bool} {room : Nat} {n : Nat} {e : Expr}
    {ts rest : List Token} (h : Derives .sum n (ts.map Token.kind) e)
    (hrest : headKind rest = some (.symbol .closeParen))
    (hgroup : ∀ first, headKind ts = some (.symbol .openParen) →
      ∃ f left, (conditionGroup first (below (conditionIn safe) room)).run (ts ++ rest) =
        .fail f left) :
    ∃ f left, (conditionIn safe room).run (ts ++ rest) = .fail f left := by
  obtain ⟨f, left, hfirst⟩ := run_comparisonOf_of_derives safe room h rfl hrest
  suffices hatom : ∃ f left, (atomWith (expressionIn safe room)
      (below (conditionIn safe) room)).run (ts ++ rest) = .fail f left by
    obtain ⟨f, left, hatom⟩ := hatom
    exact ⟨f, left, run_conditionIn_fail hatom⟩
  rw [run_atomWith, hfirst, headKind_append_of_derives h]
  by_cases hopen : headKind ts = some (.symbol .openParen) ∧ f.isGrammatical = true
  · simp only [if_pos hopen]
    exact hgroup f hopen.1
  · simp only [if_neg hopen]
    exact ⟨f, left, rfl⟩

/-- **A group of an expression is no group of a condition.** -/
theorem run_conditionGroup_of_derives (safe : Bool) (room : Nat) (first : Fault) {n : Nat}
    {e : Expr} {ts : List Token} (h : Derives .sum n (ts.map Token.kind) e)
    (hopen : headKind ts = some (.symbol .openParen)) (rest : List Token) :
    ∃ f left, (conditionGroup first (below (conditionIn safe) room)).run (ts ++ rest) =
      .fail f left := by
  -- each group that the second reading goes into is shorter
  induction hlen : ts.length using Nat.strongRecOn generalizing room first n e ts rest with
  | _ len ih =>
    obtain ⟨t, us, c, vs, m, e', rfl, hc, hd⟩ := exists_group_tokens h hopen
    rw [List.cons_append, List.append_assoc]
    cases room with
    | zero => exact run_conditionGroup_fail (run_complain .nesting _)
    | succ room =>
      have hclose : headKind (c :: vs ++ rest) = some (.symbol .closeParen) := by simp [hc]
      obtain ⟨f, left, hrun⟩ := run_conditionIn_of_group hd hclose
        fun first hopen => ih us.length (by simp at hlen; omega) room first hd hopen _ rfl
      exact run_conditionGroup_fail hrun

/-- **An expression in front of a closing parenthesis is no condition.** -/
theorem run_conditionIn_of_derives (safe : Bool) (room : Nat) {n : Nat} {e : Expr}
    {ts rest : List Token} (h : Derives .sum n (ts.map Token.kind) e)
    (hrest : headKind rest = some (.symbol .closeParen)) :
    ∃ f left, (conditionIn safe room).run (ts ++ rest) = .fail f left :=
  run_conditionIn_of_group h hrest fun first hopen =>
    run_conditionGroup_of_derives safe room first h hopen rest

/-! ## Completeness -/

/-- Whether a comparison ends in front of a token: nothing continues it. -/
def EndsComparison (next : Option TokenKind) : Prop :=
  EndsExpression next ∧ next.bind comparison? = none

/-- An atom with `room` levels left. -/
def atomIn (safe : Bool) (room : Nat) : Phrase BoolExpr :=
  atomWith (expressionIn safe room) (below (conditionIn safe) room)

section

variable {safe : Bool} {m n : Nat} {v w : List TokenKind} {k : TokenKind} {op : Comparison}
  {a b : Expr} {next : Option TokenKind}

theorem decides_comparisonOf (ha : Derives .sum m v a) (hk : ComparisonToken k op)
    (hb : Derives .sum n w b) (room : Nat) (hn : EndsComparison next) :
    Decides (comparisonOf (expressionIn safe room)) (v ++ k :: w) (.compare op a b)
      (max m n ≤ room ∧ Allowed safe (v ++ k :: w)) next := by
  have hka : k ≠ .keyword .approx := by
    obtain ⟨s, rfl, -⟩ := hk.exists_symbol
    simp
  rw [comparisonOf]
  refine Decides.congr (φ := (m ≤ room ∧ Allowed safe v) ∧ True ∧ (n ≤ room ∧ Allowed safe w) ∧
    True) ?_ ?_
  · refine Decides.bind (ha.decides safe room hk.endsExpression) ?_
    refine Decides.bind (w := [k]) (.takeKind (comparison?_eq_some_iff.mpr hk)) ?_
    refine Decides.bind_nil (hb.decides safe room hn.1) (.peekKind ?_)
    rw [if_neg (by simp [hn.2])]
    exact .pure _
  · rw [true_and, and_true, fits_and_fits, allowed_append, allowed_cons hka]

/-- **A comparison is an atom** where it does not nest too deep. Where it does, the second reading
fails as well. -/
theorem decides_atom_compare (ha : Derives .sum m v a) (hk : ComparisonToken k op)
    (hb : Derives .sum n w b) (room : Nat) (hn : EndsComparison next) :
    Decides (atomIn safe room) (v ++ k :: w) (.compare op a b)
      (max m n ≤ room ∧ Allowed safe (v ++ k :: w)) next := by
  intro ts rest hts hrest
  obtain ⟨hok, hfail⟩ := decides_comparisonOf ha hk hb room hn ts rest hts hrest
  rw [atomIn, run_atomWith]
  refine ⟨fun hfits => by rw [hok hfits], fun hfits => ?_⟩
  obtain ⟨f, left, hfirst⟩ := hfail hfits
  rw [hfirst]
  obtain ⟨ls, vs, rfl, rfl, -⟩ := List.map_eq_append_iff.mp hts
  rw [List.append_assoc, headKind_append_of_derives ha]
  -- only a parenthesis that opens the left expression leads to a second reading
  by_cases hgroup : headKind ls = some (.symbol .openParen) ∧ f.isGrammatical = true
  · simp only [if_pos hgroup]
    exact run_conditionGroup_of_derives safe room f ha hgroup.1 _
  · simp only [if_neg hgroup]
    exact ⟨f, left, rfl⟩

end

/-- A condition in parentheses is an atom. -/
theorem decides_group {safe : Bool} {n : Nat} {w : List TokenKind} {b : BoolExpr}
    (hw : RefusesGroup safe n w)
    (hin : ∀ room, Decides (conditionIn safe room) w b (n ≤ room ∧ Allowed safe w)
      (some (.symbol .closeParen))) (room : Nat) (next : Option TokenKind) :
    Decides (atomIn safe room) (.symbol .openParen :: (w ++ [.symbol .closeParen])) b
      (n + 1 ≤ room ∧ Allowed safe (.symbol .openParen :: (w ++ [.symbol .closeParen]))) next := by
  intro ts rest hts hrest
  obtain ⟨t, us, rfl, ht, hus⟩ := List.map_eq_cons_iff.mp hts
  obtain ⟨us, cs, rfl, hu, hcs⟩ := List.map_eq_append_iff.mp hus
  obtain ⟨c, rfl, hc⟩ := List.map_eq_singleton_iff.mp hcs
  have hclose : headKind (c :: rest) = some (.symbol .closeParen) := by rw [headKind_cons, hc]
  have hallowed : Allowed safe (.symbol .openParen :: (w ++ [.symbol .closeParen])) ↔
      Allowed safe w := by simp
  rw [hallowed]
  obtain ⟨hok, hfail⟩ := decides_nested hin room us (c :: rest) hu hclose
  -- the first reading stops inside the group, so the second one starts again at its parenthesis
  obtain ⟨f, left, hexpr, hgram⟩ := hw room t us (c :: rest) ht hu
  have hfirst : (comparisonOf (expressionIn safe room)).run (t :: (us ++ c :: rest)) =
      .fail f left := by
    rw [comparisonOf, run_bind_fail hexpr]
  rw [List.cons_append, List.append_assoc, List.singleton_append, atomIn, run_atomWith, hfirst]
  refine ⟨fun hfits => ?_, fun hfits => ?_⟩
  · have hgroup : headKind (t :: (us ++ c :: rest)) = some (.symbol .openParen) ∧
        f.isGrammatical = true :=
      ⟨by rw [headKind_cons, ht], hgram hfits.1 hfits.2⟩
    simp only [if_pos hgroup]
    rw [run_conditionGroup, hok hfits]
    exact run_bind_ok (run_expect_of_kind hc)
  · by_cases hgroup : headKind (t :: (us ++ c :: rest)) = some (.symbol .openParen) ∧
        f.isGrammatical = true
    · simp only [if_pos hgroup]
      obtain ⟨g, left, hrun⟩ := hfail hfits
      exact run_conditionGroup_fail hrun
    · simp only [if_neg hgroup]
      exact ⟨f, left, rfl⟩

/-- What a level reads from a word. The chains stop only at their end. -/
def ConditionReadsAt (safe : Bool) (room : Nat) (w : List TokenKind) (b : BoolExpr) (fits : Prop)
    (next : Option TokenKind) : Junction → Prop
  | .atom => Decides (atomIn safe room) w b fits next
  | .conjunction => Chained conjunction? (atomIn safe room) w b fits next
  | .disjunction =>
    next.bind conjunction? = none →
      Chained disjunction? (chain conjunction? (atomIn safe room)) w b fits next

/-- The whole chain, in front of a token that does not continue it. -/
theorem ConditionReadsAt.condition {safe : Bool} {room : Nat} {w : List TokenKind} {b : BoolExpr}
    {fits : Prop} {next : Option TokenKind}
    (h : ConditionReadsAt safe room w b fits next .disjunction)
    (hand : next.bind conjunction? = none) (hor : next.bind disjunction? = none) :
    Decides (conditionIn safe room) w b fits next := by
  rw [conditionIn_eq]
  exact (h hand).finish hor

theorem ConditionDerives.reads {l : Junction} {n : Nat} {w : List TokenKind} {b : BoolExpr}
    (h : ConditionDerives l n w b) (safe : Bool) (room : Nat) {next : Option TokenKind}
    (hn : EndsComparison next) :
    ConditionReadsAt safe room w b (n ≤ room ∧ Allowed safe w) next l := by
  induction h generalizing room next with
  | compare ha hk hb => exact decides_atom_compare ha hk hb room hn
  | @group n w b h ih =>
    have hclose : EndsComparison (some (.symbol .closeParen)) :=
      ⟨endsExpression_some (by decide), rfl⟩
    exact decides_group (h.refusesGroup safe)
      (fun room => (ih room hclose).condition rfl rfl) room next
  | atom h ih => exact .operand (ih room hn)
  | @and m n v w a b ha hb iha ihb =>
    have hand : EndsComparison (some (.keyword .and)) := ⟨endsExpression_some (by decide), rfl⟩
    refine (Chained.step (iha room hand) rfl (ihb room hn)).congr ?_
    rw [fits_and_fits]
    simp
  | conjunction h ih => exact fun hand => .operand (Chained.finish (ih room hn) hand)
  | @or m n v w a b ha hb iha ihb =>
    intro hand
    have hor : EndsComparison (some (.keyword .or)) := ⟨endsExpression_some (by decide), rfl⟩
    refine (Chained.step (iha room hor rfl) rfl (Chained.finish (ihb room hn) hand)).congr ?_
    rw [fits_and_fits]
    simp

/-- **A word that derives a condition is read as that condition,** and only if it does not nest too
deep and holds nothing that safe input refuses. -/
theorem ConditionDerives.decides {n : Nat} {w : List TokenKind} {b : BoolExpr}
    (h : ConditionDerives .disjunction n w b) (safe : Bool) (room : Nat) {next : Option TokenKind}
    (hn : EndsComparison next) (hand : next.bind conjunction? = none)
    (hor : next.bind disjunction? = none) :
    Decides (conditionIn safe room) w b (n ≤ room ∧ Allowed safe w) next :=
  (h.reads safe room hn).condition hand hor

/-! ## Soundness -/

/-- `w` derives `b` at a level within `room` levels of nesting and is allowed. -/
def ConditionFits (safe : Bool) (room : Nat) (l : Junction) (w : List TokenKind) (b : BoolExpr) :
    Prop :=
  ∃ n ≤ room, ConditionDerives l n w b ∧ Allowed safe w

theorem yields_comparisonOf (safe : Bool) (room : Nat) :
    Yields (comparisonOf (expressionIn safe room)) fun w b _ =>
      ConditionFits safe room .atom w b := by
  rw [comparisonOf]
  refine Yields.mono (.bind (yields_expressionIn safe room) fun a => .bind (.takeKind comparison?)
    fun op => .bind (yields_expressionIn safe room) fun b => .peekKind fun k =>
      .ite (.bind .complain fun _ => .pure _) (.pure _)) ?_
  rintro w b _ ⟨v, _, a, rfl, ⟨⟨m, hm, hda, ha⟩, -⟩, _, _, op, rfl, ⟨k, rfl, hk⟩, w, _, b', rfl,
    ⟨⟨n, hn, hdb, hb⟩, -⟩, h⟩
  rcases h with ⟨-, _, _, _, -, h, -⟩ | ⟨-, rfl, rfl⟩
  · exact h.elim
  · have hk := comparison?_eq_some_iff.mp hk
    obtain ⟨s, rfl, -⟩ := hk.exists_symbol
    refine ⟨max m n, by omega, ?_, ?_⟩
    · rw [List.append_nil]
      exact .compare hda hk hdb
    · simp [ha, hb]

/-- The second reading takes the parenthesis, whatever the first one has complained about. -/
theorem fits_of_run_conditionGroup {safe : Bool} {room : Nat} {first : Fault} {t : Token}
    {ts rest : List Token} {b : BoolExpr} (ht : t.kind = .symbol .openParen)
    (hin : Yields (nested (below (conditionIn safe) room)) fun w b _ =>
      ∃ n, n + 1 ≤ room ∧ ConditionDerives .disjunction n w b ∧ Allowed safe w)
    (hrun : (conditionGroup first (below (conditionIn safe) room)).run (t :: ts) = .ok b rest) :
    ∃ us, t :: ts = us ++ rest ∧ ConditionFits safe room .atom (us.map Token.kind) b := by
  rw [run_conditionGroup] at hrun
  split at hrun
  · next b' mid hinner =>
    obtain ⟨us, rfl, n, hn, hd, ha⟩ := hin ts b' mid hinner
    obtain ⟨vs, rfl, v, hv, rfl, rfl⟩ := Yields.expect_then (.pure b') mid b rest hrun
    refine ⟨t :: (us ++ vs), by simp, n + 1, hn, ?_, ?_⟩
    · rw [List.map_cons, List.map_append, ht, hv]
      exact .group hd
    · simp [ht, hv, ha]
  · cases hrun

theorem yields_atomIn {safe : Bool} {room : Nat}
    (hin : Yields (nested (below (conditionIn safe) room)) fun w b _ =>
      ∃ n, n + 1 ≤ room ∧ ConditionDerives .disjunction n w b ∧ Allowed safe w) :
    Yields (atomIn safe room) fun w b _ => ConditionFits safe room .atom w b := by
  intro ts b rest hrun
  rw [atomIn, run_atomWith] at hrun
  split at hrun
  · next b' mid hfirst =>
    obtain ⟨rfl, rfl⟩ := Outcome.ok.inj hrun
    exact yields_comparisonOf safe room ts b' mid hfirst
  · split at hrun
    · next hgroup =>
      obtain ⟨t, ts, rfl, ht⟩ := exists_cons_of_headKind hgroup.1
      exact fits_of_run_conditionGroup ht hin hrun
    · cases hrun

/-- One more part of a chain. -/
theorem ConditionFits.junction {safe : Bool} {room : Nat} {l l' : Junction} {v w : List TokenKind}
    {a b c : BoolExpr} {k : Keyword} (hk : k ≠ .approx) (ha : ConditionFits safe room l v a)
    (hb : ConditionFits safe room l' w b)
    (h : ∀ m n, ConditionDerives l m v a → ConditionDerives l' n w b →
      ConditionDerives l (max m n) (v ++ .keyword k :: w) c) :
    ConditionFits safe room l (v ++ .keyword k :: w) c := by
  obtain ⟨m, hm, hda, hal⟩ := ha
  obtain ⟨n, hn, hdb, hbl⟩ := hb
  exact ⟨max m n, by omega, h m n hda hdb, by simp [hal, hbl, hk]⟩

theorem yields_conditionOf {safe : Bool} {room : Nat} {atom : Phrase BoolExpr}
    (h : Yields atom fun w b _ => ConditionFits safe room .atom w b) :
    Yields (conditionOf atom) fun w b next =>
      ConditionFits safe room .disjunction w b ∧ next.bind disjunction? = none := by
  have hand : Yields (chain conjunction? atom) fun w b next =>
      ConditionFits safe room .conjunction w b ∧ next.bind conjunction? = none := by
    refine Yields.chain (S := fun w b _ => ConditionFits safe room .conjunction w b) h ?_ ?_
    · rintro w b _ ⟨n, hn, hd, ha⟩
      exact ⟨n, hn, .atom hd, ha⟩
    · intro v w a b k _ f ha hf hb
      unfold conjunction? at hf
      split at hf
      · obtain rfl := Option.some.inj hf
        exact ha.junction (by simp) hb fun m n => .and
      · cases hf
  refine Yields.chain (S := fun w b _ => ConditionFits safe room .disjunction w b) hand ?_ ?_
  · rintro w b _ ⟨⟨n, hn, hd, ha⟩, -⟩
    exact ⟨n, hn, .conjunction hd, ha⟩
  · rintro v w a b k _ f ha hf ⟨hb, -⟩
    unfold disjunction? at hf
    split at hf
    · obtain rfl := Option.some.inj hf
      exact ha.junction (by simp) hb fun m n => .or
    · cases hf

/-- **What is read as a condition derives that condition.** -/
theorem yields_conditionIn (safe : Bool) (room : Nat) :
    Yields (conditionIn safe room) fun w b next =>
      ConditionFits safe room .disjunction w b ∧ next.bind disjunction? = none := by
  induction room with
  | zero =>
    rw [conditionIn_eq]
    exact yields_conditionOf (yields_atomIn (Yields.complain.mono fun _ _ _ h => h.elim))
  | succ room ih =>
    rw [conditionIn_eq]
    refine yields_conditionOf (yields_atomIn (ih.mono ?_))
    rintro w b _ ⟨⟨n, hn, h⟩, -⟩
    exact ⟨n, Nat.succ_le_succ hn, h⟩

/-! ## Both directions -/

/-- The tokens that can go on with a condition: operators, comparisons, `and` and `or`. -/
def continuations : List TokenKind :=
  operators ++ [.symbol .less, .symbol .greater, .symbol .lessEqual, .symbol .greaterEqual,
    .symbol .equals, .keyword .and, .keyword .or]

theorem endsComparison_of_continuations {next : Option TokenKind}
    (h : ∀ k ∈ continuations, next ≠ some k) :
    EndsComparison next ∧ next.bind conjunction? = none ∧ next.bind disjunction? = none := by
  have hexpr : EndsExpression next := fun k hk => h k (List.mem_append_left _ hk)
  cases next with
  | none => exact ⟨⟨hexpr, rfl⟩, rfl, rfl⟩
  | some k =>
    have hk : k ∉ continuations := fun hk => h k hk rfl
    refine ⟨⟨hexpr, ?_⟩, ?_, ?_⟩
    · show comparison? k = none
      unfold comparison?
      split <;> first | rfl | exact absurd (by decide) hk
    · show conjunction? k = none
      unfold conjunction?
      split <;> first | rfl | exact absurd (by decide) hk
    · show disjunction? k = none
      unfold disjunction?
      split <;> first | rfl | exact absurd (by decide) hk

/-- Of two derivations of one word the second nests no deeper and gives the same condition. -/
theorem ConditionDerives.le_and_eq {m n : Nat} {w : List TokenKind} {b b' : BoolExpr}
    (h : ConditionDerives .disjunction m w b) (h' : ConditionDerives .disjunction n w b') :
    n ≤ m ∧ b' = b := by
  -- one parser with just the room for the first derivation reads both
  have hend : EndsComparison none := ⟨fun k _ => by simp, rfl⟩
  have hts : (w.map fun k => (⟨k, "", .start⟩ : Token)).map Token.kind = w := by
    rw [List.map_map]
    exact List.map_id w
  have hread := (h.decides false m hend rfl rfl _ [] hts rfl).1 ⟨Nat.le_refl m, by simp [Allowed]⟩
  obtain ⟨hok, hfail⟩ := h'.decides false m hend rfl rfl _ [] hts rfl
  by_cases hfits : n ≤ m ∧ Allowed false w
  · exact ⟨hfits.1, (Outcome.ok.inj ((hok hfits).symm.trans hread)).1⟩
  · obtain ⟨f, left, hrun⟩ := hfail hfits
    cases hrun.symm.trans hread

/--
**The condition parser recognises its grammar, no more and no less, and the grammar is
unambiguous.**

* Whatever is read as `b`, with any room left, derives `b`; it nests no deeper than there was room,
  and under safe input it is free of `approx`.
* A word that derives `b` without nesting deeper than the limit is read as `b` and consumed exactly,
  if no token behind it goes on with a condition and safe input has nothing to refuse in it. It does
  not matter which of its parentheses belong to expressions and which to conditions.
* No word derives two conditions, and none derives one at two depths.
-/
theorem run_condition_recognises (safe : Bool) (ts : List Token) (b : BoolExpr) :
    (∀ (room : Nat) (rest : List Token), (conditionIn safe room).run ts = .ok b rest →
      ∃ (us : List Token) (n : Nat), ts = us ++ rest ∧
        ConditionDerives .disjunction n (us.map Token.kind) b ∧ n ≤ room ∧
        (safe = true → .keyword .approx ∉ us.map Token.kind)) ∧
    (∀ (n : Nat) (rest : List Token), ConditionDerives .disjunction n (ts.map Token.kind) b →
      n ≤ nestingLimit → (safe = true → .keyword .approx ∉ ts.map Token.kind) →
      (∀ k ∈ continuations, headKind rest ≠ some k) →
      (condition safe).run (ts ++ rest) = .ok b rest) ∧
    (∀ (w : List TokenKind) (m n : Nat) (b' : BoolExpr), ConditionDerives .disjunction m w b →
      ConditionDerives .disjunction n w b' → m = n ∧ b = b') := by
  refine ⟨fun room rest hrun => ?_, fun n rest hd hn ha hrest => ?_, fun w m n b' h h' => ?_⟩
  · obtain ⟨us, rfl, ⟨n, hn, hd, ha⟩, -⟩ := yields_conditionIn safe room ts b rest hrun
    exact ⟨us, n, rfl, hd, hn, ha⟩
  · obtain ⟨hend, hand, hor⟩ := endsComparison_of_continuations hrest
    exact (hd.decides safe nestingLimit hend hand hor ts rest rfl rfl).1 ⟨hn, ha⟩
  · obtain ⟨hnm, heq⟩ := h.le_and_eq h'
    exact ⟨Nat.le_antisymm (h'.le_and_eq h).1 hnm, heq.symm⟩

/-- The tokens of `((x) < y or x = y)`: the outer parentheses belong to a condition, the inner ones
to an expression. -/
def groupTokens : List Token :=
  [.symbol .openParen, .symbol .openParen, .identifier "x", .symbol .closeParen, .symbol .less,
    .identifier "y", .keyword .or, .identifier "x", .symbol .equals, .identifier "y",
    .symbol .closeParen].map fun k => ⟨k, "", .start⟩

theorem run_condition_recognises_groupTokens :
    (condition true).run (groupTokens ++ [⟨.symbol .semicolon, "", .start⟩]) =
      .ok (.or (.compare .lt (.ident "x") (.ident "y")) (.compare .eq (.ident "x") (.ident "y")))
        [⟨.symbol .semicolon, "", .start⟩] := by
  have hname : ∀ x : String, Derives .sum 0 [.identifier x] (.ident x) :=
    fun x => (Derives.primary (.ident x)).toSum
  have hgroup : Derives .sum 1 [.symbol .openParen, .identifier "x", .symbol .closeParen]
      (.ident "x") := (Derives.primary (.group (hname "x"))).toSum
  have hless := ConditionDerives.compare hgroup .less (hname "y")
  have hequals := ConditionDerives.compare (hname "x") .equals (hname "y")
  have hor := ConditionDerives.or (.conjunction (.atom hless)) (.atom hequals)
  exact (run_condition_recognises true groupTokens _).2.1 2 _ (.conjunction (.atom (.group hor)))
    (by decide) (by decide) (by decide)

end PaveScript.Grammar
