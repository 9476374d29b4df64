import PaveScript.Proofs.Cursor.Expression

/-!
# Statements with a cursor

The phrases of statements start at the outermost level, and a procedure may start at any: it does as
the phrase does if its depth is zero, and otherwise it still ends, comes back to its level and moves
on. Two procedures take whatever token comes next, and the last one again at the end of the input,
so what they do hangs on the token in front.
-/

namespace PaveScript.Cursor

open Grammar

variable {α : Type} {ts rest : List Token} {safe : Bool} {d : Nat} {t : Track}

/-- At the outermost level there is room up to the limit. -/
theorem Simulates.outermost {m : Nat → Procedure α} {p : Nat → Phrase α}
    (h : Simulates (d = 0) ts d m (p (nestingLimit - d))) :
    Simulates (d = 0) ts d m (p nestingLimit) := by
  intro rest t ht
  refine (h rest t ht).congr fun hd => ?_
  rw [hd, Nat.sub_zero]

theorem simulates_expression_outermost (ts : List Token) (safe : Bool) (d : Nat) :
    Simulates (d = 0) ts d (expression (stream ts) safe) (Grammar.expression safe) :=
  .outermost (p := expressionIn safe) (simulates_expression d)

theorem simulates_number_outermost (ts : List Token) (safe : Bool) (d : Nat) :
    Simulates (d = 0) ts d (number (stream ts) safe) (Grammar.number safe) :=
  .outermost (p := numeral safe) (simulates_number d)

/-! ## Parts of statements -/

theorem simulates_interval :
    Simulates (d = 0) ts d (interval (stream ts) safe) (Grammar.interval safe) :=
  .expect_then ((simulates_expression_outermost ts safe d).bind fun _ => .expect_then
    ((simulates_expression_outermost ts safe d).bind fun _ => .expect_then (.pure _)))

theorem simulates_binding :
    Simulates (d = 0) ts d (binding (stream ts) safe) (Grammar.binding safe) :=
  Simulates.takeKind.bind fun _ => .expect_then (.map (simulates_expression_outermost ts safe d))

/-- The links of a let chain behind those that are done. -/
theorem simulates_linksFrom (done : List Binding) :
    Simulates (d = 0) ts d (fun fuel => linksFrom (stream ts) safe fuel done)
      (Phrase.itemsBehind (.symbol .comma) (Grammar.binding safe) done) := by
  intro rest t ht
  induction hlen : rest.length using Nat.strongRecOn generalizing done rest t with
  | _ len ih =>
    rw [Phrase.run_itemsBehind]
    refine .succ ((simulates_binding rest t ht).bind fun link mid u hmid hu => ?_)
    by_cases hkind : headKind mid = some (.symbol .comma)
    · obtain ⟨k, mid, rfl, hk⟩ := exists_cons_of_headKind hkind
      rw [Phrase.itemsFrom_cons hk, ← Phrase.run_itemsBehind]
      have hlt : mid.length < len := hlen ▸ hmid.length_le
      exact .take hu (runOn_accept_of_kind hu hk)
        (ih mid.length hlt (link :: done) mid _ hu.moved_next rfl)
    · rw [Phrase.itemsFrom_stop hkind]
      exact .look (runOn_accept_of_ne hu hkind) (.here rfl rfl hu)

theorem simulates_preamble :
    Simulates (d = 0) ts d (preamble (stream ts) safe) (Grammar.preamble safe) := by
  refine Simulates.accept.bind fun _ => Simulates.accept.bind fun _ => .ite ?_ (.pure _)
  exact (simulates_linksFrom []).bind fun _ => .expect_then (.pure _)

theorem simulates_equalsNumber :
    Simulates (d = 0) ts d (fun _ => equalsNumber (stream ts)) Grammar.equalsNumber :=
  .expect_then simulates_plainNumber

theorem simulates_equalsTruth :
    Simulates (d = 0) ts d (fun _ => equalsTruth (stream ts)) Grammar.equalsTruth :=
  .expect_then .takeKind

/-! ## Settings -/

/-- The next token, or the one in front at the end of the input. -/
theorem runOn_advance {prev : Token} (h : t.At ts rest d) (hprev : ts[t.now.pos - 1]? = some prev) :
    ∃ u : Track, (advance (stream ts)).runOn t = some (.ok (some (rest.head?.getD prev)), u) ∧
      u.At ts rest.tail d ∧ t.Leads ts u ∧ ts[u.now.pos - 1]? = some (rest.head?.getD prev) := by
  cases rest with
  | nil => exact ⟨t, hprev ▸ runOn_advance_nil h, h, .refl ts t, hprev⟩
  | cons k rest =>
    exact ⟨_, runOn_advance_cons h, h.moved_next, h.leads_moved _, h.getElem?_of_moved_next⟩

theorem run_next (rest : List Token) :
    (Parser.next : Phrase (Option Token)).run rest = .ok rest.head? rest.tail := by
  cases rest <;> rfl

theorem simulates_pavingMode :
    Simulates (d = 0) ts d (fun _ => pavingMode (stream ts)) Grammar.pavingMode := by
  refine .expect_then fun rest t ht => ?_
  by_cases hkind : headKind rest = some (.symbol .equals)
  · obtain ⟨sign, rest, rfl, hsign⟩ := exists_cons_of_headKind hkind
    obtain ⟨u, hrun, hu, hlead, hprev⟩ := runOn_advance ht.moved_next ht.getElem?_of_moved_next
    rw [Phrase.run_bind_ok (Phrase.run_expect_of_kind hsign), Phrase.run_bind_ok (run_next rest)]
    refine .take ht (runOn_expect_of_kind ht hsign) (.after hrun (List.tail_suffix rest) hlead ?_)
    simp only [Option.bind_some]
    cases mode? (rest.head?.getD sign).kind with
    | some mode => exact Simulates.pure mode rest.tail u hu
    | none =>
      refine .look (runOn_previous hu) ?_
      rw [hprev]
      exact Simulates.stop _ rest.tail u hu
  · rw [Phrase.run_bind_fail (Phrase.run_expect_of_ne hkind)]
    exact .fail (runOn_expect_of_ne ht hkind) ht

theorem simulates_settingOf (key : Token) :
    Simulates (d = 0) ts d (fun fuel => settingOf (stream ts) safe fuel key)
      (Grammar.settingOf safe key) := by
  unfold settingOf Grammar.settingOf
  cases key.kind with
  | keyword word =>
    cases word with
    | precision => exact .expect_then (.map (simulates_number_outermost ts safe d))
    | resolution =>
      refine Simulates.takeKind?.bind fun name => ?_
      cases name with
      | some name => exact .map simulates_equalsNumber
      | none => exact .map simulates_equalsNumber
    | granularity | depth | varSelect => exact .map simulates_equalsNumber
    | bp | debug => exact .map simulates_equalsTruth
    | safe => exact .expect_then (.map simulates_equalsTruth)
    | name | output => exact .expect_then (.map .takeKind)
    | paving => exact .map simulates_pavingMode
    | _ => exact Simulates.stop _
  | _ => exact Simulates.stop _

/-- A setting behind `set`, which is the token in front. -/
theorem endsAs_setting {head : Token} (ht : t.At ts rest d)
    (hhead : ts[t.now.pos - 1]? = some head) :
    EndsAs (d = 0) ts rest d t ((Grammar.setting safe head).run rest)
      (setting (stream ts) safe) := by
  obtain ⟨u, hrun, hu, hlead, -⟩ := runOn_advance ht hhead
  rw [Grammar.setting, Phrase.run_bind_ok (run_next rest)]
  exact .after hrun (List.tail_suffix rest) hlead (simulates_settingOf _ rest.tail u hu)

/-! ## Statements -/

theorem simulates_declaration (kind : VarKind) :
    Simulates (d = 0) ts d (fun fuel => declaration (stream ts) safe fuel kind)
      (Grammar.declaration safe kind) :=
  Simulates.takeKind.bind fun _ => .expect_then (.map simulates_interval)

theorem simulates_plot : Simulates (d = 0) ts d (fun _ => plot (stream ts)) Grammar.plot := by
  refine Simulates.takeKind.bind fun name => Simulates.takeKind.bind fun x =>
    Simulates.takeKind.bind fun y => Simulates.takeKind?.bind fun z => ?_
  cases z with
  | some z => exact .pure _
  | none => exact .pure _

/-- Every statement but a setting, behind its first token. -/
theorem simulates_statementOf {head : Token} (h : head.kind ≠ .keyword .setting) :
    Simulates (d = 0) ts d (fun fuel => statementOf (stream ts) safe fuel head)
      (Grammar.statement safe head) := by
  unfold statementOf Grammar.statement
  cases hk : head.kind with
  | keyword word =>
    cases word with
    | var => exact simulates_declaration .var
    | param => exact simulates_declaration .param
    | constant =>
      exact Simulates.takeKind.bind fun _ => .expect_then
        (.map (simulates_number_outermost ts safe d))
    | objfn | dfeq =>
      exact simulates_preamble.bind fun _ => .map (simulates_expression_outermost ts safe d)
    | cnstr =>
      exact simulates_preamble.bind fun _ =>
        (simulates_expression_outermost ts safe d).bind fun _ =>
          Simulates.takeKind.bind fun _ => .map (simulates_expression_outermost ts safe d)
    | define =>
      exact Simulates.takeKind.bind fun _ => .expect_then
        (.map (simulates_expression_outermost ts safe d))
    | setting => exact absurd hk h
    | reset => exact Simulates.accept.bind fun _ => .ite (.pure _) (.pure _)
    | pave | bifurcation | equilibrium | min | max | minMax | quit | exit | help => exact .pure _
    | save | load => exact .expect_then (.map .takeKind)
    | plot => exact simulates_plot
    | universal => exact .map (.outermost (p := conditionIn safe) (simulates_condition d))
    | file => exact .map .takeKind
    | _ => exact Simulates.stop _
  | _ => exact Simulates.stop _

theorem statementOf_setting {head : Token} (h : head.kind = .keyword .setting)
    (cells : Array (Option Token)) (safe : Bool) (fuel : Nat) :
    statementOf cells safe fuel head = (do return .set (← setting cells safe fuel)) := by
  unfold statementOf
  simp only [h]

theorem endsAs_statementOf {head : Token} (ht : t.At ts rest d)
    (hhead : ts[t.now.pos - 1]? = some head) :
    EndsAs (d = 0) ts rest d t ((Grammar.statement safe head).run rest)
      fun fuel => statementOf (stream ts) safe fuel head := by
  by_cases hset : head.kind = .keyword .setting
  · rw [statement_setting safe hset]
    simp only [statementOf_setting hset]
    exact (endsAs_setting ht hhead).run_bind fun _ => .pure _
  · exact simulates_statementOf hset rest t ht

/-- A statement from its first token on. -/
theorem endsAs_statement (safe : Bool) {head : Token} (ht : t.At ts (head :: rest) d) :
    EndsAs (d = 0) ts rest d t ((Grammar.statement safe head).run rest)
      (statement (stream ts) safe) :=
  .after (runOn_advance_cons ht) List.suffix_rfl (ht.leads_moved _)
    (endsAs_statementOf ht.moved_next ht.getElem?_of_moved_next)

end PaveScript.Cursor
