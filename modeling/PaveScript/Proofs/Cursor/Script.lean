import PaveScript.Proofs.Cursor.Statement
import PaveScript.Proofs.Grammar.Statement
import PaveScript.Proofs.SafeInput

/-!
# Scripts with a cursor

Between statements the reader skips semicolons, and after a failure it goes on to the next one, so
it does what a script does in one step. A statement takes at least its first token, and so reading
statement after statement comes to an end.

* `ends_nextStatement` — the next statement is the one that `Script.step` gives
* `ends_results` — there are no more results than tokens
* `keepsCounters_of_inside` — whatever is read, reading ends, comes back to its level and stays
  inside the array
-/

namespace PaveScript

open Grammar Phrase Procedure

/-! ## Successes move on -/

/-- A phrase that yields words with at least one token leaves fewer tokens. -/
theorem Phrase.Yields.length_lt {α : Type} {p : Phrase α}
    {R : List TokenKind → α → Option TokenKind → Prop} (h : Yields p R)
    (hR : ∀ w a next, R w a next → w ≠ []) {ts rest : List Token} {a : α}
    (hrun : p.run ts = .ok a rest) : rest.length < ts.length := by
  obtain ⟨used, rfl, hused⟩ := h ts a rest hrun
  have hpos : 0 < used.length := by simpa [List.length_pos_iff] using hR _ _ _ hused
  rw [List.length_append]
  omega

namespace Grammar

variable {safe : Bool} {room : Nat} {ts rest : List Token}

theorem NumberDerives.ne_nil {n : Nat} {w : List TokenKind} {a : Numeral}
    (h : NumberDerives n w a) : w ≠ [] := by
  cases h <;> simp

theorem Derives.ne_nil {l : Level} {n : Nat} {w : List TokenKind} {e : Expr}
    (h : Derives l n w e) : w ≠ [] := by
  obtain ⟨k, v, rfl, -⟩ := h.exists_head
  simp

theorem ConditionDerives.ne_nil {l : Junction} {n : Nat} {w : List TokenKind} {b : BoolExpr}
    (h : ConditionDerives l n w b) : w ≠ [] := by
  induction h with
  | atom _ ih => exact ih
  | conjunction _ ih => exact ih
  | compare | group | and | or => simp

theorem length_lt_of_run_numeral {a : Numeral} (h : (numeral safe room).run ts = .ok a rest) :
    rest.length < ts.length := by
  refine (yields_numeral safe room).length_lt ?_ h
  rintro w a next ⟨n, -, hderives, -⟩
  exact hderives.ne_nil

theorem length_lt_of_run_expressionIn {e : Expr}
    (h : (expressionIn safe room).run ts = .ok e rest) : rest.length < ts.length := by
  refine (yields_expressionIn safe room).length_lt ?_ h
  rintro w e next ⟨⟨n, -, hderives, -⟩, -⟩
  exact hderives.ne_nil

theorem length_lt_of_run_conditionIn {b : BoolExpr}
    (h : (conditionIn safe room).run ts = .ok b rest) : rest.length < ts.length := by
  refine (yields_conditionIn safe room).length_lt ?_ h
  rintro w b next ⟨⟨n, -, hderives, -⟩, -⟩
  exact hderives.ne_nil

end Grammar

namespace Cursor

variable {α β : Type} {ts rest mid : List Token} {safe : Bool} {d e : Nat} {t u : Track}

/-! ## Between statements -/

theorem ends_skipSemicolons (ht : t.At ts rest d) :
    Ends ts d t (.ok () (rest.dropWhile Script.isSemicolon)) (skipSemicolons (stream ts)) := by
  induction rest generalizing t with
  | nil => exact .succ (.look (runOn_accept_of_ne ht (by simp)) (.here rfl ht))
  | cons k rest ih =>
    by_cases hk : k.kind = .symbol .semicolon
    · rw [List.dropWhile_cons_of_pos (by simpa [Script.isSemicolon] using hk)]
      exact .succ (.after (runOn_accept_of_kind ht hk) (ht.leads_moved _) (ih ht.moved_next))
    · rw [List.dropWhile_cons_of_neg (by simpa [Script.isSemicolon] using hk)]
      exact .succ (.look (runOn_accept_of_ne ht (by simpa using hk)) (.here rfl ht))

/-- Where a failed statement ends, there is a semicolon or nothing. -/
theorem ends_skipToSemicolon (ht : t.At ts rest d) :
    Ends ts d t (.ok () (rest.dropWhile fun t => !Script.isSemicolon t))
        (skipToSemicolon (stream ts)) ∧
      EndsStatement (headKind (rest.dropWhile fun t => !Script.isSemicolon t)) := by
  induction rest generalizing t with
  | nil => exact ⟨.succ (.look (runOn_peekKind ht) (.here rfl ht)), .inl rfl⟩
  | cons k rest ih =>
    by_cases hk : k.kind = .symbol .semicolon
    · have hkind : headKind (k :: rest) = none ∨ headKind (k :: rest) = some (.symbol .semicolon) :=
        .inr (congrArg some hk)
      rw [List.dropWhile_cons_of_neg (by simpa [Script.isSemicolon] using hk)]
      refine ⟨.succ (.look (runOn_peekKind ht) ?_), hkind⟩
      simp only [if_pos hkind]
      exact .here rfl ht
    · have hkind : ¬(headKind (k :: rest) = none ∨
          headKind (k :: rest) = some (.symbol .semicolon)) := by
        simpa using hk
      rw [List.dropWhile_cons_of_pos (by simpa [Script.isSemicolon] using hk)]
      obtain ⟨hends, hend⟩ := ih ht.moved_next
      refine ⟨.succ (.look (runOn_peekKind ht) ?_), hend⟩
      simp only [if_neg hkind]
      exact .after (runOn_advance_cons ht) (ht.leads_moved _) hends

/-- The semicolon that ends a statement may be missing at the end of the input. -/
theorem ends_accept_semicolon {f : Nat → Bool → Procedure β} {o : Outcome Token Fault β}
    (ht : t.At ts rest d) (h : EndsStatement (headKind rest))
    (hf : ∀ found (u : Track), u.At ts (rest.drop 1) d →
      Ends ts e u o fun fuel => f fuel found) :
    Ends ts e t o fun fuel => accept (stream ts) (.symbol .semicolon) >>= f fuel := by
  cases rest with
  | nil => exact .look (runOn_accept_of_ne ht (by simp)) (hf false t ht)
  | cons k rest =>
    have hk : k.kind = .symbol .semicolon := by simpa [EndsStatement] using h
    exact .after (runOn_accept_of_kind ht hk) (ht.leads_moved _) (hf true _ ht.moved_next)

theorem ends_resync (ht : t.At ts rest d) :
    Ends ts d t (.ok () (Script.resync rest)) (resync (stream ts)) := by
  obtain ⟨hends, hkind⟩ := ends_skipToSemicolon ht
  refine hends.bind_ok fun u hu => ends_accept_semicolon hu hkind fun _ _ hv => ?_
  exact .here rfl hv

/-! ## One statement -/

/-- The end of the token in front. -/
theorem runOn_endBefore (s : Script) (ht : t.At s.scan.tokens rest d) :
    (endBefore s.scan).runOn t = some (.ok (s.endBefore rest), t) := by
  have hpos : s.scan.tokens.length - rest.length = t.now.pos := by
    have := ht.pos_add
    omega
  rw [endBefore, runOn_bind_ok (runOn_counters t), Script.endBefore, Script.lastBefore?, hpos,
    List.getLast?_take]
  by_cases hzero : t.now.pos = 0
  · rw [if_pos hzero, if_pos hzero]
    rfl
  · rw [if_neg hzero, if_neg hzero, runOn_bind_ok (runOn_previous ht)]
    have hlt : t.now.pos - 1 < s.scan.tokens.length := by
      have := ht.inside.pos_le
      omega
    rw [List.getElem?_eq_getElem hlt]
    rfl

/-- A statement with its text, which goes up to where the statement has ended. -/
def withText (s : Script) (before : List Token) :
    Outcome Token Fault Statement → Outcome Token Fault Parsed
  | .ok statement rest => .ok (s.parsed statement before rest) rest
  | .fail fault rest => .fail fault rest

/-- A statement is complete in front of a semicolon or at the end of the input. -/
theorem run_closedStatement (safe : Bool) (head : Token) (rest : List Token) :
    (Script.closedStatement safe head).run rest =
      match (Grammar.statement safe head).run rest with
      | .ok statement mid =>
        if headKind mid = none ∨ headKind mid = some (.symbol .semicolon) then .ok statement mid
        else .fail (.unexpected .statementEnd mid.head?) mid
      | .fail fault mid => .fail fault mid := by
  rw [Script.closedStatement, Parser.run_bind]
  cases (Grammar.statement safe head).run rest with
  | fail fault mid => rfl
  | ok statement mid =>
    cases mid with
    | nil => rfl
    | cons k mid =>
      simp only [run_bind_ok (run_peekKind _), headKind_cons]
      by_cases hk : k.kind = .symbol .semicolon <;> simp [hk]

theorem endsStatement_of_run {head : Token} {statement : Statement}
    (hrun : (Script.closedStatement safe head).run rest = .ok statement mid) :
    EndsStatement (headKind mid) := by
  rw [run_closedStatement] at hrun
  split at hrun
  · split at hrun
    · next h =>
      obtain ⟨-, rfl⟩ := Outcome.ok.inj hrun
      exact h
    · cases hrun
  · cases hrun

theorem ends_closedStatement (safe : Bool) (s : Script) {head : Token}
    (ht : t.At s.scan.tokens (head :: rest) 0) :
    Ends s.scan.tokens 0 t
      (withText s (head :: rest) ((Script.closedStatement safe head).run rest))
      fun fuel => closedStatement s.scan safe fuel (s.endBefore (head :: rest))
        (s.startOf (head :: rest)) := by
  obtain ⟨o, -, ho, hends⟩ := endsAs_statement safe ht
  rw [run_closedStatement, ← ho rfl]
  cases o with
  | fail fault mid =>
    obtain ⟨u, hrun, hu, hlead⟩ := hends
    exact ⟨u, hrun.bind_error, hu, hlead⟩
  | ok statement mid =>
    refine hends.bind_ok fun u hu => .look (runOn_peekKind hu) ?_
    simp only
    by_cases hend : headKind mid = none ∨ headKind mid = some (.symbol .semicolon)
    · simp only [if_pos hend]
      exact .look (runOn_endBefore s hu) (.look (runOn_peek hu) (.here rfl hu))
    · simp only [if_neg hend]
      exact .here (runOn_complain hu _) hu

/-- Going on behind a statement, past its semicolon or past the next one. -/
theorem ends_goOn (safe : Bool) (s : Script) {head : Token}
    (ht : t.At s.scan.tokens (head :: rest) 0) :
    Ends s.scan.tokens 0 t
      (.ok (s.reported (head :: rest) ((Script.closedStatement safe head).run rest))
        (Script.onward ((Script.closedStatement safe head).run rest)))
      fun fuel => settle (closedStatement s.scan safe fuel (s.endBefore (head :: rest))
        (s.startOf (head :: rest))) (goOn s.scan fuel) := by
  obtain ⟨u, hrun, hu, hlead⟩ := ends_closedStatement safe s ht
  cases hread : (Script.closedStatement safe head).run rest with
  | ok statement mid =>
    rw [hread] at hrun hu
    refine .settle hrun hlead ?_
    exact ends_accept_semicolon hu (endsStatement_of_run hread) fun _ _ hv => .here rfl hv
  | fail fault mid =>
    rw [hread] at hrun hu
    exact .settle hrun hlead ((ends_resync hu).bind_ok fun _ hv => .here rfl hv)

theorem reported_ne_done (s : Script) (before : List Token) (o : Outcome Token Fault Statement) :
    s.reported before o ≠ .done := by
  cases o <;> simp [Script.reported]

/-- **The next statement is read as a script reads it.** -/
theorem ends_nextStatement (safe : Bool) (s : Script) (ht : t.At s.scan.tokens s.rest d) :
    Ends s.scan.tokens (if (s.step safe).1 = .done then d else 0) t
      (.ok (s.step safe).1 (s.step safe).2.rest) (nextStatement s.scan safe) := by
  refine (ends_skipSemicolons ht).bind_ok fun u hu => .look (runOn_peek hu) ?_
  cases hrest : s.rest.dropWhile Script.isSemicolon with
  | nil =>
    rw [Script.step_eq_done safe hrest]
    rw [hrest] at hu
    exact .here rfl hu
  | cons head rest =>
    rw [hrest] at hu
    have hout : (u.moved { u.now with depth := 0 }).At s.scan.tokens (head :: rest) 0 :=
      hu.moved_depth (Nat.zero_le _)
    rw [Script.step_eq safe hrest, if_neg (reported_ne_done s _ _)]
    refine .look (runOn_endBefore s hu) (.look (runOn_peek hu) ?_)
    exact .after (runOn_move _ u) (hu.leads_moved _) (ends_goOn safe s hout)

theorem scan_step (safe : Bool) (s : Script) : (s.step safe).2.scan = s.scan := by
  cases hrest : s.rest.dropWhile Script.isSemicolon with
  | nil => rw [Script.step_eq_done safe hrest]; rfl
  | cons head rest => rw [Script.step_eq safe hrest]; rfl

theorem rest_step_of_done {s : Script} (h : (s.step safe).1 = .done) :
    (s.step safe).2.rest = [] := by
  cases hrest : s.rest.dropWhile Script.isSemicolon with
  | nil => rw [Script.step_eq_done safe hrest]; rfl
  | cons head rest =>
    rw [Script.step_eq safe hrest] at h
    exact absurd h (reported_ne_done s _ _)

/-- **Reading statement after statement ends,** and there are no more results than tokens. -/
theorem ends_results (safe : Nat → Bool) (i : Nat) (s : Script) (ht : t.At s.scan.tokens s.rest d) :
    ∃ steps e, .done ∉ steps ∧ steps.length ≤ s.rest.length ∧
      Ends s.scan.tokens e t (.ok steps []) fun fuel => results s.scan safe fuel i := by
  induction hlen : s.rest.length using Nat.strongRecOn generalizing s i d t with
  | _ len ih =>
    obtain ⟨u, hrun, hu, hlead⟩ := ends_nextStatement (safe i) s ht
    by_cases hdone : (s.step (safe i)).1 = .done
    · rw [rest_step_of_done hdone, if_pos hdone] at hu
      refine ⟨[], d, by simp, Nat.zero_le _, .succ (.behind hrun hlead ?_)⟩
      simp only [if_pos hdone]
      exact .here rfl hu
    · have hlt : (s.step (safe i)).2.rest.length < len := hlen ▸ Script.length_rest_step rfl hdone
      rw [← scan_step (safe i) s] at hu
      obtain ⟨steps, e, hsteps, hle, hends⟩ := ih _ hlt (i + 1) _ hu rfl
      rw [scan_step] at hends
      refine ⟨(s.step (safe i)).1 :: steps, e, ?_, Nat.succ_le_of_lt (hle.trans_lt hlt), ?_⟩
      · simpa using ⟨Ne.symm hdone, hsteps⟩
      · refine .succ (.behind hrun hlead ?_)
        simp only [if_neg hdone]
        exact hends.bind_ok fun _ hv => .here rfl hv

/-! ## What a reader keeps -/

/--
From `t` a procedure with enough fuel ends as an outcome says: with a value or with a fault, at the
tokens that are left. It is back at its level, the counters have been inside at every moment, and
after a success the reader has moved on.
-/
def Returns (ts : List Token) (t : Track) (m : Nat → Procedure α) (o : Outcome Token Fault α) :
    Prop :=
  ∃ u : Track, Gives m t o.result u ∧ u.now.pos + o.rest.length = ts.length ∧
    u.now.depth = t.now.depth ∧ u.now.Inside ts ∧ t.Leads ts u ∧
    ∀ a rest, o = .ok a rest → t.now.pos < u.now.pos

theorem Ends.returns {m : Nat → Procedure α} {o : Outcome Token Fault α}
    (ht : t.At ts rest t.now.depth) (h : Ends ts t.now.depth t o m)
    (hok : ∀ a mid, o = .ok a mid → mid.length < rest.length) : Returns ts t m o := by
  obtain ⟨u, hrun, hu, hlead⟩ := h
  refine ⟨u, hrun, hu.pos_add, hu.depth_eq, hu.inside, hlead, fun a mid ho => ?_⟩
  have hlt := hok a mid ho
  have hpos := hu.pos_add
  have hpos' := ht.pos_add
  rw [ho, Outcome.rest] at hpos
  omega

theorem Simulates.returns {m : Nat → Procedure α} {p : Phrase α} (ht : t.At ts rest t.now.depth)
    (h : Simulates True ts t.now.depth m p)
    (hok : ∀ a mid, p.run rest = .ok a mid → mid.length < rest.length) :
    Returns ts t m (p.run rest) := by
  obtain ⟨o, -, ho, hends⟩ := h rest t ht
  rw [ho trivial] at hends
  exact hends.returns ht hok

/-- What holds of a reader of a scanned text from `t` on. Safe input may change with every
statement. -/
structure KeepsCounters (scan : Scan) (t : Track) : Prop where
  expression (safe : Bool) :
    Returns scan.tokens t (expression (stream scan.tokens) safe)
      ((expressionIn safe (nestingLimit - t.now.depth)).run (scan.tokens.drop t.now.pos))
  number (safe : Bool) :
    Returns scan.tokens t (number (stream scan.tokens) safe)
      ((numeral safe (nestingLimit - t.now.depth)).run (scan.tokens.drop t.now.pos))
  condition (safe : Bool) :
    Returns scan.tokens t (condition (stream scan.tokens) safe)
      ((conditionIn safe (nestingLimit - t.now.depth)).run (scan.tokens.drop t.now.pos))
  /-- A statement is read where there is a token. -/
  statement (safe : Bool) (head : Token) (rest : List Token)
    (h : scan.tokens.drop t.now.pos = head :: rest) :
    ∃ o, Returns scan.tokens t (statement (stream scan.tokens) safe) o ∧
      (t.now.depth = 0 → o = (Grammar.statement safe head).run rest)
  /-- The next statement is read as a script does that has the same tokens left, and the reader
  moves on unless there is none. -/
  next (safe : Bool) (s : Script) (hscan : s.scan = scan)
    (hrest : s.rest = scan.tokens.drop t.now.pos) :
    ∃ u : Track, Gives (nextStatement scan safe) t (.ok (s.step safe).1) u ∧
      u.now.pos + (s.step safe).2.rest.length = scan.tokens.length ∧
      u.now.Inside scan.tokens ∧ t.Leads scan.tokens u ∧
      ((s.step safe).1 ≠ .done → t.now.pos < u.now.pos)
  /-- There are no more results than tokens, and the reader ends at the mark. -/
  results (safe : Nat → Bool) :
    ∃ (steps : List Script.Step) (u : Track),
      Gives (fun fuel => results scan safe fuel 0) t (.ok steps) u ∧ .done ∉ steps ∧
      t.now.pos + steps.length ≤ scan.tokens.length ∧ u.now.pos = scan.tokens.length ∧
      u.now.Inside scan.tokens ∧ t.Leads scan.tokens u

/--
**Reading in place ends, comes back to its level and stays inside the array,** wherever it starts
and whether it succeeds or not. Numbers, expressions and conditions are read as the grammar reads
them with the room that is left, and a success moves the reader on. Every statement moves it on too,
so after at most as many statements as there are tokens left there is no next one.
-/
theorem keepsCounters_of_inside (scan : Scan) (t : Track) (h : t.now.Inside scan.tokens) :
    KeepsCounters scan t := by
  have ht := Track.at_of_inside h
  constructor
  · intro safe
    exact (simulates_expression t.now.depth).returns ht fun _ _ => length_lt_of_run_expressionIn
  · intro safe
    exact (simulates_number t.now.depth).returns ht fun _ _ => length_lt_of_run_numeral
  · intro safe
    exact (simulates_condition t.now.depth).returns ht fun _ _ => length_lt_of_run_conditionIn
  · intro safe head rest hrest
    rw [hrest] at ht
    obtain ⟨o, hsuffix, ho, hends⟩ := endsAs_statement safe ht
    refine ⟨o, hends.returns ht fun a mid hok => ?_, ho⟩
    rw [hok] at hsuffix
    exact Nat.lt_succ_of_le hsuffix.length_le
  · rintro safe s rfl hrest
    rw [← hrest] at ht
    obtain ⟨u, hrun, hu, hlead⟩ := ends_nextStatement safe s ht
    refine ⟨u, hrun, hu.pos_add, hu.inside, hlead, fun hdone => ?_⟩
    have hlt : (s.step safe).2.rest.length < s.rest.length := Script.length_rest_step rfl hdone
    have hpos := ht.pos_add
    have hpos' := hu.pos_add
    rw [Outcome.rest] at hpos'
    omega
  · intro safe
    obtain ⟨steps, e, hdone, hle, u, hrun, hu, hlead⟩ :=
      ends_results safe 0 ((Script.ofScan scan).goOn (scan.tokens.drop t.now.pos)) ht
    refine ⟨steps, u, hrun, hdone, ?_, ?_, hu.inside, hlead⟩
    · have hpos := ht.pos_add
      rw [Script.rest_goOn] at hle
      omega
    · exact hu.pos_add

def nestedGroups : Scan := Scan.ofText "forall (((x < 1)))"

/-- Three groups reach the limit from depth 125. None of them is an expression, so each is read
again. -/
theorem keepsCounters_of_inside_nestedGroups :
    (⟨1, 125⟩ : Counters).Inside nestedGroups.tokens ∧
      KeepsCounters nestedGroups ⟨⟨1, 125⟩, []⟩ ∧
      ∃ b u, Gives (condition (stream nestedGroups.tokens) true) ⟨⟨1, 125⟩, []⟩ (.ok b) u ∧
        u.now = ⟨10, 125⟩ := by
  have hinside : (⟨1, 125⟩ : Counters).Inside nestedGroups.tokens := ⟨by decide +kernel, by decide⟩
  have hkeeps := keepsCounters_of_inside nestedGroups ⟨⟨1, 125⟩, []⟩ hinside
  have hlength : nestedGroups.tokens.length = 10 := by decide +kernel
  have hok : ((conditionIn true 3).run (nestedGroups.tokens.drop 1)).result.isOk = true := by
    decide +kernel
  have hend : ((conditionIn true 3).run (nestedGroups.tokens.drop 1)).rest = [] := by
    decide +kernel
  refine ⟨hinside, hkeeps, ?_⟩
  obtain ⟨u, hrun, hpos, hdepth, -⟩ := hkeeps.condition true
  rw [show nestingLimit - 125 = 3 from rfl] at hrun hpos
  rw [hlength, hend] at hpos
  cases hresult : ((conditionIn true 3).run (nestedGroups.tokens.drop 1)).result with
  | error stop =>
    rw [hresult] at hok
    cases hok
  | ok b =>
    rw [hresult] at hrun
    exact ⟨b, u, hrun, congrArg₂ Counters.mk hpos hdepth⟩

end Cursor

end PaveScript
