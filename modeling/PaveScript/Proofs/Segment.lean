import PaveScript.Proofs.Grammar.Statement
import PaveScript.Proofs.SafeInput

/-!
# The next statement of a script

The semicolons cut the tokens of a script into segments. A segment is read as the statement that it
derives, whatever stands behind its semicolon, and fails if it derives none.

* `run_closedStatement_eq_ok_iff` — a segment alone
* `run_closedStatement_segment_iff` — a segment in front of a semicolon
* `step_parsed_iff` — the next statement of a script
-/

namespace PaveScript.Script

open Grammar Phrase

variable {safe : Bool} {head : Token} {ts tail rest : List Token} {statement : Statement}

theorem run_statement_of_closed
    (h : (closedStatement safe head).run ts = .ok statement rest) :
    (Grammar.statement safe head).run ts = .ok statement rest := by
  rw [closedStatement, Parser.run_bind] at h
  split at h
  · next s mid hrun =>
    rw [run_bind_ok (run_peekKind mid)] at h
    split at h
    · obtain ⟨rfl, rfl⟩ := Outcome.ok.inj h
      exact hrun
    · split at h
      · obtain ⟨rfl, rfl⟩ := Outcome.ok.inj h
        exact hrun
      · cases h
  · cases h

/-- **A segment alone is read as a statement** exactly when it derives it. -/
theorem run_closedStatement_eq_ok_iff :
    (closedStatement safe head).run ts = .ok statement [] ↔
      Within safe StatementDerives (head.kind :: ts.map Token.kind) statement := by
  constructor
  · intro h
    obtain ⟨us, hts, hfits⟩ :=
      yields_statement safe head ts statement [] (run_statement_of_closed h)
    rw [List.append_nil] at hts
    rwa [hts]
  · rintro ⟨n, hn, hd, ha⟩
    have hrun := (hd.decides safe rfl (.inl rfl) ts [] rfl rfl).1 ⟨hn, ha⟩
    rw [List.append_nil] at hrun
    rw [closedStatement, run_bind_ok hrun]
    rfl

/-- A segment in front of what ends a statement is read as it is read alone. -/
theorem run_closedStatement_segment_iff (hts : Unbroken ts)
    (htail : EndsStatement (headKind tail)) :
    (closedStatement safe head).run (ts ++ tail) = .ok statement rest ↔
      (closedStatement safe head).run ts = .ok statement [] ∧ rest = tail := by
  cases tail with
  | nil =>
    rw [List.append_nil]
    constructor
    · intro h
      obtain rfl := rest_eq_nil_of_run hts h
      exact ⟨h, rfl⟩
    · rintro ⟨h, rfl⟩
      exact h
  | cons semi more =>
    have hsemi : semi.kind = .symbol .semicolon := by simpa [EndsStatement] using htail
    by_cases h : Swallows (head :: ts)
    · -- both runs fail, with the semicolon and without it
      obtain ⟨f, g, -, -, halone, hrun⟩ := run_statement_of_swallows safe h hsemi more
      have halone' : (closedStatement safe head).run ts = .fail f [] := run_bind_fail halone
      have hrun' : (closedStatement safe head).run (ts ++ semi :: more) = .fail g more :=
        run_bind_fail hrun
      simp [halone', hrun']
    · have hext := extends_closedStatement safe h hts
        (show headKind (semi :: more) = some (.symbol .semicolon) by simp [hsemi])
      cases hrun : (closedStatement safe head).run ts with
      | ok s left =>
        obtain rfl := rest_eq_nil_of_run hts hrun
        rw [hrun] at hext
        rw [show (closedStatement safe head).run (ts ++ semi :: more) = _ from hext]
        simp [eq_comm]
      | fail f left =>
        rw [hrun] at hext
        obtain ⟨g, -, hext⟩ := hext
        simp [hext]

/-- A word within the limit of nesting derives nothing else. -/
theorem eq_of_statementDerives {n : Nat} {statement' : Statement}
    (h : Within false StatementDerives (head.kind :: ts.map Token.kind) statement)
    (h' : StatementDerives n (head.kind :: ts.map Token.kind) statement') :
    statement' = statement := by
  have hrun := run_statement_of_closed (run_closedStatement_eq_ok_iff.mpr h)
  obtain ⟨hok, hfail⟩ := h'.decides false rfl (.inl rfl) ts [] rfl rfl
  rw [List.append_nil] at hok hfail
  by_cases hfits : n ≤ nestingLimit ∧ Allowed false (head.kind :: ts.map Token.kind)
  · rw [hok hfits] at hrun
    exact (Outcome.ok.inj hrun).1
  · -- a deeper derivation would make the parser fail
    obtain ⟨f, left, hrun'⟩ := hfail hfits
    rw [hrun'] at hrun
    cases hrun

/--
**The next statement of a script is what its segment derives.** Without safe input a segment `w` in
front of a semicolon or the end of the input is read as a statement exactly when it derives that
statement without nesting deeper than the limit. Then all of `w` is consumed, the script goes on
behind the semicolon, and `w` derives nothing else.
-/
theorem step_parsed_iff (s : Script) {w : List Token} (hrest : s.rest = w ++ tail) (hne : w ≠ [])
    (hw : Unbroken w) (htail : tail = [] ∨ headKind tail = some (.symbol .semicolon)) :
    (∀ statement, (∃ p, (s.step false).1 = .parsed p ∧ p.statement = statement) ↔
      ∃ n ≤ nestingLimit, StatementDerives n (w.map Token.kind) statement) ∧
    ∀ p, (s.step false).1 = .parsed p →
      p = s.parsed p.statement (w ++ tail) tail ∧
      (s.step false).2 = { s with rest := tail.drop 1 } ∧
      ∀ n statement, StatementDerives n (w.map Token.kind) statement → statement = p.statement := by
  obtain ⟨head, ts, rfl⟩ := List.exists_cons_of_ne_nil hne
  have hhead : isSemicolon head = false := unbroken_iff.mp hw head List.mem_cons_self
  have hts : Unbroken ts := hw.of_suffix (List.suffix_cons head ts)
  have hends : EndsStatement (headKind tail) := htail.imp_left fun h => by rw [h]; rfl
  have hderives : ∀ statement,
      (∃ n ≤ nestingLimit, StatementDerives n ((head :: ts).map Token.kind) statement) ↔
        (closedStatement false head).run (ts ++ tail) = .ok statement tail := by
    intro statement
    rw [run_closedStatement_segment_iff hts hends, run_closedStatement_eq_ok_iff]
    simp [Within, Allowed]
  have hdrop : s.rest.dropWhile isSemicolon = head :: (ts ++ tail) := by
    rw [hrest, List.cons_append, List.dropWhile_cons, hhead]
    rfl
  rw [step_eq false hdrop]
  simp only [hderives]
  cases hrun : (closedStatement false head).run (ts ++ tail) with
  | ok statement rest =>
    obtain ⟨halone, rfl⟩ := (run_closedStatement_segment_iff hts hends).mp hrun
    have hfits := run_closedStatement_eq_ok_iff.mp halone
    refine ⟨fun st => ?_, ?_⟩
    · simp [reported, Script.parsed]
    · rintro p hp
      obtain rfl := Step.parsed.inj hp
      exact ⟨rfl, rfl, fun n st h => eq_of_statementDerives hfits h⟩
  | fail fault rest => simp [reported]

/-- A let chain behind an equals sign, in front of another statement. -/
theorem step_parsed_iff_chain :
    ∃ n ≤ nestingLimit, StatementDerives n
      (((ofText "cnstr = let a = 1, b = a in -b <= x; pave").rest.take 15).map Token.kind)
      (.constraint [⟨"a", .number (.literal (.integer 1))⟩, ⟨"b", .ident "a"⟩]
        ⟨.le, .binary .sub (.neg (.ident "b")) (.ident "x")⟩) := by
  have hiff := (step_parsed_iff (ofText "cnstr = let a = 1, b = a in -b <= x; pave")
    (List.take_append_drop 15 _).symm (by decide +kernel) (by unfold Unbroken; decide +kernel)
    (.inr (by decide +kernel))).1
  exact (hiff _).mp ⟨⟨_, "cnstr = let a = 1, b = a in -b <= x", false⟩, by decide +kernel, rfl⟩

end PaveScript.Script
