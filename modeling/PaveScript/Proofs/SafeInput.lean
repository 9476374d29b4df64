import PaveScript.Proofs.Grammar.Gate
import PaveScript.Proofs.Recovery

/-!
# Safe input

What safe input changes when a script is read: one statement, read with safe input on and off.

* `onward_closedStatement` — where the script goes on does not depend on safe input
* `step_safe` — a statement is refused exactly when an approximate number occurs in it
-/

namespace PaveScript

open Grammar Phrase

namespace Script

/-- Two readings of a statement up to its semicolon, the second one with safe input turned on or
not. -/
theorem gates_closedStatement_of {first safe : Bool} (hfirst : (first && safe) = false)
    {head head' : Token} (h : head.kind = head'.kind) :
    Gates safe false Statement.isApproximate (closedStatement first head)
      (closedStatement (first || safe) head') := by
  rw [closedStatement, closedStatement]
  refine (gates_statement hfirst h).bind fun s => Gates.peekKind.behind fun k => ?_
  cases k with
  | none => exact .pure (Bool.false_or _).symm
  | some k => exact .ite (.pure (Bool.false_or _).symm) .complain

/-- What safe input changes about a statement up to its semicolon. -/
theorem gates_closedStatement {safe : Bool} {head head' : Token} (h : head.kind = head'.kind) :
    Gates safe false Statement.isApproximate (closedStatement false head)
      (closedStatement safe head') :=
  gates_closedStatement_of (Bool.false_and safe) h

/-- **A statement depends on the kinds of its tokens alone:** where the tokens stand changes neither
what is read nor the kind of error. -/
theorem gated_closedStatement (safe : Bool) {head head' : Token} (h : head.kind = head'.kind)
    {ts us : List Token} (hts : Alike ts us) :
    ((closedStatement safe head).run ts).Gated false Statement.isApproximate
      ((closedStatement safe head').run us) := by
  have hgates := gates_closedStatement_of (Bool.and_false safe) h
  rw [Bool.or_false] at hgates
  exact hgates.gated rfl ts us hts

/-! ## Where the script goes on -/

/-- What is left of a script after a statement. -/
def onward : Outcome Token Fault Statement → List Token
  | .ok _ rest => rest.drop 1
  | .fail _ rest => resync rest

/-- Behind the last statement nothing is left. -/
theorem onward_of_unbroken (safe : Bool) (head : Token) {ts : List Token} (hts : Unbroken ts) :
    onward ((closedStatement safe head).run ts) = [] := by
  cases hrun : (closedStatement safe head).run ts with
  | ok statement rest =>
    rw [rest_eq_nil_of_run hts hrun]
    rfl
  | fail fault rest => exact resync_of_unbroken (hts.of_suffix (suffix_of_fail hrun))

/-- Every other statement is left behind its semicolon, or behind the next one if it swallows
that. -/
theorem onward_append (safe : Bool) {head semi : Token} {ts : List Token} (hts : Unbroken ts)
    (hsemi : isSemicolon semi = true) (more : List Token) :
    onward ((closedStatement safe head).run (ts ++ semi :: more)) =
      if Swallows (head :: ts) then resync more else more := by
  have hkind : semi.kind = .symbol .semicolon := by simpa [isSemicolon] using hsemi
  by_cases h : Swallows (head :: ts)
  · obtain ⟨f, g, -, -, -, hrun⟩ := run_statement_of_swallows safe h hkind more
    rw [if_pos h, show (closedStatement safe head).run _ = _ from run_bind_fail hrun]
    rfl
  · rw [if_neg h]
    have hext := extends_closedStatement safe h hts
      (show headKind (semi :: more) = some (.symbol .semicolon) by simp [hkind])
    cases hrun : (closedStatement safe head).run ts with
    | ok statement rest =>
      obtain rfl := rest_eq_nil_of_run hts hrun
      rw [hrun] at hext
      rw [show (closedStatement safe head).run (ts ++ semi :: more) = _ from hext]
      rfl
    | fail fault rest =>
      rw [hrun] at hext
      obtain ⟨g, -, hrun'⟩ := hext
      rw [hrun']
      exact resync_append (hts.of_suffix (suffix_of_fail hrun)) hsemi more

/-- **Where a script goes on does not depend on safe input,** even if only one of the two readings
fails. -/
theorem onward_closedStatement (safe safe' : Bool) (head : Token) (ts : List Token) :
    onward ((closedStatement safe head).run ts) = onward ((closedStatement safe' head).run ts) := by
  cases ts using segments_induction with
  | last ts hts => rw [onward_of_unbroken safe head hts, onward_of_unbroken safe' head hts]
  | step seg semi more hseg hsemi =>
    rw [onward_append safe hseg hsemi, onward_append safe' hseg hsemi]

/-! ## One step -/

/-- What a statement is reported as. -/
def reported (s : Script) (before : List Token) : Outcome Token Fault Statement → Step
  | .ok statement rest => .parsed (s.parsed statement before rest)
  | .fail fault _ => .failed (fault.error s.scan.stop)

theorem step_eq_done {s : Script} (safe : Bool) (h : s.rest.dropWhile isSemicolon = []) :
    s.step safe = (.done, s.goOn []) := by
  rw [step, h]
  rfl

theorem step_eq {s : Script} {head : Token} {ts : List Token} (safe : Bool)
    (h : s.rest.dropWhile isSemicolon = head :: ts) :
    s.step safe = (s.reported (head :: ts) ((closedStatement safe head).run ts),
      s.goOn (onward ((closedStatement safe head).run ts))) := by
  rw [step, h]
  cases hrun : (closedStatement safe head).run ts with
  | ok statement rest => simp only [hrun]; rfl
  | fail fault rest => simp only [hrun]; rfl

/-- Two runs over the same tokens that leave tokens of the same kinds leave the same ones. -/
theorem eq_of_suffix_of_alike {ts rest left : List Token} (hrest : rest <:+ ts)
    (hleft : left <:+ ts) (h : Alike rest left) : rest = left := by
  have hlen : rest.length = left.length := by simpa using congrArg List.length h
  rw [List.suffix_iff_eq_drop.mp hrest, List.suffix_iff_eq_drop.mp hleft, hlen]

/--
**Safe input refuses exactly the statements in which an approximate number occurs,** and changes
nothing else. From any point of a script both readings come to the same point. Either both find no
statement, or the reading with safe input on gives what the other one gives, unless that is a
statement with an approximate number: then it gives the error about approximate input. It never
accepts what the other one does not, so no statement with an approximate number is accepted.
-/
theorem step_safe (s : Script) :
    (s.step true).2 = (s.step false).2 ∧
    ((s.step true).1 = .done ↔ (s.step false).1 = .done) ∧
    (∀ p, (s.step false).1 = .parsed p →
      (s.step true).1 =
        if p.statement.isApproximate then .failed (.domain .approximateInput) else .parsed p) ∧
    (∀ e, (s.step false).1 = .failed e → ∃ e', (s.step true).1 = .failed e') ∧
    ∀ p, (s.step true).1 = .parsed p → p.statement.isApproximate = false := by
  cases hts : s.rest.dropWhile isSemicolon with
  | nil => simp [step_eq_done _ hts]
  | cons head ts =>
    rw [step_eq true hts, step_eq false hts]
    refine ⟨congrArg s.goOn (onward_closedStatement true false head ts), ?_⟩
    have hgates : Gates true false Statement.isApproximate (closedStatement false head)
        (closedStatement true head) := gates_closedStatement rfl
    have hgated := hgates.gated (by simp) ts ts (.refl ts)
    generalize hoff : (closedStatement false head).run ts = off,
      hon : (closedStatement true head).run ts = on at hgated
    cases hgated with
    | @ok statement rest left happrox halike =>
      obtain rfl := eq_of_suffix_of_alike (suffix_of_run hoff) (suffix_of_run hon) halike
      have hexact : statement.isApproximate = false := by simpa using happrox
      simp [reported, parsed, hexact]
    | fail hkind => simp [reported]
    | refused _ happrox =>
      cases off with
      | fail fault rest => simp [reported]
      | ok statement rest =>
        have hstatement : statement.isApproximate = true := happrox statement rest rfl
        simp [reported, parsed, hstatement, Fault.error]

end Script

end PaveScript
