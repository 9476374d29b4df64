import PaveScript.Proofs.Problem.Step

/-!
# Calls carried out in place

`Problem.call` takes a call as a whole or leaves the problem alone. Work in place is different: it
goes through the checks one by one and changes the problem on the way, and what was changed before
a check fails stays changed. Here calls are carried out like that, and it makes no difference, since
no call changes anything before its last check. So refused calls leave no trace, and a run of calls
comes to the same as the run of those that were accepted.

* `procedure`, `perform` — a call, check by check and change by change
* `perform_eq_call` — it is all or nothing
* `refused_without_trace` — what is left of a run when the refused calls are dropped
-/

namespace PaveScript

namespace Problem

/-- A procedure that works on a problem. It may fail after it has changed something. -/
structure InPlace (α : Type) where
  run : Problem → Except DomainError α × Problem

namespace InPlace

instance : Monad InPlace where
  pure a := ⟨fun p => (.ok a, p)⟩
  bind m f := ⟨fun p =>
    match m.run p with
    | (.ok a, q) => (f a).run q
    | (.error e, q) => (.error e, q)⟩

/-- Looks at the problem, and fails if it does not pass. -/
def check {α : Type} (test : Problem → Except DomainError α) : InPlace α :=
  ⟨fun p => (test p, p)⟩

/-- Fails unless the problem has a property. -/
def require (holds : Problem → Bool) (e : DomainError) : InPlace Unit :=
  check fun p => if holds p then .ok () else .error e

/-- Changes the problem. -/
def change (update : Problem → Problem) : InPlace Unit :=
  ⟨fun p => (.ok (), update p)⟩

end InPlace

open InPlace in
/-- How a call is carried out. -/
def procedure : EngineCall → InPlace Unit
  | .declareVariable x interval kind => do
    check (·.checkFresh x)
    check (·.checkExpr [] interval.lower)
    check (·.checkExpr [] interval.upper)
    check fun _ => checkInterval x interval
    change fun p => { p with declarations := p.declarations ++ [⟨x, kind, interval⟩] }
  | .declareConstant x value => do
    check (·.checkFresh x)
    change fun p => { p with constants := p.constants ++ [(x, value)] }
  | .define x expr => do
    check (·.checkFresh x)
    check (·.checkExpr [] expr)
    change fun p => { p with definitions := p.definitions ++ [(x, expr)] }
  | .setObjective expr chain => do
    check (·.checkScoped [] expr chain)
    change fun p => { p with objective := some ⟨expr, chain⟩ }
  | .setDifferential expr chain => do
    check (·.checkScoped [] expr chain)
    change fun p => { p with differentials := p.differentials ++ [⟨expr, chain⟩] }
  | .addConstraint constraint chain => do
    check (·.checkScoped [] constraint.expr chain)
    change fun p => { p with constraints := p.constraints ++ [⟨constraint, chain⟩] }
  | .setPrecision (.literal l) => do
    let precision ← check fun _ => integerFor .precision l
    change fun p => { p with settings.precision := precision }
  | .setPrecision value => check fun _ => .error (.notInteger .precision value)
  | .setResolution value => do
    let resolution ← check fun _ => nonNegativeFor .resolution value
    change fun p => { p with settings.resolution := resolution }
  | .setVariableResolution x value => do
    require (·.hasVariable x) (.undeclaredResolution x)
    let resolution ← check fun _ => nonNegativeFor .resolution value
    change fun p => { p with resolutions := setEntry x resolution p.resolutions }
  | .setGranularity value => do
    let granularity ← check fun _ => nonNegativeFor .granularity value
    change fun p => { p with settings.granularity := granularity }
  | .setDepth value => do
    let depth ← check fun _ => integerFor .depth value
    require (fun _ => 0 ≤ depth) (.negative .depth (.integer depth))
    change fun p => { p with settings.depth := depth }
  | .setVarSelect value => do
    let varSelect ← check fun _ => integerFor .varSelect value
    change fun p => { p with settings.varSelect := varSelect }
  | .setBp value => change fun p => { p with settings.bp := value }
  | .setSafeInput value => change fun p => { p with settings.safeInput := value }
  | .setDebug value => change fun p => { p with settings.debug := value }
  | .setName x => change fun p => { p with name := x }
  | .setOutput file => change fun p => { p with settings.output := file }
  | .setPavingMode mode => change fun p => { p with settings.pavingMode := mode }
  | .pave => do
    check (·.checkVariables .pave)
    change fun p => { p with requests := p.requests ++ [.pave] }
  | .bifurcation equilibrium => do
    let task := if equilibrium then .equilibrium else .bifurcation
    check (·.checkVariables task)
    require (fun p => !p.differentials.isEmpty) (.noDifferentials task)
    change fun p => { p with requests := p.requests ++ [.bifurcation equilibrium] }
  | .minMax mode => do
    check (·.checkVariables .minMax)
    require (·.objective.isSome) .noObjective
    change fun p => { p with requests := p.requests ++ [.minMax mode] }
  | .savePaving x =>
    change fun p => if p.pavings.contains x then p else { p with pavings := p.pavings ++ [x] }
  | .loadPaving x => require (·.pavings.contains x) (.unknownPaving x)
  | .plot x axes => do
    forM axes.names fun axis => require (·.hasVariable axis) (.unknownAxis axis)
    change fun p => { p with requests := p.requests ++ [.plot x axes] }
  | .reset => change fun p => new p.defaults

/-- Carries out a call in place. -/
def perform (c : EngineCall) (p : Problem) : Except DomainError Unit × Problem :=
  (procedure c).run p

/-! ## All or nothing -/

/-- What a call comes to that was taken or refused as a whole. -/
def settle (p : Problem) : Except DomainError Problem → Except DomainError Unit × Problem
  | .ok q => (.ok (), q)
  | .error e => (.error e, p)

theorem call_eq_settle (c : EngineCall) (p : Problem) : p.call c = settle p (p.apply c) := by
  unfold call
  cases p.apply c <;> rfl

section

open InPlace

variable {α : Type} {p : Problem}

/-- A failed check changes nothing, so it is enough to look at what comes behind it. -/
theorem run_check_then {test : Problem → Except DomainError α} {f : α → InPlace Unit}
    {g : α → Except DomainError Problem} (h : ∀ a, (f a).run p = settle p (g a)) :
    (check test >>= f).run p = settle p (test p >>= g) := by
  simp only [bind, check]
  cases test p with
  | ok a => exact h a
  | error e => rfl

theorem run_require (holds : Problem → Bool) (e : DomainError) (p : Problem) :
    (require holds e).run p = (if holds p then .ok () else .error e, p) := rfl

/-- A requirement on the way is the opposite of a guard. -/
theorem run_require_then {holds : Problem → Bool} {e : DomainError} {f : Unit → InPlace Unit}
    {P : Prop} [Decidable P] {g : Unit → Except DomainError Problem} (hP : holds p = !decide P)
    (h : (f ()).run p = settle p (g ())) :
    (require holds e >>= f).run p = settle p (if P then throw e >>= g else g ()) := by
  simp only [bind, run_require, hP]
  by_cases hguard : P
  · simp only [hguard]
    rfl
  · simpa [hguard] using h

/-- Axis by axis, the first one that is no variable is the one that is found. -/
theorem run_forM_require (p : Problem) (axes : List String) :
    (forM axes fun axis => require (·.hasVariable axis) (.unknownAxis axis)).run p =
      (match axes.find? fun axis => !p.hasVariable axis with
        | some axis => .error (.unknownAxis axis)
        | none => .ok (), p) := by
  induction axes with
  | nil => rfl
  | cons axis axes ih =>
    rw [List.forM_cons]
    simp only [bind, run_require, List.find?_cons]
    cases hp : p.hasVariable axis with
    | true => exact ih
    | false => rfl

end

/-- **A call that is carried out in place is all or nothing.** -/
theorem perform_eq_call : perform = call := by
  funext c p
  rw [call_eq_settle, perform]
  cases c with
  | declareVariable x i kind =>
    exact run_check_then fun _ => run_check_then fun _ => run_check_then fun _ =>
      run_check_then fun _ => rfl
  | define x e => exact run_check_then fun _ => run_check_then fun _ => rfl
  | setPrecision n =>
    cases n with
    | literal l => exact run_check_then fun _ => rfl
    | _ => rfl
  | setVariableResolution x l =>
    rw [apply, ← ite_not]
    exact run_require_then (by simp) (run_check_then fun _ => rfl)
  | setDepth l =>
    refine run_check_then fun depth => run_require_then ?_ rfl
    rw [← decide_not]
    exact decide_eq_decide.mpr Int.not_lt.symm
  | bifurcation equilibrium =>
    refine run_check_then fun _ => run_require_then ?_ rfl
    cases p.differentials <;> rfl
  | minMax mode =>
    refine run_check_then fun _ => run_require_then ?_ rfl
    cases p.objective <;> rfl
  | loadPaving x =>
    simp only [procedure, apply, run_require]
    split <;> rfl
  | plot x axes =>
    simp only [procedure, apply, bind, run_forM_require]
    cases axes.names.find? fun axis => !p.hasVariable axis <;> rfl
  | declareConstant | setObjective | setDifferential | addConstraint | setResolution
  | setGranularity | setVarSelect | pave => exact run_check_then fun _ => rfl
  | _ => rfl

-- Not every procedure is: here a change comes before a check, and it stays.
example (p : Problem) :
    ((do InPlace.change ({ · with name := "disc" })
         InPlace.require (fun _ => false) .noObjective : InPlace Unit).run p) =
      (.error .noObjective, { p with name := "disc" }) := rfl

/-! ## Runs -/

/-- Makes calls in a row, one way or the other, with the answer to each. -/
def runCalls (make : EngineCall → Problem → Except DomainError Unit × Problem) :
    List EngineCall → Problem → List (Except DomainError Unit) × Problem
  | [], p => ([], p)
  | c :: calls, p =>
    let (answer, q) := make c p
    let (answers, r) := runCalls make calls q
    (answer :: answers, r)

/-- The calls that were answered with success. -/
def accepted (calls : List EngineCall) (answers : List (Except DomainError Unit)) :
    List EngineCall :=
  ((calls.zip answers).filter fun t => t.2.isOk).map Prod.fst

section

variable {p q : Problem} {c : EngineCall}

theorem runCalls_cons_of_ok (calls : List EngineCall) (h : p.call c = (.ok (), q)) :
    runCalls call (c :: calls) p =
      (.ok () :: (runCalls call calls q).1, (runCalls call calls q).2) := by
  rw [runCalls, h]

theorem runCalls_cons_of_error {e : DomainError} (calls : List EngineCall)
    (h : p.call c = (.error e, q)) :
    runCalls call (c :: calls) p =
      (.error e :: (runCalls call calls p).1, (runCalls call calls p).2) := by
  rw [runCalls, h, call_of_error h]

end

/-- From any problem on, the refused calls can be left out. -/
theorem runCalls_accepted (calls : List EngineCall) (p : Problem) :
    runCalls call (accepted calls (runCalls call calls p).1) p =
      ((accepted calls (runCalls call calls p).1).map fun _ => .ok (),
        (runCalls call calls p).2) := by
  induction calls generalizing p with
  | nil => rfl
  | cons c calls ih =>
    rcases hc : p.call c with ⟨e | u, q⟩
    · rw [runCalls_cons_of_error calls hc]
      exact ih p
    · -- an accepted call comes first in both runs and leads both to the same problem
      have hkept (answers) :
          accepted (c :: calls) (.ok () :: answers) = c :: accepted calls answers := rfl
      rw [runCalls_cons_of_ok calls hc, hkept, runCalls_cons_of_ok _ hc, ih q]
      rfl

/-- **Refused calls leave no trace:** of any calls that are carried out on an empty problem, those
that were accepted are all accepted again when they are made alone, and lead to the same problem. -/
theorem refused_without_trace (defaults : Settings) (calls : List EngineCall) :
    let run := runCalls perform calls (new defaults)
    let kept := accepted calls run.1
    runCalls perform kept (new defaults) = (kept.map fun _ => .ok (), run.2) ∧
      run = runCalls call calls (new defaults) := by
  rw [perform_eq_call]
  exact ⟨runCalls_accepted calls (new defaults), rfl⟩

end Problem

end PaveScript
