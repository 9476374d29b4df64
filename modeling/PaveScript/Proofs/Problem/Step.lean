import PaveScript.Problem

/-!
# What a call makes of a problem

`Takes p c q` lists what an accepted call can make of a problem, with what was checked on the way.
Everything that stays true of a problem, whatever it is told, is proved along it.

* `names` — the declared names
* `Expr.InScope` — the scopes of an expression under a let chain
* `takes_of_apply` — an accepted call is one of the list
-/

namespace PaveScript

/-! ## Scopes -/

/--
An expression under a let chain, where some names are seen from outside. A binding sees the names
bound before it, and the expression sees all of them.
-/
structure Expr.InScope (seen : List String) (chain : List Binding) (e : Expr) : Prop where
  binding : ∀ before b after, chain = before ++ b :: after →
    ∀ x ∈ b.expr.identifiers, x ∈ seen ∨ x ∈ before.map Binding.name
  value : ∀ x ∈ e.identifiers, x ∈ seen ∨ x ∈ chain.map Binding.name

namespace Expr.InScope

variable {seen seen' : List String} {chain : List Binding} {b : Binding} {e : Expr}

theorem nil_iff : e.InScope seen [] ↔ ∀ x ∈ e.identifiers, x ∈ seen := by
  constructor
  · intro h x hx
    rcases h.value x hx with hx | hx
    · exact hx
    · cases hx
  · intro h
    refine ⟨?_, fun x hx => .inl (h x hx)⟩
    intro before b after hchain
    simp at hchain

/-- The name of the first binding is seen by the others. -/
theorem cons_iff : e.InScope seen (b :: chain) ↔
    (∀ x ∈ b.expr.identifiers, x ∈ seen) ∧ e.InScope (seen ++ [b.name]) chain := by
  constructor
  · intro h
    refine ⟨?_, ?_, ?_⟩
    · intro x hx
      rcases h.binding [] b chain rfl x hx with hx | hx
      · exact hx
      · cases hx
    · rintro before d after rfl x hx
      have hsees := h.binding (b :: before) d after rfl x hx
      simpa [or_assoc] using hsees
    · intro x hx
      simpa [or_assoc] using h.value x hx
  · rintro ⟨hfirst, hbinding, hvalue⟩
    refine ⟨?_, ?_⟩
    · rintro (_ | ⟨d, before⟩) c after hchain x hx
      · obtain ⟨rfl, -⟩ := List.cons.inj hchain
        exact .inl (hfirst x hx)
      · obtain ⟨rfl, rfl⟩ := List.cons.inj hchain
        simpa [or_assoc] using hbinding before c after rfl x hx
    · intro x hx
      simpa [or_assoc] using hvalue x hx

/-- More names can be seen. -/
theorem mono (h : e.InScope seen chain) (hseen : ∀ x ∈ seen, x ∈ seen') :
    e.InScope seen' chain :=
  ⟨fun before b after hchain x hx => (h.binding before b after hchain x hx).imp_left (hseen x),
    fun x hx => (h.value x hx).imp_left (hseen x)⟩

end Expr.InScope

/-- An interval between two literals that is not the wrong way round. -/
def Interval.NotReversed (i : Interval) : Prop :=
  ∀ lower upper, i.lower.literalValue? = some lower → i.upper.literalValue? = some upper →
    upper.lt lower = false

namespace Problem

/-- The declared names: variables and parameters, constants, definitions. -/
def names (p : Problem) : List String :=
  p.declarations.map Variable.name ++ p.constants.map Prod.fst ++ p.definitions.map Prod.fst

theorem isDeclared_iff {p : Problem} {x : String} : p.isDeclared x = true ↔ x ∈ p.names := by
  simp [isDeclared, hasVariable, names, or_assoc]

/-! ## Checks -/

theorem bind_eq_ok {ε α β : Type} {x : Except ε α} {f : α → Except ε β} {b : β} :
    x >>= f = .ok b ↔ ∃ a, x = .ok a ∧ f a = .ok b := by
  cases x with
  | error e => simp [bind, Except.bind]
  | ok a => simp [bind, Except.bind]

variable {p q : Problem} {x : String} {e : Expr} {i : Interval} {u : Unit}

/-- An accepted call has passed its guards. -/
theorem ok_of_guard {P : Prop} [Decidable P] {error : DomainError}
    {f : Unit → Except DomainError Problem} (h : (if P then throw error >>= f else f ()) = .ok q) :
    ¬P ∧ f () = .ok q := by
  split at h
  · cases h
  · next hP => exact ⟨hP, h⟩

theorem checkFresh_eq_ok_iff : p.checkFresh x = .ok u ↔ x ∉ p.names := by
  rw [← isDeclared_iff, checkFresh]
  split <;> simp_all

theorem checkExpr_eq_ok_iff {bound : List String} :
    p.checkExpr bound e = .ok u ↔ ∀ y ∈ e.identifiers, y ∈ p.names ++ bound := by
  have hfind : (e.identifiers.find? fun y => !p.isDeclared y && !bound.contains y) = none ↔
      ∀ y ∈ e.identifiers, y ∈ p.names ++ bound := by
    simp only [List.find?_eq_none, List.mem_append, ← isDeclared_iff]
    refine forall₂_congr fun y _ => ?_
    cases hy : p.isDeclared y <;> simp
  rw [← hfind, checkExpr]
  split <;> simp_all

/-- **The check of a let chain is exact.** -/
theorem checkScoped_eq_ok_iff {bound : List String} {chain : List Binding} :
    p.checkScoped bound e chain = .ok u ↔ e.InScope (p.names ++ bound) chain := by
  induction chain generalizing bound with
  | nil => rw [checkScoped, checkExpr_eq_ok_iff, Expr.InScope.nil_iff]
  | cons b chain ih =>
    rw [checkScoped, bind_eq_ok, Expr.InScope.cons_iff, List.append_assoc, ← ih]
    simp only [checkExpr_eq_ok_iff, exists_and_left, exists_const]

theorem notReversed_of_check (h : checkInterval x i = .ok u) : i.NotReversed := by
  intro lower upper hlower hupper
  rw [checkInterval, hlower, hupper] at h
  cases hlt : upper.lt lower with
  | false => rfl
  | true => simp [hlt] at h

theorem exists_var_of_check {task : SolverTask} (h : p.checkVariables task = .ok u) :
    ∃ v ∈ p.declarations, v.kind = .var := by
  unfold checkVariables at h
  split at h
  · next hany => simpa using hany
  · cases h

/-! ## Calls -/

/-- The requests that a problem is complete enough for. -/
def Supports (p : Problem) : SolverRequest → Prop
  | .pave => ∃ v ∈ p.declarations, v.kind = .var
  | .bifurcation _ => (∃ v ∈ p.declarations, v.kind = .var) ∧ p.differentials ≠ []
  | .minMax _ => (∃ v ∈ p.declarations, v.kind = .var) ∧ p.objective ≠ none
  | .plot _ axes => ∀ axis ∈ axes.names, p.hasVariable axis = true

/-- What an accepted call makes of a problem. -/
inductive Takes (p : Problem) : EngineCall → Problem → Prop
  | declareVariable {x : String} {i : Interval} {kind : VarKind} (fresh : x ∉ p.names)
      (lower : ∀ y ∈ i.lower.identifiers, y ∈ p.names)
      (upper : ∀ y ∈ i.upper.identifiers, y ∈ p.names) (bounds : i.NotReversed) :
      Takes p (.declareVariable x i kind)
        { p with declarations := p.declarations ++ [⟨x, kind, i⟩] }
  | declareConstant {x : String} {n : Numeral} (fresh : x ∉ p.names) :
      Takes p (.declareConstant x n) { p with constants := p.constants ++ [(x, n)] }
  | define {x : String} {e : Expr} (fresh : x ∉ p.names)
      (body : ∀ y ∈ e.identifiers, y ∈ p.names) :
      Takes p (.define x e) { p with definitions := p.definitions ++ [(x, e)] }
  | setObjective {e : Expr} {chain : List Binding} (scope : e.InScope p.names chain) :
      Takes p (.setObjective e chain) { p with objective := some ⟨e, chain⟩ }
  | setDifferential {e : Expr} {chain : List Binding} (scope : e.InScope p.names chain) :
      Takes p (.setDifferential e chain)
        { p with differentials := p.differentials ++ [⟨e, chain⟩] }
  | addConstraint {c : Constraint} {chain : List Binding} (scope : c.expr.InScope p.names chain) :
      Takes p (.addConstraint c chain) { p with constraints := p.constraints ++ [⟨c, chain⟩] }
  /-- The depth stays as it was or is set to one that is not negative. -/
  | settings {c : EngineCall} {s : Settings} (depth : s.depth = p.settings.depth ∨ 0 ≤ s.depth) :
      Takes p c { p with settings := s }
  | setName {x : String} : Takes p (.setName x) { p with name := x }
  | setVariableResolution {x : String} {l : Literal} {r : Double}
      (declared : p.hasVariable x = true) :
      Takes p (.setVariableResolution x l) { p with resolutions := setEntry x r p.resolutions }
  | request {c : EngineCall} {r : SolverRequest} (supports : p.Supports r) :
      Takes p c { p with requests := p.requests ++ [r] }
  | savePaving {x : String} (fresh : x ∉ p.pavings) :
      Takes p (.savePaving x) { p with pavings := p.pavings ++ [x] }
  | nothing {c : EngineCall} : Takes p c p
  | reset : Takes p .reset (new p.defaults)

theorem Takes.defaults {c : EngineCall} (h : p.Takes c q) : q.defaults = p.defaults := by
  cases h <;> rfl

/-! ## Accepted calls, one by one -/

section Accepted

variable {n : Numeral} {l : Literal} {c : EngineCall} {kind : VarKind} {chain : List Binding}

theorem takes_declareVariable (h : p.apply (.declareVariable x i kind) = .ok q) :
    p.Takes (.declareVariable x i kind) q := by
  simp only [apply, bind_eq_ok, checkFresh_eq_ok_iff, checkExpr_eq_ok_iff, List.append_nil] at h
  obtain ⟨_, hfresh, _, hlower, _, hupper, _, hbounds, hq⟩ := h
  rw [← Except.ok.inj hq]
  exact .declareVariable hfresh hlower hupper (notReversed_of_check hbounds)

theorem takes_declareConstant (h : p.apply (.declareConstant x n) = .ok q) :
    p.Takes (.declareConstant x n) q := by
  simp only [apply, bind_eq_ok, checkFresh_eq_ok_iff] at h
  obtain ⟨_, hfresh, hq⟩ := h
  rw [← Except.ok.inj hq]
  exact .declareConstant hfresh

theorem takes_define (h : p.apply (.define x e) = .ok q) : p.Takes (.define x e) q := by
  simp only [apply, bind_eq_ok, checkFresh_eq_ok_iff, checkExpr_eq_ok_iff, List.append_nil] at h
  obtain ⟨_, hfresh, _, hbody, hq⟩ := h
  rw [← Except.ok.inj hq]
  exact .define hfresh hbody

/-- An expression is recorded behind the check of its let chain. -/
theorem inScope_of_record {record : Problem}
    (h : (p.checkScoped [] e chain >>= fun _ => pure record) = .ok q) :
    e.InScope p.names chain ∧ record = q := by
  simp only [bind_eq_ok, checkScoped_eq_ok_iff, List.append_nil] at h
  obtain ⟨_, hscope, hq⟩ := h
  exact ⟨hscope, Except.ok.inj hq⟩

/-- A setting other than the depth takes its value behind a check. -/
theorem takes_checked {α : Type} {check : Except DomainError α} {s : α → Settings}
    (h : (check >>= fun a => pure { p with settings := s a }) = .ok q)
    (hdepth : ∀ a, (s a).depth = p.settings.depth) : p.Takes c q := by
  obtain ⟨a, -, hq⟩ := bind_eq_ok.mp h
  rw [← Except.ok.inj hq]
  exact .settings (.inl (hdepth a))

theorem takes_setPrecision (h : p.apply (.setPrecision n) = .ok q) :
    p.Takes (.setPrecision n) q := by
  cases n with
  | literal l => exact takes_checked h fun _ => rfl
  | _ => cases h

theorem takes_setVariableResolution (h : p.apply (.setVariableResolution x l) = .ok q) :
    p.Takes (.setVariableResolution x l) q := by
  simp only [apply] at h
  split at h
  · next hx =>
    obtain ⟨r, -, hq⟩ := bind_eq_ok.mp h
    rw [← Except.ok.inj hq]
    exact .setVariableResolution hx
  · cases h

theorem takes_setDepth (h : p.apply (.setDepth l) = .ok q) : p.Takes (.setDepth l) q := by
  obtain ⟨depth, -, hrest⟩ := bind_eq_ok.mp h
  obtain ⟨hdepth, hq⟩ := ok_of_guard hrest
  rw [← Except.ok.inj hq]
  exact .settings (.inr (Int.not_lt.mp hdepth))

theorem takes_pave (h : p.apply .pave = .ok q) : p.Takes .pave q := by
  obtain ⟨_, hvar, hq⟩ := bind_eq_ok.mp h
  rw [← Except.ok.inj hq]
  exact .request (r := .pave) (exists_var_of_check hvar)

theorem takes_bifurcation {equilibrium : Bool} (h : p.apply (.bifurcation equilibrium) = .ok q) :
    p.Takes (.bifurcation equilibrium) q := by
  obtain ⟨_, hvar, hrest⟩ := bind_eq_ok.mp h
  obtain ⟨hnil, hq⟩ := ok_of_guard hrest
  rw [← Except.ok.inj hq]
  exact .request (r := .bifurcation _) ⟨exists_var_of_check hvar, by simpa using hnil⟩

theorem takes_minMax {mode : MinMaxMode} (h : p.apply (.minMax mode) = .ok q) :
    p.Takes (.minMax mode) q := by
  obtain ⟨_, hvar, hrest⟩ := bind_eq_ok.mp h
  obtain ⟨hnone, hq⟩ := ok_of_guard hrest
  rw [← Except.ok.inj hq]
  exact .request (r := .minMax _) ⟨exists_var_of_check hvar, by simpa using hnone⟩

theorem takes_savePaving (h : p.apply (.savePaving x) = .ok q) : p.Takes (.savePaving x) q := by
  rw [← Except.ok.inj h]
  split
  · exact .nothing
  · next hx => exact .savePaving (by simpa using hx)

theorem takes_loadPaving (h : p.apply (.loadPaving x) = .ok q) : p.Takes (.loadPaving x) q := by
  simp only [apply] at h
  split at h
  · rw [← Except.ok.inj h]
    exact .nothing
  · cases h

theorem takes_plot {axes : PlotAxes} (h : p.apply (.plot x axes) = .ok q) :
    p.Takes (.plot x axes) q := by
  simp only [apply] at h
  split at h
  · cases h
  · next hfind =>
    rw [← Except.ok.inj h]
    exact .request (r := .plot _ _) (by simpa [Supports] using hfind)

end Accepted

/-- **What an accepted call makes of a problem.** -/
theorem takes_of_apply {c : EngineCall} (h : p.apply c = .ok q) : p.Takes c q := by
  cases c with
  | declareVariable x i kind => exact takes_declareVariable h
  | declareConstant x n => exact takes_declareConstant h
  | define x e => exact takes_define h
  | setObjective e chain =>
    obtain ⟨hscope, rfl⟩ := inScope_of_record h
    exact .setObjective hscope
  | setDifferential e chain =>
    obtain ⟨hscope, rfl⟩ := inScope_of_record h
    exact .setDifferential hscope
  | addConstraint c chain =>
    obtain ⟨hscope, rfl⟩ := inScope_of_record h
    exact .addConstraint hscope
  | setPrecision n => exact takes_setPrecision h
  | setResolution l => exact takes_checked h fun _ => rfl
  | setVariableResolution x l => exact takes_setVariableResolution h
  | setGranularity l => exact takes_checked h fun _ => rfl
  | setDepth l => exact takes_setDepth h
  | setVarSelect l => exact takes_checked h fun _ => rfl
  | setName x => exact Except.ok.inj h ▸ .setName
  | pave => exact takes_pave h
  | bifurcation equilibrium => exact takes_bifurcation h
  | minMax mode => exact takes_minMax h
  | savePaving x => exact takes_savePaving h
  | loadPaving x => exact takes_loadPaving h
  | plot x axes => exact takes_plot h
  | reset => exact Except.ok.inj h ▸ .reset
  | _ => exact Except.ok.inj h ▸ .settings (.inl rfl)

/-- Calls in a row; those that are refused change nothing. -/
def afterCalls (p : Problem) (calls : List EngineCall) : Problem :=
  calls.foldl (fun p c => (p.call c).2) p

/-- **What every accepted call keeps is true after any calls.** -/
theorem afterCalls_induction {P : Problem → Prop} (h : P p)
    (hstep : ∀ p c q, P p → p.Takes c q → P q) (calls : List EngineCall) :
    P (p.afterCalls calls) := by
  induction calls generalizing p with
  | nil => exact h
  | cons c calls ih =>
    refine ih ?_
    show P (p.call c).2
    unfold call
    split
    · next q hq => exact hstep p c q h (takes_of_apply hq)
    · exact h

end Problem

end PaveScript
