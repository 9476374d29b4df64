import PaveScript.Proofs.Problem.Step

/-!
# Expressions under a let chain

Three calls hand over an expression together with the let chain that it was written under. Each
identifier in it stands behind some of the bindings: those of the first binding behind none, those
of the expression behind all. It has to be declared, or bound by one of the bindings before it.

* `Expr.uses` — the identifiers in their order, with the bindings before each
* `checkScoped_eq_find` — the check looks for the first one that is out of scope
* `call_underChain` — when the calls are accepted, what they report, and what they declare
-/

namespace PaveScript

/-! ## Uses of names -/

namespace Expr

/-- The identifiers of an expression under a let chain, from the first binding on and from left to
right, each with the number of bindings before it. -/
def uses (chain : List Binding) (e : Expr) : List (String × Nat) :=
  (chain.map Binding.expr ++ [e]).zipIdx.flatMap fun (d, i) => d.identifiers.map fun x => (x, i)

/-- A use of a name that is seen from outside, or that one of the bindings before it binds. -/
def Sees (seen : List String) (chain : List Binding) (u : String × Nat) : Prop :=
  u.1 ∈ seen ∨ u.1 ∈ (chain.take u.2).map Binding.name

instance (seen : List String) (chain : List Binding) (u : String × Nat) :
    Decidable (Sees seen chain u) :=
  inferInstanceAs (Decidable (_ ∨ _))

/-- `x` is the first name that is used out of scope. -/
def FirstOutOfScope (seen : List String) (chain : List Binding) (e : Expr) (x : String) : Prop :=
  ∃ before i after, e.uses chain = before ++ (x, i) :: after ∧
    (∀ u ∈ before, Sees seen chain u) ∧ ¬Sees seen chain (x, i)

/-- A use behind one more binding. -/
def behind (u : String × Nat) : String × Nat := (u.1, u.2 + 1)

variable {seen : List String} {chain : List Binding} {b : Binding} {e : Expr}

theorem uses_nil : e.uses [] = e.identifiers.map fun x => (x, 0) := by
  simp [uses]

theorem uses_cons : e.uses (b :: chain) =
    (b.expr.identifiers.map fun x => (x, 0)) ++ (e.uses chain).map behind := by
  simp only [uses, List.map_cons, List.cons_append, List.zipIdx_cons', List.flatMap_cons,
    List.flatMap_map, List.map_flatMap, List.map_map]
  rfl

theorem sees_zero {x : String} : Sees seen chain (x, 0) ↔ x ∈ seen := by
  simp [Sees]

/-- The first binding makes its name seen by what is behind it. -/
theorem sees_behind {u : String × Nat} :
    Sees seen (b :: chain) (behind u) ↔ Sees (seen ++ [b.name]) chain u := by
  simp [Sees, behind, or_assoc]

end Expr

namespace Problem

variable {p : Problem} {bound : List String} {e : Expr} {chain : List Binding}

/-! ## The check -/

/-- What is reported of the first use that is out of scope, if there is one. -/
def report : Option (String × Nat) → Except DomainError Unit
  | some u => .error (.unknownIdentifier u.1)
  | none => .ok ()

theorem report_or (u v : Option (String × Nat)) :
    report (u.or v) = report u >>= fun _ => report v := by
  cases u <;> rfl

theorem report_behind (u : Option (String × Nat)) : report (u.map Expr.behind) = report u := by
  cases u <;> rfl

theorem checkExpr_eq_find : p.checkExpr bound e =
    report ((e.identifiers.map fun x => (x, 0)).find?
      fun u => ¬Expr.Sees (p.names ++ bound) chain u) := by
  have htest : (fun x => !p.isDeclared x && !bound.contains x) =
      (fun u => decide ¬Expr.Sees (p.names ++ bound) chain u) ∘ fun x => (x, 0) := by
    funext x
    rw [Function.comp_apply, Bool.eq_iff_iff]
    simp [Expr.sees_zero, ← isDeclared_iff]
  rw [List.find?_map, ← htest, checkExpr]
  cases e.identifiers.find? fun x => !p.isDeclared x && !bound.contains x <;> rfl

/-- **The check of a let chain** finds the first use that is out of scope. -/
theorem checkScoped_eq_find : p.checkScoped bound e chain =
    report ((e.uses chain).find? fun u => ¬Expr.Sees (p.names ++ bound) chain u) := by
  induction chain generalizing bound with
  | nil => rw [checkScoped, Expr.uses_nil, checkExpr_eq_find]
  | cons b chain ih =>
    have hbehind : (fun u => decide ¬Expr.Sees (p.names ++ bound) (b :: chain) u) ∘ Expr.behind =
        fun u => decide ¬Expr.Sees (p.names ++ (bound ++ [b.name])) chain u := by
      funext u
      simp only [Function.comp_apply, Expr.sees_behind, List.append_assoc]
    rw [Expr.uses_cons, List.find?_append, report_or, ← checkExpr_eq_find, List.find?_map, hbehind,
      report_behind, ← ih, checkScoped]

theorem report_eq_error_iff {u : Option (String × Nat)} {err : DomainError} :
    report u = .error err ↔ ∃ x i, u = some (x, i) ∧ err = .unknownIdentifier x := by
  cases u with
  | none => simp [report]
  | some u => simp [report, Prod.ext_iff, eq_comm]

theorem checkScoped_eq_error_iff {err : DomainError} : p.checkScoped bound e chain = .error err ↔
    ∃ x, e.FirstOutOfScope (p.names ++ bound) chain x ∧ err = .unknownIdentifier x := by
  rw [checkScoped_eq_find, report_eq_error_iff]
  constructor
  · rintro ⟨x, i, hfind, rfl⟩
    obtain ⟨hout, before, after, huses, hbefore⟩ := List.find?_eq_some_iff_append.mp hfind
    exact ⟨x, ⟨before, i, after, huses, by simpa using hbefore, by simpa using hout⟩, rfl⟩
  · rintro ⟨x, ⟨before, i, after, huses, hbefore, hout⟩, rfl⟩
    refine ⟨x, i, List.find?_eq_some_iff_append.mpr ⟨?_, before, after, huses, ?_⟩, rfl⟩
    · simpa using hout
    · simpa using hbefore

/-! ## The calls -/

/-- The calls that hand over an expression with a let chain. -/
inductive ChainCall where
  | objective
  | differential
  | constraint (op : Comparison)

/-- The call with its arguments. -/
def ChainCall.on (e : Expr) (chain : List Binding) : ChainCall → EngineCall
  | objective => .setObjective e chain
  | differential => .setDifferential e chain
  | constraint op => .addConstraint ⟨op, e⟩ chain

/-- Such a call is answered by the check alone. -/
theorem fst_call_on (p : Problem) (c : ChainCall) :
    (p.call (c.on e chain)).1 = p.checkScoped [] e chain := by
  cases c <;>
  · simp only [ChainCall.on, call, apply]
    cases p.checkScoped [] e chain <;> rfl

theorem names_call_on (p : Problem) (c : ChainCall) :
    (p.call (c.on e chain)).2.names = p.names := by
  cases c <;>
  · simp only [ChainCall.on, call, apply]
    cases p.checkScoped [] e chain <;> rfl

/-- **An expression under a let chain** is accepted if every name in it is declared or bound before.
Otherwise the first name that is not is reported. Either way the chain declares nothing. -/
theorem call_underChain (p : Problem) (c : ChainCall) (e : Expr) (chain : List Binding) :
    ((p.call (c.on e chain)).1 = .ok () ↔ e.InScope p.names chain) ∧
      (∀ err, (p.call (c.on e chain)).1 = .error err ↔
        ∃ x, e.FirstOutOfScope p.names chain x ∧ err = .unknownIdentifier x) ∧
      ∀ x, (p.call (c.on e chain)).2.isDeclared x = p.isDeclared x := by
  have hnames : p.names ++ [] = p.names := List.append_nil _
  refine ⟨?_, ?_, ?_⟩
  · rw [fst_call_on, checkScoped_eq_ok_iff, hnames]
  · intro err
    rw [fst_call_on, checkScoped_eq_error_iff, hnames]
  · intro x
    rw [Bool.eq_iff_iff, isDeclared_iff, isDeclared_iff, names_call_on]

-- A binding does not see itself, and what it binds does not make up for that.
example : ((new {}).call (.setObjective (.ident "x") [⟨"x", .neg (.ident "x")⟩])).1 =
    .error (.unknownIdentifier "x") := rfl

end Problem

end PaveScript
