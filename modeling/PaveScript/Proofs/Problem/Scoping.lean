import Mathlib.Logic.Relation
import PaveScript.Proofs.Problem.Step

/-!
# Names of a problem

Whatever a problem is told, its names are declared once, before their first use, and never in terms
of themselves.

The order in which names of different kinds were declared is not kept. It is not needed either: a
new name refers to older ones only, so nothing refers to it yet, and no circle goes through it.

* `WellScoped` — what is true of the names of a problem
* `WellScoped.declare` — one more name
* `wellScoped_afterCalls` — any calls, refused ones and resets among them
-/

namespace PaveScript

namespace Problem

/-- A bound of `x` or the definition of `x` names `y`. -/
def Refers (p : Problem) (x y : String) : Prop :=
  (∃ v ∈ p.declarations, v.name = x ∧
    (y ∈ v.interval.lower.identifiers ∨ y ∈ v.interval.upper.identifiers)) ∨
  ∃ d ∈ p.definitions, d.1 = x ∧ y ∈ d.2.identifiers

/-- What is true of the names of a problem. -/
structure WellScoped (p : Problem) : Prop where
  /-- No name is declared twice, as whatever. -/
  nodup : (p.declarations.map Variable.name ++ p.constants.map Prod.fst ++
    p.definitions.map Prod.fst).Nodup
  /-- Bounds and definitions name what is declared. -/
  declared : ∀ x y, p.Refers x y → y ∈ p.names
  /-- Nothing is declared in terms of itself, directly or through others. -/
  acyclic : ∀ x, ¬Relation.TransGen p.Refers x x
  objective : ∀ s ∈ p.objective, s.value.InScope p.names s.chain
  differentials : ∀ s ∈ p.differentials, s.value.InScope p.names s.chain
  constraints : ∀ s ∈ p.constraints, s.value.expr.InScope p.names s.chain
  bounds : ∀ v ∈ p.declarations, v.interval.NotReversed

namespace WellScoped

variable {p q : Problem} {x : String}

theorem new (defaults : Settings) : (new defaults).WellScoped := by
  have hrefers : ∀ x y, ¬(Problem.new defaults).Refers x y := by
    rintro x y (⟨v, hv, -⟩ | ⟨d, hd, -⟩)
    · cases hv
    · cases hd
  refine ⟨.nil, fun x y h => absurd h (hrefers x y), ?_, ?_, ?_, ?_, ?_⟩
  · intro x h
    obtain ⟨y, hxy, -⟩ := Relation.TransGen.head'_iff.mp h
    exact hrefers x y hxy
  all_goals
    intro s hs
    cases hs

/-- A circle with a new name in it would lead back to that name, and nothing refers to it. -/
theorem transGen_of_fresh (h : p.WellScoped) (hx : x ∉ p.names)
    (hrefers : ∀ a b, q.Refers a b → p.Refers a b ∨ a = x ∧ b ∈ p.names) {a b : String}
    (hab : Relation.TransGen q.Refers a b) (ha : a ≠ x) :
    Relation.TransGen p.Refers a b ∧ b ≠ x := by
  have hedge : ∀ a b, a ≠ x → q.Refers a b → p.Refers a b ∧ b ≠ x := by
    intro a b ha hab
    rcases hrefers a b hab with hab | ⟨rfl, -⟩
    · refine ⟨hab, ?_⟩
      rintro rfl
      exact hx (h.declared a b hab)
    · exact absurd rfl ha
  induction hab with
  | single hab => exact ⟨.single (hedge _ _ ha hab).1, (hedge _ _ ha hab).2⟩
  | tail _ hbc ih =>
    obtain ⟨hpath, hb⟩ := ih
    exact ⟨.tail hpath (hedge _ _ hb hbc).1, (hedge _ _ hb hbc).2⟩

/-- **One more name,** declared in terms of those that are there. -/
theorem declare (h : p.WellScoped) (hx : x ∉ p.names) (hnames : q.names.Perm (x :: p.names))
    (hrefers : ∀ a b, q.Refers a b → p.Refers a b ∨ a = x ∧ b ∈ p.names)
    (hbounds : ∀ v ∈ q.declarations, v.interval.NotReversed)
    (hobjective : q.objective = p.objective) (hdifferentials : q.differentials = p.differentials)
    (hconstraints : q.constraints = p.constraints) : q.WellScoped := by
  have hmem : ∀ y ∈ p.names, y ∈ q.names :=
    fun y hy => hnames.mem_iff.mpr (List.mem_cons_of_mem x hy)
  refine ⟨hnames.nodup_iff.mpr (List.nodup_cons.mpr ⟨hx, h.nodup⟩), ?_, ?_, ?_, ?_, ?_, hbounds⟩
  · intro a b hab
    rcases hrefers a b hab with hab | ⟨-, hb⟩
    · exact hmem b (h.declared a b hab)
    · exact hmem b hb
  · intro a haa
    by_cases ha : a = x
    · -- the last step of the circle refers to the new name
      subst ha
      obtain ⟨b, -, hba⟩ := Relation.TransGen.tail'_iff.mp haa
      rcases hrefers b a hba with hba | ⟨-, ha⟩
      · exact hx (h.declared b a hba)
      · exact hx ha
    · exact h.acyclic a (transGen_of_fresh h hx hrefers haa ha).1
  · rw [hobjective]
    exact fun s hs => (h.objective s hs).mono hmem
  · rw [hdifferentials]
    exact fun s hs => (h.differentials s hs).mono hmem
  · rw [hconstraints]
    exact fun s hs => (h.constraints s hs).mono hmem

/-- **An accepted call keeps the names in order.** -/
theorem step {c : EngineCall} (h : p.WellScoped) (hq : p.Takes c q) : q.WellScoped := by
  cases hq with
  | declareVariable fresh lower upper bounds =>
    refine h.declare fresh ?_ ?_ ?_ rfl rfl rfl
    · simp only [names, List.map_append, List.append_assoc]
      exact List.perm_middle
    · rintro a b (⟨v, hv, rfl, hb⟩ | hdefinition)
      · rcases List.mem_append.mp hv with hv | hv
        · exact .inl (.inl ⟨v, hv, rfl, hb⟩)
        · rw [List.mem_singleton.mp hv] at hb ⊢
          exact .inr ⟨rfl, hb.elim (lower b) (upper b)⟩
      · exact .inl (.inr hdefinition)
    · intro v hv
      rcases List.mem_append.mp hv with hv | hv
      · exact h.bounds v hv
      · rw [List.mem_singleton.mp hv]
        exact bounds
  | declareConstant fresh =>
    refine h.declare fresh ?_ (fun a b hab => .inl hab) h.bounds rfl rfl rfl
    simp only [names, List.map_append, ← List.append_assoc]
    rw [List.append_assoc]
    exact List.perm_middle
  | define fresh body =>
    refine h.declare fresh ?_ ?_ h.bounds rfl rfl rfl
    · simp only [names, List.map_append, ← List.append_assoc]
      exact List.perm_append_singleton _ _
    · rintro a b (hdeclaration | ⟨d, hd, rfl, hb⟩)
      · exact .inl (.inl hdeclaration)
      · rcases List.mem_append.mp hd with hd | hd
        · exact .inl (.inr ⟨d, hd, rfl, hb⟩)
        · rw [List.mem_singleton.mp hd] at hb ⊢
          exact .inr ⟨rfl, body b hb⟩
  | setObjective scope =>
    refine { h with objective := ?_ }
    intro s hs
    rw [← Option.some.inj hs]
    exact scope
  | setDifferential scope =>
    refine { h with differentials := ?_ }
    intro s hs
    rcases List.mem_append.mp hs with hs | hs
    · exact h.differentials s hs
    · rw [List.mem_singleton.mp hs]
      exact scope
  | addConstraint scope =>
    refine { h with constraints := ?_ }
    intro s hs
    rcases List.mem_append.mp hs with hs | hs
    · exact h.constraints s hs
    · rw [List.mem_singleton.mp hs]
      exact scope
  | nothing => exact h
  | reset => exact .new p.defaults
  | _ => exact { h with }

end WellScoped

/-- **Whatever calls are made on an empty problem,** refused ones and resets among them, its names
are in order. -/
theorem wellScoped_afterCalls (defaults : Settings) (calls : List EngineCall) :
    ((new defaults).afterCalls calls).WellScoped :=
  afterCalls_induction (WellScoped.new defaults) (fun _ _ _ h hq => h.step hq) calls

end Problem

end PaveScript
