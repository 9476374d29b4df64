import PaveScript.Proofs.Problem.Step

/-!
# Records of a problem

A problem keeps records that are only good beside the rest of it: a request beside the variables,
equations and objective that it is about, a resolution beside its variable. What such a record was
checked against never goes away while the record is there. Calls only add to it, and a reset drops
both.

* `Grows` — what a record can rely on
* `Justified` — what is true of the records of a problem
* `justified_afterCalls` — any calls, refused ones and resets among them
-/

namespace PaveScript

namespace Problem

variable {p q : Problem} {x : String} {initial : Settings}

/-! ## Resolutions -/

/-- Setting the value under a key keeps the keys, or adds the new one at the end. -/
theorem keys_setEntry (x : String) (r : Double) (entries : List (String × Double)) :
    (setEntry x r entries).map Prod.fst =
      if x ∈ entries.map Prod.fst then entries.map Prod.fst else entries.map Prod.fst ++ [x] := by
  induction entries with
  | nil => simp [setEntry]
  | cons entry rest ih =>
    obtain ⟨y, v⟩ := entry
    rw [setEntry]
    by_cases hyx : y = x
    · simp [hyx]
    · have hmem : x ∈ ((y, v) :: rest).map Prod.fst ↔ x ∈ rest.map Prod.fst := by
        rw [List.map_cons, List.mem_cons]
        exact or_iff_right fun h => hyx h.symm
      rw [if_neg (by simpa using hyx), List.map_cons, ih]
      by_cases hx : x ∈ rest.map Prod.fst
      · rw [if_pos hx, if_pos (hmem.mpr hx), List.map_cons]
      · rw [if_neg hx, if_neg fun h => hx (hmem.mp h), List.map_cons, List.cons_append]

theorem nodup_setEntry {r : Double} {entries : List (String × Double)}
    (h : (entries.map Prod.fst).Nodup) : ((setEntry x r entries).map Prod.fst).Nodup := by
  rw [keys_setEntry]
  split
  · exact h
  · next hx =>
    exact (List.perm_append_singleton x _).nodup_iff.mpr (List.nodup_cons.mpr ⟨hx, h⟩)

theorem eq_or_mem_of_mem_setEntry {r : Double} {entries : List (String × Double)} {y : String}
    (h : y ∈ (setEntry x r entries).map Prod.fst) : y = x ∨ y ∈ entries.map Prod.fst := by
  rw [keys_setEntry] at h
  split at h
  · exact .inr h
  · rcases List.mem_append.mp h with h | h
    · exact .inr h
    · exact .inl (List.mem_singleton.mp h)

/-! ## Growth -/

/-- `q` still has what a record of `p` can rely on. -/
structure Grows (p q : Problem) : Prop where
  declarations : ∀ v ∈ p.declarations, v ∈ q.declarations
  differentials : p.differentials ≠ [] → q.differentials ≠ []
  objective : p.objective ≠ none → q.objective ≠ none

namespace Grows

theorem of_eq (hdeclarations : q.declarations = p.declarations)
    (hdifferentials : q.differentials = p.differentials) (hobjective : q.objective = p.objective) :
    p.Grows q := by
  refine ⟨?_, ?_, ?_⟩
  · rw [hdeclarations]
    exact fun _ hv => hv
  · rw [hdifferentials]
    exact fun h => h
  · rw [hobjective]
    exact fun h => h

theorem hasVariable (h : p.Grows q) (hx : p.hasVariable x = true) : q.hasVariable x = true := by
  unfold Problem.hasVariable at hx ⊢
  rw [List.any_eq_true] at hx ⊢
  obtain ⟨v, hv, hname⟩ := hx
  exact ⟨v, h.declarations v hv, hname⟩

/-- **What a problem was complete enough for,** it stays complete enough for. -/
theorem supports (h : p.Grows q) {r : SolverRequest} (hr : p.Supports r) : q.Supports r := by
  have hvar : (∃ v ∈ p.declarations, v.kind = .var) → ∃ v ∈ q.declarations, v.kind = .var := by
    rintro ⟨v, hv, hkind⟩
    exact ⟨v, h.declarations v hv, hkind⟩
  cases r with
  | pave => exact hvar hr
  | bifurcation _ => exact ⟨hvar hr.1, h.differentials hr.2⟩
  | minMax _ => exact ⟨hvar hr.1, h.objective hr.2⟩
  | plot _ axes => exact fun axis haxis => h.hasVariable (hr axis haxis)

end Grows

/-! ## Justified records -/

/-- What is true of the records of a problem that began with given settings. -/
structure Justified (initial : Settings) (p : Problem) : Prop where
  /-- The problem is still complete enough for every request. -/
  requests : ∀ r ∈ p.requests, p.Supports r
  resolutions_nodup : (p.resolutions.map Prod.fst).Nodup
  /-- Resolutions are those of variables and parameters. -/
  resolutions : ∀ x ∈ p.resolutions.map Prod.fst, p.hasVariable x = true
  pavings : p.pavings.Nodup
  defaults : p.defaults = initial
  depth : 0 ≤ initial.depth → 0 ≤ p.settings.depth

namespace Justified

theorem new (initial : Settings) : (new initial).Justified initial where
  requests _ hr := nomatch hr
  resolutions_nodup := .nil
  resolutions _ hx := nomatch hx
  pavings := .nil
  defaults := rfl
  depth h := h

/-- Growth is no harm to the records. -/
theorem grow (h : p.Justified initial) (hgrows : p.Grows q) (hrequests : q.requests = p.requests)
    (hresolutions : q.resolutions = p.resolutions) (hpavings : q.pavings = p.pavings)
    (hdefaults : q.defaults = p.defaults) (hsettings : q.settings = p.settings) :
    q.Justified initial := by
  refine ⟨?_, ?_, ?_, ?_, hdefaults.trans h.defaults, ?_⟩
  · rw [hrequests]
    exact fun r hr => hgrows.supports (h.requests r hr)
  · rw [hresolutions]
    exact h.resolutions_nodup
  · rw [hresolutions]
    exact fun x hx => hgrows.hasVariable (h.resolutions x hx)
  · rw [hpavings]
    exact h.pavings
  · rw [hsettings]
    exact h.depth

/-- **An accepted call keeps the records justified.** -/
theorem step {c : EngineCall} (h : p.Justified initial) (hq : p.Takes c q) :
    q.Justified initial := by
  have hrefl : p.Grows p := .of_eq rfl rfl rfl
  cases hq with
  | declareVariable =>
    exact h.grow { hrefl with declarations := fun _ hv => List.mem_append_left _ hv }
      rfl rfl rfl rfl rfl
  | setObjective =>
    exact h.grow { hrefl with objective := fun _ => Option.some_ne_none _ } rfl rfl rfl rfl rfl
  | setDifferential =>
    have hne (s : Scoped Expr) : p.differentials ++ [s] ≠ [] :=
      List.append_ne_nil_of_right_ne_nil _ (List.cons_ne_nil s [])
    exact h.grow { hrefl with differentials := fun _ => hne _ } rfl rfl rfl rfl rfl
  | settings depth =>
    refine { h with depth := ?_ }
    intro hinitial
    rcases depth with hsame | hset
    · rw [hsame]
      exact h.depth hinitial
    · exact hset
  | setVariableResolution declared =>
    refine { h with resolutions_nodup := nodup_setEntry h.resolutions_nodup, resolutions := ?_ }
    intro y hy
    rcases eq_or_mem_of_mem_setEntry hy with rfl | hy
    · exact declared
    · exact h.resolutions y hy
  | @request _ new supports =>
    -- nothing that a request can rely on has changed, so the old ones are as good as before
    have hsame : p.Grows { p with requests := p.requests ++ [new] } := .of_eq rfl rfl rfl
    refine { h with requests := ?_ }
    intro r hr
    rcases List.mem_append.mp hr with hr | hr
    · exact hsame.supports (h.requests r hr)
    · rw [List.mem_singleton.mp hr]
      exact hsame.supports supports
  | savePaving fresh =>
    refine { h with pavings := ?_ }
    exact (List.perm_append_singleton _ _).nodup_iff.mpr (List.nodup_cons.mpr ⟨fresh, h.pavings⟩)
  | nothing => exact h
  | reset =>
    rw [h.defaults]
    exact .new initial
  | _ => exact h.grow (.of_eq rfl rfl rfl) rfl rfl rfl rfl rfl

end Justified

/-- **Whatever calls are made on an empty problem,** refused ones and resets among them, its records
are justified. -/
theorem justified_afterCalls (initial : Settings) (calls : List EngineCall) :
    ((new initial).afterCalls calls).Justified initial :=
  afterCalls_induction (Justified.new initial) (fun _ _ _ h hq => h.step hq) calls

end Problem

end PaveScript
