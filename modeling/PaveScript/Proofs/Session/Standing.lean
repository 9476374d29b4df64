import PaveScript.Proofs.Problem.Step
import PaveScript.Proofs.Session.Course

/-!
# What a problem stands for

A session over a problem forgets everything with an error that resets, and nothing else. So at any
point of a run the problem is what the statements that stand make of an empty one, where those stand
that were accepted since the last such error.

* `Problem.defaults_call` — no call changes the defaults, so a reset always leads back to them
* `engine_advance` — what one happening does to the problem
* `rebuild_standing` — the problem at any point of a run
-/

namespace PaveScript

/-! ## Statements in a row -/

/-- Hands statements to an engine, all of which it has to take. -/
def rebuild {σ : Type} [Engine σ] (engine : σ) : List Statement → Option σ
  | [] => some engine
  | statement :: rest =>
    match dispatch statement engine with
    | (.ok _, engine) => rebuild engine rest
    | (.error _, _) => none

theorem rebuild_append {σ : Type} [Engine σ] (engine : σ) (as bs : List Statement) :
    rebuild engine (as ++ bs) = (rebuild engine as).bind (rebuild · bs) := by
  induction as generalizing engine with
  | nil => rfl
  | cons a as ih =>
    rw [List.cons_append, rebuild, rebuild]
    split
    · exact ih _
    · rfl

/-- What stands after one more happening. -/
def Happening.addTo (statements : List Statement) (h : Happening) : List Statement :=
  if h.resets then [] else statements ++ (h.accepted?.map Parsed.statement).toList

/-- The statements that were accepted since the last error that resets. -/
def standing (hs : List Happening) : List Statement := hs.foldl Happening.addTo []

/-! ## Problems -/

namespace Problem

/-- **No call changes the defaults.** -/
theorem defaults_call (c : EngineCall) (p : Problem) : (p.call c).2.defaults = p.defaults := by
  unfold call
  split
  · next q hq => exact (takes_of_apply hq).defaults
  · rfl

/-- Handing over a statement keeps the defaults, whether it is taken or not. -/
theorem defaults_dispatch (statement : Statement) (p : Problem) :
    (dispatch statement p).2.defaults = p.defaults := by
  unfold dispatch
  split
  · next c _ =>
    have hcall : (Engine.call c p).2.defaults = p.defaults := defaults_call c p
    split <;> next heq => rwa [heq] at hcall
  · rfl
  · rfl

/-- A refused statement leaves the problem as it was. -/
theorem dispatch_of_error {statement : Statement} {p q : Problem} {e : DomainError}
    (h : dispatch statement p = (.error e, q)) : q = p := by
  unfold dispatch at h
  split at h
  · split at h
    · cases h
    · next heq =>
      obtain ⟨-, rfl⟩ := Prod.mk.inj h
      exact call_of_error heq
  · cases h
  · cases h

theorem defaults_rebuild {p q : Problem} {statements : List Statement}
    (h : rebuild p statements = some q) : q.defaults = p.defaults := by
  induction statements generalizing p with
  | nil => rw [Option.some.inj h]
  | cons statement statements ih =>
    have hkeep := defaults_dispatch statement p
    rw [rebuild] at h
    split at h
    · next heq => rw [ih h, ← hkeep, heq]
    · cases h

/-- A reset leads to the empty problem. -/
theorem resetState_eq (p : Problem) : Engine.resetState p = new p.defaults := rfl

end Problem

/-! ## One happening -/

variable [Text.Normalizer] {source : String → Prop}

/-- **What a happening does to the problem:** an error that resets empties it, and otherwise only an
accepted statement changes it. -/
theorem Progress.engine_advance {p : Progress Problem} {h : Happening}
    (hp : p.Admits source h) :
    (p.advance h).session.engine =
      if h.resets then .new p.session.engine.defaults
      else match h.accepted? with
        | some parsed => (PaveScript.dispatch parsed.statement p.session.engine).2
        | none => p.session.engine := by
  cases h with
  | accepted parsed =>
    obtain ⟨-, -, outcome, hok⟩ := hp
    rw [advance, session_dispatch_ok (Prod.ext hok rfl)]
    rfl
  | refused parsed cause =>
    obtain ⟨-, -, herror⟩ := hp
    have hd : PaveScript.dispatch parsed.statement p.session.engine = (.error cause, _) :=
      Prod.ext herror rfl
    rw [advance, dispatch_error hd, session_fail, Problem.dispatch_of_error hd]
    rfl
  | skipped error => cases herror : error.resets <;>
      simp [advance, Happening.resets, Happening.error?, Happening.accepted?, herror,
        Problem.resetState_eq]
  | misread error resync => cases herror : error.resets <;>
      simp [advance, Happening.resets, Happening.error?, Happening.accepted?, herror,
        Problem.resetState_eq]
  | tooDeep path => simp [advance, Happening.resets, Happening.error?, Error.resets,
      Problem.resetState_eq]
  | unreadable path reason => simp [advance, Happening.resets, Happening.error?, Error.resets,
      Problem.resetState_eq]
  | left =>
    simp only [advance]
    split <;> rfl
  | _ => rfl

/-- Nothing else changes a problem but a statement that makes a call. -/
theorem Progress.engine_advance_of_keeps {p : Progress Problem} {h : Happening}
    (hp : p.Admits source h) (hkeeps : h.resets = false)
    (hcall : ∀ parsed c, h = .accepted parsed → parsed.statement.effect ≠ .call c) :
    (p.advance h).session.engine = p.session.engine := by
  rw [engine_advance hp, hkeeps, if_neg Bool.false_ne_true]
  cases haccepted : h.accepted? with
  | none => rfl
  | some parsed =>
    obtain rfl : h = .accepted parsed := by
      cases h <;> simp_all [Happening.accepted?]
    simp only [PaveScript.dispatch]
    split
    · next c hc => exact absurd hc (hcall parsed c rfl)
    · rfl
    · rfl

/-- What stands makes the problem, and goes on doing so. -/
theorem Progress.rebuild_addTo {D : Settings} {statements : List Statement} {p : Progress Problem}
    (h : rebuild (.new D) statements = some p.session.engine) {a : Happening}
    (ha : p.Admits source a) :
    rebuild (.new D) (a.addTo statements) = some (p.advance a).session.engine := by
  rw [engine_advance ha, Happening.addTo]
  split
  · rw [Problem.defaults_rebuild h]
    rfl
  · rw [rebuild_append, h, Option.bind_some]
    cases haccepted : a.accepted? with
    | none => rfl
    | some parsed =>
      obtain rfl : a = .accepted parsed := by
        cases a <;> simp_all [Happening.accepted?]
      obtain ⟨-, -, outcome, hok⟩ := ha
      have hd : PaveScript.dispatch parsed.statement p.session.engine = (.ok outcome, _) :=
        Prod.ext hok rfl
      rw [Option.map_some, Option.toList_some, rebuild, hd]
      rfl

theorem Progress.rebuild_foldl {D : Settings} {hs : List Happening} {statements : List Statement}
    {p : Progress Problem} (h : rebuild (.new D) statements = some p.session.engine)
    (hs' : p.Sound source hs) :
    rebuild (.new D) (hs.foldl Happening.addTo statements) = some (p.follow hs).session.engine := by
  induction hs generalizing statements p with
  | nil => exact h
  | cons a hs ih => exact ih (rebuild_addTo h hs'.1) hs'.2

/-! ## Whole runs -/

namespace Session

variable {D : Settings} {library : Library}

/-- The problem between two texts. -/
theorem rebuild_executeAll (texts : List String) {s : Session Problem}
    {statements : List Statement} (h : rebuild (.new D) statements = some s.engine) :
    rebuild (.new D) ((s.courseAll library texts).foldl Happening.addTo statements) =
      some (s.executeAll library texts).2.engine := by
  induction texts generalizing s statements with
  | nil => exact h
  | cons text texts ih =>
    rw [courseAll, List.foldl_append]
    refine ih ?_
    rw [execute_eq_follow]
    exact Progress.rebuild_foldl (p := ⟨s, {}⟩) h (sound_course library s text)

/--
**A problem is what the statements that stand make of it.** At any point of a run over an empty
problem, between the texts or in the middle of one, handing the statements that were accepted since
the last error that resets to an empty problem succeeds and gives the problem of that point.

The points of a text are those of its course, which ends where executing the text ends, reports its
errors and tells the truth about what the problem took: each statement that it was handed was read
at a point of the text or of a script, and the problem takes or refuses it there. Right after an
error that resets the problem is the empty one with the defaults it began with; nothing else changes
it but a statement that makes a call.
-/
theorem rebuild_standing (D : Settings) (library : Library) (texts : List String) (text : String) :
    let start := Session.new (Problem.new D)
    let s := (start.executeAll library texts).2
    let point (done : List Happening) : Progress Problem := Progress.follow ⟨s, {}⟩ done
    (s.execute library text = ((point (s.course library text)).report,
      (point (s.course library text)).session)) ∧
    ((s.execute library text).1.errors = (s.course library text).filterMap Happening.error?) ∧
    (∀ done, done <+: s.course library text →
      rebuild (Problem.new D) (standing (start.courseAll library texts ++ done)) =
        some (point done).session.engine) ∧
    (∀ done h, done ++ [h] <+: s.course library text →
      (∀ parsed, (h = .accepted parsed ∨ ∃ cause, h = .refused parsed cause) →
        (point done).Reads (Progress.Sources library text) parsed) ∧
      (∀ parsed, h = .accepted parsed →
        ∃ outcome, (dispatch parsed.statement (point done).session.engine).1 = .ok outcome) ∧
      (∀ parsed cause, h = .refused parsed cause →
        (dispatch parsed.statement (point done).session.engine).1 = .error cause) ∧
      (h.resets = true → (point (done ++ [h])).session.engine = Problem.new D) ∧
      (h.resets = false →
        (∀ parsed c, h = .accepted parsed → parsed.statement.effect ≠ .call c) →
        (point (done ++ [h])).session.engine = (point done).session.engine)) := by
  intro start s point
  have hbetween : rebuild (.new D) (standing (start.courseAll library texts)) = some s.engine :=
    rebuild_executeAll texts rfl
  have hsound := sound_course library s text
  have hpoint : ∀ done, done <+: s.course library text →
      rebuild (Problem.new D) (standing (start.courseAll library texts ++ done)) =
        some (point done).session.engine := by
    rintro done ⟨rest, hrest⟩
    rw [← hrest, Progress.sound_append] at hsound
    rw [standing, List.foldl_append]
    exact Progress.rebuild_foldl (p := ⟨s, {}⟩) hbetween hsound.1
  refine ⟨execute_eq_follow library s text, errors_execute library s text, hpoint, ?_⟩
  intro done h hprefix
  have hadmits : (point done).Admits (Progress.Sources library text) h := hsound.admits hprefix
  have hnext : (point (done ++ [h])).session.engine = ((point done).advance h).session.engine := by
    simp only [point, Progress.follow_append, Progress.follow_cons, Progress.follow_nil]
  refine ⟨fun parsed => hadmits.reads, ?_, ?_, ?_, ?_⟩
  · rintro parsed rfl
    exact hadmits.2.2
  · rintro parsed cause rfl
    exact hadmits.2.2
  · intro hresets
    have hdefaults :=
      Problem.defaults_rebuild (hpoint done ((List.prefix_append _ _).trans hprefix))
    rw [hnext, Progress.engine_advance hadmits, if_pos hresets, hdefaults]
    rfl
  · intro hkeeps hcall
    rw [hnext, Progress.engine_advance_of_keeps hadmits hkeeps hcall]

end Session

end PaveScript
