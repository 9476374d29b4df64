import Mathlib.Algebra.GroupWithZero.Nat
import PaveScript.CallLog
import PaveScript.Proofs.Session.Course
import PaveScript.Text.Normal.Form

/-!
# The calls of a session

A session over a call log shows which calls it makes. Every statement that is handed to the engine
is one line, and every error that resets is one more, right behind the line of the statement that
caused it.

* `Statement.callWords?` — the line of a statement, word by word
* `Happening.lines` — the lines of everything that can happen
* `Progress.grows_advance` — what one happening adds to the log
* `lines_eq_flatMap_course` — the log at any point of a run
-/

namespace PaveScript

/-! ## Lines -/

/-- The words of a setting in a log: the name of its call and the new value. -/
def Setting.callWords : Setting → List String
  | precision n => ["set_precision", n.text]
  | resolution l => ["set_resolution", l.text]
  | variableResolution x l => ["set_variable_resolution", x, l.text]
  | granularity l => ["set_granularity", l.text]
  | depth l => ["set_depth", l.text]
  | varSelect l => ["set_var_select", l.text]
  | bp b => ["set_bp", boolText b]
  | safeInput b => ["set_safe_input", boolText b]
  | debug b => ["set_debug", boolText b]
  | name x => ["set_name", x]
  | output file => ["set_output", Text.quote file]
  | pavingMode mode => ["set_paving_mode", mode.name]

/-- The words of a request in a log. -/
def Action.callWords : Action → List String
  | pave => ["pave"]
  | bifurcation => ["bifurcation", "false"]
  | equilibrium => ["bifurcation", "true"]
  | min => ["minmax", "Min"]
  | max => ["minmax", "Max"]
  | minMax => ["minmax", "Both"]
  | reset => ["reset_session"]

/--
The words of a statement in a log: the name of its call and the fields of the statement. Some
statements never reach an engine.
-/
def Statement.callWords? : Statement → Option (List String)
  | declare x interval kind => some ["declare_variable", x, interval.text, kind.title]
  | const x value => some ["declare_constant", x, value.text]
  | objective bindings expr =>
    some ["set_objective", expr.text, "env=" ++ toString bindings.length]
  | differential bindings expr =>
    some ["set_differential", expr.text, "env=" ++ toString bindings.length]
  | constraint bindings c => some ["add_constraint", c.text, "env=" ++ toString bindings.length]
  | define x expr => some ["define", x, expr.text]
  | set setting => some setting.callWords
  | resetOutput => some ["set_output", Text.quote ""]
  | action a => some a.callWords
  | savePaving x => some ["save_paving", x]
  | loadPaving x => some ["load_paving", x]
  | plot x axes => some ("plot" :: x :: axes.names)
  | universal _ | readFile _ | quit | help => none

/-- The lines of a statement: one, or none if it never reaches an engine. -/
def Statement.callLines (s : Statement) : List String :=
  (s.callWords?.map (String.intercalate " ")).toList

/-- The lines that a happening adds to a call log. -/
def Happening.lines : Happening → List String
  | accepted parsed => parsed.statement.callLines
  | refused parsed _ => parsed.statement.callLines ++ ["reset_session"]
  | h => if h.resets then ["reset_session"] else []

/-- The call of a statement is written as the line of the statement. -/
theorem Statement.callLines_eq (s : Statement) :
    s.callLines =
      match s.effect with
      | .call c => [c.line]
      | _ => [] := by
  cases s with
  | set setting => cases setting <;> rfl
  | action a => cases a <;> rfl
  | _ => rfl

/-- Only `reset` asks the engine for a reset. -/
theorem Statement.effect_eq_reset_iff (s : Statement) :
    s.effect = .call .reset ↔ s = .action .reset := by
  cases s with
  | set setting => cases setting <;> simp [effect, Setting.call]
  | action a => cases a <;> simp [effect, Action.call]
  | _ => simp [effect]

/-! ## One call -/

/-- The engine behind a statement that was handed to it. -/
theorem engine_dispatch {σ : Type} [Engine σ] (s : Statement) (engine : σ) :
    (dispatch s engine).2 =
      match s.effect with
      | .call c => (Engine.call c engine).2
      | _ => engine := by
  rw [dispatch]
  cases s.effect with
  | call c =>
    rcases hcall : Engine.call c engine with ⟨_ | _, engine'⟩ <;> simp only [hcall]
  | _ => rfl

/-- A statement without a call is never refused. -/
theorem Statement.length_callLines_of_error {σ : Type} [Engine σ] {engine : σ} (s : Statement)
    {cause : DomainError} (h : (dispatch s engine).1 = .error cause) : s.callLines.length = 1 := by
  rw [dispatch] at h
  rw [s.callLines_eq]
  cases heffect : s.effect with
  | call c => rfl
  | echo text => rw [heffect] at h; cases h
  | control => rw [heffect] at h; cases h

namespace CallLog

/-- The second log is the first one with more lines, some of them resets. -/
structure Grows (log : CallLog) (lines : List String) (resets : Nat) (log' : CallLog) : Prop where
  lines : log'.lines = log.lines ++ lines
  resets : log'.resets = log.resets + resets

theorem Grows.refl (log : CallLog) : log.Grows [] 0 log := ⟨by simp, rfl⟩

theorem Grows.trans {a b c : CallLog} {ls ls' : List String} {m n : Nat} (h : a.Grows ls m b)
    (h' : b.Grows ls' n c) : a.Grows (ls ++ ls') (m + n) c :=
  ⟨by rw [h'.lines, h.lines, List.append_assoc], by rw [h'.resets, h.resets, Nat.add_assoc]⟩

/-- **A call is one line,** whether it is refused or not. -/
theorem grows_call (c : EngineCall) (log : CallLog) :
    log.Grows [c.line] (if c = .reset then 1 else 0) (log.call c).2 := by
  cases c <;> exact ⟨by simp [call, CallLog.lines], rfl⟩

theorem grows_resetState (log : CallLog) :
    log.Grows ["reset_session"] 1 (Engine.resetState log) :=
  grows_call .reset log

/-- Handing over a statement makes its call and no other. -/
theorem grows_dispatch (s : Statement) (log : CallLog) :
    log.Grows s.callLines (if s = .action .reset then 1 else 0) (dispatch s log).2 := by
  simp only [s.callLines_eq, ← s.effect_eq_reset_iff, engine_dispatch]
  cases s.effect with
  | call c =>
    simp only [Effect.call.injEq]
    exact grows_call c log
  | echo text => simpa using Grows.refl log
  | control => simpa using Grows.refl log

/-- A reset is never refused. -/
theorem ne_reset_of_dispatch {s : Statement} {log : CallLog} {cause : DomainError}
    (h : (dispatch s log).1 = .error cause) : s ≠ .action .reset := by
  rintro rfl
  cases h

end CallLog

/-! ## One happening -/

theorem Error.resets_eq (e : Error) : e.resets = decide (e.kind = .domain) := by
  cases e <;> rfl

/-- How many resets a happening asks the engine for: one for an error, and one for `reset`. -/
def Happening.resetCalls (h : Happening) : Nat :=
  (if h.accepted?.any fun parsed => parsed.statement = .action .reset then 1 else 0) +
    if h.resets then 1 else 0

namespace Progress

/-- A failure is a reset in the log if it resets, and nothing otherwise. -/
theorem grows_fail (error : Error) (p : Progress CallLog) :
    p.session.engine.Grows (if error.resets then ["reset_session"] else [])
      (if error.resets then 1 else 0) (p.fail error).session.engine := by
  rw [session_fail]
  split
  · exact CallLog.grows_resetState p.session.engine
  · exact CallLog.Grows.refl p.session.engine

variable [Text.Normalizer] {source : String → Prop}

/-- **What a happening adds to the log** are its lines. -/
theorem grows_advance {p : Progress CallLog} {h : Happening} (hp : p.Admits source h) :
    p.session.engine.Grows h.lines h.resetCalls (p.advance h).session.engine := by
  -- an error that is not the engine's own adds nothing but its reset
  have hfail : ∀ (error : Error) (q : Progress CallLog), q.session.engine = p.session.engine →
      p.session.engine.Grows (if error.resets then ["reset_session"] else [])
        (0 + if error.resets then 1 else 0) (q.fail error).session.engine := by
    intro error q hq
    rw [← hq, Nat.zero_add]
    exact grows_fail error q
  cases h with
  | accepted parsed =>
    obtain ⟨-, -, outcome, hok⟩ := hp
    rw [advance, session_dispatch_ok (Prod.ext hok rfl)]
    simpa [Happening.lines, Happening.resetCalls, Happening.resets, Happening.error?,
      Happening.accepted?] using CallLog.grows_dispatch parsed.statement p.session.engine
  | refused parsed cause =>
    -- the line of the statement comes first, then the reset
    obtain ⟨-, -, herror⟩ := hp
    have hline := CallLog.grows_dispatch parsed.statement p.session.engine
    rw [if_neg (CallLog.ne_reset_of_dispatch herror)] at hline
    rw [advance, dispatch_error (Prod.ext herror rfl)]
    exact hline.trans (CallLog.grows_resetState _)
  | skipped error => exact hfail error p rfl
  | misread error resync => exact hfail error (p.log resync) rfl
  | tooDeep path => exact hfail (.domain (.filesTooDeep path fileLimit)) p rfl
  | unreadable path reason =>
    exact hfail (.domain (.unreadableFile path reason)) (p.emit (.read path)) rfl
  | left =>
    simp only [advance]
    split <;> exact .refl _
  | _ => exact .refl _

theorem grows_follow {p : Progress CallLog} {hs : List Happening} (h : p.Sound source hs) :
    p.session.engine.Grows (hs.flatMap Happening.lines) (hs.map Happening.resetCalls).sum
      (p.follow hs).session.engine := by
  induction hs generalizing p with
  | nil => exact .refl _
  | cons a hs ih => exact (grows_advance h.1).trans (ih h.2)

end Progress

theorem sum_resetCalls (hs : List Happening) :
    (hs.map Happening.resetCalls).sum =
      ((hs.filterMap Happening.error?).countP fun e => e.kind = .domain) +
        (hs.filterMap Happening.accepted?).countP fun parsed =>
          parsed.statement = .action .reset := by
  induction hs with
  | nil => rfl
  | cons h hs ih =>
    rw [List.map_cons, List.sum_cons, ih, Happening.resetCalls, Happening.resets]
    cases herror : h.error? <;> cases haccepted : h.accepted? <;>
      simp [herror, haccepted, List.countP_cons, Error.resets_eq] <;> omega

/-! ## Whole runs -/

namespace Session

section

variable [Text.Normalizer]

/-- The errors of the reports are those that happened. -/
theorem errors_executeAll {σ : Type} [Engine σ] (library : Library) (texts : List String)
    (s : Session σ) :
    (s.executeAll library texts).1.flatMap Report.errors =
      (s.courseAll library texts).filterMap Happening.error? := by
  induction texts generalizing s with
  | nil => rfl
  | cons text texts ih =>
    rw [courseAll, List.filterMap_append, ← errors_execute, ← ih]
    rfl

/-- The log after one text after the other. -/
theorem grows_executeAll (library : Library) (texts : List String) (s : Session CallLog) :
    s.engine.Grows ((s.courseAll library texts).flatMap Happening.lines)
      ((s.courseAll library texts).map Happening.resetCalls).sum
      (s.executeAll library texts).2.engine := by
  induction texts generalizing s with
  | nil => exact .refl _
  | cons text texts ih =>
    have htext : s.engine.Grows ((s.course library text).flatMap Happening.lines)
        ((s.course library text).map Happening.resetCalls).sum
        (s.execute library text).2.engine := by
      rw [execute_eq_follow]
      exact Progress.grows_follow (p := ⟨s, {}⟩) (sound_course library s text)
    rw [courseAll, List.flatMap_append, List.map_append, List.sum_append]
    exact htext.trans (ih _)

/--
**A call log has one line for each statement that was handed to the engine,** the call of that
statement, and one for each error that resets, and no other. The lines stand in the order in which
the statements are executed, those of nested scripts included; the reset of a refused statement
stands right behind its line. So at any point of a run, between the texts or in the middle of one,
there were as many resets as errors that reset and `reset` statements.

The points of a text are those of its course, which ends where executing the text ends, reports its
errors and tells the truth about what was handed to the engine and what the engine took: each such
statement was read at a point of the text or of a script.
-/
theorem lines_eq_flatMap_course (refuses : Option String) (safeInput : Bool) (library : Library)
    (texts : List String) (text : String) :
    let start : Session CallLog := .new { refuses, safeInput }
    let reports := (start.executeAll library texts).1
    let s := (start.executeAll library texts).2
    let point (done : List Happening) : Progress CallLog := Progress.follow ⟨s, {}⟩ done
    let past (done : List Happening) := start.courseAll library texts ++ done
    (s.execute library text = ((point (s.course library text)).report,
      (point (s.course library text)).session)) ∧
    (∀ done, done <+: s.course library text →
      reports.flatMap Report.errors ++ (point done).report.errors =
        (past done).filterMap Happening.error? ∧
      (point done).session.engine.lines = (past done).flatMap Happening.lines ∧
      (point done).session.engine.resets =
        ((reports.flatMap Report.errors ++ (point done).report.errors).countP fun e =>
          e.kind = .domain) +
        ((past done).filterMap Happening.accepted?).countP fun parsed =>
          parsed.statement = .action .reset) ∧
    (∀ done h, done ++ [h] <+: s.course library text →
      (∀ parsed, (h = .accepted parsed ∨ ∃ cause, h = .refused parsed cause) →
        (point done).Reads (Progress.Sources library text) parsed) ∧
      (∀ parsed, h = .accepted parsed → parsed.statement.effect ≠ .control ∧
        ∃ outcome, (dispatch parsed.statement (point done).session.engine).1 = .ok outcome) ∧
      (∀ parsed cause, h = .refused parsed cause → parsed.statement.callLines.length = 1 ∧
        (dispatch parsed.statement (point done).session.engine).1 = .error cause)) := by
  intro start reports s point past
  have hsound := sound_course library s text
  refine ⟨execute_eq_follow library s text, ?_, ?_⟩
  · rintro done ⟨rest, hrest⟩
    rw [← hrest, Progress.sound_append] at hsound
    have herrors : reports.flatMap Report.errors ++ (point done).report.errors =
        (past done).filterMap Happening.error? := by
      rw [errors_executeAll, Progress.errors_follow hsound.1, List.filterMap_append]
      rfl
    have hgrows := (grows_executeAll library texts start).trans (Progress.grows_follow hsound.1)
    refine ⟨herrors, ?_, ?_⟩
    · rw [hgrows.lines, List.flatMap_append]
      rfl
    · rw [hgrows.resets, herrors, ← sum_resetCalls, List.map_append, List.sum_append]
      exact Nat.zero_add _
  · intro done h hprefix
    have hadmits : (point done).Admits (Progress.Sources library text) h := hsound.admits hprefix
    refine ⟨fun parsed => hadmits.reads, ?_, ?_⟩
    · rintro parsed rfl
      exact hadmits.2
    · rintro parsed cause rfl
      exact ⟨parsed.statement.length_callLines_of_error hadmits.2.2, hadmits.2.2⟩

end

-- a refused call and its reset, the statement `reset`, and the reset of the unreadable file
example :
    ((Session.new { refuses := some "pave" : CallLog }).executeAll (fun _ => .error "gone")
      ["pave; reset; file a.kdk; help; forall 1 < 2"]).2.engine.lines =
      ["pave", "reset_session", "reset_session", "reset_session"] := by
  decide +kernel

end Session

end PaveScript
