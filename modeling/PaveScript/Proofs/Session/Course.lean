import PaveScript.Proofs.Clause
import PaveScript.Session

/-!
# The course of a session

Executing a text is one thing happening after the other: a statement is read and accepted, another
one is refused, a script is entered and left. `Happening` lists what can happen, `Progress.advance`
says what it does to a session, and `Session.course` is what happens when a text is executed.

* `execute_eq_follow` — executing a text is going through its course
* `sound_course` — what is said to happen is true of the state it happens in
* `errors_execute` — the errors that happen are those of the report

So a point of a run is a prefix of its course, and an invariant of a session is proved happening by
happening.
-/

namespace PaveScript

/-- What can happen in a session. -/
inductive Happening where
  /-- A text was scanned. -/
  | scanned (trace : List String)
  /-- A character was skipped. -/
  | skipped (error : Error)
  /-- A statement could not be read. -/
  | misread (error : Error) (resync : String)
  /-- A statement was handed to the engine, and the engine took it. -/
  | accepted (parsed : Parsed)
  /-- A statement was handed to the engine, and the engine refused it. -/
  | refused (parsed : Parsed) (cause : DomainError)
  | helped
  | quit
  /-- A script was not read since all levels are in use. -/
  | tooDeep (path : String)
  | unreadable (path reason : String)
  | entered (path text : String)
  | left
deriving DecidableEq, Inhabited

namespace Happening

/-- The error that is reported. -/
def error? : Happening → Option Error
  | skipped error => some error
  | misread error _ => some error
  | refused _ cause => some (.domain cause)
  | tooDeep path => some (.domain (.filesTooDeep path fileLimit))
  | unreadable path reason => some (.domain (.unreadableFile path reason))
  | _ => none

/-- The statement that the engine took. -/
def accepted? : Happening → Option Parsed
  | accepted parsed => some parsed
  | _ => none

/-- Whether the engine goes back to its defaults because of an error. -/
def resets (h : Happening) : Bool := h.error?.any Error.resets

end Happening

namespace Progress

variable {σ : Type} [Engine σ]

/-! ## From one point to the next -/

/-- What a happening does to a session and its report. -/
def advance (p : Progress σ) : Happening → Progress σ
  | .scanned trace => p.logAll trace
  | .skipped error => p.fail error
  | .misread error resync => (p.log resync).fail error
  | .accepted parsed => p.dispatch parsed
  | .refused parsed _ => p.dispatch parsed
  | .helped => (p.emit .help).succeed
  | .quit => { p.log "[session] quit requested" with session.quit := true }
  | .tooDeep path => p.fail (.domain (.filesTooDeep path fileLimit))
  | .unreadable path reason => (p.emit (.read path)).fail (.domain (.unreadableFile path reason))
  | .entered path text =>
    let p := (p.emit (.read path)).emit (.loaded path text)
    { p with session.openFiles := p.session.openFiles ++ [path] }
  | .left =>
    let p := { p with session.openFiles := p.session.openFiles.dropLast }
    if p.session.quit then p else p.succeed

/-- Goes through a list of happenings. -/
def follow (p : Progress σ) (hs : List Happening) : Progress σ := hs.foldl advance p

@[simp]
theorem follow_nil (p : Progress σ) : p.follow [] = p := rfl

@[simp]
theorem follow_cons (p : Progress σ) (h : Happening) (hs : List Happening) :
    p.follow (h :: hs) = (p.advance h).follow hs := rfl

@[simp]
theorem follow_append (p : Progress σ) (hs hs' : List Happening) :
    p.follow (hs ++ hs') = (p.follow hs).follow hs' :=
  List.foldl_append

/-! ## The course of a run

The definitions follow those of the run and give what happens in place of what comes out.
-/

/-- What handing a statement to the engine comes to. -/
def verdict (parsed : Parsed) (engine : σ) : Happening :=
  match (PaveScript.dispatch parsed.statement engine).1 with
  | .ok _ => .accepted parsed
  | .error cause => .refused parsed cause

/-- What happens when a script is to be read; `inner` is what happens one level further in. -/
def courseOfFile (library : Library) (inner : Option (String → Progress σ → List Happening))
    (path : String) (p : Progress σ) : List Happening :=
  match inner with
  | none => [.tooDeep path]
  | some course =>
    match library path with
    | .error reason => [.unreadable path reason]
    | .ok text => .entered path text :: course text (p.advance (.entered path text)) ++ [.left]

/-- What happens when a statement is executed. -/
def courseOfStatement (library : Library)
    (inner : Option (String → Progress σ → List Happening)) (parsed : Parsed) (p : Progress σ) :
    List Happening :=
  match parsed.statement with
  | .readFile path => courseOfFile library inner path p
  | .quit => [.quit]
  | .help => [.helped]
  | _ => [verdict parsed p.session.engine]

/-- What happens while the rest of a script is executed. -/
def courseOfScript (library : Library) (inner : Option (String → Progress σ → List Happening))
    (script : Script) (p : Progress σ) : List Happening :=
  if p.session.quit then []
  else
    match _h : script.step (Engine.safeInput p.session.engine) with
    | (.done, _) => []
    | (.parsed parsed, rest) =>
      let now := courseOfStatement library inner parsed p
      now ++ courseOfScript library inner rest (p.follow now)
    | (.failed error, rest) =>
      let now := .misread error rest.resyncTrace
      now :: courseOfScript library inner rest (p.advance now)
termination_by script.rest.length
decreasing_by all_goals exact Script.length_rest_step _h (by simp)

variable [Text.Normalizer]

/-- What happens before the first statement of a text. -/
def opening (text : String) : List Happening :=
  .scanned (Script.ofText text).scan.trace :: (Script.ofText text).scan.errors.map .skipped

/-- What happens while a text is executed. -/
def courseOfText (library : Library) (inner : Option (String → Progress σ → List Happening))
    (text : String) (p : Progress σ) : List Happening :=
  opening text ++
    courseOfScript library inner (Script.ofText text).takePending.2 (p.follow (opening text))

/-- What happens while a text is executed with a number of levels left. -/
def courseIn (library : Library) : (levels : Nat) → String → Progress σ → List Happening
  | 0 => courseOfText library none
  | levels + 1 => courseOfText library (some (courseIn library levels))

end Progress

/-! ## What a happening does -/

/-- The errors of a report, in order. -/
def Report.errors (r : Report) : List Error := r.failures.map Failure.error

theorem Report.isOk_iff {r : Report} : r.isOk = true ↔ r.errors = [] := by
  simp [isOk, errors]

namespace Progress

section

variable {σ : Type} (p : Progress σ)

@[simp]
theorem session_log (line : String) : (p.log line).session = p.session := rfl

@[simp]
theorem session_logAll (lines : List String) : (p.logAll lines).session = p.session := rfl

@[simp]
theorem session_emit (event : Event) : (p.emit event).session = p.session := rfl

@[simp]
theorem session_succeed : p.succeed.session = p.session := rfl

@[simp]
theorem errors_log (line : String) : (p.log line).report.errors = p.report.errors := rfl

@[simp]
theorem errors_logAll (lines : List String) :
    (p.logAll lines).report.errors = p.report.errors := rfl

@[simp]
theorem errors_emit (event : Event) : (p.emit event).report.errors = p.report.errors := rfl

@[simp]
theorem errors_succeed : p.succeed.report.errors = p.report.errors := rfl

end

variable {σ : Type} [Engine σ]

/-- A failure touches nothing but the engine, and that only if it resets. -/
@[simp]
theorem session_fail (error : Error) (p : Progress σ) :
    (p.fail error).session =
      if error.resets then { p.session with engine := Engine.resetState p.session.engine }
      else p.session := by
  unfold fail
  cases error.resets <;> rfl

@[simp]
theorem errors_fail (error : Error) (p : Progress σ) :
    (p.fail error).report.errors = p.report.errors ++ [error] := by
  unfold fail
  cases error.resets <;> simp [Report.errors, resetEngine, log]

/-- The session after a statement that the engine took. -/
theorem session_dispatch_ok {parsed : Parsed} {p : Progress σ} {outcome : Dispatched} {engine : σ}
    (h : PaveScript.dispatch parsed.statement p.session.engine = (.ok outcome, engine)) :
    (p.dispatch parsed).session =
      { p.session with
        engine := engine
        history := p.session.history ++ if parsed.skipped then [] else [parsed.text] } := by
  unfold dispatch
  simp only [h]
  cases outcome <;> cases parsed.skipped <;> simp [echo, log, logAll, succeed, remember]

theorem errors_dispatch_ok {parsed : Parsed} {p : Progress σ} {outcome : Dispatched} {engine : σ}
    (h : PaveScript.dispatch parsed.statement p.session.engine = (.ok outcome, engine)) :
    (p.dispatch parsed).report.errors = p.report.errors := by
  unfold dispatch
  simp only [h]
  cases outcome <;> cases parsed.skipped <;> rfl

/-- A refused statement is a failure in the state that the refusal has left behind. -/
theorem dispatch_error {parsed : Parsed} {p : Progress σ} {cause : DomainError} {engine : σ}
    (h : PaveScript.dispatch parsed.statement p.session.engine = (.error cause, engine)) :
    p.dispatch parsed =
      { p.logAll (dispatchTrace parsed.statement p.session.engine) with
        session.engine := engine }.fail (.domain cause) := by
  unfold dispatch
  simp only [h]

theorem verdict_cases (parsed : Parsed) (engine : σ) :
    (∃ outcome, (PaveScript.dispatch parsed.statement engine).1 = .ok outcome ∧
      verdict parsed engine = .accepted parsed) ∨
    ∃ cause, (PaveScript.dispatch parsed.statement engine).1 = .error cause ∧
      verdict parsed engine = .refused parsed cause := by
  unfold verdict
  cases (PaveScript.dispatch parsed.statement engine).1 with
  | ok outcome => exact .inl ⟨outcome, rfl, rfl⟩
  | error cause => exact .inr ⟨cause, rfl, rfl⟩

/-- Handing a statement to the engine leaves the open scripts alone. -/
theorem openFiles_dispatch (parsed : Parsed) (p : Progress σ) :
    (p.dispatch parsed).session.openFiles = p.session.openFiles := by
  rcases hd : PaveScript.dispatch parsed.statement p.session.engine with ⟨_ | _, engine⟩
  · rw [dispatch_error hd, session_fail]
    rfl
  · rw [session_dispatch_ok hd]

theorem openFiles_fail (error : Error) (p : Progress σ) :
    (p.fail error).session.openFiles = p.session.openFiles := by
  rw [session_fail]
  split <;> rfl

/-! ## One step of a script -/

variable {library : Library} {inner : Option (String → Progress σ → Progress σ)}
  {within : Option (String → Progress σ → List Happening)}

theorem loop_quit {p : Progress σ} (h : p.session.quit = true) (script : Script) :
    p.loop library inner script = p := by
  rw [loop, if_pos h]

theorem loop_eq {p : Progress σ} {script rest : Script} {r : Script.Step}
    (hquit : p.session.quit = false)
    (h : script.step (Engine.safeInput p.session.engine) = (r, rest)) :
    p.loop library inner script =
      match r with
      | .done => p
      | .parsed parsed => (p.apply library inner parsed).loop library inner rest
      | .failed error => ((p.log rest.resyncTrace).fail error).loop library inner rest := by
  rw [loop, if_neg (by simp [hquit])]
  split <;> next heq =>
    rw [h] at heq
    obtain ⟨rfl, rfl⟩ := Prod.mk.inj heq
    rfl

theorem courseOfScript_quit {p : Progress σ} (h : p.session.quit = true) (script : Script) :
    courseOfScript library within script p = [] := by
  rw [courseOfScript, if_pos h]

theorem courseOfScript_eq {p : Progress σ} {script rest : Script} {r : Script.Step}
    (hquit : p.session.quit = false)
    (h : script.step (Engine.safeInput p.session.engine) = (r, rest)) :
    courseOfScript library within script p =
      match r with
      | .done => []
      | .parsed parsed =>
        courseOfStatement library within parsed p ++
          courseOfScript library within rest
            (p.follow (courseOfStatement library within parsed p))
      | .failed error =>
        .misread error rest.resyncTrace ::
          courseOfScript library within rest (p.advance (.misread error rest.resyncTrace)) := by
  rw [courseOfScript, if_neg (by simp [hquit])]
  split <;> next heq =>
    rw [h] at heq
    obtain ⟨rfl, rfl⟩ := Prod.mk.inj heq
    rfl

end Progress

/-! ## What is true of a happening -/

/-- The errors of a scan are those of skipped characters. -/
theorem Scan.kind_of_mem_errors {scan : Scan} {e : Error} (h : e ∈ scan.errors) :
    e.kind = .lexical := by
  obtain ⟨piece, -, hpiece⟩ := List.mem_filterMap.mp h
  cases piece with
  | token t => cases hpiece
  | illegal c q => rw [← Option.some.inj hpiece]; rfl

namespace Progress

/-- The texts that are read when a text is executed: this text and the scripts of the library. -/
def Sources (library : Library) (text source : String) : Prop :=
  source = text ∨ ∃ path, library path = .ok source

variable [Text.Normalizer] {σ : Type} [Engine σ] {source : String → Prop}

/-- A skipped character is in the report. -/
def ReportsSkipped (p : Progress σ) : Prop := ∃ e ∈ p.report.errors, e.kind = .lexical

/--
A statement was read at a point of one of the texts under the safe input of this moment. If
characters were skipped in that text, the report says so.
-/
def Reads (source : String → Prop) (p : Progress σ) (parsed : Parsed) : Prop :=
  ∃ text s, source text ∧ Script.Reached text s ∧
    (s.step (Engine.safeInput p.session.engine)).1 = .parsed parsed ∧
    (s.scan.errors ≠ [] → p.ReportsSkipped)

/-- What a happening says about the moment in which it happens. -/
def Admits (source : String → Prop) (p : Progress σ) : Happening → Prop
  | .accepted parsed =>
    p.Reads source parsed ∧ parsed.statement.effect ≠ .control ∧
      ∃ outcome, (PaveScript.dispatch parsed.statement p.session.engine).1 = .ok outcome
  | .refused parsed cause =>
    p.Reads source parsed ∧ parsed.statement.effect ≠ .control ∧
      (PaveScript.dispatch parsed.statement p.session.engine).1 = .error cause
  | _ => True

/-- What was handed to the engine was read at a point of one of the texts. -/
theorem Admits.reads {p : Progress σ} {h : Happening} (hp : p.Admits source h) {parsed : Parsed}
    (hparsed : h = .accepted parsed ∨ ∃ cause, h = .refused parsed cause) :
    p.Reads source parsed := by
  obtain rfl | ⟨cause, rfl⟩ := hparsed
  · exact hp.1
  · exact hp.1

/-- Every happening of a list is true at its moment. -/
def Sound (source : String → Prop) (p : Progress σ) : List Happening → Prop
  | [] => True
  | h :: hs => p.Admits source h ∧ (p.advance h).Sound source hs

theorem sound_append {p : Progress σ} {hs hs' : List Happening} :
    p.Sound source (hs ++ hs') ↔ p.Sound source hs ∧ (p.follow hs).Sound source hs' := by
  induction hs generalizing p with
  | nil => simp [Sound]
  | cons h hs ih => simp only [List.cons_append, Sound, ih, follow_cons, and_assoc]

theorem sound_singleton {p : Progress σ} {h : Happening} :
    p.Sound source [h] ↔ p.Admits source h := by
  simp [Sound]

/-- What happens at a point of a sound course is true there. -/
theorem Sound.admits {p : Progress σ} {hs done : List Happening} {h : Happening}
    (hs' : p.Sound source hs) (hpoint : done ++ [h] <+: hs) : (p.follow done).Admits source h := by
  obtain ⟨rest, rfl⟩ := hpoint
  rw [sound_append, sound_append, sound_singleton] at hs'
  exact hs'.1.2

/-- **A happening reports its error and no other.** -/
theorem errors_advance {p : Progress σ} {h : Happening} (hp : p.Admits source h) :
    (p.advance h).report.errors = p.report.errors ++ h.error?.toList := by
  cases h with
  | accepted parsed =>
    obtain ⟨-, -, outcome, hok⟩ := hp
    rw [advance, errors_dispatch_ok (Prod.ext hok rfl)]
    simp [Happening.error?]
  | refused parsed cause =>
    obtain ⟨-, -, herror⟩ := hp
    rw [advance, dispatch_error (Prod.ext herror rfl), errors_fail]
    rfl
  | left =>
    simp only [advance]
    split <;> simp [Happening.error?]
  | _ => simp [advance, Happening.error?]

theorem errors_follow {p : Progress σ} {hs : List Happening} (h : p.Sound source hs) :
    (p.follow hs).report.errors = p.report.errors ++ hs.filterMap Happening.error? := by
  induction hs generalizing p with
  | nil => simp
  | cons a hs ih =>
    rw [follow_cons, ih h.2, errors_advance h.1, List.append_assoc]
    cases ha : a.error? <;> simp [ha]

theorem ReportsSkipped.follow {p : Progress σ} {hs : List Happening} (h : p.ReportsSkipped)
    (hs' : p.Sound source hs) : (p.follow hs).ReportsSkipped := by
  obtain ⟨e, he, hkind⟩ := h
  exact ⟨e, by rw [errors_follow hs']; exact List.mem_append_left _ he, hkind⟩

/-! ## Runs go through their courses -/

/-- A run that goes through a course and leaves the scripts open that were open before it. -/
structure Traced (source : String → Prop) (run : Progress σ → Progress σ)
    (course : Progress σ → List Happening) : Prop where
  follow : ∀ p : Progress σ, run p = p.follow (course p)
  openFiles : ∀ p : Progress σ, (run p).session.openFiles = p.session.openFiles
  sound : ∀ p : Progress σ, p.Sound source (course p)

/-- Runs and courses one level further in, where the scripts of the library are executed. -/
abbrev Tracks (library : Library) (source : String → Prop) :
    Option (String → Progress σ → Progress σ) →
    Option (String → Progress σ → List Happening) → Prop :=
  Option.Rel fun run course =>
    ∀ path text, library path = .ok text → Traced source (run text) (course text)

variable {library : Library} {inner : Option (String → Progress σ → Progress σ)}
  {within : Option (String → Progress σ → List Happening)}

/-- Reading a script enters it, goes through it and leaves it. -/
theorem traced_readFile (h : Tracks library source inner within) (path : String) :
    Traced source (fun p => p.readFile library inner path)
      (courseOfFile library within path) := by
  cases h with
  | none =>
    refine ⟨fun p => rfl, fun p => openFiles_fail _ p, fun p => ?_⟩
    exact sound_singleton.mpr trivial
  | @some run course h =>
    cases hpath : library path with
    | error reason =>
      refine ⟨fun p => ?_, fun p => ?_, fun p => ?_⟩
      · simp [readFile, courseOfFile, hpath, advance]
      · simp only [readFile, hpath, openFiles_fail, session_emit]
      · simp [courseOfFile, hpath, Sound, Admits]
    | ok text =>
      refine ⟨fun p => ?_, fun p => ?_, fun p => ?_⟩
      · simp only [readFile, courseOfFile, hpath, List.cons_append, follow_cons, follow_append,
          follow_nil]
        rw [← (h path text hpath).follow]
        -- the run inside gives back the open scripts it got, so the last of them is this one
        have hlast : (run text (p.advance (.entered path text))).session.openFiles.dropLast =
            p.session.openFiles := by
          rw [(h path text hpath).openFiles]
          exact List.dropLast_concat
        rw [advance.eq_def _ .left, hlast]
        rfl
      · simp only [readFile, hpath]
        split <;> rfl
      · simp only [courseOfFile, hpath, List.cons_append, Sound, sound_append]
        exact ⟨trivial, (h path text hpath).sound _, trivial, trivial⟩

/-- A statement that a session was able to read is executed along its course. -/
theorem apply_eq_follow (h : Tracks library source inner within) (parsed : Parsed)
    (p : Progress σ) :
    p.apply library inner parsed = p.follow (courseOfStatement library within parsed p) := by
  have hverdict : p.dispatch parsed = p.follow [verdict parsed p.session.engine] := by
    rcases verdict_cases parsed p.session.engine with ⟨_, _, hv⟩ | ⟨_, _, hv⟩ <;> rw [hv] <;> rfl
  unfold apply courseOfStatement
  cases parsed.statement with
  | readFile path => exact (traced_readFile h path).follow p
  | quit => rfl
  | help => rfl
  | _ => exact hverdict

theorem openFiles_apply (h : Tracks library source inner within) (parsed : Parsed)
    (p : Progress σ) :
    (p.apply library inner parsed).session.openFiles = p.session.openFiles := by
  unfold apply
  split
  · next path _ => exact (traced_readFile h path).openFiles p
  · rfl
  · rfl
  · exact openFiles_dispatch parsed p

theorem sound_courseOfStatement (h : Tracks library source inner within) {parsed : Parsed}
    {p : Progress σ} (hread : p.Reads source parsed) :
    p.Sound source (courseOfStatement library within parsed p) := by
  unfold courseOfStatement
  split
  · next path _ => exact (traced_readFile h path).sound p
  · exact sound_singleton.mpr trivial
  · exact sound_singleton.mpr trivial
  · next hfile hquit hhelp =>
    have heffect : parsed.statement.effect ≠ .control := by
      cases hs : parsed.statement with
      | readFile path => exact absurd hs (hfile path)
      | quit => exact absurd hs hquit
      | help => exact absurd hs hhelp
      | _ => simp [Statement.effect]
    rw [sound_singleton]
    rcases verdict_cases parsed p.session.engine with ⟨outcome, hok, hv⟩ | ⟨cause, herror, hv⟩
    · rw [hv]
      exact ⟨hread, heffect, outcome, hok⟩
    · rw [hv]
      exact ⟨hread, heffect, herror⟩

/-! ## Scripts and texts -/

/-- **Executing a script is going through its course.** -/
theorem loop_eq_follow (h : Tracks library source inner within) (script : Script) (p : Progress σ) :
    p.loop library inner script = p.follow (courseOfScript library within script p) ∧
      (p.loop library inner script).session.openFiles = p.session.openFiles := by
  induction hlen : script.rest.length using Nat.strongRecOn generalizing script p with
  | _ len ih =>
    cases hquit : p.session.quit with
    | true => rw [loop_quit hquit, courseOfScript_quit hquit]; exact ⟨rfl, rfl⟩
    | false =>
      cases hstep : script.step (Engine.safeInput p.session.engine) with
      | mk r rest =>
        have hlt : r ≠ .done → rest.rest.length < len :=
          fun hr => hlen ▸ Script.length_rest_step hstep hr
        rw [loop_eq hquit hstep, courseOfScript_eq hquit hstep]
        cases r with
        | done => exact ⟨rfl, rfl⟩
        | parsed parsed =>
          obtain ⟨hfollow, hopen⟩ := ih _ (hlt (by simp)) rest (p.apply library inner parsed) rfl
          simp only [follow_append]
          rw [← apply_eq_follow h]
          exact ⟨hfollow, hopen.trans (openFiles_apply h parsed p)⟩
        | failed error =>
          obtain ⟨hfollow, hopen⟩ :=
            ih _ (hlt (by simp)) rest (p.advance (.misread error rest.resyncTrace)) rfl
          exact ⟨hfollow, hopen.trans (openFiles_fail error _)⟩

/-- What is said to happen while a script is executed is true. -/
theorem sound_courseOfScript (h : Tracks library source inner within) {text : String}
    (htext : source text) {script : Script} (hscript : Script.Reached text script) {p : Progress σ}
    (hreport : script.scan.errors ≠ [] → p.ReportsSkipped) :
    p.Sound source (courseOfScript library within script p) := by
  induction hlen : script.rest.length using Nat.strongRecOn generalizing script p with
  | _ len ih =>
    cases hquit : p.session.quit with
    | true => rw [courseOfScript_quit hquit]; trivial
    | false =>
      cases hstep : script.step (Engine.safeInput p.session.engine) with
      | mk r rest =>
        have hlt : r ≠ .done → rest.rest.length < len :=
          fun hr => hlen ▸ Script.length_rest_step hstep hr
        have hrest : Script.Reached text rest := by
          have := hscript.step (Engine.safeInput p.session.engine)
          rwa [hstep] at this
        have hscan : rest.scan = script.scan := hrest.scan_eq.trans hscript.scan_eq.symm
        rw [courseOfScript_eq hquit hstep]
        cases r with
        | done => trivial
        | parsed parsed =>
          have hnow : p.Sound source (courseOfStatement library within parsed p) :=
            sound_courseOfStatement h ⟨text, script, htext, hscript, by rw [hstep], hreport⟩
          refine sound_append.mpr ⟨hnow, ih _ (hlt (by simp)) hrest ?_ rfl⟩
          rw [hscan]
          exact fun herrors => (hreport herrors).follow hnow
        | failed error =>
          have hnow : p.Sound source [.misread error rest.resyncTrace] :=
            sound_singleton.mpr trivial
          refine ⟨trivial, ih _ (hlt (by simp)) hrest ?_ rfl⟩
          rw [hscan]
          exact fun herrors => (hreport herrors).follow hnow

theorem follow_opening (text : String) (p : Progress σ) :
    p.follow (opening text) =
      (Script.ofText text).scan.errors.foldl (fun p e => p.fail e)
        (p.logAll (Script.ofText text).scan.trace) := by
  rw [opening, follow_cons, follow, List.foldl_map]
  rfl

theorem sound_opening (text : String) (p : Progress σ) : p.Sound source (opening text) := by
  refine ⟨trivial, ?_⟩
  generalize p.advance (.scanned (Script.ofText text).scan.trace) = q
  induction (Script.ofText text).scan.errors generalizing q with
  | nil => trivial
  | cons e es ih => exact ⟨trivial, ih _⟩

theorem openFiles_opening (text : String) (p : Progress σ) :
    (p.follow (opening text)).session.openFiles = p.session.openFiles := by
  rw [opening, follow_cons]
  have hlog : (p.advance (.scanned (Script.ofText text).scan.trace)).session = p.session := rfl
  rw [← hlog]
  generalize p.advance (.scanned (Script.ofText text).scan.trace) = q
  induction (Script.ofText text).scan.errors generalizing q with
  | nil => rfl
  | cons e es ih => exact (ih (q.fail e)).trans (openFiles_fail e q)

/-- Before the first statement of a text its skipped characters are in the report. -/
theorem reportsSkipped_opening (text : String) (p : Progress σ)
    (h : (Scan.ofText text).errors ≠ []) : (p.follow (opening text)).ReportsSkipped := by
  obtain ⟨e, he⟩ := List.exists_mem_of_ne_nil _ h
  refine ⟨e, ?_, Scan.kind_of_mem_errors he⟩
  have hsound : p.Sound (fun _ => True) (opening text) := sound_opening text p
  rw [errors_follow hsound]
  refine List.mem_append_right _ (List.mem_filterMap.mpr ⟨.skipped e, ?_, rfl⟩)
  exact List.mem_cons_of_mem _ (List.mem_map_of_mem he)

theorem traced_runWith (h : Tracks library source inner within) {text : String}
    (htext : source text) :
    Traced source (runWith library inner text) (courseOfText library within text) := by
  have hrun : ∀ p, runWith library inner text p =
      (p.follow (opening text)).loop library inner (Script.ofText text).takePending.2 := by
    intro p
    rw [follow_opening]
    rfl
  refine ⟨fun p => ?_, fun p => ?_, fun p => ?_⟩
  · rw [hrun, courseOfText, follow_append]
    exact (loop_eq_follow h _ _).1
  · rw [hrun, (loop_eq_follow h _ _).2, openFiles_opening]
  · refine sound_append.mpr ⟨sound_opening text p, sound_courseOfScript h htext .start ?_⟩
    exact reportsSkipped_opening text p

/-- **Executing a text with any number of levels left is going through its course.** -/
theorem traced_runIn (hlibrary : ∀ path text, library path = .ok text → source text) (levels : Nat)
    {text : String} (htext : source text) :
    Traced source (runIn library levels text : Progress σ → Progress σ)
      (courseIn library levels text) := by
  induction levels generalizing text with
  | zero => exact traced_runWith .none htext
  | succ levels ih =>
    exact traced_runWith (.some fun path text hpath => ih (hlibrary path text hpath)) htext

/-- Runs go through their courses, whichever texts they read. -/
theorem tracks_runIn (library : Library) (levels : Nat) :
    Tracks (σ := σ) library (fun _ => True) (some (runIn library levels))
      (some (courseIn library levels)) :=
  .some fun _ _ _ => traced_runIn (fun _ _ _ => trivial) levels trivial

end Progress

/-! ## Sessions -/

namespace Session

variable [Text.Normalizer] {σ : Type} [Engine σ]

/-- What happens when a text is executed. -/
def course (library : Library) (s : Session σ) (text : String) : List Happening :=
  Progress.courseIn library (fileLimit - s.openFiles.length) text ⟨s, {}⟩

theorem traced_execute (library : Library) (levels : Nat) (text : String) :
    Progress.Traced (σ := σ) (Progress.Sources library text) (Progress.runIn library levels text)
      (Progress.courseIn library levels text) :=
  Progress.traced_runIn (fun path _ hpath => .inr ⟨path, hpath⟩) levels (.inl rfl)

/-- **Executing a text is going through its course.** -/
theorem execute_eq_follow (library : Library) (s : Session σ) (text : String) :
    s.execute library text =
      ((Progress.mk s {}).follow (s.course library text) |>.report,
        (Progress.mk s {}).follow (s.course library text) |>.session) := by
  rw [execute, (traced_execute library _ text).follow]
  rfl

theorem sound_course (library : Library) (s : Session σ) (text : String) :
    (Progress.mk s {}).Sound (Progress.Sources library text) (s.course library text) :=
  (traced_execute library _ text).sound _

/-- The errors of a report are those that happened. -/
theorem errors_execute (library : Library) (s : Session σ) (text : String) :
    (s.execute library text).1.errors = (s.course library text).filterMap Happening.error? := by
  rw [execute_eq_follow, Progress.errors_follow (sound_course library s text)]
  rfl

/-- Executes one text after the other. -/
def executeAll (library : Library) (s : Session σ) : List String → List Report × Session σ
  | [] => ([], s)
  | text :: texts =>
    let (report, s) := s.execute library text
    let (reports, s) := s.executeAll library texts
    (report :: reports, s)

/-- What happens when one text is executed after the other. -/
def courseAll (library : Library) (s : Session σ) : List String → List Happening
  | [] => []
  | text :: texts => s.course library text ++ (s.execute library text).2.courseAll library texts

end Session

end PaveScript
