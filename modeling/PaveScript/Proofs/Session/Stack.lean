import PaveScript.Problem
import PaveScript.Proofs.Session.Course
import PaveScript.Text.Normal.Form

/-!
# The stack of open scripts

A session that executes a text keeps a stack of scripts that are being read. `Machine` is such a
session between two happenings, and `Machine.next?` says what happens next. It knows no bound but
the limit of open scripts: whether a script is entered depends on how many are open, and nothing
counts the levels that are left.

* `Takes.start_course` — the machine runs to its end, along the course of the session
* `Takes.stands` — at every moment the open scripts are those that are being read
* `execute_balanced` — execution ends, the stack never grows beyond the limit and is given back as
  it was, and every failure names the script on top of it
-/

namespace PaveScript

/-- How far the reading of a text has come. -/
inductive Stage where
  /-- The text has not been scanned. -/
  | unread (text : String)
  | reading (script : Script)

/-- A text that is being executed, with the path of the script that it is. The text that the session
was given has no path. -/
structure Frame where
  path : Option String
  stage : Stage

/-- A session in the middle of an execution, with the texts it is in, the innermost first. -/
structure Machine (σ : Type) where
  progress : Progress σ
  frames : List Frame

namespace Machine

variable {σ : Type} [Engine σ]

/-- A session that is given a text. -/
def start (s : Session σ) (text : String) : Machine σ := ⟨⟨s, {}⟩, [⟨none, .unread text⟩]⟩

/-- The open scripts that are being read, the innermost last. -/
def scripts (frames : List Frame) : List String := (frames.filterMap Frame.path).reverse

theorem scripts_cons (frame : Frame) (frames : List Frame) :
    scripts (frame :: frames) = scripts frames ++ frame.path.toList := by
  cases hpath : frame.path <;> simp [scripts, hpath]

/-! ## What happens next -/

/-- A script is entered if it can be read and fewer than `fileLimit` scripts are open. -/
def nextOfFile (library : Library) (path : String) (p : Progress σ) (frames : List Frame) :
    Happening × List Frame :=
  if fileLimit ≤ p.session.openFiles.length then (.tooDeep path, frames)
  else
    match library path with
    | .error reason => (.unreadable path reason, frames)
    | .ok text => (.entered path text, ⟨some path, .unread text⟩ :: frames)

def nextOfStatement (library : Library) (parsed : Parsed) (p : Progress σ) (frames : List Frame) :
    Happening × List Frame :=
  match parsed.statement with
  | .readFile path => nextOfFile library path p frames
  | .quit => (.quit, frames)
  | .help => (.helped, frames)
  | _ => (Progress.verdict parsed p.session.engine, frames)

/-- A script that has come to its end is left; the text of the session ends the execution. -/
def nextOfEnd (path : Option String) (outer : List Frame) : Option (Happening × List Frame) :=
  path.map fun _ => (.left, outer)

variable [Text.Normalizer]

/-- What happens next, and the texts that the session is in then. -/
def next? (library : Library) (m : Machine σ) : Option (Happening × List Frame) :=
  match m.frames with
  | [] => none
  | ⟨path, .unread text⟩ :: outer =>
    some (.scanned (Script.ofText text).scan.trace, ⟨path, .reading (Script.ofText text)⟩ :: outer)
  | ⟨path, .reading script⟩ :: outer =>
    match script.pending with
    | error :: pending =>
      some (.skipped error, ⟨path, .reading { script with pending }⟩ :: outer)
    | [] =>
      if m.progress.session.quit then nextOfEnd path outer
      else
        match script.step (Engine.safeInput m.progress.session.engine) with
        | (.done, _) => nextOfEnd path outer
        | (.failed error, rest) =>
          some (.misread error rest.resyncTrace, ⟨path, .reading rest⟩ :: outer)
        | (.parsed parsed, rest) =>
          some (nextOfStatement library parsed m.progress (⟨path, .reading rest⟩ :: outer))

end Machine

/-- `Takes library m hs m'`: the happenings `hs`, one after the other, lead from `m` to `m'`. -/
inductive Takes [Text.Normalizer] {σ : Type} [Engine σ] (library : Library) :
    Machine σ → List Happening → Machine σ → Prop where
  | refl (m : Machine σ) : Takes library m [] m
  | step {m m' : Machine σ} {a : Happening} {hs : List Happening} {frames : List Frame}
    (hnext : m.next? library = some (a, frames))
    (h : Takes library ⟨m.progress.advance a, frames⟩ hs m') : Takes library m (a :: hs) m'

/-- Reading a statement leaves alone what is still to be reported. -/
theorem Script.pending_step (safe : Bool) (s : Script) : (s.step safe).2.pending = s.pending := by
  rw [Script.step]
  split
  · rfl
  · split <;> rfl

section

variable [Text.Normalizer] {σ : Type} [Engine σ] {library : Library}

namespace Takes

variable {m m' m'' : Machine σ} {hs hs' : List Happening}

theorem trans (h : Takes library m hs m') (h' : Takes library m' hs' m'') :
    Takes library m (hs ++ hs') m'' := by
  induction h with
  | refl m => exact h'
  | step hnext _ ih => exact .step hnext (ih h')

theorem single {a : Happening} {frames : List Frame} (h : m.next? library = some (a, frames)) :
    Takes library m [a] ⟨m.progress.advance a, frames⟩ :=
  .step h (.refl _)

/-- **The machine has no choice:** all its runs are beginnings of one that comes to an end. -/
theorem isPrefix (h : Takes library m hs m') (hend : m'.next? library = none)
    (h' : Takes library m hs' m'') : hs' <+: hs := by
  induction h' generalizing hs with
  | refl m => exact List.nil_prefix
  | @step m m'' a hs' frames hnext _ ih =>
    cases h with
    | refl m =>
      rw [hnext] at hend
      cases hend
    | step hnext' h =>
      rw [hnext] at hnext'
      obtain ⟨rfl, rfl⟩ := Prod.mk.inj (Option.some.inj hnext')
      exact (List.prefix_cons_inj a).mpr (ih h)

end Takes

/-! ## The machine runs along the course -/

namespace Machine

/-- The script has come to its end: nothing is left of it, or the session was asked to quit. -/
def Ended (p : Progress σ) (script : Script) : Prop :=
  script.pending = [] ∧
    (p.session.quit = true ∨ (script.step (Engine.safeInput p.session.engine)).1 = .done)

theorem next?_of_ended {p : Progress σ} {script : Script} (h : Ended p script)
    (path : Option String) (outer : List Frame) :
    next? library ⟨p, ⟨path, .reading script⟩ :: outer⟩ = nextOfEnd path outer := by
  obtain ⟨hpending, hquit | hdone⟩ := h
  · simp [next?, hpending, hquit]
  · rcases hstep : script.step (Engine.safeInput p.session.engine) with ⟨r, rest⟩
    rw [hstep] at hdone
    obtain rfl : r = .done := hdone
    simp [next?, hpending, hstep]

/-- Executing a text of which `hs` happens comes to the end of the text, in any surroundings. -/
def Finishes (library : Library) (text : String) (p : Progress σ) (hs : List Happening) : Prop :=
  ∀ (path : Option String) (outer : List Frame), ∃ script,
    Takes library ⟨p, ⟨path, .unread text⟩ :: outer⟩ hs
      ⟨p.follow hs, ⟨path, .reading script⟩ :: outer⟩ ∧
    Ended (p.follow hs) script

/-- What happens one level further in fits a machine with `n` open scripts: if there are as many as
there may be nothing happens there, and otherwise every script that is entered comes to its end. -/
inductive Fits (library : Library) (n : Nat) :
    Option (String → Progress σ → List Happening) → Prop where
  | full (h : fileLimit ≤ n) : Fits library n none
  | free {course : String → Progress σ → List Happening} (h : n < fileLimit)
    (hinner : ∀ (text : String) (p : Progress σ), p.session.openFiles.length = n + 1 →
      Finishes library text p (course text p)) : Fits library n (some course)

variable {source : String → Prop} {inner : Option (String → Progress σ → Progress σ)}
  {within : Option (String → Progress σ → List Happening)} {n : Nat}

theorem takes_courseOfFile (h : Fits library n within) {m : Machine σ} {path : String}
    {frames : List Frame} (hn : m.progress.session.openFiles.length = n)
    (hnext : m.next? library = some (nextOfFile library path m.progress frames)) :
    Takes library m (Progress.courseOfFile library within path m.progress)
      ⟨m.progress.follow (Progress.courseOfFile library within path m.progress), frames⟩ := by
  cases h with
  | full h =>
    rw [nextOfFile, if_pos (hn ▸ h)] at hnext
    exact .single hnext
  | free h hinner =>
    rw [nextOfFile, if_neg (Nat.not_le.mpr (hn ▸ h))] at hnext
    simp only [Progress.courseOfFile]
    cases hpath : library path with
    | error reason =>
      rw [hpath] at hnext
      exact .single hnext
    | ok text =>
      rw [hpath] at hnext
      -- the script is entered, comes to its end and is left
      have hopen : (m.progress.advance (.entered path text)).session.openFiles.length = n + 1 := by
        simp [Progress.advance, hn]
      obtain ⟨script, hscript, hended⟩ := hinner text _ hopen (some path) frames
      simp only [List.cons_append, Progress.follow_cons, Progress.follow_append]
      exact .step hnext (hscript.trans (.single (next?_of_ended hended (some path) frames)))

theorem takes_courseOfStatement (h : Fits library n within) {m : Machine σ} {parsed : Parsed}
    {frames : List Frame} (hn : m.progress.session.openFiles.length = n)
    (hnext : m.next? library = some (nextOfStatement library parsed m.progress frames)) :
    Takes library m (Progress.courseOfStatement library within parsed m.progress)
      ⟨m.progress.follow (Progress.courseOfStatement library within parsed m.progress),
        frames⟩ := by
  unfold nextOfStatement at hnext
  unfold Progress.courseOfStatement
  cases hs : parsed.statement with
  | readFile path =>
    rw [hs] at hnext
    exact takes_courseOfFile h hn hnext
  | _ =>
    rw [hs] at hnext
    exact .single hnext

/-- **The rest of a script is executed to its end.** -/
theorem takes_courseOfScript (ht : Progress.Tracks library source inner within)
    (h : Fits library n within) {script : Script} (hpending : script.pending = []) {p : Progress σ}
    (hn : p.session.openFiles.length = n) (path : Option String) (outer : List Frame) :
    ∃ script', Takes library ⟨p, ⟨path, .reading script⟩ :: outer⟩
        (Progress.courseOfScript library within script p)
        ⟨p.follow (Progress.courseOfScript library within script p),
          ⟨path, .reading script'⟩ :: outer⟩ ∧
      Ended (p.follow (Progress.courseOfScript library within script p)) script' := by
  induction hlen : script.rest.length using Nat.strongRecOn generalizing script p with
  | _ len ih =>
    cases hquit : p.session.quit with
    | true =>
      rw [Progress.courseOfScript_quit hquit]
      exact ⟨script, .refl _, hpending, .inl hquit⟩
    | false =>
      cases hstep : script.step (Engine.safeInput p.session.engine) with
      | mk r rest =>
        have hlt : r ≠ .done → rest.rest.length < len :=
          fun hr => hlen ▸ Script.length_rest_step hstep hr
        have hpending' : rest.pending = [] := by
          have := Script.pending_step (Engine.safeInput p.session.engine) script
          rwa [hstep, hpending] at this
        rw [Progress.courseOfScript_eq hquit hstep]
        cases r with
        | done => exact ⟨script, .refl _, hpending, .inr (congrArg Prod.fst hstep)⟩
        | parsed parsed =>
          have hnow : Takes library ⟨p, ⟨path, .reading script⟩ :: outer⟩
              (Progress.courseOfStatement library within parsed p)
              ⟨p.follow (Progress.courseOfStatement library within parsed p),
                ⟨path, .reading rest⟩ :: outer⟩ := by
            refine takes_courseOfStatement h hn ?_
            simp [next?, hpending, hquit, hstep]
          have hopen : (p.apply library inner parsed).session.openFiles = p.session.openFiles :=
            Progress.openFiles_apply ht parsed p
          rw [Progress.apply_eq_follow ht] at hopen
          obtain ⟨script', hrest, hended⟩ :=
            ih _ (hlt (by simp)) hpending' (by rw [hopen, hn]) rfl
          simp only [Progress.follow_append]
          exact ⟨script', hnow.trans hrest, hended⟩
        | failed error =>
          have hopen : (p.advance (.misread error rest.resyncTrace)).session.openFiles.length = n :=
            (congrArg List.length (Progress.openFiles_fail error _)).trans hn
          obtain ⟨script', hrest, hended⟩ := ih _ (hlt (by simp)) hpending' hopen rfl
          exact ⟨script', .step (by simp [next?, hpending, hquit, hstep]) hrest, hended⟩

/-- The skipped characters of a text are reported one by one. -/
theorem takes_pending (script : Script) (errors : List Error) (p : Progress σ)
    (path : Option String) (outer : List Frame) :
    Takes library ⟨p, ⟨path, .reading { script with pending := errors }⟩ :: outer⟩
      (errors.map .skipped)
      ⟨p.follow (errors.map .skipped),
        ⟨path, .reading { script with pending := [] }⟩ :: outer⟩ := by
  induction errors generalizing p with
  | nil => exact .refl _
  | cons error errors ih => exact .step rfl (ih _)

theorem finishes_courseOfText (ht : Progress.Tracks library source inner within)
    (h : Fits library n within) (text : String) {p : Progress σ}
    (hn : p.session.openFiles.length = n) :
    Finishes library text p (Progress.courseOfText library within text p) := by
  intro path outer
  have hopening : Takes library ⟨p, ⟨path, .unread text⟩ :: outer⟩ (Progress.opening text)
      ⟨p.follow (Progress.opening text),
        ⟨path, .reading (Script.ofText text).takePending.2⟩ :: outer⟩ :=
    .step rfl (takes_pending (Script.ofText text) _ _ path outer)
  have hopen : (p.follow (Progress.opening text)).session.openFiles.length = n := by
    rw [Progress.openFiles_opening, hn]
  have hpending : (Script.ofText text).takePending.2.pending = [] := rfl
  obtain ⟨script, hscript, hended⟩ := takes_courseOfScript ht h hpending hopen path outer
  rw [Progress.courseOfText]
  simp only [Progress.follow_append]
  exact ⟨script, hopening.trans hscript, hended⟩

/-- **Every text is executed to its end,** however deep the scripts it reads are nested. -/
theorem finishes_courseIn {levels : Nat} (text : String) {p : Progress σ}
    (h : levels = fileLimit - p.session.openFiles.length) :
    Finishes library text p (Progress.courseIn library levels text p) := by
  induction levels generalizing text p with
  | zero =>
    have htracks : Progress.Tracks (σ := σ) library (fun _ => True) none none := .none
    exact finishes_courseOfText htracks (.full (by omega)) text rfl
  | succ levels ih =>
    refine finishes_courseOfText (Progress.tracks_runIn library levels) ?_ text rfl
    exact .free (by omega) fun text q hq => ih text (by omega)

end Machine

/-- The machine that is given a text goes through the course of the session, and then it halts. -/
theorem Takes.start_course (library : Library) (s : Session σ) (text : String) :
    ∃ m, Takes library (.start s text) (s.course library text) m ∧ m.next? library = none ∧
      s.execute library text = (m.progress.report, m.progress.session) := by
  have hlevels : fileLimit - s.openFiles.length =
      fileLimit - (Progress.mk s {}).session.openFiles.length := rfl
  obtain ⟨script, htakes, hended⟩ := Machine.finishes_courseIn text hlevels none []
  exact ⟨_, htakes, Machine.next?_of_ended hended none [], Session.execute_eq_follow library s text⟩

end

/-! ## What one happening does to the stack -/

/-- What a happening does to the stack of open scripts. -/
def Happening.stack : Happening → List String → List String
  | entered path _, files => files ++ [path]
  | left, files => files.dropLast
  | _, files => files

section

variable {σ : Type} [Engine σ] {p : Progress σ}

theorem Progress.openFiles_advance (p : Progress σ) (a : Happening) :
    (p.advance a).session.openFiles = a.stack p.session.openFiles := by
  cases a with
  | accepted parsed => exact openFiles_dispatch parsed p
  | refused parsed cause => exact openFiles_dispatch parsed p
  | left =>
    simp only [advance]
    split <;> rfl
  | skipped error => exact openFiles_fail error p
  | misread error resync => exact openFiles_fail error _
  | tooDeep path => exact openFiles_fail _ p
  | unreadable path reason => exact openFiles_fail _ _
  | _ => rfl

theorem Progress.failures_fail (error : Error) (p : Progress σ) :
    (p.fail error).report.failures =
      p.report.failures ++ [⟨p.session.openFiles.getLast?, error⟩] := by
  unfold fail
  cases error.resets <;> rfl

theorem Progress.failures_dispatch_ok {parsed : Parsed} {outcome : Dispatched} {engine : σ}
    (h : PaveScript.dispatch parsed.statement p.session.engine = (.ok outcome, engine)) :
    (p.dispatch parsed).report.failures = p.report.failures := by
  unfold dispatch
  simp only [h]
  cases outcome <;> cases parsed.skipped <;> rfl

/-- **A failure carries the innermost open script,** and nothing else adds to the failures. -/
theorem Progress.failures_advance [Text.Normalizer] {source : String → Prop} {a : Happening}
    (ha : p.Admits source a) :
    (p.advance a).report.failures = p.report.failures ++
      (a.error?.map (Failure.mk p.session.openFiles.getLast?)).toList := by
  cases a with
  | accepted parsed =>
    obtain ⟨-, -, outcome, hok⟩ := ha
    rw [advance, failures_dispatch_ok (Prod.ext hok rfl)]
    exact (List.append_nil _).symm
  | refused parsed cause =>
    obtain ⟨-, -, herror⟩ := ha
    rw [advance, dispatch_error (Prod.ext herror rfl), failures_fail]
    rfl
  | left =>
    simp only [advance]
    split <;> exact (List.append_nil _).symm
  | skipped error => exact failures_fail error p
  | misread error resync => exact failures_fail error _
  | tooDeep path => exact failures_fail _ p
  | unreadable path reason => exact failures_fail _ _
  | _ => exact (List.append_nil _).symm

end

namespace Machine

variable {σ : Type} {library : Library}

/-- What holds of a happening at a moment of the machine: it does to the open scripts what it does
to the texts, it enters a script only below the limit, and only at the limit it refuses to. -/
structure Conforms (m : Machine σ) (a : Happening) (frames : List Frame) : Prop where
  stack : ∀ files, a.stack (files ++ scripts m.frames) = files ++ scripts frames
  entered : ∀ path text, a = .entered path text →
    m.progress.session.openFiles.length < fileLimit
  tooDeep : ∀ path, a = .tooDeep path → fileLimit ≤ m.progress.session.openFiles.length

/-- A happening that leaves the stack alone. -/
theorem Conforms.quiet {m : Machine σ} {a : Happening} {frames : List Frame}
    (h : scripts frames = scripts m.frames) (hstack : a.stack = id)
    (hdeep : ∀ path, a ≠ .tooDeep path) : m.Conforms a frames := by
  refine ⟨fun files => by rw [hstack, h]; rfl, ?_, fun path ha => absurd ha (hdeep path)⟩
  rintro path text rfl
  cases congrFun hstack []

theorem conforms_nextOfFile {m : Machine σ} {frames : List Frame} (path : String)
    (h : scripts frames = scripts m.frames) :
    m.Conforms (nextOfFile library path m.progress frames).1
      (nextOfFile library path m.progress frames).2 := by
  unfold nextOfFile
  split
  · next hfull => exact ⟨fun _ => by rw [h]; rfl, fun _ _ => nofun, fun _ _ => hfull⟩
  · next hfree =>
    split
    · exact .quiet h rfl fun _ => nofun
    · refine ⟨fun files => ?_, fun _ _ _ => Nat.not_le.mp hfree, fun _ => nofun⟩
      rw [scripts_cons, h, ← List.append_assoc]
      rfl

theorem conforms_nextOfEnd {m : Machine σ} {a : Happening} {path : Option String} {stage : Stage}
    {frames outer : List Frame} (hm : m.frames = ⟨path, stage⟩ :: outer)
    (h : nextOfEnd path outer = some (a, frames)) : m.Conforms a frames := by
  obtain ⟨q, rfl, hq⟩ := Option.map_eq_some_iff.mp h
  obtain ⟨rfl, rfl⟩ := Prod.mk.inj hq
  refine ⟨fun files => ?_, fun _ _ => nofun, fun _ => nofun⟩
  rw [hm, scripts_cons, ← List.append_assoc]
  exact List.dropLast_concat

variable [Engine σ]

theorem conforms_nextOfStatement {m : Machine σ} {frames : List Frame} (parsed : Parsed)
    (h : scripts frames = scripts m.frames) :
    m.Conforms (nextOfStatement library parsed m.progress frames).1
      (nextOfStatement library parsed m.progress frames).2 := by
  unfold nextOfStatement
  split
  · exact conforms_nextOfFile _ h
  · exact .quiet h rfl fun _ => nofun
  · exact .quiet h rfl fun _ => nofun
  · rcases Progress.verdict_cases parsed m.progress.session.engine with ⟨_, -, hv⟩ | ⟨_, -, hv⟩ <;>
    · rw [hv]
      exact .quiet h rfl fun _ => nofun

variable [Text.Normalizer]

/-- **What happens next fits the stack.** -/
theorem conforms_of_next? {m : Machine σ} {a : Happening} {frames : List Frame}
    (h : m.next? library = some (a, frames)) : m.Conforms a frames := by
  -- another stage of the innermost text leaves the scripts as they are
  have hstage : ∀ {path : Option String} {stage : Stage} {outer : List Frame},
      m.frames = ⟨path, stage⟩ :: outer → ∀ stage', scripts (⟨path, stage'⟩ :: outer) =
        scripts m.frames := by
    intro path stage outer hm stage'
    rw [hm, scripts_cons, scripts_cons]
  unfold next? at h
  split at h
  · cases h
  · next path text outer hm =>
    obtain ⟨rfl, rfl⟩ := Prod.mk.inj (Option.some.inj h)
    exact .quiet (hstage hm _) rfl fun _ => nofun
  · next path script outer hm =>
    split at h
    · obtain ⟨rfl, rfl⟩ := Prod.mk.inj (Option.some.inj h)
      exact .quiet (hstage hm _) rfl fun _ => nofun
    · split at h
      · exact conforms_nextOfEnd hm h
      · split at h
        · exact conforms_nextOfEnd hm h
        · obtain ⟨rfl, rfl⟩ := Prod.mk.inj (Option.some.inj h)
          exact .quiet (hstage hm _) rfl fun _ => nofun
        · next parsed rest hstep =>
          have hconforms : m.Conforms
              (nextOfStatement library parsed m.progress (⟨path, .reading rest⟩ :: outer)).1
              (nextOfStatement library parsed m.progress (⟨path, .reading rest⟩ :: outer)).2 :=
            conforms_nextOfStatement parsed (hstage hm _)
          rwa [Option.some.inj h] at hconforms

/-! ## Every moment -/

/-- The open scripts are those that were open before and those that are being read, and there are
not too many of them. -/
structure Stands (files : List String) (m : Machine σ) : Prop where
  openFiles : m.progress.session.openFiles = files ++ scripts m.frames
  within : m.progress.session.openFiles.length ≤ fileLimit

theorem Stands.next {files : List String} {m : Machine σ} {a : Happening} {frames : List Frame}
    (h : m.Stands files) (hnext : m.next? library = some (a, frames)) :
    Stands files ⟨m.progress.advance a, frames⟩ := by
  have hconforms := conforms_of_next? hnext
  refine ⟨?_, ?_⟩
  · show (m.progress.advance a).session.openFiles = _
    rw [Progress.openFiles_advance, h.openFiles, hconforms.stack]
  · show (m.progress.advance a).session.openFiles.length ≤ _
    rw [Progress.openFiles_advance]
    cases a with
    | entered path text =>
      have := hconforms.entered path text rfl
      rw [Happening.stack, List.length_append]
      exact this
    | left =>
      have := h.within
      simp only [Happening.stack, List.length_dropLast]
      omega
    | _ => exact h.within

end Machine

section

variable [Text.Normalizer] {σ : Type} [Engine σ] {library : Library}

/-- **At every moment the stack is that of the texts being read.** -/
theorem Takes.stands {files : List String} {m m' : Machine σ} {hs : List Happening}
    (h : Takes library m hs m') (hm : m.Stands files) : m'.Stands files := by
  induction h with
  | refl m => exact hm
  | step hnext _ ih => exact ih (hm.next hnext)

/-- Every failure was reported at some moment, with the script that was the innermost then. -/
theorem Takes.exists_of_mem_failures {m m' : Machine σ} {hs : List Happening}
    (h : Takes library m hs m') {source : String → Prop}
    (hsound : m.progress.Sound source hs) {f : Failure}
    (hf : f ∈ m'.progress.report.failures) (hnew : f ∉ m.progress.report.failures) :
    ∃ done now a frames, Takes library m done now ∧ now.next? library = some (a, frames) ∧
      a.error? = some f.error ∧ f.file = now.progress.session.openFiles.getLast? := by
  induction h with
  | refl m => exact absurd hf hnew
  | @step m m' a hs frames hnext _ ih =>
    by_cases hlater : f ∈ (m.progress.advance a).report.failures
    · rw [Progress.failures_advance hsound.1] at hlater
      rcases List.mem_append.mp hlater with hold | hnow
      · exact absurd hold hnew
      · obtain ⟨e, he, rfl⟩ := Option.map_eq_some_iff.mp (Option.mem_toList.mp hnow)
        exact ⟨[], m, a, frames, .refl m, hnext, he, rfl⟩
    · obtain ⟨done, now, b, frames', hdone, hb⟩ := ih hsound.2 hf hlater
      exact ⟨a :: done, now, b, frames', .step hnext hdone, hb⟩

/--
**Execution ends, whatever the scripts read each other, and the stack of open scripts is balanced.**

* The machine that is given the text halts at the end of the course, with the report and the session
  that execution gives, and all its runs are beginnings of this one.
* At every moment the open scripts are those that were open before and those that are being read,
  and there are at most `fileLimit` of them.
* Execution leaves the scripts open that were open before it.
* Every failure was reported at some moment, with the script that was the innermost then. Where a
  script was not entered because too many are open, this is the one that reached the limit.
-/
theorem Session.execute_balanced (library : Library) (s : Session σ)
    (h : s.openFiles.length ≤ fileLimit) (text : String) :
    (∃ m, Takes library (.start s text) (s.course library text) m ∧ m.next? library = none ∧
      s.execute library text = (m.progress.report, m.progress.session)) ∧
    (∀ hs m, Takes library (.start s text) hs m →
      hs <+: s.course library text ∧
      m.progress.session.openFiles = s.openFiles ++ Machine.scripts m.frames ∧
      m.progress.session.openFiles.length ≤ fileLimit) ∧
    (s.execute library text).2.openFiles = s.openFiles ∧
    ∀ f ∈ (s.execute library text).1.failures, ∃ hs m a frames,
      Takes library (.start s text) hs m ∧ m.next? library = some (a, frames) ∧
      a.error? = some f.error ∧ f.file = m.progress.session.openFiles.getLast? ∧
      ∀ path, a = .tooDeep path →
        m.progress.session.openFiles.length = fileLimit ∧
          f.file = m.progress.session.openFiles[fileLimit - 1]? := by
  obtain ⟨m, hrun, hend, hexecute⟩ := Takes.start_course library s text
  have hstart : (Machine.start s text).Stands s.openFiles :=
    ⟨by simp [Machine.start, Machine.scripts], h⟩
  refine ⟨⟨m, hrun, hend, hexecute⟩, fun hs m' htakes => ?_, ?_, fun f hf => ?_⟩
  · have hstands := htakes.stands hstart
    exact ⟨hrun.isPrefix hend htakes, hstands.openFiles, hstands.within⟩
  · exact (traced_execute library _ text).openFiles _
  · rw [hexecute] at hf
    obtain ⟨done, now, a, frames, hdone, hnext, herror, hfile⟩ :=
      hrun.exists_of_mem_failures (sound_course library s text) hf (List.not_mem_nil)
    refine ⟨done, now, a, frames, hdone, hnext, herror, hfile, fun path ha => ?_⟩
    have hlength : now.progress.session.openFiles.length = fileLimit :=
      Nat.le_antisymm (hdone.stands hstart).within
        ((Machine.conforms_of_next? hnext).tooDeep path ha)
    refine ⟨hlength, ?_⟩
    rw [hfile, List.getLast?_eq_getElem?, hlength]

end

/-- Two scripts that read each other; the second one ends the session. -/
def cyclicScripts : Library := fun path =>
  if path = "up.kdk" then .ok "file down.kdk; pave"
  else if path = "down.kdk" then .ok "help; file up.kdk; quit"
  else .error "no such script"

theorem Session.execute_balanced_cyclicScripts :
    let s := Session.new (Problem.new {})
    (s.execute cyclicScripts "file up.kdk; pave").1.failures =
        [⟨some "down.kdk", .domain (.filesTooDeep "up.kdk" fileLimit)⟩] ∧
      (s.execute cyclicScripts "file up.kdk; pave").2.openFiles = [] ∧
      ∃ m, Takes cyclicScripts (.start s "file up.kdk; pave")
          (s.course cyclicScripts "file up.kdk; pave") m ∧
        m.next? cyclicScripts = none := by
  intro s
  obtain ⟨⟨m, hrun, hend, -⟩, -, hopen, -⟩ :=
    s.execute_balanced cyclicScripts (by decide) "file up.kdk; pave"
  exact ⟨by decide +kernel, hopen, m, hrun, hend⟩

end PaveScript
