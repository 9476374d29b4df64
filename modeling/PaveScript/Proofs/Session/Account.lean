import PaveScript.Proofs.Session.Moments
import PaveScript.Text.Normal.Form

/-!
# The account of a run

Every statement that is read is accounted for once. It succeeds or it fails, and the report counts
it; only a quit is not counted, and neither are the statements that read the scripts in which it was
asked for, since these are not left as they should be.

* `Machine.Move.balance` — a statement that is read is counted at once or when its script is left
* `Machine.Move.reported` — what is skipped in a text that begins to run is reported
* `Session.results_accounted` — the account of a whole run
-/

namespace PaveScript

/-! ## What a report counts -/

/-- The text of a script that is about to run. -/
def Event.loaded? : Event → Option String
  | loaded _ text => some text
  | _ => none

/-- The skipped characters of some texts, one text after the other. -/
def skippedIn [Text.Normalizer] (texts : List String) : List Error :=
  texts.flatMap fun text => (Scan.ofText text).errors

namespace Report

/-- The statements that a report counts: those that succeeded and those that failed. -/
def counted (r : Report) : Nat :=
  r.succeeded + r.failures.countP fun f => f.error.kind ≠ .lexical

/-- The skipped characters that a report names. -/
def skips (r : Report) : List Error := r.errors.filter fun e => e.kind = .lexical

/-- The texts of the scripts that were run. -/
def loaded (r : Report) : List String := r.events.filterMap Event.loaded?

end Report

namespace Progress

variable {σ : Type} [Engine σ]

omit [Engine σ] in
theorem loaded_emit (event : Event) (p : Progress σ) :
    (p.emit event).report.loaded = p.report.loaded ++ event.loaded?.toList := by
  cases event <;> simp [Report.loaded, emit, Event.loaded?]

theorem counted_fail (error : Error) (p : Progress σ) :
    (p.fail error).report.counted =
      p.report.counted + if error.kind = .lexical then 0 else 1 := by
  have hsucceeded : (p.fail error).report.succeeded = p.report.succeeded := by
    unfold fail
    cases error.resets <;> rfl
  rw [Report.counted, hsucceeded, failures_fail, List.countP_append, ← Nat.add_assoc]
  by_cases hkind : error.kind = .lexical <;> simp [Report.counted, hkind]

/-- A statement that is handed to the engine is counted, whether the engine takes it or not. -/
theorem counted_dispatch (parsed : Parsed) (p : Progress σ) :
    (p.dispatch parsed).report.counted = p.report.counted + 1 := by
  rcases hd : PaveScript.dispatch parsed.statement p.session.engine with ⟨cause | outcome, engine⟩
  · rw [dispatch_error hd, counted_fail]
    rfl
  · have hsucceeded : (p.dispatch parsed).report.succeeded = p.report.succeeded + 1 := by
      unfold dispatch
      simp only [hd]
      cases outcome <;> cases parsed.skipped <;> rfl
    rw [Report.counted, hsucceeded, failures_dispatch_ok hd, Report.counted, Nat.add_right_comm]

theorem skips_fail (error : Error) (p : Progress σ) :
    (p.fail error).report.skips =
      p.report.skips ++ if error.kind = .lexical then [error] else [] := by
  rw [Report.skips, errors_fail, List.filter_append]
  by_cases hkind : error.kind = .lexical <;> simp [Report.skips, hkind]

theorem skips_dispatch (parsed : Parsed) (p : Progress σ) :
    (p.dispatch parsed).report.skips = p.report.skips := by
  rcases hd : PaveScript.dispatch parsed.statement p.session.engine with ⟨cause | outcome, engine⟩
  · rw [dispatch_error hd, skips_fail]
    exact List.append_nil _
  · rw [Report.skips, errors_dispatch_ok hd, Report.skips]

theorem loaded_fail (error : Error) (p : Progress σ) :
    (p.fail error).report.loaded = p.report.loaded := by
  unfold fail
  cases error.resets <;> rfl

theorem loaded_dispatch (parsed : Parsed) (p : Progress σ) :
    (p.dispatch parsed).report.loaded = p.report.loaded := by
  rcases hd : PaveScript.dispatch parsed.statement p.session.engine with ⟨cause | outcome, engine⟩
  · rw [dispatch_error hd, loaded_fail]
    rfl
  · unfold dispatch
    simp only [hd]
    cases outcome <;> cases parsed.skipped <;> rfl

theorem quit_fail (error : Error) (p : Progress σ) :
    (p.fail error).session.quit = p.session.quit := by
  rw [session_fail]
  split <;> rfl

theorem quit_dispatch (parsed : Parsed) (p : Progress σ) :
    (p.dispatch parsed).session.quit = p.session.quit := by
  rcases hd : PaveScript.dispatch parsed.statement p.session.engine with ⟨cause | outcome, engine⟩
  · rw [dispatch_error hd, quit_fail]
    rfl
  · rw [session_dispatch_ok hd]

theorem history_fail (error : Error) (p : Progress σ) :
    (p.fail error).session.history = p.session.history := by
  rw [session_fail]
  split <;> rfl

/-- The history grows by the text of a statement that the engine takes. -/
theorem history_dispatch (parsed : Parsed) (p : Progress σ) :
    (p.dispatch parsed).session.history = p.session.history ++
      if (PaveScript.dispatch parsed.statement p.session.engine).1.isOk = true ∧
        parsed.skipped = false then [parsed.text] else [] := by
  rcases hd : PaveScript.dispatch parsed.statement p.session.engine with ⟨cause | outcome, engine⟩
  · rw [dispatch_error hd, history_fail]
    simp [Except.isOk, Except.toBool]
  · rw [session_dispatch_ok hd]
    cases parsed.skipped <;> simp [Except.isOk, Except.toBool]

theorem advance_verdict (parsed : Parsed) (p : Progress σ) :
    p.advance (verdict parsed p.session.engine) = p.dispatch parsed := by
  rcases verdict_cases parsed p.session.engine with ⟨_, _, hv⟩ | ⟨_, _, hv⟩ <;> rw [hv] <;> rfl

/-- Nothing takes back a quit. -/
theorem quit_advance {p : Progress σ} (h : p.session.quit = true) (a : Happening) :
    (p.advance a).session.quit = true := by
  cases a with
  | skipped error => exact (quit_fail error p).trans h
  | misread error resync => exact (quit_fail error _).trans h
  | accepted parsed => exact (quit_dispatch parsed p).trans h
  | refused parsed cause => exact (quit_dispatch parsed p).trans h
  | tooDeep path => exact (quit_fail _ p).trans h
  | unreadable path reason => exact (quit_fail _ _).trans h
  | left =>
    simp only [advance]
    split <;> exact h
  | quit => rfl
  | _ => exact h

end Progress

/-! ## One move -/

/-- The text that is kept of the result of reading a statement: that of a statement which goes to
the engine, is taken by it, and in which no character was skipped. -/
def Script.Step.kept? {σ : Type} [Engine σ] (engine : σ) : Script.Step → Option String
  | .parsed p =>
    if p.statement.effect ≠ .control ∧ (dispatch p.statement engine).1.isOk = true ∧
        p.skipped = false then
      some p.text
    else none
  | _ => none

namespace Machine

variable {σ : Type} [Engine σ] {library : Library} {m : Machine σ} {a : Happening}
  {frames : List Frame}

/-- The statements that are counted, and those that are counted when a script is left. -/
def balance (m : Machine σ) : Nat :=
  m.progress.report.counted +
    if m.progress.session.quit then 0 else (scripts m.frames).length

/-- The statements that are not counted because of a quit: itself, and those that read the scripts
which are open then. -/
def forfeit (m : Machine σ) : Nat := if m.quits then 1 + (scripts m.frames).length else 0

/-- The text that is kept at this moment. -/
def kept? (m : Machine σ) : Option String :=
  m.result?.bind (Script.Step.kept? m.progress.session.engine)

/-- A statement that cannot be read is no skipped character. -/
theorem kind_of_step {script rest : Script} {safe : Bool} {error : Error}
    (h : script.step safe = (.failed error, rest)) : error.kind ≠ .lexical := by
  unfold Script.step at h
  split at h
  · cases h
  · split at h
    · cases h
    · next fault _ _ =>
      obtain ⟨herror, -⟩ := Prod.mk.inj h
      rw [← Script.Step.failed.inj herror, Fault.kind_error]
      unfold Fault.kind
      split
      · split <;> nofun
      · nofun
      · nofun

theorem quits_of_quit (h : m.progress.session.quit = true) : m.quits = false := by
  rw [quits, result?_of_quit h]
  rfl

/-- A statement that does not quit is counted, unless it enters a script. -/
theorem Answers.counted {p : Progress σ} {r : Script.Step} {entered : Option Frame}
    (h : Answers library p r a entered) (hr : r.quits = false)
    (hkind : ∀ error, r = .failed error → error.kind ≠ .lexical) :
    (p.advance a).report.counted + entered.toList.length = p.report.counted + 1 ∧
      (p.advance a).session.quit = p.session.quit := by
  cases h with
  | misread resync =>
    rw [Progress.advance, Progress.counted_fail, if_neg (hkind _ rfl)]
    exact ⟨rfl, Progress.quit_fail _ _⟩
  | handed heffect =>
    rw [Progress.advance_verdict]
    exact ⟨Progress.counted_dispatch _ _, Progress.quit_dispatch _ _⟩
  | quit hs => simp [Script.Step.quits, hs] at hr
  | help hs => exact ⟨Nat.add_right_comm _ 1 _, rfl⟩
  | tooDeep hs hfull =>
    rw [Progress.advance, Progress.counted_fail]
    exact ⟨rfl, Progress.quit_fail _ _⟩
  | unreadable hs hpath =>
    rw [Progress.advance, Progress.counted_fail]
    exact ⟨rfl, Progress.quit_fail _ _⟩
  | entered hs hpath => exact ⟨rfl, rfl⟩

/-- A script that is entered is one more script. -/
theorem Answers.length_scripts {p : Progress σ} {r : Script.Step} {entered : Option Frame}
    (h : Answers library p r a entered) (frames : List Frame) :
    (scripts (entered.toList ++ frames)).length =
      (scripts frames).length + entered.toList.length := by
  cases h with
  | entered hs hpath => simp [scripts_cons]
  | _ => rfl

theorem Answers.history {p : Progress σ} {r : Script.Step} {entered : Option Frame}
    (h : Answers library p r a entered) :
    (p.advance a).session.history = p.session.history ++ (r.kept? p.session.engine).toList := by
  have hcontrol : ∀ {parsed : Parsed}, parsed.statement.effect = .control →
      Script.Step.kept? p.session.engine (.parsed parsed) = none := by
    intro parsed hs
    rw [Script.Step.kept?, if_neg]
    exact fun hkept => hkept.1 hs
  cases h with
  | misread resync => exact (Progress.history_fail _ _).trans (List.append_nil _).symm
  | handed heffect =>
    rw [Progress.advance_verdict, Progress.history_dispatch, Script.Step.kept?]
    simp only [ne_eq, heffect, not_false_eq_true, true_and]
    split <;> rfl
  | tooDeep hs hfull =>
    rw [hcontrol (by rw [hs]; rfl)]
    exact (Progress.history_fail _ _).trans (List.append_nil _).symm
  | unreadable hs hpath =>
    rw [hcontrol (by rw [hs]; rfl)]
    exact (Progress.history_fail _ _).trans (List.append_nil _).symm
  | quit hs | help hs | entered hs hpath =>
    rw [hcontrol (by rw [hs]; rfl)]
    exact (List.append_nil _).symm

variable [Text.Normalizer]

omit [Engine σ] in
/-- What a text reports next is a skipped character. -/
theorem Tidy.kind_of_pending (h : m.Tidy) {path : Option String} {script : Script}
    {outer : List Frame} {error : Error} {pending : List Error}
    (hm : m.frames = ⟨path, .reading script⟩ :: outer)
    (hpending : script.pending = error :: pending) : error.kind = .lexical := by
  refine h.innermost ⟨path, .reading script⟩ (by simp [hm]) error ?_
  show error ∈ script.pending
  rw [hpending]
  exact List.mem_cons_self

/-- **A statement that is read is counted,** now or when its script is left, unless it quits. -/
theorem Move.balance (h : m.Tidy) (hmove : Move library m a frames) :
    m.balance + m.result?.toList.length =
      Machine.balance ⟨m.progress.advance a, frames⟩ + m.forfeit := by
  unfold Machine.balance forfeit quits
  cases hmove with
  | scan hm =>
    rw [result?_of_unread hm, hm, scripts_cons, scripts_cons]
    rfl
  | skip hm hpending =>
    rw [result?_of_pending hm (by simp [hpending]), hm, scripts_cons, scripts_cons,
      Progress.advance, Progress.counted_fail, Progress.quit_fail,
      if_pos (h.kind_of_pending hm hpending)]
    rfl
  | leave hm hended =>
    rw [result?_of_ended hm hended, hm, scripts_cons]
    cases hquit : m.progress.session.quit with
    | true => simp [Progress.advance, hquit]
    | false =>
      have hcounted : (m.progress.advance .left).report.counted =
          m.progress.report.counted + 1 := by
        simp only [Progress.advance, hquit, Bool.false_eq_true, if_false]
        exact Nat.add_right_comm ..
      have hsame : (m.progress.advance .left).session.quit = false := by
        simp only [Progress.advance, hquit, Bool.false_eq_true, if_false, Progress.session_succeed]
      simp only [hcounted, hsame, Bool.false_eq_true, if_false, List.length_append,
        Option.toList_some, List.length_singleton, Option.toList_none, List.length_nil,
        Option.any_none]
      omega
  | @read path script rest outer r a entered hm hpending hquit hstep ha =>
    have hscripts := ha.length_scripts (⟨path, .reading rest⟩ :: outer)
    rw [scripts_cons] at hscripts
    rw [result?_of_step hm hpending hquit hstep ha.ne_done, hquit, hm, scripts_cons,
      Option.any_some]
    cases hr : r.quits with
    | true =>
      obtain ⟨rfl, rfl⟩ := ha.of_quits hr
      have hcounted : (m.progress.advance .quit).report.counted = m.progress.report.counted := rfl
      have hquits : (m.progress.advance .quit).session.quit = true := rfl
      simp only [hcounted, hquits, Bool.false_eq_true, if_false, if_true, Option.toList_some,
        List.length_singleton]
      omega
    | false =>
      obtain ⟨hcounted, hsame⟩ := ha.counted hr fun error herror => kind_of_step (herror ▸ hstep)
      simp only [hsame, hquit, hscripts, Bool.false_eq_true, if_false, Option.toList_some,
        List.length_singleton]
      omega

/-- **The history grows by what is kept.** -/
theorem Move.history (hmove : Move library m a frames) :
    (m.progress.advance a).session.history = m.progress.session.history ++ m.kept?.toList := by
  unfold kept?
  cases hmove with
  | scan hm =>
    rw [result?_of_unread hm]
    exact (List.append_nil _).symm
  | skip hm hpending =>
    rw [result?_of_pending hm (by simp [hpending])]
    exact (Progress.history_fail _ _).trans (List.append_nil _).symm
  | leave hm hended =>
    rw [result?_of_ended hm hended]
    simp only [Progress.advance]
    split <;> exact (List.append_nil _).symm
  | read hm hpending hquit hstep ha =>
    rw [result?_of_step hm hpending hquit hstep ha.ne_done]
    exact ha.history

/-- The skipped characters of the innermost text that are still to be reported. -/
def due (m : Machine σ) : List Error := (m.frames.head?.map Frame.due).getD []

/-- Of the texts that have begun to run, the first of which is `text`, all skipped characters are
reported or still to be reported, in order and each of them once. -/
def Reported (text : String) (m : Machine σ) : Prop :=
  m.progress.report.skips ++ m.due = skippedIn (text :: m.progress.report.loaded)

/-- A statement that is read reports no skipped character, but a text may begin to run with it. -/
theorem Answers.reported {p : Progress σ} {r : Script.Step} {entered : Option Frame}
    (h : Answers library p r a entered)
    (hkind : ∀ error, r = .failed error → error.kind ≠ .lexical) :
    (p.advance a).report.skips = p.report.skips ∧
      skippedIn (p.advance a).report.loaded =
        skippedIn p.report.loaded ++ entered.toList.flatMap Frame.due := by
  cases h with
  | misread resync =>
    rw [Progress.advance, Progress.skips_fail, Progress.loaded_fail, if_neg (hkind _ rfl)]
    exact ⟨List.append_nil _, (List.append_nil _).symm⟩
  | handed heffect =>
    rw [Progress.advance_verdict, Progress.skips_dispatch, Progress.loaded_dispatch]
    exact ⟨rfl, (List.append_nil _).symm⟩
  | quit hs => exact ⟨rfl, (List.append_nil _).symm⟩
  | help hs =>
    have hloaded : (p.advance .helped).report.loaded = p.report.loaded ++ [] :=
      Progress.loaded_emit .help p
    rw [hloaded, List.append_nil]
    exact ⟨rfl, (List.append_nil _).symm⟩
  | tooDeep hs hfull =>
    rw [Progress.advance, Progress.skips_fail, Progress.loaded_fail]
    exact ⟨List.append_nil _, (List.append_nil _).symm⟩
  | unreadable hs hpath =>
    rw [Progress.advance, Progress.skips_fail, Progress.loaded_fail, Progress.loaded_emit]
    refine ⟨List.append_nil _, ?_⟩
    simp [Event.loaded?]
  | @entered _ path text hs hpath =>
    have hloaded : (p.advance (.entered path text)).report.loaded = p.report.loaded ++ [text] := by
      refine (Progress.loaded_emit (.loaded path text) _).trans ?_
      rw [Progress.loaded_emit]
      simp [Event.loaded?]
    rw [hloaded]
    refine ⟨rfl, ?_⟩
    simp [skippedIn, Frame.due]

/-- **What is skipped in a text that begins to run is reported.** -/
theorem Move.reported {text : String} (h : m.Tidy) (hreported : m.Reported text)
    (hmove : Move library m a frames) : Reported text ⟨m.progress.advance a, frames⟩ := by
  unfold Reported due at hreported ⊢
  cases hmove with
  | scan hm =>
    rw [hm] at hreported
    exact hreported
  | skip hm hpending =>
    rw [hm] at hreported
    rw [Progress.advance, Progress.skips_fail, Progress.loaded_fail,
      if_pos (h.kind_of_pending hm hpending), ← hreported, List.append_assoc]
    simp [Frame.due, hpending]
  | leave hm hended =>
    have hnone : (frames.head?.map Frame.due).getD [] = [] := by
      cases hhead : frames.head? with
      | none => rfl
      | some frame =>
        have houter := h.outer frame
        rw [hm] at houter
        exact (houter (List.mem_of_mem_head? hhead)).due
    have hsame : (m.progress.advance .left).report.skips = m.progress.report.skips ∧
        (m.progress.advance .left).report.loaded = m.progress.report.loaded := by
      simp only [Progress.advance]
      split <;> exact ⟨rfl, rfl⟩
    rw [hnone, hsame.1, hsame.2, ← hreported, hm]
    exact congrArg _ hended.1.symm
  | @read path script rest outer r a entered hm hpending hquit hstep ha =>
    obtain ⟨hskips, hloaded⟩ := ha.reported fun error herror => kind_of_step (herror ▸ hstep)
    have hdue : ((entered.toList ++ ⟨path, .reading rest⟩ :: outer).head?.map Frame.due).getD [] =
        entered.toList.flatMap Frame.due := by
      cases entered with
      | none => exact pending_of_step hstep hpending
      | some frame => simp
    have hnone : m.progress.report.skips = skippedIn (text :: m.progress.report.loaded) := by
      rw [← hreported, hm]
      exact (List.append_nil _).symm.trans (congrArg _ hpending.symm)
    calc (m.progress.advance a).report.skips ++ _
        = skippedIn (text :: m.progress.report.loaded) ++ entered.toList.flatMap Frame.due := by
          rw [hdue, hskips, hnone]
      _ = (Scan.ofText text).errors ++
            (skippedIn m.progress.report.loaded ++ entered.toList.flatMap Frame.due) :=
          List.append_assoc ..
      _ = skippedIn (text :: (m.progress.advance a).report.loaded) := by
          rw [← hloaded]
          rfl

/-- At the end everything is reported. -/
theorem due_of_next?_none (h : m.next? library = none) : m.due = [] := by
  unfold due
  unfold next? at h
  split at h
  · next hm => rw [hm]; rfl
  · cases h
  · next path script outer hm =>
    rw [hm]
    split at h
    · cases h
    · next hpending => exact hpending

end Machine

section

variable [Text.Normalizer] {σ : Type} [Engine σ] {library : Library}

/-- After a quit no moment quits. -/
theorem Machine.find?_quits {m : Machine σ} (h : m.progress.session.quit = true)
    (hs : List Happening) : (m.moments library hs).find? Machine.quits = none := by
  rw [List.find?_eq_none]
  intro n hn
  have hquit : n.progress.session.quit = true :=
    forall_mem_moments (P := fun n => n.progress.session.quit = true)
      (fun hm _ => Progress.quit_advance hm _) h hs n hn
  rw [quits_of_quit hquit]
  nofun

namespace Takes

variable {m m' : Machine σ} {hs : List Happening}

/-- **All statements that a run reads are counted,** but those that its quit forfeits. -/
theorem balance (h : Takes library m hs m') (hend : m'.next? library = none) (hm : m.Tidy) :
    m.balance + ((m.moments library hs).filterMap Machine.result?).length =
      m'.balance + (((m.moments library hs).find? Machine.quits).map Machine.forfeit).getD 0 := by
  induction h with
  | refl m =>
    have hnone := Machine.result?_of_next?_none hend
    simp [Machine.moments, Machine.quits, hnone]
  | @step m m' a hs frames hnext _ ih =>
    have hmove := Machine.move_of_next? hnext
    have hnow := hmove.balance hm
    have hlater := ih hend (hm.next hmove)
    have hcons : ((m :: Machine.moments library ⟨m.progress.advance a, frames⟩ hs).filterMap
          Machine.result?).length = m.result?.toList.length +
        ((Machine.moments library ⟨m.progress.advance a, frames⟩ hs).filterMap
          Machine.result?).length := by
      cases hr : m.result? <;> simp [hr, Nat.add_comm]
    rw [Machine.moments_cons hnext, hcons, List.find?_cons]
    cases hquits : m.quits with
    | true =>
      have hquit : (m.progress.advance a).session.quit = true := by
        rw [(hmove.of_quits hquits).1]
        rfl
      rw [Machine.find?_quits hquit, Option.map_none, Option.getD_none] at hlater
      simp only [Option.map_some, Option.getD_some]
      omega
    | false =>
      rw [Machine.forfeit, hquits, if_neg Bool.false_ne_true] at hnow
      simp only
      omega

/-- **The history of a run is what it keeps.** -/
theorem history (h : Takes library m hs m') (hend : m'.next? library = none) :
    m'.progress.session.history =
      m.progress.session.history ++ (m.moments library hs).filterMap Machine.kept? := by
  induction h with
  | refl m =>
    have hnone := Machine.result?_of_next?_none hend
    simp [Machine.moments, Machine.kept?, hnone]
  | @step m m' a hs frames hnext _ ih =>
    rw [ih hend, (Machine.move_of_next? hnext).history, Machine.moments_cons hnext,
      List.append_assoc]
    cases hkept : m.kept? <;> simp [hkept]

end Takes

end

namespace Session

section

variable [Text.Normalizer] {σ : Type} [Engine σ]

/-- The open scripts at a moment. -/
theorem openFiles_of_mem_moments {s : Session σ} {text : String} {m : Machine σ}
    (hm : m ∈ s.moments library text) :
    m.progress.session.openFiles = s.openFiles ++ Machine.scripts m.frames := by
  refine Machine.forall_mem_moments
    (P := fun m => m.progress.session.openFiles = s.openFiles ++ Machine.scripts m.frames)
    (fun {m a frames} h hnext => ?_) ?_ _ m hm
  · show (m.progress.advance a).session.openFiles = _
    rw [Progress.openFiles_advance, h, (Machine.conforms_of_next? hnext).stack]
  · simp [Machine.start, Machine.scripts]

/-- At every moment of a run all skipped characters are reported or still to be reported. -/
theorem reported_of_mem_moments {s : Session σ} {text : String} {m : Machine σ}
    (hm : m ∈ s.moments library text) : m.Reported text := by
  refine (Machine.forall_mem_moments (P := fun m => m.Tidy ∧ m.Reported text)
    (fun h hnext => ?_) ⟨Machine.tidy_start s text, ?_⟩ _ m hm).2
  · have hmove := Machine.move_of_next? hnext
    exact ⟨h.1.next hmove, hmove.reported h.1 h.2⟩
  · simp [Machine.Reported, Machine.due, Machine.start, Frame.due, skippedIn, Report.skips,
      Report.errors, Report.loaded]

/--
**Every statement is accounted for exactly once.**

* The statements that were read while a text was executed, in it and in all scripts that it reads,
  are those that succeeded and those that failed, and if one of them quits then also that one and
  one for each script that it has to leave.
* The history grows by the texts of the statements that the engine took, in order, less those in
  which a character was skipped.
* Every character that was skipped in the text and in the scripts that were run is reported once.
-/
theorem results_accounted (library : Library) (s : Session σ) (text : String) :
    let report := (s.execute library text).1
    let moments := s.moments library text
    (s.results library text).length =
        report.succeeded + report.failures.countP (fun f => f.error.kind ≠ .lexical) +
          (match moments.find? Machine.quits with
          | none => 0
          | some m => 1 + (m.progress.session.openFiles.length - s.openFiles.length)) ∧
      (s.execute library text).2.history = s.history ++ moments.filterMap Machine.kept? ∧
      report.errors.filter (fun e => e.kind = .lexical) = skippedIn (text :: report.loaded) := by
  intro report moments
  obtain ⟨m, hrun, hend, hexecute⟩ := Takes.start_course library s text
  have hreport : report = m.progress.report := congrArg Prod.fst hexecute
  have hlast : m ∈ moments := List.mem_of_getLast? hrun.getLast?_moments
  -- at the end no script is open that was not open before
  have hscripts : Machine.scripts m.frames = [] := by
    have hopen := openFiles_execute library s text
    rw [hexecute, openFiles_of_mem_moments hlast] at hopen
    exact List.append_right_eq_self.mp hopen
  refine ⟨?_, ?_, ?_⟩
  · have hbalance := hrun.balance hend (Machine.tidy_start s text)
    have hstart : (Machine.start s text).balance = 0 := by
      simp [Machine.balance, Machine.start, Report.counted, Machine.scripts]
    have hcounted : m.balance = report.counted := by
      simp [Machine.balance, hscripts, hreport]
    rw [hstart, hcounted, Nat.zero_add] at hbalance
    refine hbalance.trans (congrArg _ ?_)
    show ((moments.find? Machine.quits).map Machine.forfeit).getD 0 = _
    cases hfind : moments.find? Machine.quits with
    | none => rfl
    | some n =>
      have hopen := openFiles_of_mem_moments (List.mem_of_find?_eq_some hfind)
      show n.forfeit = 1 + (n.progress.session.openFiles.length - s.openFiles.length)
      rw [Machine.forfeit, if_pos (List.find?_some hfind), hopen, List.length_append,
        Nat.add_sub_cancel_left]
  · rw [hexecute]
    exact hrun.history hend
  · have hreported := reported_of_mem_moments hlast
    rw [Machine.Reported, Machine.due_of_next?_none hend, List.append_nil] at hreported
    rw [hreport]
    exact hreported

end

/-- A script that reads another one, which quits. -/
def nestedQuit : Library := fun path =>
  if path = "outer.kdk" then .ok "help; file inner.kdk; pave"
  else if path = "inner.kdk" then .ok "pave; quit; help"
  else .error "no such script"

/-- Seven statements are read. Three succeed and one fails, and the quit leaves two scripts. -/
example :
    let s := Session.new (Problem.new {})
    let text := "var x in [0, 1] $; x; file outer.kdk; pave"
    let report := (s.execute nestedQuit text).1
    (s.results nestedQuit text).length = 7 ∧ report.succeeded = 3 ∧
      report.errors.map Error.kind = [.lexical, .unexpected] ∧
      ((s.moments nestedQuit text).find? Machine.quits).map (·.progress.session.openFiles) =
        some ["outer.kdk", "inner.kdk"] := by
  decide +kernel

end Session

end PaveScript
