import PaveScript.Proofs.Session.Account
import PaveScript.Proofs.Session.Calls

/-!
# After a quit

Once a session was asked to quit it only leaves the scripts that are open. Nothing is read any more,
neither from them nor from any text that is executed later.

* `Session.quit_execute` — a session quits when a statement is read that asks for it
* `Machine.Unwinds` — the state of a session that leaves its scripts after a quit
* `Session.execute_of_quit` — a later text has its skipped characters reported, and that is all
* `Session.quit_final` — the moment of a quit, the rest of its run, and later texts
-/

namespace PaveScript

/-! ## Sessions that do next to nothing -/

namespace Progress

variable {σ : Type}

/-- A session that has done nothing since it was asked to quit but leave scripts. -/
structure Rests (q p : Progress σ) : Prop where
  session : p.session = { q.session with quit := true, openFiles := p.session.openFiles }
  report : p.report = { q.report with trace := p.report.trace }

/-- A session that has done nothing but report some skipped characters. -/
structure Skips (errors : List Error) (p q : Progress σ) : Prop where
  session : q.session = p.session
  report : q.report = { p.report with
    failures := p.report.failures ++ errors.map (Failure.mk p.session.openFiles.getLast?)
    trace := q.report.trace }

theorem Skips.trans {errors errors' : List Error} {p q r : Progress σ} (h : Skips errors p q)
    (h' : Skips errors' q r) : Skips (errors ++ errors') p r := by
  refine ⟨h'.session.trans h.session, ?_⟩
  conv_lhs => rw [h'.report, h.report, h.session]
  simp only [List.map_append, List.append_assoc]

variable [Engine σ]

/-- A skipped character is reported. The engine is not reset. -/
theorem skips_of_lexical {error : Error} (h : error.kind = .lexical) (p : Progress σ) :
    Skips [error] p (p.fail error) := by
  have hresets : error.resets = false := by
    rw [Error.resets_eq, h]
    rfl
  simp only [fail, hresets, Bool.false_eq_true, if_false]
  exact ⟨rfl, rfl⟩

theorem skips_follow {errors : List Error} (h : ∀ e ∈ errors, e.kind = .lexical)
    (p : Progress σ) : Skips errors p (p.follow (errors.map .skipped)) := by
  induction errors generalizing p with
  | nil => exact ⟨rfl, by simp⟩
  | cons e es ih =>
    obtain ⟨he, hes⟩ := List.forall_mem_cons.mp h
    exact (skips_of_lexical he p).trans (ih hes (p.fail e))

end Progress

section

variable [Text.Normalizer] {σ : Type} [Engine σ] {library : Library}

/-! ## The moment of a quit -/

/-- A session is asked to quit by a statement that quits, and by nothing else. -/
theorem Machine.Move.quit {m : Machine σ} {a : Happening} {frames : List Frame}
    (h : Move library m a frames) :
    (m.progress.advance a).session.quit = (m.progress.session.quit || m.quits) := by
  unfold quits
  cases h with
  | scan hm => rw [result?_of_unread hm, Option.any_none, Bool.or_false]; rfl
  | skip hm hpending =>
    rw [result?_of_pending hm (by simp [hpending]), Option.any_none, Bool.or_false]
    exact Progress.quit_fail _ _
  | leave hm hended =>
    rw [result?_of_ended hm hended, Option.any_none, Bool.or_false, Progress.advance]
    split <;> rfl
  | @read path script rest outer r a entered hm hpending hquit hstep ha =>
    rw [result?_of_step hm hpending hquit hstep ha.ne_done, Option.any_some, hquit, Bool.false_or]
    cases hr : r.quits with
    | true =>
      rw [(ha.of_quits hr).1]
      rfl
    | false =>
      rw [(ha.counted hr fun error herror => kind_of_step (herror ▸ hstep)).2, hquit]

theorem Takes.quit {m m' : Machine σ} {hs : List Happening} (h : Takes library m hs m')
    (hend : m'.next? library = none) :
    m'.progress.session.quit =
      (m.progress.session.quit || (m.moments library hs).any Machine.quits) := by
  induction h with
  | refl m => simp [Machine.moments, Machine.quits, Machine.result?_of_next?_none hend]
  | step hnext _ ih =>
    rw [ih hend, (Machine.move_of_next? hnext).quit, Machine.moments_cons hnext, List.any_cons,
      Bool.or_assoc]

/-- **A session quits iff a statement that quits is read,** in the text that is executed or in a
script of any depth. -/
theorem Session.quit_execute (library : Library) (s : Session σ) (text : String) :
    (s.execute library text).2.quit = (s.quit || (s.moments library text).any Machine.quits) := by
  obtain ⟨m, hrun, hend, hexecute⟩ := Takes.start_course library s text
  rw [hexecute]
  exact hrun.quit hend

/-! ## Leaving the open scripts -/

namespace Machine

/-- A machine that leaves its scripts after a quit. -/
structure Unwinds (q : Progress σ) (m : Machine σ) : Prop where
  rests : q.Rests m.progress
  settled : ∀ frame ∈ m.frames, frame.Settled

variable {m : Machine σ} {a : Happening} {frames : List Frame} {q : Progress σ}

omit [Engine σ] [Text.Normalizer] in
theorem Unwinds.quit (h : m.Unwinds q) : m.progress.session.quit = true := by
  rw [h.rests.session]

/-- A quit begins to leave the scripts. -/
theorem unwinds_of_quits (hm : m.Tidy) (hquits : m.quits = true)
    (hmove : Move library m a frames) : Unwinds m.progress ⟨m.progress.advance a, frames⟩ := by
  obtain ⟨rfl, path, script, rest, outer, hframes, -, rfl, hrest⟩ := hmove.of_quits hquits
  have houter := hm.outer
  rw [hframes] at houter
  exact ⟨⟨rfl, rfl⟩, List.forall_mem_cons.mpr ⟨⟨rest, rfl, hrest⟩, houter⟩⟩

/-- **After a quit scripts are left, and nothing else happens.** -/
theorem Unwinds.next (h : m.Unwinds q) (hmove : Move library m a frames) :
    Unwinds q ⟨m.progress.advance a, frames⟩ := by
  have hsettled := h.settled
  cases hmove with
  | scan hm =>
    rw [hm] at hsettled
    obtain ⟨script, hstage, -⟩ := hsettled _ List.mem_cons_self
    cases hstage
  | skip hm hpending =>
    rw [hm] at hsettled
    obtain ⟨script, hstage, hnone⟩ := hsettled _ List.mem_cons_self
    obtain rfl := Stage.reading.inj hstage
    rw [hpending] at hnone
    cases hnone
  | leave hm hended =>
    have hleft : m.progress.advance .left = { m.progress with
        session.openFiles := m.progress.session.openFiles.dropLast } := by
      simp only [Progress.advance, h.quit, if_true]
    rw [hm] at hsettled
    refine ⟨⟨?_, ?_⟩, fun frame hframe => hsettled frame (List.mem_cons_of_mem _ hframe)⟩
    · rw [hleft]
      exact congrArg (fun s : Session σ =>
        { s with openFiles := m.progress.session.openFiles.dropLast }) h.rests.session
    · rw [hleft]
      exact h.rests.report
  | read hm hpending hquit hstep ha =>
    rw [h.quit] at hquit
    cases hquit

end Machine

/-! ## Later texts -/

namespace Progress

/-- All skipped characters of a text are reported before its first statement. -/
theorem skips_opening (text : String) (p : Progress σ) :
    Skips (Scan.ofText text).errors p (p.follow (opening text)) := by
  have hscanned : Skips [] p (p.advance (.scanned (Scan.ofText text).trace)) :=
    ⟨rfl, by rw [List.map_nil, List.append_nil]; rfl⟩
  exact hscanned.trans (skips_follow (fun e => Scan.kind_of_mem_errors) _)

end Progress

namespace Session

variable {s : Session σ} {text : String}

/-- After a quit a text is scanned and its skipped characters are reported. -/
theorem course_of_quit (h : s.quit = true) (library : Library) (text : String) :
    s.course library text = Progress.opening text := by
  have hopening : ((Progress.mk s {}).follow (Progress.opening text)).session.quit = true := by
    rw [(Progress.skips_opening text _).session]
    exact h
  rw [course]
  cases fileLimit - s.openFiles.length <;>
    rw [Progress.courseIn, Progress.courseOfText, Progress.courseOfScript_quit hopening,
      List.append_nil]

/-- **After a quit a text has its skipped characters reported, and that is all.** -/
theorem execute_of_quit (h : s.quit = true) (library : Library) (text : String) :
    let (report, rest) := s.execute library text
    rest = s ∧ report =
      { failures := (Scan.ofText text).errors.map (Failure.mk s.openFiles.getLast?)
        trace := report.trace } := by
  rw [execute_eq_follow, course_of_quit h]
  obtain ⟨hsession, hreport⟩ := Progress.skips_opening text ⟨s, {}⟩
  exact ⟨hsession, hreport⟩

/-- After a quit nothing is read. -/
theorem results_of_quit (h : s.quit = true) (library : Library) (text : String) :
    s.results library text = [] := by
  rw [results, List.filterMap_eq_nil_iff]
  intro m hm
  have hquit : m.progress.session.quit = true :=
    Machine.forall_mem_moments (P := fun m => m.progress.session.quit = true)
      (fun h _ => Progress.quit_advance h _) h _ m hm
  exact Machine.result?_of_quit hquit

/-- Any number of later texts, each with its own library, leave the session as it is. The next one
has its skipped characters reported, and that is all. -/
theorem later_of_quit (h : s.quit = true) (calls : List (Library × String)) :
    let later := calls.foldl (fun s call => (s.execute call.1 call.2).2) s
    later = s ∧ ∀ (library : Library) (text : String),
      let report := (later.execute library text).1
      later.results library text = [] ∧ report.succeeded = 0 ∧ report.echoes = [] ∧
        report.events = [] ∧ report.errors = (Scan.ofText text).errors ∧
        ∀ f ∈ report.failures, f.error.kind = .lexical := by
  have hlater : calls.foldl (fun s call => (s.execute call.1 call.2).2) s = s :=
    List.foldl_fixed' (fun call => (execute_of_quit h call.1 call.2).1) calls
  refine ⟨hlater, fun library text => ?_⟩
  rw [hlater]
  intro report
  have hreport : report = _ := (execute_of_quit h library text).2
  refine ⟨results_of_quit h library text, ?_⟩
  rw [hreport]
  refine ⟨rfl, rfl, rfl, ?_, fun f hf => ?_⟩
  · rw [Report.errors, List.map_map]
    exact List.map_id _
  · obtain ⟨e, he, rfl⟩ := List.mem_map.mp hf
    exact Scan.kind_of_mem_errors he

/-- From the quit on the session only leaves scripts. -/
theorem unwinds_of_mem {before after : List (Machine σ)} {m n : Machine σ}
    (h : s.moments library text = before ++ m :: after) (hquits : m.quits = true)
    (hn : n ∈ after) : n.Unwinds m.progress := by
  have hm : m ∈ s.moments library text := by simp [h]
  obtain ⟨hs, hmoments⟩ := Machine.exists_moments_of_append h
  cases hs with
  | nil =>
    rw [← (List.cons.inj hmoments).2] at hn
    cases hn
  | cons b hs =>
    rw [Machine.moments] at hmoments
    split at hmoments
    · rw [← (List.cons.inj hmoments).2] at hn
      cases hn
    · next a frames hnext =>
      rw [← (List.cons.inj hmoments).2] at hn
      have hstart := Machine.unwinds_of_quits (tidy_of_mem_moments hm) hquits
        (Machine.move_of_next? hnext)
      exact Machine.forall_mem_moments (fun h hnext => h.next (Machine.move_of_next? hnext))
        hstart hs n hn

/-- The run does not end at a quit, for there is a statement to read there. -/
theorem exists_mem_after {before after : List (Machine σ)} {m : Machine σ}
    (hsplit : s.moments library text = before ++ m :: after) (hquits : m.quits = true) :
    ∃ n ∈ after, s.execute library text = (n.progress.report, n.progress.session) := by
  obtain ⟨n, hrun, hend, hexecute⟩ := Takes.start_course library s text
  refine ⟨n, ?_, hexecute⟩
  have hlast : (s.moments library text).getLast? = some n := hrun.getLast?_moments
  rw [hsplit, List.getLast?_append_cons] at hlast
  cases after with
  | nil =>
    obtain rfl : m = n := Option.some.inj hlast
    rw [Machine.quits, Machine.result?_of_next?_none hend] at hquits
    cases hquits
  | cons k after => exact List.mem_of_getLast? hlast

/--
**A quit is final.** A session quits iff a statement is read that asks for it, be it in the text
that is executed or in a script of any depth. From the moment on at which it is read,

* no statement is read any more, and neither the engine nor the history nor the report changes, the
  lines of the trace apart; the session has left all scripts when it comes to its end, and
* all texts that are executed later leave the session as it is. No statement is read from them, and
  what their reports hold is the skipped characters.
-/
theorem quit_final (library : Library) (s : Session σ) (text : String) :
    let (report, rest) := s.execute library text
    rest.quit = (s.quit || (s.moments library text).any Machine.quits) ∧
      ∀ (before after : List (Machine σ)) (m : Machine σ),
        s.moments library text = before ++ m :: after → m.quits = true →
        (∀ n ∈ after, n.result? = none ∧ m.progress.Rests n.progress) ∧
          report = { m.progress.report with trace := report.trace } ∧
          rest = { m.progress.session with quit := true, openFiles := s.openFiles } ∧
          ∀ calls : List (Library × String),
            let later := calls.foldl (fun s call => (s.execute call.1 call.2).2) rest
            later = rest ∧ ∀ (library' : Library) (text' : String),
              let report' := (later.execute library' text').1
              later.results library' text' = [] ∧ report'.succeeded = 0 ∧ report'.echoes = [] ∧
                report'.events = [] ∧ report'.errors = (Scan.ofText text').errors ∧
                ∀ f ∈ report'.failures, f.error.kind = .lexical := by
  have hquit := quit_execute library s text
  have hopen := openFiles_execute library s text
  rcases hexecute : s.execute library text with ⟨report, rest⟩
  rw [hexecute] at hquit hopen
  refine ⟨hquit, fun before after m hsplit hquits => ?_⟩
  have hafter : ∀ n ∈ after, n.Unwinds m.progress := fun n => unwinds_of_mem hsplit hquits
  obtain ⟨n, hn, hend⟩ := exists_mem_after hsplit hquits
  obtain ⟨rfl, rfl⟩ := Prod.mk.inj (hexecute.symm.trans hend)
  have hrests := (hafter n hn).rests
  exact ⟨fun k hk => ⟨Machine.result?_of_quit (hafter k hk).quit, (hafter k hk).rests⟩,
    hrests.report, hopen ▸ hrests.session, later_of_quit (hafter n hn).quit⟩

end Session

end

/-- A quit two scripts deep. Its session stands as it stood then, also after a later text with a
skipped character. -/
theorem Session.quit_final_nestedQuit :
    let s := Session.new (Problem.new {})
    let text := "file outer.kdk; pave"
    ∃ m ∈ s.moments nestedQuit text, m.quits = true ∧
      m.progress.session.openFiles = ["outer.kdk", "inner.kdk"] ∧
      (s.execute nestedQuit text).2 =
        { m.progress.session with quit := true, openFiles := s.openFiles } ∧
      ((s.execute nestedQuit text).2.execute nestedQuit "pave $").1.errors.length = 1 := by
  intro s text
  obtain ⟨m, hm, hquits, hopen⟩ : ∃ m ∈ s.moments nestedQuit text, m.quits = true ∧
      m.progress.session.openFiles = ["outer.kdk", "inner.kdk"] := by
    decide +kernel
  obtain ⟨before, after, hsplit⟩ := List.append_of_mem hm
  obtain ⟨-, -, hsession, hlater⟩ :=
    (quit_final nestedQuit s text).2 before after m hsplit hquits
  obtain ⟨-, -, -, -, herrors, -⟩ := (hlater []).2 nestedQuit "pave $"
  refine ⟨m, hm, hquits, hopen, hsession, (congrArg List.length herrors).trans ?_⟩
  decide +kernel

end PaveScript
