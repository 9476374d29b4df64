import PaveScript.Problem
import PaveScript.Proofs.Embedding
import PaveScript.Proofs.Session.Course
import PaveScript.Text.Normal.Form

/-!
# One text or two

A session does not remember where one text ended and the next one began. Two texts may be executed
one after the other or as one, with the end of a line and a semicolon between them: the end of the
line closes a comment, the semicolon a statement.

* `Progress.Like` — a run with an earlier report in front of its own
* `blind_runIn` — no run looks at what was reported before it
* `loop_embedded` — a script that is part of a longer one
* `Session.execute_append` — two texts as one

A statement that fails by the grammar may make a difference, and a skipped character does: their
errors name lines of the text that is executed.
-/

namespace PaveScript

/-! ## Reports -/

/-- A report that says what two reports say, the second one behind the first. -/
structure Report.Joins (first second whole : Report) : Prop where
  succeeded : whole.succeeded = first.succeeded + second.succeeded
  failures : whole.failures = first.failures ++ second.failures
  echoes : whole.echoes = first.echoes ++ second.echoes
  events : whole.events = first.events ++ second.events

namespace Progress

variable {σ : Type}

/-- The run `p'` is where `p` is and has reported `before` in front of what `p` has reported. -/
structure Like (before : Report) (p p' : Progress σ) : Prop where
  session : p'.session = p.session
  report : before.Joins p.report p'.report

/-- A run that does not look at what was reported before it. -/
def Blind (run : Progress σ → Progress σ) : Prop :=
  ∀ ⦃before : Report⦄ ⦃p p' : Progress σ⦄, Like before p p' → Like before (run p) (run p')

/-- What runs one level further in does not look back either. -/
abbrev BlindWithin (inner : Option (String → Progress σ → Progress σ)) : Prop :=
  ∀ run ∈ inner, ∀ text, Blind (run text)

theorem BlindWithin.none : BlindWithin (none : Option (String → Progress σ → Progress σ)) := by
  rintro run ⟨⟩

theorem BlindWithin.some {run : String → Progress σ → Progress σ} (h : ∀ text, Blind (run text)) :
    BlindWithin (some run) := by
  rintro run ⟨⟩
  exact h

namespace Like

variable {before : Report} {p p' : Progress σ}

/-- A run that has reported nothing yet. -/
theorem start (p : Progress σ) : Like p.report ⟨p.session, {}⟩ p :=
  ⟨rfl, by constructor <;> simp⟩

/-- What comes next begins with an empty report after a run, and with that of the run after one like
it. -/
theorem next (h : Like {} p p') (lines : List String) :
    Like p.report (Progress.mk p.session {} |>.logAll lines) p' := by
  obtain ⟨hsession, hsucceeded, hfailures, hechoes, hevents⟩ := h
  refine ⟨hsession, ?_, ?_, ?_, ?_⟩
  · simpa [Progress.logAll] using hsucceeded
  · simpa [Progress.logAll] using hfailures
  · simpa [Progress.logAll] using hechoes
  · simpa [Progress.logAll] using hevents

theorem logAll (h : Like before p p') (lines lines' : List String) :
    Like before (p.logAll lines) (p'.logAll lines') :=
  ⟨h.session, h.report.succeeded, h.report.failures, h.report.echoes, h.report.events⟩

theorem log (h : Like before p p') (line line' : String) :
    Like before (p.log line) (p'.log line') :=
  h.logAll [line] [line']

theorem emit (h : Like before p p') (event : Event) : Like before (p.emit event) (p'.emit event) :=
  ⟨h.session, h.report.succeeded, h.report.failures, h.report.echoes, by
    simp [Progress.emit, h.report.events]⟩

theorem succeed (h : Like before p p') : Like before p.succeed p'.succeed :=
  ⟨h.session, by simp [Progress.succeed, h.report.succeeded, Nat.add_assoc], h.report.failures,
    h.report.echoes, h.report.events⟩

theorem echo (h : Like before p p') (text : String) : Like before (p.echo text) (p'.echo text) :=
  ⟨h.session, h.report.succeeded, h.report.failures, by simp [Progress.echo, h.report.echoes],
    h.report.events⟩

/-- The session changes in the same way. -/
theorem change (h : Like before p p') (f : Session σ → Session σ) :
    Like before { p with session := f p.session } { p' with session := f p'.session } :=
  ⟨congrArg f h.session, h.report⟩

end Like

/-! ## No run looks back -/

variable [Engine σ] {library : Library} {inner : Option (String → Progress σ → Progress σ)}

theorem blind_fail (error : Error) : Blind (fail error : Progress σ → Progress σ) := by
  intro before p p' h
  have hfailures : p'.report.failures ++ [⟨p'.session.openFiles.getLast?, error⟩] =
      before.failures ++ (p.report.failures ++ [⟨p.session.openFiles.getLast?, error⟩]) := by
    rw [h.report.failures, h.session, List.append_assoc]
  refine ⟨by rw [session_fail, session_fail, h.session], ?_⟩
  unfold fail
  cases error.resets <;>
    exact ⟨h.report.succeeded, hfailures, h.report.echoes, h.report.events⟩

theorem blind_dispatch (parsed : Parsed) : Blind (dispatch parsed : Progress σ → Progress σ) := by
  intro before p p' h
  have htold := h.logAll (dispatchTrace parsed.statement p.session.engine)
    (dispatchTrace parsed.statement p'.session.engine)
  unfold dispatch
  rw [h.session] at htold ⊢
  rcases PaveScript.dispatch parsed.statement p.session.engine with ⟨cause | outcome, engine⟩
  · exact blind_fail _ (htold.change fun s => { s with engine := engine })
  · have hnow := (htold.change fun s => { s with engine := engine }).log
      ("[session] dispatched: " ++ parsed.text) ("[session] dispatched: " ++ parsed.text)
    have hkept : ∀ {q q' : Progress σ}, Like before q q' →
        Like before (if parsed.skipped then q else q.remember parsed.text)
          (if parsed.skipped then q' else q'.remember parsed.text) := by
      intro q q' hq
      split
      · exact hq
      · exact hq.change fun s => { s with history := s.history ++ [parsed.text] }
    cases outcome with
    | echo text => exact hkept (hnow.echo text).succeed
    | _ => exact hkept hnow.succeed

omit [Engine σ] in
/-- Leaving a script. -/
theorem Like.leave {before : Report} {p p' : Progress σ} (h : Like before p p')
    (outer : List String) :
    Like before
      (if p.session.quit then { p with session.openFiles := outer }
        else { p with session.openFiles := outer }.succeed)
      (if p'.session.quit then { p' with session.openFiles := outer }
        else { p' with session.openFiles := outer }.succeed) := by
  have hleft := h.change fun s => { s with openFiles := outer }
  have hquit : p'.session.quit = p.session.quit := by rw [h.session]
  cases hp : p.session.quit with
  | true =>
    rw [if_pos rfl, if_pos (hquit.trans hp)]
    exact hleft
  | false =>
    rw [if_neg Bool.false_ne_true, if_neg (by simp [hquit, hp])]
    exact hleft.succeed

/-- Reading a script is blind if the run inside is. -/
theorem blind_readFile (hinner : BlindWithin inner) (path : String) :
    Blind (fun p => p.readFile library inner path) := by
  rintro before ⟨s, report⟩ ⟨s', report'⟩ h
  obtain rfl : s' = s := h.session
  cases inner with
  | none => exact blind_fail _ h
  | some run =>
    have hread := h.emit (.read path)
    simp only [readFile]
    cases library path with
    | error reason => exact blind_fail _ hread
    | ok text =>
      have hentered := (hread.emit (.loaded path text)).change
        fun s => { s with openFiles := s.openFiles ++ [path] }
      exact (hinner run rfl text hentered).leave s'.openFiles

theorem blind_apply (hinner : BlindWithin inner) (parsed : Parsed) :
    Blind (fun p => p.apply library inner parsed) := by
  intro before p p' h
  unfold apply
  cases parsed.statement with
  | readFile path => exact blind_readFile hinner path h
  | quit => exact (h.log _ _).change fun s => { s with quit := true }
  | help => exact (h.emit .help).succeed
  | _ => exact blind_dispatch parsed h

/-- Runs that are alike read the next statement under the same safe input. -/
theorem Like.loop_eq {before : Report} {p p' : Progress σ} {script rest : Script} {r : Script.Step}
    (h : Like before p p') (hquit : ¬p.session.quit = true)
    (hstep : script.step (Engine.safeInput p.session.engine) = (r, rest)) :
    p'.loop library inner script =
      match r with
      | .done => p'
      | .parsed parsed => (p'.apply library inner parsed).loop library inner rest
      | .failed error => ((p'.log rest.resyncTrace).fail error).loop library inner rest := by
  rw [← h.session, Bool.not_eq_true] at hquit
  rw [← h.session] at hstep
  rw [Progress.loop_eq hquit hstep]
  cases r <;> rfl

theorem blind_loop (hinner : BlindWithin inner) (script : Script) :
    Blind (loop library inner script) := by
  intro before p p' h
  fun_induction loop library inner script p generalizing p' with
  | case1 script p hquit =>
    rw [loop_quit (h.session ▸ hquit)]
    exact h
  | case2 script p hquit rest hstep =>
    rw [h.loop_eq hquit hstep]
    exact h
  | case3 script p hquit parsed rest hstep ih =>
    rw [h.loop_eq hquit hstep]
    exact ih (blind_apply hinner parsed h)
  | case4 script p hquit error rest hstep ih =>
    rw [h.loop_eq hquit hstep]
    exact ih (blind_fail error (h.log _ _))

theorem blind_skipped (errors : List Error) :
    Blind (fun p : Progress σ => errors.foldl (fun p e => p.fail e) p) := by
  intro before p p' h
  induction errors generalizing p p' with
  | nil => exact h
  | cons e es ih => exact ih (blind_fail e h)

section

variable [Text.Normalizer]

theorem blind_runWith (hinner : BlindWithin inner) (text : String) :
    Blind (runWith library inner text) := by
  intro before p p' h
  have htold := h.logAll (Script.ofText text).scan.trace (Script.ofText text).scan.trace
  exact blind_loop hinner _ (blind_skipped (Script.ofText text).pending htold)

/-- **No run looks at what was reported before it.** -/
theorem blind_runIn (library : Library) (levels : Nat) (text : String) :
    Blind (runIn library levels text : Progress σ → Progress σ) := by
  induction levels generalizing text with
  | zero => exact blind_runWith .none text
  | succ levels ih => exact blind_runWith (.some ih) text

end

omit [Engine σ] in
/-- A run takes no failure out of a report. -/
theorem Blind.prefix_failures {run : Progress σ → Progress σ} (h : Blind run) (p : Progress σ) :
    p.report.failures <+: (run p).report.failures :=
  ⟨_, (h (.start p)).report.failures.symm⟩

/-! ## A script inside a longer one -/

/-- Scripts that read the next statement alike are executed alike. -/
theorem loop_eq_of_step_eq {p : Progress σ} {s s' : Script}
    (h : s.step (Engine.safeInput p.session.engine) = s'.step (Engine.safeInput p.session.engine)) :
    p.loop library inner s = p.loop library inner s' := by
  cases hquit : p.session.quit with
  | true => rw [loop_quit hquit, loop_quit hquit]
  | false =>
    cases hstep : s'.step (Engine.safeInput p.session.engine) with
    | mk r rest =>
      rw [loop_eq hquit (h.trans hstep), loop_eq hquit hstep]
      cases r <;> rfl

/-- A script without a token. -/
theorem loop_goOn_nil (p : Progress σ) (s : Script) : p.loop library inner (s.goOn []) = p := by
  cases hquit : p.session.quit with
  | true => rw [loop_quit hquit]
  | false => rw [loop_eq hquit (Script.step_eq_done _ rfl)]

/--
**A script that is part of a longer one:** if it fails by its engine only, then the longer one does
what it does, and goes on with what comes behind it.
-/
theorem loop_embedded {d : Nat} {tail : List Token} {s s' : Script} {before : Report}
    {p p' : Progress σ} (hinner : BlindWithin inner)
    (htail : Grammar.EndsStatement (headKind tail)) (h : Script.Embedded d tail s s')
    (hlike : Like before p p')
    (hmild : ∀ f ∈ (p.loop library inner s).report.failures, f.error.kind = .domain) :
    ∃ q', p'.loop library inner s' = q'.loop library inner (s'.goOn tail) ∧
      Like before (p.loop library inner s) q' := by
  fun_induction loop library inner s p generalizing s' p' with
  | case1 s p hquit =>
    rw [← hlike.session] at hquit
    exact ⟨p', by rw [loop_quit hquit, loop_quit hquit], hlike⟩
  | case2 s p hquit rest hstep =>
    refine ⟨p', loop_eq_of_step_eq ?_, hlike⟩
    rw [hlike.session]
    exact h.step_done hstep
  | case3 s p hquit parsed rest hstep ih =>
    obtain ⟨ts, hstep', hnext⟩ := h.step htail hstep (by simp) (by simp)
    rw [hlike.loop_eq hquit hstep']
    exact ih hnext (blind_apply hinner parsed hlike) hmild
  | case4 s p hquit error rest hstep ih =>
    -- the error stays in the report to the end of the run
    have hkind : error.kind = .domain := by
      have hmem : ⟨_, error⟩ ∈ ((p.log rest.resyncTrace).fail error).report.failures :=
        List.mem_append_right _ (List.mem_singleton_self _)
      exact hmild _ (((blind_loop hinner rest).prefix_failures _).subset hmem)
    obtain ⟨ts, hstep', hnext⟩ := h.step htail hstep (by simp) (by simp [hkind])
    rw [hlike.loop_eq hquit hstep']
    exact ih hnext (blind_fail error (hlike.log _ _)) hmild

/-- **Two scripts in a longer one:** the second is executed behind what the first has reported. -/
theorem loop_append {d : Nat} {tail : List Token} {a b whole : Script} {s : Session σ}
    {p q w : Progress σ} {heard heard' heard'' : List String}
    (hinner : BlindWithin inner)
    (htail : Grammar.EndsStatement (headKind tail)) (hfirst : Script.Embedded 0 tail a whole)
    (hsecond : Script.Embedded d [] b (whole.goOn tail))
    (hp : p = ((Progress.mk s {}).logAll heard).loop library inner a)
    (hq : q = ((Progress.mk p.session {}).logAll heard').loop library inner b)
    (hw : w = ((Progress.mk s {}).logAll heard'').loop library inner whole)
    (hmild : ∀ f ∈ p.report.failures ++ q.report.failures, f.error.kind = .domain) :
    Like p.report q w := by
  have hmildp : ∀ f ∈ p.report.failures, f.error.kind = .domain :=
    fun f hf => hmild f (List.mem_append_left _ hf)
  have hmildq : ∀ f ∈ q.report.failures, f.error.kind = .domain :=
    fun f hf => hmild f (List.mem_append_right _ hf)
  have hstart : Like {} ((Progress.mk s {}).logAll heard) ((Progress.mk s {}).logAll heard'') :=
    (Like.start ⟨s, {}⟩).logAll _ _
  obtain ⟨p', hrunp, hlikep⟩ := loop_embedded hinner htail hfirst hstart (hp ▸ hmildp)
  rw [← hp] at hlikep
  obtain ⟨q', hrunq, hlikeq⟩ :=
    loop_embedded hinner (.inl rfl) hsecond (hlikep.next heard') (hq ▸ hmildq)
  rw [← hq] at hlikeq
  have hend : w = q' := by
    rw [hw, hrunp, hrunq, Script.goOn_goOn, loop_goOn_nil]
  exact hend ▸ hlikeq

/-- A text without a skipped character. -/
theorem runWith_of_errors [Text.Normalizer] {text : String} (h : (Scan.ofText text).errors = [])
    (p : Progress σ) :
    runWith library inner text p =
      (p.logAll (Scan.ofText text).trace).loop library inner
        (Script.ofText text).takePending.2 := by
  have hpending : (Script.ofText text).pending = [] := h
  simp only [runWith, Script.takePending, hpending, List.foldl_nil]
  rfl

end Progress

/-! ## Sessions -/

namespace Session

open Progress

section

variable [Text.Normalizer] {σ : Type} [Engine σ]

/-- A text that fails by its engine only has no character that is skipped. -/
theorem errors_ofText_of_execute {library : Library} {s : Session σ} {text : String}
    (h : ∀ f ∈ (s.execute library text).1.failures, f.error.kind = .domain) :
    (Scan.ofText text).errors = [] := by
  rw [List.eq_nil_iff_forall_not_mem]
  intro e he
  have hmem : e ∈ (s.execute library text).1.errors := by
    rw [errors_execute, List.mem_filterMap]
    have hopening : opening text <+: s.course library text := by
      unfold course
      cases fileLimit - s.openFiles.length <;> exact List.prefix_append _ _
    exact ⟨.skipped e, hopening.subset (List.mem_cons_of_mem _ (List.mem_map_of_mem he)), rfl⟩
  obtain ⟨f, hf, rfl⟩ := List.mem_map.mp hmem
  have hkind := h f hf
  rw [Scan.kind_of_mem_errors he] at hkind
  cases hkind

/-- A text without a skipped character is executed as a script is, with runs further in that do not
look back. -/
theorem exists_execute_eq (library : Library) (s : Session σ) :
    ∃ inner : Option (String → Progress σ → Progress σ),
      BlindWithin inner ∧
      ∀ (t : Session σ) (text : String), t.openFiles = s.openFiles →
        (Scan.ofText text).errors = [] → ∃ p : Progress σ,
          p = ((Progress.mk t {}).logAll (Scan.ofText text).trace).loop library inner
            (Script.ofText text).takePending.2 ∧
          t.execute library text = (p.report, p.session) := by
  have hlevel : ∃ inner : Option (String → Progress σ → Progress σ),
      BlindWithin inner ∧
      ∀ text, runIn library (fileLimit - s.openFiles.length) text =
        runWith library inner text := by
    cases fileLimit - s.openFiles.length with
    | zero => exact ⟨none, .none, fun text => rfl⟩
    | succ levels =>
      exact ⟨some (runIn library levels), .some (blind_runIn library levels),
        fun text => rfl⟩
  obtain ⟨inner, hinner, hrun⟩ := hlevel
  refine ⟨inner, hinner, fun t text hopen herrors => ⟨_, rfl, ?_⟩⟩
  rw [execute, hopen, hrun, runWith_of_errors herrors]

/--
**Two texts may be executed as one.** Let `A` be executed and then `B`, and let no statement fail by
the grammar and no character be skipped. Statements may be refused and the engine reset, safe input
may be switched, scripts may be read or missing, and the session may end. Then executing `A` and `B`
as one text, with the end of a line and a semicolon between them, leads to the same session, and the
report says what the two reports say, in their order.
-/
theorem execute_append (library : Library) (s : Session σ) (A B : String)
    (h : ∀ f ∈ (s.execute library A).1.failures ++
      ((s.execute library A).2.execute library B).1.failures, f.error.kind = .domain) :
    let a := s.execute library A
    let b := a.2.execute library B
    let whole := s.execute library (A ++ "\n;" ++ B)
    whole.2 = b.2 ∧
      whole.1.succeeded = a.1.succeeded + b.1.succeeded ∧
      whole.1.failures = a.1.failures ++ b.1.failures ∧
      whole.1.echoes = a.1.echoes ++ b.1.echoes ∧
      whole.1.events = a.1.events ++ b.1.events := by
  intro a b whole
  have herrorsA := errors_ofText_of_execute fun f hf => h f (List.mem_append_left _ hf)
  have herrorsB := errors_ofText_of_execute fun f hf => h f (List.mem_append_right _ hf)
  obtain ⟨herrors, d, tail, htail, hfirst, hsecond⟩ :=
    Script.exists_embedded_append herrorsA herrorsB
  obtain ⟨inner, hinner, hexecute⟩ := exists_execute_eq library s
  have hopen : a.2.openFiles = s.openFiles := (traced_execute library _ A).openFiles _
  obtain ⟨p, hp, hA⟩ := hexecute s A rfl herrorsA
  obtain ⟨q, hq, hB⟩ := hexecute a.2 B hopen herrorsB
  obtain ⟨w, hw, hwhole⟩ := hexecute s (A ++ "\n;" ++ B) rfl herrors
  have ha : a = (p.report, p.session) := hA
  have hb : b = (q.report, q.session) := hB
  have hmild : ∀ f ∈ p.report.failures ++ q.report.failures, f.error.kind = .domain := by
    have hfailures : ∀ f ∈ a.1.failures ++ b.1.failures, f.error.kind = .domain := h
    rwa [ha, hb] at hfailures
  rw [ha] at hq
  have hlike := loop_append hinner htail hfirst hsecond hp hq hw hmild
  rw [ha, hb, show whole = (w.report, w.session) from hwhole]
  exact ⟨hlike.session, hlike.report.succeeded, hlike.report.failures, hlike.report.echoes,
    hlike.report.events⟩

end

/-- A script with a declaration that is refused. -/
def rampScripts : Library := fun path =>
  if path = "ramp.kdk" then .ok "var y in [0, approx(2)]; var y in [0, 1]; help"
  else .error "no such script"

/-- The refusal inside the script turns safe input on again. -/
def rampText : String := "set safe input = false; var x in [0, approx(5)]; file ramp.kdk # up"

def levelText : String := "var z in [0, approx(1)]; forall x < 1; file level.kdk; quit; pave"

theorem execute_append_rampText :
    let s := new (Problem.new {})
    let a := s.execute rampScripts rampText
    let b := a.2.execute rampScripts levelText
    let whole := s.execute rampScripts (rampText ++ "\n;" ++ levelText)
    (∀ f ∈ a.1.failures ++ b.1.failures, f.error.kind = .domain) ∧
      whole.2 = b.2 ∧ whole.2.quit = true ∧ whole.1.succeeded = 6 ∧
      whole.1.failures = [⟨some "ramp.kdk", .domain (.alreadyDeclared "y")⟩,
        ⟨none, .domain .approximateInput⟩,
        ⟨none, .domain (.unreadableFile "level.kdk" "no such script")⟩] := by
  intro s a b whole
  -- one evaluation of the two runs serves all facts about them
  obtain ⟨hmild, hquit, hsucceeded, hfailures⟩ :
      let a := (new (Problem.new {})).execute rampScripts rampText
      let b := a.2.execute rampScripts levelText
      (∀ f ∈ a.1.failures ++ b.1.failures, f.error.kind = .domain) ∧ b.2.quit = true ∧
        a.1.succeeded + b.1.succeeded = 6 ∧
        a.1.failures ++ b.1.failures = [⟨some "ramp.kdk", .domain (.alreadyDeclared "y")⟩,
          ⟨none, .domain .approximateInput⟩,
          ⟨none, .domain (.unreadableFile "level.kdk" "no such script")⟩] := by
    decide +kernel
  obtain ⟨hsession, hsum, hall, -, -⟩ := s.execute_append rampScripts rampText levelText hmild
  have hend : whole.2 = b.2 := hsession
  exact ⟨hmild, hend, hend ▸ hquit, hsum.trans hsucceeded, hall.trans hfailures⟩

end Session

end PaveScript
