import PaveScript.Proofs.Kept
import PaveScript.Proofs.Session.Standing
import PaveScript.Text.Normal.Form

/-!
# Replaying a session

The history of a session is a script: the texts of the statements that were accepted, less those in
which a character was skipped. Executing it in a new session hands the same statements to the engine
again, one after the other, whatever came between them.

* `loop_replay` — a script of kept statements hands over these statements and nothing else
* `history_follow`, `replayable_of_kept` — the history of a run is such a script
* `replay_isOk_iff` — replaying a history succeeds exactly when an engine that begins anew takes the
  kept statements in their order
* `replay_rebuilds` — after a run without a reset and without a skipped character it does, and leads
  to the same problem

The exact condition is not always met. A reset empties the engine and leaves the history as it is,
so statements from before a reset and from after it may contradict each other; and a statement that
is accepted but not kept may be missed by a later one.
-/

namespace PaveScript

open Lexer

/-! ## Kept statements -/

/-- The statement that is kept for the replay. -/
def Happening.kept? : Happening → Option Parsed
  | accepted parsed => if parsed.skipped then none else some parsed
  | _ => none

theorem Happening.kept?_eq_some_iff {h : Happening} {parsed : Parsed} :
    h.kept? = some parsed ↔ h = .accepted parsed ∧ parsed.skipped = false := by
  cases h with
  | accepted q =>
    cases hskip : q.skipped <;> simp only [kept?, hskip]
    · constructor
      · rintro ⟨⟩
        exact ⟨rfl, hskip⟩
      · rintro ⟨⟨⟩, -⟩
        rfl
    · constructor
      · rintro ⟨⟩
      · rintro ⟨⟨⟩, hno⟩
        exact absurd hskip (by simp [hno])
  | _ => simp [kept?]

/-- The statements that are kept for the replay, in order. -/
def kept (hs : List Happening) : List Parsed := hs.filterMap Happening.kept?

/-- What replaying statements makes of an engine: each has to pass its safe input and to be taken
by it. -/
def replay {σ : Type} [Engine σ] (engine : σ) : List Statement → Option σ
  | [] => some engine
  | statement :: rest =>
    if Engine.safeInput engine && statement.isApproximate then none
    else
      match dispatch statement engine with
      | (.ok _, engine) => replay engine rest
      | (.error _, _) => none

theorem replay_append {σ : Type} [Engine σ] (engine : σ) (as bs : List Statement) :
    replay engine (as ++ bs) = (replay engine as).bind (replay · bs) := by
  induction as generalizing engine with
  | nil => rfl
  | cons a as ih =>
    rw [List.cons_append, replay, replay]
    split
    · rfl
    · split
      · exact ih _
      · rfl

namespace Progress

variable {σ : Type} [Engine σ]

/-- Nothing takes an error out of a report. -/
theorem prefix_errors_advance (p : Progress σ) (h : Happening) :
    p.report.errors <+: (p.advance h).report.errors := by
  have hdispatch : ∀ parsed, p.report.errors <+: (p.dispatch parsed).report.errors := by
    intro parsed
    rcases hd : PaveScript.dispatch parsed.statement p.session.engine with ⟨_ | _, engine⟩
    · rw [dispatch_error hd, errors_fail]
      exact List.prefix_append ..
    · exact ⟨[], by rw [errors_dispatch_ok hd, List.append_nil]⟩
  cases h with
  | accepted parsed => exact hdispatch parsed
  | refused parsed cause => exact hdispatch parsed
  | left =>
    simp only [advance]
    split <;> exact List.prefix_rfl
  | _ => simp [advance]

/-- What becomes of a session that replays statements. -/
def Replays (p : Progress σ) (ps : List Parsed) (q : Progress σ) : Prop :=
  match replay p.session.engine (ps.map Parsed.statement) with
  | some engine =>
    q.report.errors = p.report.errors ∧
      q.session = { p.session with
        engine := engine
        history := p.session.history ++ ps.map Parsed.text }
  | none => ∃ e es, q.report.errors = p.report.errors ++ e :: es

theorem Replays.of_some {p q : Progress σ} {ps : List Parsed} (h : p.Replays ps q) {engine : σ}
    (hreplay : replay p.session.engine (ps.map Parsed.statement) = some engine) :
    q.report.errors = p.report.errors ∧ q.session.engine = engine ∧
      q.session.history = p.session.history ++ ps.map Parsed.text := by
  unfold Replays at h
  rw [hreplay] at h
  obtain ⟨herrors, hsession⟩ := h
  rw [hsession]
  exact ⟨herrors, rfl, rfl⟩

theorem Replays.errors_eq_iff {p q : Progress σ} {ps : List Parsed} (h : p.Replays ps q) :
    q.report.errors = p.report.errors ↔
      (replay p.session.engine (ps.map Parsed.statement)).isSome = true := by
  unfold Replays at h
  cases hreplay : replay p.session.engine (ps.map Parsed.statement) with
  | none =>
    rw [hreplay] at h
    obtain ⟨e, es, herrors⟩ := h
    simp [herrors]
  | some engine =>
    rw [hreplay] at h
    simp [h.1]

/-- A failure ends the replay, whatever comes behind it. -/
theorem replays_of_errors {p q r : Progress σ} {ps : List Parsed}
    (hnone : replay p.session.engine (ps.map Parsed.statement) = none) {e : Error}
    (hq : q.report.errors = p.report.errors ++ [e]) (hr : q.report.errors <+: r.report.errors) :
    p.Replays ps r := by
  obtain ⟨es, hes⟩ := hr
  unfold Replays
  rw [hnone]
  exact ⟨e, es, by rw [← hes, hq]; simp⟩

/-- A statement that is taken leaves the rest of the replay to the engine behind it. -/
theorem Replays.cons {p q : Progress σ} {parsed : Parsed} {ps : List Parsed} {outcome : Dispatched}
    {engine : σ}
    (happrox : (Engine.safeInput p.session.engine && parsed.statement.isApproximate) = false)
    (hskip : parsed.skipped = false)
    (hd : PaveScript.dispatch parsed.statement p.session.engine = (.ok outcome, engine))
    (h : (p.dispatch parsed).Replays ps q) : p.Replays (parsed :: ps) q := by
  have hreplay : replay p.session.engine ((parsed :: ps).map Parsed.statement) =
      replay engine (ps.map Parsed.statement) := by
    rw [List.map_cons, replay, happrox, if_neg Bool.false_ne_true, hd]
  unfold Replays at h ⊢
  rw [session_dispatch_ok hd, errors_dispatch_ok hd] at h
  rw [hreplay]
  simpa [hskip] using h

theorem apply_of_effect {library : Library}
    {inner : Option (String → Progress σ → Progress σ)} {parsed : Parsed}
    (h : parsed.statement.effect ≠ .control) (p : Progress σ) :
    p.apply library inner parsed = p.dispatch parsed := by
  unfold apply
  cases hs : parsed.statement with
  | readFile path => rw [hs] at h; exact absurd rfl h
  | quit => rw [hs] at h; exact absurd rfl h
  | help => rw [hs] at h; exact absurd rfl h
  | _ => rfl

end Progress

/-- The text of a script of statements, one to a line. -/
def replayText (ps : List Parsed) : List Char :=
  ps.flatMap fun parsed => parsed.text.toList ++ [';', '\n']

theorem replayText_cons (parsed : Parsed) (ps : List Parsed) :
    replayText (parsed :: ps) = parsed.text.toList ++ ';' :: '\n' :: replayText ps := by
  simp [replayText]

theorem toList_historyScript {σ : Type} (s : Session σ) :
    s.historyScript.toList = s.history.flatMap fun text => text.toList ++ [';', '\n'] := by
  simp [Session.historyScript, List.flatMap_map]

/-! ## What is kept -/

section

variable [Text.Normalizer]

/-- A statement that is in normalization form, reads as itself and goes to the engine. -/
structure Parsed.Replayable (parsed : Parsed) : Prop where
  normal : Text.Normalizer.normalize parsed.text.toList = parsed.text.toList
  clause : Clause parsed.text.toList parsed.statement
  skipped : parsed.skipped = false
  effect : parsed.statement.effect ≠ .control

namespace Progress

variable {σ : Type} [Engine σ] {source : String → Prop}

/-- The history grows by the text of a kept statement. -/
theorem history_advance {p : Progress σ} {h : Happening} (hp : p.Admits source h) :
    (p.advance h).session.history = p.session.history ++ (h.kept?.map Parsed.text).toList := by
  cases h with
  | accepted parsed =>
    obtain ⟨-, -, outcome, hok⟩ := hp
    rw [advance, session_dispatch_ok (Prod.ext hok rfl)]
    cases hskip : parsed.skipped <;> simp [Happening.kept?, hskip]
  | refused parsed cause =>
    obtain ⟨-, -, herror⟩ := hp
    rw [advance, dispatch_error (Prod.ext herror rfl), session_fail]
    simp [Error.resets, Happening.kept?]
  | skipped error =>
    rw [advance, session_fail]
    split <;> simp [Happening.kept?]
  | misread error resync =>
    rw [advance, session_fail]
    split <;> simp [Happening.kept?]
  | left =>
    simp only [advance]
    split <;> simp [Happening.kept?]
  | _ => simp [advance, Error.resets, Happening.kept?]

theorem history_follow {p : Progress σ} {hs : List Happening} (h : p.Sound source hs) :
    (p.follow hs).session.history = p.session.history ++ (kept hs).map Parsed.text := by
  induction hs generalizing p with
  | nil => simp [kept]
  | cons a hs ih =>
    rw [follow_cons, ih h.2, history_advance h.1, List.append_assoc]
    cases ha : a.kept? <;> simp [kept, ha]

/-- **What is kept can be read again.** -/
theorem replayable_of_kept {p : Progress σ} {hs : List Happening} (h : p.Sound source hs) :
    ∀ parsed ∈ kept hs, parsed.Replayable := by
  induction hs generalizing p with
  | nil => simp [kept]
  | cons a hs ih =>
    intro parsed hparsed
    obtain ⟨b, hb, hkept⟩ := List.mem_filterMap.mp hparsed
    rcases List.mem_cons.mp hb with rfl | hb
    · obtain ⟨rfl, hskip⟩ := Happening.kept?_eq_some_iff.mp hkept
      obtain ⟨⟨text, s, -, hs', hstep, -⟩, heffect, -⟩ := h.1
      exact ⟨Script.normalize_text_of_step hs' hstep hskip,
        (Script.clause_of_step hs' hstep hskip).1, hskip, heffect⟩
    · exact ih h.2 parsed (List.mem_filterMap.mpr ⟨b, hb, hkept⟩)

end Progress

/-! ## Scripts of kept statements -/

/-- A script of kept statements is in normalization form. -/
theorem normalize_replayText {ps : List Parsed} (hps : ∀ parsed ∈ ps, parsed.Replayable) :
    Text.Normalizer.normalize (replayText ps) = replayText ps := by
  induction ps with
  | nil => exact Text.Normalizer.normalize_nil
  | cons parsed ps ih =>
    obtain ⟨hparsed, hps⟩ := List.forall_mem_cons.mp hps
    -- the semicolon and the line break cut the script behind its first statement
    have hline : Text.Normalizer.normalize ('\n' :: replayText ps) = '\n' :: replayText ps := by
      have := Text.Normalizer.normalize_append_cons (c := '\n') (by decide) [] (replayText ps)
      rwa [List.nil_append, Text.Normalizer.normalize_nil, ih hps] at this
    rw [replayText_cons, Text.Normalizer.normalize_append_cons (by decide), hparsed.normal, hline]

/-- Nothing is skipped in a script of kept statements. -/
theorem errors_replayText {ps : List Parsed} (hps : ∀ parsed ∈ ps, parsed.Replayable)
    {ctx : Context} (hctx : Calm ctx) (p : Position) :
    (scanFrom ctx p (replayText ps)).filterMap Piece.error? = [] := by
  induction ps generalizing ctx p with
  | nil => simp [replayText, scanFrom]
  | cons parsed ps ih =>
    rw [List.forall_mem_cons] at hps
    obtain ⟨head, seg, ctx', hlexed, -, -, -⟩ := hps.1.clause ctx p hctx
    rw [replayText_cons, Script.scanFrom_append_semicolon hlexed, scanFrom_blank _ _ (by decide),
      List.filterMap_append, List.filterMap_cons, ih hps.2 (Script.calm_semicolon ctx'),
      List.filterMap_map]
    simp [Function.comp_def, Piece.error?]

/-- A script in which some kept statements are left to be read, and nothing else. -/
structure Script.Awaits (s : Script) (ps : List Parsed) : Prop where
  replayable : ∀ parsed ∈ ps, parsed.Replayable
  errors : s.scan.errors = []
  suffix : s.rest <:+ s.scan.tokens
  scanned : ∃ a ctx, Calm ctx ∧ s.scan = Scan.ofChars (a ++ replayText ps) ∧
    s.rest = (scanFrom ctx (Position.start.after a) (replayText ps)).filterMap Piece.token?

namespace Script.Awaits

variable {s : Script} {parsed : Parsed} {ps : List Parsed}

/-- The script of kept statements awaits all of them. -/
theorem start (hps : ∀ parsed ∈ ps, parsed.Replayable) {text : String}
    (htext : text.toList = replayText ps) :
    (Script.ofText text).takePending.2.Awaits ps := by
  have hscan : (Script.ofText text).scan = Scan.ofChars (replayText ps) := by
    rw [← normalize_replayText hps, ← htext]
    rfl
  refine ⟨hps, ?_, List.suffix_rfl, [], {}, .start, hscan, ?_⟩
  · show (Script.ofText text).scan.errors = []
    rw [hscan]
    exact errors_replayText hps .start .start
  · show (Script.ofText text).scan.tokens = _
    rw [hscan]
    rfl

theorem step_nil (h : s.Awaits []) (safe : Bool) : (s.step safe).1 = .done := by
  obtain ⟨a, ctx, -, -, hrest⟩ := h.scanned
  have hnil : s.rest.dropWhile isSemicolon = [] := by
    rw [hrest]
    simp [replayText, scanFrom]
  rw [step_eq_done safe hnil]

/-- **The next statement is the first of those that are left.** Safe input may refuse it. -/
theorem step_cons (h : s.Awaits (parsed :: ps)) (safe : Bool) :
    (s.step safe).2.Awaits ps ∧ (s.step safe).1 =
      if safe && parsed.statement.isApproximate then .failed (.domain .approximateInput)
      else .parsed parsed := by
  obtain ⟨a, ctx, hctx, hscan, hrest⟩ := h.scanned
  obtain ⟨hparsed, hps⟩ := List.forall_mem_cons.mp h.replayable
  rw [replayText_cons] at hscan hrest
  obtain ⟨ctx', hctx', hstep⟩ :=
    step_clause hparsed.clause hscan h.errors hctx hrest h.suffix safe
  have hsuffix := (rest_step_suffix safe s).trans h.suffix
  rw [String.ofList_toList, ← hparsed.skipped, scanFrom_blank _ _ (by decide)] at hstep
  rw [hstep] at hsuffix ⊢
  refine ⟨⟨hps, h.errors, hsuffix, a ++ (parsed.text.toList ++ [';', '\n']), ctx', hctx', ?_, ?_⟩,
    rfl⟩
  · show s.scan = _
    rw [hscan]
    simp
  · -- the line break goes with the statement before it
    have hplace : (Position.start.after (a ++ (parsed.text.toList ++ [';']))).advance '\n' =
        Position.start.after (a ++ (parsed.text.toList ++ [';', '\n'])) := by
      simp [Position.after_append]
    rw [← hplace]
    rfl

end Script.Awaits

/-! ## Executing such a script -/

namespace Progress

variable {σ : Type} [Engine σ] {library : Library} {source : String → Prop}
  {inner : Option (String → Progress σ → Progress σ)}
  {within : Option (String → Progress σ → List Happening)}

theorem prefix_errors_loop (h : Tracks library source inner within) (s : Script) (p : Progress σ) :
    p.report.errors <+: (p.loop library inner s).report.errors := by
  rw [(loop_eq_follow h s p).1]
  generalize courseOfScript library within s p = hs
  induction hs generalizing p with
  | nil => exact List.prefix_rfl
  | cons a hs ih => exact (prefix_errors_advance p a).trans (ih (p.advance a))

/-- **A script of kept statements hands over these statements and nothing else.** -/
theorem loop_replay (h : Tracks library source inner within) {ps : List Parsed} {s : Script}
    (hs : s.Awaits ps) {p : Progress σ} (hquit : p.session.quit = false) :
    p.Replays ps (p.loop library inner s) := by
  induction ps generalizing s p with
  | nil =>
    rw [loop_eq hquit (Prod.ext (hs.step_nil _) rfl)]
    simp [Replays, replay]
  | cons parsed ps ih =>
    obtain ⟨hrest, hstep⟩ := hs.step_cons (Engine.safeInput p.session.engine)
    cases happrox : Engine.safeInput p.session.engine && parsed.statement.isApproximate with
    | true =>
      rw [happrox, if_pos rfl] at hstep
      rw [loop_eq hquit (Prod.ext hstep rfl)]
      refine replays_of_errors ?_ (errors_fail _ (p.log _)) (prefix_errors_loop h _ _)
      rw [List.map_cons, replay, happrox, if_pos rfl]
    | false =>
      rw [happrox, if_neg Bool.false_ne_true] at hstep
      rw [loop_eq hquit (Prod.ext hstep rfl)]
      have heffect := (hs.replayable parsed List.mem_cons_self).effect
      have hskip := (hs.replayable parsed List.mem_cons_self).skipped
      simp only [apply_of_effect heffect]
      rcases hd : PaveScript.dispatch parsed.statement p.session.engine with
        ⟨cause | outcome, engine⟩
      · have herror : (p.dispatch parsed).report.errors = p.report.errors ++ [.domain cause] := by
          rw [dispatch_error hd, errors_fail]
          rfl
        refine replays_of_errors ?_ herror (prefix_errors_loop h _ _)
        rw [List.map_cons, replay, happrox, if_neg Bool.false_ne_true, hd]
      · refine .cons happrox hskip hd (ih hrest ?_)
        rw [session_dispatch_ok hd]
        exact hquit

theorem runWith_replay (h : Tracks library source inner within) {ps : List Parsed}
    (hps : ∀ parsed ∈ ps, parsed.Replayable) {text : String}
    (htext : text.toList = replayText ps) {p : Progress σ}
    (hquit : p.session.quit = false) : p.Replays ps (runWith library inner text p) := by
  have hawaits := Script.Awaits.start hps htext
  have hpending : (Script.ofText text).takePending.1 = [] := hawaits.errors
  have hrun : runWith library inner text p =
      (p.logAll (Script.ofText text).scan.trace).loop library inner
        (Script.ofText text).takePending.2 := by
    simp only [runWith]
    rw [hpending]
    rfl
  rw [hrun]
  exact loop_replay h hawaits (p := p.logAll (Script.ofText text).scan.trace) hquit

/-- **Executing a script of kept statements replays them,** with any number of levels left. -/
theorem runIn_replay (levels : Nat) {ps : List Parsed} (hps : ∀ parsed ∈ ps, parsed.Replayable)
    {text : String} (htext : text.toList = replayText ps) {p : Progress σ}
    (hquit : p.session.quit = false) : p.Replays ps (runIn library levels text p) := by
  cases levels with
  | zero =>
    have htracks : Tracks (σ := σ) library (fun _ => True) none none := .none
    exact runWith_replay htracks hps htext hquit
  | succ levels => exact runWith_replay (tracks_runIn library levels) hps htext hquit

end Progress

/-! ## What a history keeps -/

namespace Session

variable {σ : Type} [Engine σ]

/-- **The history is what was kept.** -/
theorem history_executeAll (library : Library) (texts : List String) (s : Session σ) :
    (s.executeAll library texts).2.history =
      s.history ++ (kept (s.courseAll library texts)).map Parsed.text := by
  induction texts generalizing s with
  | nil => simp [executeAll, courseAll, kept]
  | cons text texts ih =>
    have hfirst : (s.execute library text).2.history =
        s.history ++ (kept (s.course library text)).map Parsed.text := by
      rw [execute_eq_follow]
      exact Progress.history_follow (sound_course library s text)
    rw [executeAll, ih, hfirst, courseAll]
    simp [kept]

theorem replayable_courseAll (library : Library) (texts : List String) (s : Session σ) :
    ∀ parsed ∈ kept (s.courseAll library texts), parsed.Replayable := by
  induction texts generalizing s with
  | nil => simp [courseAll, kept]
  | cons text texts ih =>
    intro parsed hparsed
    rw [courseAll, kept, List.filterMap_append] at hparsed
    rcases List.mem_append.mp hparsed with hfirst | hlater
    · exact Progress.replayable_of_kept (sound_course library s text) parsed hfirst
    · exact ih _ parsed hlater

/-- **Executing its history replays what was kept.** -/
theorem replays_history (library library' : Library) (texts : List String) (engine : σ) :
    let script := ((new engine).executeAll library texts).2.historyScript
    Progress.Replays ⟨new engine, {}⟩ (kept ((new engine).courseAll library texts))
      ⟨((new engine).execute library' script).2, ((new engine).execute library' script).1⟩ := by
  intro script
  refine Progress.runIn_replay _ (replayable_courseAll library texts _) ?_ rfl
  refine (toList_historyScript _).trans ?_
  rw [history_executeAll]
  exact List.flatMap_map ..

end Session

end

/-! ## Runs that lose nothing -/

/-- Whether the problem and the history part: a reset leaves the history alone, and a statement with
a skipped character is taken but not kept. -/
def Happening.loses (h : Happening) : Bool := h.resets || h.accepted?.any Parsed.skipped

/-- An error that neither resets the engine nor stands for a skipped character. -/
def Error.IsMild (e : Error) : Prop := e.kind ≠ .domain ∧ e.kind ≠ .lexical

instance (e : Error) : Decidable e.IsMild := inferInstanceAs (Decidable (_ ∧ _))

theorem Error.IsMild.resets {e : Error} (h : e.IsMild) : e.resets = false := by
  cases e with
  | domain cause => exact absurd rfl h.1
  | _ => rfl

namespace Progress

variable [Text.Normalizer] {source : String → Prop}

/-- What is kept makes the problem as long as nothing is lost. -/
theorem replay_advance {D : Settings} {statements : List Statement} {p : Progress Problem}
    (h : replay (.new D) statements = some p.session.engine) {a : Happening}
    (ha : p.Admits source a) (hloses : a.loses = false) :
    replay (.new D) (statements ++ (a.kept?.map Parsed.statement).toList) =
      some (p.advance a).session.engine := by
  rw [Happening.loses, Bool.or_eq_false_iff] at hloses
  rw [engine_advance ha, hloses.1, if_neg Bool.false_ne_true, replay_append, h, Option.bind_some]
  cases a with
  | accepted parsed =>
    obtain ⟨⟨text, s, -, hs, hstep, -⟩, -, outcome, hok⟩ := ha
    have hskip : parsed.skipped = false := hloses.2
    have hsafe := (Script.clause_of_step hs hstep hskip).2
    have hd : PaveScript.dispatch parsed.statement p.session.engine = (.ok outcome, _) :=
      Prod.ext hok rfl
    rw [Happening.kept?, hskip, if_neg Bool.false_ne_true, Option.map_some, Option.toList_some,
      replay, hsafe, if_neg Bool.false_ne_true, hd]
    rfl
  | _ => rfl

theorem replay_follow {D : Settings} {statements : List Statement} {p : Progress Problem}
    (h : replay (.new D) statements = some p.session.engine) {hs : List Happening}
    (hs' : p.Sound source hs) (hloses : ∀ a ∈ hs, a.loses = false) :
    replay (.new D) (statements ++ (kept hs).map Parsed.statement) =
      some (p.follow hs).session.engine := by
  induction hs generalizing statements p with
  | nil => simpa [kept] using h
  | cons a hs ih =>
    rw [List.forall_mem_cons] at hloses
    rw [follow_cons, ← ih (replay_advance h hs'.1 hloses.1) hs'.2 hloses.2, List.append_assoc]
    cases ha : a.kept? <;> simp [kept, ha]

/-- **Without a reset and without a skipped character nothing is lost.** -/
theorem loses_of_mild {σ : Type} [Engine σ] {p : Progress σ} {hs : List Happening}
    (hs' : p.Sound source hs) (hmild : ∀ e ∈ (p.follow hs).report.errors, e.IsMild) :
    ∀ a ∈ hs, a.loses = false := by
  induction hs generalizing p with
  | nil => simp
  | cons a hs ih =>
    refine List.forall_mem_cons.mpr ⟨?_, ih hs'.2 hmild⟩
    rw [errors_follow hs'] at hmild
    have hresets : a.resets = false := by
      unfold Happening.resets
      cases ha : a.error? with
      | none => rfl
      | some e =>
        have he : e ∈ (a :: hs).filterMap Happening.error? :=
          List.mem_filterMap.mpr ⟨a, List.mem_cons_self, ha⟩
        exact (hmild e (List.mem_append_right _ he)).resets
    rw [Happening.loses, hresets, Bool.false_or]
    cases a with
    | accepted parsed =>
      obtain ⟨⟨text, s, -, -, hstep, hreport⟩, -⟩ := hs'.1
      -- a skipped character of its text would be in the report by now
      by_cases herrors : s.scan.errors = []
      · exact Script.skipped_of_step hstep herrors
      · obtain ⟨e, he, hkind⟩ := hreport herrors
        exact absurd hkind (hmild e (List.mem_append_left _ he)).2
    | _ => rfl

end Progress

namespace Session

section

variable [Text.Normalizer] {D : Settings} {library : Library} {texts : List String}

/-- Between two texts, what is kept makes the problem as long as nothing is lost. -/
theorem replay_executeAll (statements : List Statement) {s : Session Problem}
    (h : replay (.new D) statements = some s.engine)
    (hloses : ∀ a ∈ s.courseAll library texts, a.loses = false) :
    replay (.new D) (statements ++ (kept (s.courseAll library texts)).map Parsed.statement) =
      some (s.executeAll library texts).2.engine := by
  induction texts generalizing s statements with
  | nil => simpa [executeAll, courseAll, kept] using h
  | cons text texts ih =>
    rw [courseAll, List.forall_mem_append] at hloses
    have hnow : replay (.new D)
        (statements ++ (kept (s.course library text)).map Parsed.statement) =
        some (s.execute library text).2.engine := by
      rw [execute_eq_follow]
      exact Progress.replay_follow (p := ⟨s, {}⟩) h (sound_course library s text) hloses.1
    rw [executeAll, ← ih _ hnow hloses.2, courseAll]
    simp [kept]

theorem loses_courseAll {σ : Type} [Engine σ] {s : Session σ}
    (hmild : ∀ r ∈ (s.executeAll library texts).1, ∀ e ∈ r.errors, e.IsMild) :
    ∀ a ∈ s.courseAll library texts, a.loses = false := by
  induction texts generalizing s with
  | nil => simp [courseAll]
  | cons text texts ih =>
    rw [executeAll] at hmild
    obtain ⟨hfirst, hlater⟩ := List.forall_mem_cons.mp hmild
    rw [execute_eq_follow] at hfirst
    rw [courseAll, List.forall_mem_append]
    exact ⟨Progress.loses_of_mild (sound_course library s text) hfirst, ih hlater⟩

end

/-! ## Histories and problems -/

/--
**A history can be replayed exactly when its statements go together.** The history of a run is the
texts of what was kept, in order. Executing its script in a new session succeeds if and only if an
empty problem takes the kept statements one after the other, each under the safe input that the ones
before it have left; and it does if the run has lost nothing.
-/
theorem replay_isOk_iff [Text.Normalizer] (D : Settings) (library library' : Library)
    (texts : List String) :
    let start := new (Problem.new D)
    let s := (start.executeAll library texts).2
    let course := start.courseAll library texts
    s.history = (kept course).map Parsed.text ∧
    ((start.execute library' s.historyScript).1.isOk = true ↔
      (replay (Problem.new D) ((kept course).map Parsed.statement)).isSome = true) ∧
    ((∀ h ∈ course, h.loses = false) → (start.execute library' s.historyScript).1.isOk = true) := by
  intro start s course
  have hiff : (start.execute library' s.historyScript).1.isOk = true ↔
      (replay (Problem.new D) ((kept course).map Parsed.statement)).isSome = true :=
    Report.isOk_iff.trans
      (replays_history library library' texts (Problem.new D)).errors_eq_iff
  refine ⟨history_executeAll library texts start, hiff, fun hloses => ?_⟩
  have hreplay : replay (Problem.new D) ((kept course).map Parsed.statement) = some s.engine :=
    replay_executeAll [] rfl hloses
  rw [hiff, hreplay]
  rfl

/-- A library without scripts. -/
def noScripts : Library := fun _ => .error "no such script"

/-- The second declaration is refused and empties the problem, so that the third one is taken. -/
def thriceText : String := "var x in [0, 1]; var x in [0, 1]; var x in [0, 1]"

/-- A character is skipped in a statement that is not taken. -/
def strayText : String := "var x in [0, 1]; pave $ pave; cnstr x < 1"

/-- An empty problem does not take both declarations that are kept of the first text. -/
theorem replay_isOk_thriceText :
    let start := new (Problem.new {})
    let thrice := (start.executeAll noScripts [thriceText]).2
    let stray := (start.executeAll noScripts [strayText]).2
    thrice.historyScript = "var x in [0, 1];\nvar x in [0, 1];\n" ∧
      (start.execute noScripts thrice.historyScript).1.isOk = false ∧
    stray.historyScript = "var x in [0, 1];\ncnstr x < 1;\n" ∧
      (start.execute noScripts stray.historyScript).1.isOk = true := by
  intro start thrice stray
  refine ⟨by decide +kernel, ?_, by decide +kernel, ?_⟩
  · obtain ⟨-, hiff, -⟩ := replay_isOk_iff {} noScripts noScripts [thriceText]
    rw [← Bool.not_eq_true, hiff]
    decide +kernel
  · obtain ⟨-, -, hok⟩ := replay_isOk_iff {} noScripts noScripts [strayText]
    exact hok (by decide +kernel)

/--
**Replaying a history rebuilds the problem.** After a run in which no error resets the problem and
no character is skipped, executing the script of the history in a new session fails nowhere and
leads to the same problem and the same history; whatever else has failed, whichever scripts were
read and however safe input was set in between.
-/
theorem replay_rebuilds [Text.Normalizer] (D : Settings) (library library' : Library)
    (texts : List String)
    (hmild : ∀ r ∈ ((new (Problem.new D)).executeAll library texts).1, ∀ e ∈ r.errors, e.IsMild) :
    let s := ((new (Problem.new D)).executeAll library texts).2
    let again := (new (Problem.new D)).execute library' s.historyScript
    again.1.failures = [] ∧ again.2.engine = s.engine ∧ again.2.history = s.history := by
  intro s again
  have hreplay := replay_executeAll (D := D) [] rfl (loses_courseAll hmild)
  obtain ⟨herrors, hengine, hhistory⟩ :=
    (replays_history library library' texts (Problem.new D)).of_some hreplay
  refine ⟨List.map_eq_nil_iff.mp herrors, hengine, ?_⟩
  exact hhistory.trans (history_executeAll library texts (new (Problem.new D))).symm

/-- Two scripts, one of which reads the other. -/
def heightScripts : Library := fun path =>
  if path = "height.kdk" then
    .ok "var y # up\n in [0, 1]; set safe input = true; file slope.kdk"
  else if path = "slope.kdk" then .ok "cnstr x < y;; cnstr y = approx(0"
  else .error "no such script"

/-- Texts with statements that cannot be read, a number that is too large, a reset and an end. -/
def heightTexts : List String :=
  ["set safe input = false; var x in [0, approx(5)]; help; pave pave; file height.kdk",
    "reset; pave 99999999999999999999; forall x < 1; quit; pave"]

theorem replay_rebuilds_heightTexts :
    let s := ((new (Problem.new {})).executeAll heightScripts heightTexts).2
    let again := (new (Problem.new {})).execute noScripts s.historyScript
    s.history = ["set safe input = false", "var x in [0, approx(5)]", "var y # up\n in [0, 1]",
        "set safe input = true", "cnstr x < y", "reset", "forall x < 1"] ∧
      again.1.failures = [] ∧ again.2.engine = s.engine ∧ again.2.history = s.history := by
  -- one evaluation of the run serves both facts about it
  obtain ⟨hhistory, hmild⟩ :
      let run := (new (Problem.new {})).executeAll heightScripts heightTexts
      run.2.history = ["set safe input = false", "var x in [0, approx(5)]",
        "var y # up\n in [0, 1]", "set safe input = true", "cnstr x < y", "reset", "forall x < 1"] ∧
      (∀ r ∈ run.1, ∀ e ∈ r.errors, e.IsMild) := by
    decide +kernel
  exact ⟨hhistory, replay_rebuilds {} heightScripts noScripts heightTexts hmild⟩

end Session

end PaveScript
