import PaveScript.Proofs.Session.Stack

/-!
# The moments of a run

Between two happenings a session is at a moment of its run, and `Session.moments` lists them all. At
some of them a statement is read, from whichever text is the innermost then: `Machine.result?` is
what reading gives, and `Session.results` are all results of a run.

* `Machine.Move` — what can happen at a moment, and what has to be the case for it
* `Machine.Tidy` — only the innermost text still has skipped characters to report
* `Machine.forall_mem_moments` — what each happening keeps holds at all later moments
-/

namespace PaveScript

variable {σ : Type} [Engine σ] {library : Library}

/-- Whether a statement was read that asks the session to quit. -/
def Script.Step.quits : Script.Step → Bool
  | .parsed p => p.statement = .quit
  | _ => false

namespace Machine

/-! ## Reading at a moment -/

/--
What reading a statement gives at this moment. No statement is read before the skipped characters of
its text are reported nor after the session was asked to quit, and none may be left.
-/
def result? (m : Machine σ) : Option Script.Step :=
  match m.frames with
  | ⟨_, .reading script⟩ :: _ =>
    if script.pending ≠ [] ∨ m.progress.session.quit = true then none
    else
      match (script.step (Engine.safeInput m.progress.session.engine)).1 with
      | .done => none
      | r => some r
  | _ => none

/-- Whether the statement that is read at this moment asks the session to quit. -/
def quits (m : Machine σ) : Bool := m.result?.any Script.Step.quits

section

variable {m : Machine σ} {path : Option String} {text : String} {script rest : Script}
  {outer : List Frame}

theorem result?_of_quit (h : m.progress.session.quit = true) : m.result? = none := by
  unfold result?
  split
  · rw [if_pos (.inr h)]
  · rfl

theorem result?_of_unread (hm : m.frames = ⟨path, .unread text⟩ :: outer) : m.result? = none := by
  rw [result?, hm]

theorem result?_of_pending (hm : m.frames = ⟨path, .reading script⟩ :: outer)
    (h : script.pending ≠ []) : m.result? = none := by
  rw [result?, hm]
  exact if_pos (.inl h)

theorem result?_of_ended (hm : m.frames = ⟨path, .reading script⟩ :: outer)
    (h : Ended m.progress script) : m.result? = none := by
  rcases h.2 with hquit | hdone
  · exact result?_of_quit hquit
  · rw [result?, hm]
    simp only [hdone, ite_self]

theorem result?_of_step (hm : m.frames = ⟨path, .reading script⟩ :: outer)
    (hpending : script.pending = []) (hquit : m.progress.session.quit = false) {r : Script.Step}
    (hstep : script.step (Engine.safeInput m.progress.session.engine) = (r, rest))
    (hr : r ≠ .done) : m.result? = some r := by
  rw [result?, hm]
  simp only [hpending, hquit, hstep, ne_eq, not_true_eq_false, Bool.false_eq_true, or_self,
    if_false]

end

/-! ## What can happen -/

/-- What becomes of the result of reading a statement: what happens, and the script that is entered
with it. -/
inductive Answers (library : Library) (p : Progress σ) :
    Script.Step → Happening → Option Frame → Prop where
  | misread {error : Error} (resync : String) :
    Answers library p (.failed error) (.misread error resync) none
  | handed {parsed : Parsed} (h : parsed.statement.effect ≠ .control) :
    Answers library p (.parsed parsed) (Progress.verdict parsed p.session.engine) none
  | quit {parsed : Parsed} (h : parsed.statement = .quit) :
    Answers library p (.parsed parsed) .quit none
  | help {parsed : Parsed} (h : parsed.statement = .help) :
    Answers library p (.parsed parsed) .helped none
  | tooDeep {parsed : Parsed} {path : String} (h : parsed.statement = .readFile path)
    (hfull : fileLimit ≤ p.session.openFiles.length) :
    Answers library p (.parsed parsed) (.tooDeep path) none
  | unreadable {parsed : Parsed} {path reason : String} (h : parsed.statement = .readFile path)
    (hpath : library path = .error reason) :
    Answers library p (.parsed parsed) (.unreadable path reason) none
  | entered {parsed : Parsed} {path text : String} (h : parsed.statement = .readFile path)
    (hpath : library path = .ok text) :
    Answers library p (.parsed parsed) (.entered path text) (some ⟨some path, .unread text⟩)

/-- Reading a statement leaves nothing to report. -/
theorem pending_of_step {script rest : Script} {safe : Bool} {r : Script.Step}
    (hstep : script.step safe = (r, rest)) (h : script.pending = []) : rest.pending = [] := by
  rw [← h, ← Script.pending_step safe script, hstep]

theorem Answers.ne_done {p : Progress σ} {r : Script.Step} {a : Happening} {entered : Option Frame}
    (h : Answers library p r a entered) : r ≠ .done := by
  cases h <;> nofun

/-- Only a quit is asked for by a statement that quits. -/
theorem Answers.of_quits {p : Progress σ} {r : Script.Step} {a : Happening}
    {entered : Option Frame} (h : Answers library p r a entered) (hr : r.quits = true) :
    a = .quit ∧ entered = none := by
  cases h with
  | quit hs => exact ⟨rfl, rfl⟩
  | handed heffect =>
    rw [Script.Step.quits, decide_eq_true_eq] at hr
    rw [hr] at heffect
    exact absurd rfl heffect
  | misread => cases hr
  | _ => simp_all [Script.Step.quits]

theorem exists_answers (library : Library) (parsed : Parsed) (p : Progress σ)
    (frames : List Frame) :
    ∃ entered, Answers library p (.parsed parsed) (nextOfStatement library parsed p frames).1
        entered ∧ (nextOfStatement library parsed p frames).2 = entered.toList ++ frames := by
  unfold nextOfStatement
  split
  · next path hs =>
    unfold nextOfFile
    split
    · next hfull => exact ⟨none, .tooDeep hs hfull, rfl⟩
    · split
      · next hpath => exact ⟨none, .unreadable hs hpath, rfl⟩
      · next hpath => exact ⟨_, .entered hs hpath, rfl⟩
  · next hs => exact ⟨none, .quit hs, rfl⟩
  · next hs => exact ⟨none, .help hs, rfl⟩
  · next hfile hquit hhelp =>
    refine ⟨none, .handed ?_, rfl⟩
    cases hs : parsed.statement with
    | readFile path => exact absurd hs (hfile path)
    | quit => exact absurd hs hquit
    | help => exact absurd hs hhelp
    | _ => simp [Statement.effect]

variable [Text.Normalizer]

/-- What can happen at a moment, with the texts that the session is in then. -/
inductive Move (library : Library) (m : Machine σ) : Happening → List Frame → Prop where
  | scan {path : Option String} {text : String} {outer : List Frame}
    (hm : m.frames = ⟨path, .unread text⟩ :: outer) :
    Move library m (.scanned (Script.ofText text).scan.trace)
      (⟨path, .reading (Script.ofText text)⟩ :: outer)
  | skip {path : Option String} {script : Script} {outer : List Frame} {error : Error}
    {pending : List Error} (hm : m.frames = ⟨path, .reading script⟩ :: outer)
    (hpending : script.pending = error :: pending) :
    Move library m (.skipped error) (⟨path, .reading { script with pending }⟩ :: outer)
  | leave {path : String} {script : Script} {outer : List Frame}
    (hm : m.frames = ⟨some path, .reading script⟩ :: outer) (hended : Ended m.progress script) :
    Move library m .left outer
  | read {path : Option String} {script rest : Script} {outer : List Frame} {r : Script.Step}
    {a : Happening} {entered : Option Frame} (hm : m.frames = ⟨path, .reading script⟩ :: outer)
    (hpending : script.pending = []) (hquit : m.progress.session.quit = false)
    (hstep : script.step (Engine.safeInput m.progress.session.engine) = (r, rest))
    (ha : Answers library m.progress r a entered) :
    Move library m a (entered.toList ++ ⟨path, .reading rest⟩ :: outer)

/-- A script is left when it has come to its end. -/
theorem move_of_nextOfEnd {m : Machine σ} {path : Option String} {script : Script}
    {outer frames : List Frame} {a : Happening}
    (hm : m.frames = ⟨path, .reading script⟩ :: outer) (hended : Ended m.progress script)
    (h : nextOfEnd path outer = some (a, frames)) : Move library m a frames := by
  obtain ⟨q, rfl, hq⟩ := Option.map_eq_some_iff.mp h
  obtain ⟨rfl, rfl⟩ := Prod.mk.inj hq
  exact .leave hm hended

/-- **What happens next is one of the moves.** -/
theorem move_of_next? {m : Machine σ} {a : Happening} {frames : List Frame}
    (h : m.next? library = some (a, frames)) : Move library m a frames := by
  unfold next? at h
  split at h
  · cases h
  · next path text outer hm =>
    obtain ⟨rfl, rfl⟩ := Prod.mk.inj (Option.some.inj h)
    exact .scan hm
  · next path script outer hm =>
    split at h
    · next error pending hpending =>
      obtain ⟨rfl, rfl⟩ := Prod.mk.inj (Option.some.inj h)
      exact .skip hm hpending
    · next hpending =>
      split at h
      · next hquit => exact move_of_nextOfEnd hm ⟨hpending, .inl hquit⟩ h
      · next hquit =>
        rw [Bool.not_eq_true] at hquit
        split at h
        · next hstep => exact move_of_nextOfEnd hm ⟨hpending, .inr (congrArg Prod.fst hstep)⟩ h
        · next error rest hstep =>
          obtain ⟨rfl, rfl⟩ := Prod.mk.inj (Option.some.inj h)
          exact .read hm hpending hquit hstep (.misread rest.resyncTrace)
        · next parsed rest hstep =>
          obtain ⟨entered, hanswers, hframes⟩ :=
            exists_answers library parsed m.progress (⟨path, .reading rest⟩ :: outer)
          rw [Option.some.inj h] at hanswers hframes
          obtain rfl : frames = _ := hframes
          exact .read hm hpending hquit hstep hanswers

/-- **A statement that quits does nothing else:** the session goes on in the same texts. -/
theorem Move.of_quits {m : Machine σ} {a : Happening} {frames : List Frame}
    (h : Move library m a frames) (hm : m.quits = true) :
    a = .quit ∧ ∃ path script rest outer, m.frames = ⟨path, .reading script⟩ :: outer ∧
      script.pending = [] ∧ frames = ⟨path, .reading rest⟩ :: outer ∧ rest.pending = [] := by
  unfold quits at hm
  cases h with
  | scan hframes =>
    rw [result?_of_unread hframes] at hm
    cases hm
  | skip hframes hpending =>
    rw [result?_of_pending hframes (by simp [hpending])] at hm
    cases hm
  | leave hframes hended =>
    rw [result?_of_ended hframes hended] at hm
    cases hm
  | @read path script rest outer r a entered hframes hpending hquit hstep ha =>
    rw [result?_of_step hframes hpending hquit hstep ha.ne_done] at hm
    obtain ⟨rfl, rfl⟩ := ha.of_quits hm
    exact ⟨rfl, path, script, rest, outer, hframes, hpending, rfl, pending_of_step hstep hpending⟩

/-- Where nothing happens any more nothing is read. -/
theorem result?_of_next?_none {m : Machine σ} (h : m.next? library = none) : m.result? = none := by
  cases hr : m.result? with
  | none => rfl
  | some r =>
    unfold result? at hr
    split at hr
    · next path script outer hm =>
      split at hr
      · cases hr
      · next hreads =>
        rw [not_or, not_not] at hreads
        rcases hstep : script.step (Engine.safeInput m.progress.session.engine) with ⟨r', rest⟩
        unfold next? at h
        rw [hm] at h
        simp only [hreads.1, hreads.2, Bool.false_eq_true, if_false, hstep] at h
        cases r' <;> simp_all
    · cases hr

end Machine

/-! ## What is still to be reported -/

variable [Text.Normalizer]

/-- The skipped characters of a text that are still to be reported. -/
def Frame.due (frame : Frame) : List Error :=
  match frame.stage with
  | .unread text => (Scan.ofText text).errors
  | .reading script => script.pending

/-- A text whose skipped characters have all been reported. -/
def Frame.Settled (frame : Frame) : Prop :=
  ∃ script, frame.stage = .reading script ∧ script.pending = []

theorem Frame.Settled.due {frame : Frame} (h : frame.Settled) : frame.due = [] := by
  obtain ⟨script, hstage, hpending⟩ := h
  rw [Frame.due, hstage]
  exact hpending

namespace Machine

/-- Only the innermost text still has something to report, and it reports skipped characters. -/
structure Tidy (m : Machine σ) : Prop where
  innermost : ∀ frame ∈ m.frames.head?, ∀ e ∈ frame.due, e.kind = .lexical
  outer : ∀ frame ∈ m.frames.tail, frame.Settled

omit [Engine σ] in
theorem tidy_start (s : Session σ) (text : String) : (start s text).Tidy := by
  refine ⟨fun frame hframe e he => ?_, by simp [start]⟩
  obtain rfl := Option.some.inj hframe
  exact Scan.kind_of_mem_errors he

/-- **Every move keeps the texts tidy.** -/
theorem Tidy.next {m : Machine σ} {a : Happening} {frames : List Frame} (h : m.Tidy)
    (hmove : Move library m a frames) : Tidy ⟨m.progress.advance a, frames⟩ := by
  obtain ⟨hinner, houter⟩ := h
  cases hmove with
  | scan hm =>
    rw [hm] at houter
    refine ⟨fun frame hframe e he => ?_, houter⟩
    obtain rfl := Option.some.inj hframe
    exact Scan.kind_of_mem_errors he
  | @skip path script _ error pending hm hpending =>
    rw [hm] at hinner houter
    refine ⟨fun frame hframe e he => ?_, houter⟩
    obtain rfl := Option.some.inj hframe
    have hmem : e ∈ script.pending := hpending ▸ List.mem_cons_of_mem error he
    exact hinner _ rfl e hmem
  | leave hm hended =>
    rw [hm] at houter
    refine ⟨fun frame hframe e he => ?_,
      fun frame hframe => houter frame (List.mem_of_mem_tail hframe)⟩
    rw [(houter frame (List.mem_of_mem_head? hframe)).due] at he
    cases he
  | @read path script rest outer r a entered hm hpending hquit hstep ha =>
    rw [hm] at houter
    have hsettled : Frame.Settled ⟨path, .reading rest⟩ :=
      ⟨rest, rfl, pending_of_step hstep hpending⟩
    cases entered with
    | none =>
      refine ⟨fun frame hframe e he => ?_, houter⟩
      obtain rfl := Option.some.inj hframe
      rw [hsettled.due] at he
      cases he
    | some frame' =>
      cases ha
      refine ⟨fun frame hframe e he => ?_, List.forall_mem_cons.mpr ⟨hsettled, houter⟩⟩
      obtain rfl := Option.some.inj hframe
      exact Scan.kind_of_mem_errors he

end Machine

/-! ## Runs -/

namespace Machine

/-- The machine before each of some happenings, and behind the last of them. -/
def moments (library : Library) (m : Machine σ) : List Happening → List (Machine σ)
  | [] => [m]
  | _ :: hs =>
    match m.next? library with
    | none => [m]
    | some (a, frames) => m :: moments library ⟨m.progress.advance a, frames⟩ hs

theorem moments_cons {m : Machine σ} {a : Happening} {frames : List Frame}
    (h : m.next? library = some (a, frames)) (hs : List Happening) :
    m.moments library (a :: hs) = m :: moments library ⟨m.progress.advance a, frames⟩ hs := by
  rw [moments, h]

/-- **What every happening keeps holds at every moment.** -/
theorem forall_mem_moments {P : Machine σ → Prop}
    (hnext : ∀ {m : Machine σ} {a : Happening} {frames : List Frame}, P m →
      m.next? library = some (a, frames) → P ⟨m.progress.advance a, frames⟩)
    {m : Machine σ} (hm : P m) (hs : List Happening) : ∀ n ∈ m.moments library hs, P n := by
  induction hs generalizing m with
  | nil => simpa [moments] using hm
  | cons b hs ih =>
    rw [moments]
    split
    · simpa using hm
    · next a frames h => exact List.forall_mem_cons.mpr ⟨hm, ih (hnext hm h)⟩

theorem head?_moments (m : Machine σ) (hs : List Happening) :
    (m.moments library hs).head? = some m := by
  unfold moments
  split
  · rfl
  · split <;> rfl

/-- The moments from one of them on are those of a run that starts there. -/
theorem exists_moments_of_append {m n : Machine σ} {hs : List Happening}
    {before after : List (Machine σ)} (h : m.moments library hs = before ++ n :: after) :
    ∃ hs', n.moments library hs' = n :: after := by
  induction before generalizing m hs with
  | nil =>
    have hhead := congrArg List.head? h
    rw [head?_moments] at hhead
    obtain rfl : m = n := Option.some.inj hhead
    exact ⟨hs, h⟩
  | cons x before ih =>
    cases hs with
    | nil => exact absurd (List.cons.inj h).2 (by simp)
    | cons b hs =>
      rw [moments] at h
      split at h
      · exact absurd (List.cons.inj h).2 (by simp)
      · exact ih (List.cons.inj h).2

end Machine

/-- The last moment is the one that a run leads to. -/
theorem Takes.getLast?_moments {m m' : Machine σ} {hs : List Happening}
    (h : Takes library m hs m') : (m.moments library hs).getLast? = some m' := by
  induction h with
  | refl m => rfl
  | step hnext _ ih =>
    rw [Machine.moments_cons hnext, List.getLast?_cons, ih]
    rfl

namespace Session

/-- The moments of executing a text, from the one before the text is scanned to the last one. -/
def moments (library : Library) (s : Session σ) (text : String) : List (Machine σ) :=
  (Machine.start s text).moments library (s.course library text)

/-- What reading statements gives while a text is executed, in it and in all scripts that it
reads. -/
def results (library : Library) (s : Session σ) (text : String) : List Script.Step :=
  (s.moments library text).filterMap Machine.result?

/-- When a text is executed all scripts that it reads are left. -/
theorem openFiles_execute (library : Library) (s : Session σ) (text : String) :
    (s.execute library text).2.openFiles = s.openFiles :=
  (traced_execute library _ text).openFiles _

theorem tidy_of_mem_moments {s : Session σ} {text : String} {m : Machine σ}
    (hm : m ∈ s.moments library text) : m.Tidy :=
  Machine.forall_mem_moments (P := Machine.Tidy)
    (fun h hnext => h.next (Machine.move_of_next? hnext)) (Machine.tidy_start s text) _ m hm

end Session

end PaveScript
