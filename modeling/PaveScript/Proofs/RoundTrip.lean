import PaveScript.Proofs.Canonical.Scan
import PaveScript.Proofs.Canonical.Statement
import PaveScript.Proofs.Recovery

/-!
# Canonical texts are read back

The canonical text of well-formed statements scans to their word, and on this word the parser reads
one statement after the other. It stops only at a statement that nests too deep, so this is the
exact condition for a canonical text to be read (`readAll_format`). What is read has every number in
decimal.

* `readAll_format_eq_self_iff` — statements without hexadecimal numbers are read back as they are
-/

namespace PaveScript

open Grammar Phrase

/-! ## Reading a script to its end -/

namespace Script

/-- All statements are read when no outcome is an error. -/
theorem statements_eq_ok_iff {safe : Bool} {s : Script} {ss : List Statement} :
    (s.statements safe).1 = .ok ss ↔ s.outcomes safe = ss.map .ok := by
  fun_induction statements safe s generalizing ss with
  | case1 s s' h =>
    rw [outcomes_eq h]
    cases ss with
    | nil => exact iff_of_true rfl rfl
    | cons t ts => exact iff_of_false (by simp) (by simp [Step.outcome?])
  | case2 s error s' h =>
    -- the first statement fails, and the others are not read
    rw [outcomes_eq h]
    cases ss with
    | nil => exact iff_of_false (by simp) (by simp [Step.outcome?])
    | cons t ts => exact iff_of_false (by simp) (by simp [Step.outcome?])
  | case3 s p s' h rest s'' hrest ih =>
    rw [hrest] at ih
    rw [outcomes_eq h]
    cases ss with
    | nil => exact iff_of_false (by simp) (by simp [Step.outcome?])
    | cons t ts =>
      have hih := @ih ts
      simp only [Except.ok.injEq] at hih
      simp [Step.outcome?, hih]
  | case4 s p s' h error s'' herror ih =>
    rw [herror] at ih
    rw [outcomes_eq h]
    cases ss with
    | nil => exact iff_of_false (by simp) (by simp [Step.outcome?])
    | cons t ts =>
      have hih := @ih ts
      simp only [reduceCtorEq, false_iff] at hih
      simp [Step.outcome?, hih]

/-- A text in which no character is skipped is read as its tokens are. -/
theorem readAll_ofText [Text.Normalizer] {text : String}
    (h : (Scan.ofText text).errors = []) (safe : Bool) :
    (ofText text).readAll safe = (ofText text).statements safe := by
  have hpending : (ofText text).pending = [] := h
  rw [readAll, hpending]
  rfl

end Script

/-! ## Reading words -/

theorem isSemicolon_of_kind {t : Token} {k : Keyword} (h : t.kind = .keyword k) :
    Script.isSemicolon t = false := by
  simp [Script.isSemicolon, h]

/--
**Words of statements are read one after the other.** All of them are read exactly when none nests
too deep.
-/
theorem outcomes_formatWord {safe : Bool} {ss : List Statement}
    (h : ∀ s ∈ ss, s.WellFormed safe Literal.Unsigned) (script : Script) {ts : List Token}
    (hts : ts.map Token.kind = formatWord ss) (ss' : List Statement) :
    (script.goOn ts).outcomes safe = ss'.map .ok ↔
      (∀ s ∈ ss, s.depth ≤ nestingLimit) ∧ ss' = ss.map Statement.decimal := by
  induction ss generalizing ts ss' with
  | nil =>
    obtain rfl := List.map_eq_nil_iff.mp hts
    simp [eq_comm]
  | cons s ss ih =>
    have hword : ts.map Token.kind =
        .keyword s.head :: (s.body ++ .symbol .semicolon :: formatWord ss) := by
      simp [hts, formatWord, Statement.word]
    obtain ⟨head, us, rfl, hhead, hus⟩ := List.map_eq_cons_iff.mp hword
    obtain ⟨us, vs, rfl, hbody, hvs⟩ := List.map_eq_append_iff.mp hus
    obtain ⟨semi, more, rfl, hsemi, hmore⟩ := List.map_eq_cons_iff.mp hvs
    obtain ⟨hs, hss⟩ := List.forall_mem_cons.mp h
    have hnext : headKind (semi :: more) = some (.symbol .semicolon) := by rw [headKind_cons, hsemi]
    -- the semicolon ends the statement, and the script goes on behind it
    obtain ⟨hok, hfail⟩ := hs.decides hhead us (semi :: more) hbody hnext
    by_cases hdepth : s.depth ≤ nestingLimit
    · rw [Script.outcomes_of_ok safe script (isSemicolon_of_kind hhead) (hok hdepth)]
      cases ss' with
      | nil => simp
      | cons t ss' =>
        have hrest := ih hss hmore ss'
        rw [List.drop_one, List.tail_cons, List.map_cons, List.cons.injEq, hrest]
        simp only [Except.ok.injEq, List.forall_mem_cons, List.map_cons, List.cons.injEq]
        grind
    · -- one outcome is an error, whatever the other statements give
      obtain ⟨fault, left, hrun⟩ := hfail hdepth
      rw [Script.outcomes_of_fail safe script (isSemicolon_of_kind hhead) hrun]
      refine iff_of_false ?_ fun hall => hdepth (hall.1 s List.mem_cons_self)
      cases ss' <;> simp

/-- **The canonical text of statements is read exactly when none of them nests too deep.** -/
theorem readAll_format [Text.Normalizer] {safe : Bool} {ss : List Statement}
    (h : ∀ s ∈ ss, s.WellFormed safe Literal.Unsigned) (ss' : List Statement) :
    ((Script.ofText (Statement.format ss)).readAll safe).1 = .ok ss' ↔
      (∀ s ∈ ss, s.depth ≤ nestingLimit) ∧ ss' = ss.map Statement.decimal := by
  obtain ⟨hkinds, herrors⟩ := (scans_format h).ofText
  rw [Script.readAll_ofText herrors, Script.statements_eq_ok_iff]
  exact outcomes_formatWord h (Script.ofText (Statement.format ss)) hkinds ss'

/--
**Statements without hexadecimal numbers are read back as they are,** exactly when none of them
nests too deep.
-/
theorem readAll_format_eq_self_iff [Text.Normalizer] {safe : Bool} {ss : List Statement}
    (h : ∀ s ∈ ss, s.WellFormed safe Literal.Plain) :
    ((Script.ofText (Statement.format ss)).readAll safe).1 = .ok ss ↔
      ∀ s ∈ ss, s.depth ≤ nestingLimit := by
  have hunsigned : ∀ s ∈ ss, s.WellFormed safe Literal.Unsigned := fun s hs =>
    (h s hs).mono fun _ => Literal.Plain.unsigned
  have hself : ss.map Statement.decimal = ss := by
    rw [List.map_congr_left fun s hs => (h s hs).decimal, List.map_id']
  rw [readAll_format hunsigned, hself, and_iff_left rfl]

/-- A problem with signed numbers, a let chain, a nested condition and file names. -/
def discProblem : List Statement :=
  [.set (.output "out/disc.txt"),
    .set (.precision (.rat (.literal (.integer (-1))) (.integer 1000))),
    .declare "x" ⟨.neg (.number (.literal (.integer 2))), .ident "_r"⟩ .var,
    .const "shift"
      (.dec (.literal (.real (.ofRank true 4612811918334230528))) (.literal (.integer 0))),
    .constraint
      [⟨"s", .binary .pow (.ident "x") (.number (.literal (.integer 2)))⟩, ⟨"t", .ident "s"⟩]
      ⟨.le, .binary .sub (.call .sqrt (.ident "t")) (.neg (.neg (.ident "shift")))⟩,
    .universal (.or
      (.and (.compare .lt (.ident "x") (.ident "t"))
        (.compare .eq (.ident "x") (.number (.rat (.literal (.integer 1)) (.integer 3)))))
      (.compare .ge (.ident "t") (.ident "s"))),
    .action .minMax, .readFile "more.kdk"]

theorem readAll_format_discProblem :
    (∀ s ∈ discProblem, s.WellFormed true Literal.Plain) ∧
      ((Script.ofText (Statement.format discProblem)).readAll true).1 = .ok discProblem := by
  have h : ∀ s ∈ discProblem, s.WellFormed true Literal.Plain := by decide +kernel
  exact ⟨h, (readAll_format_eq_self_iff h).mpr (by decide)⟩

end PaveScript
