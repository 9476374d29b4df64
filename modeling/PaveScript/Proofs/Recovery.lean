import Mathlib.Data.List.Chain
import Mathlib.Data.List.Flatten
import PaveScript.Proofs.Grammar.Locality
import PaveScript.Script
import PaveScript.Text.Normal.Form

/-!
# Recovery from a statement that fails

`outcomes` is what reading a script to its end gives: a statement or a kind of error for each
statement of it. The semicolons cut the tokens into segments, and reading a segment alone is
reading a script that consists of it.

* `outcomes_eq_survivors` — a script gives, one after the other, what its segments give alone, with
  some of them left out
* `outcomes_eq_segments_iff` — none is left out exactly when no segment that swallows its semicolon
  stands in front of another statement
-/

namespace PaveScript

open Grammar Phrase

namespace Script

/-! ## The outcomes of a script -/

/-- A statement, or the kind of the error in its place. -/
def Step.outcome? : Step → Option (Except ErrorKind Statement)
  | .done => none
  | .parsed p => some (.ok p.statement)
  | .failed error => some (.error error.kind)

/-- What reading on until no statement is left gives. -/
def outcomes (safe : Bool) (s : Script) : List (Except ErrorKind Statement) :=
  match _h : s.step safe with
  | (.done, _) => []
  | (.parsed p, s') => .ok p.statement :: outcomes safe s'
  | (.failed error, s') => .error error.kind :: outcomes safe s'
termination_by s.rest.length
decreasing_by all_goals exact length_rest_step _h (by simp)

/-- The script that goes on with other tokens. -/
def goOn (s : Script) (ts : List Token) : Script := { s with rest := ts }

@[simp]
theorem rest_goOn (s : Script) (ts : List Token) : (s.goOn ts).rest = ts := rfl

@[simp]
theorem goOn_goOn (s : Script) (ts us : List Token) : (s.goOn ts).goOn us = s.goOn us := rfl

theorem goOn_rest (s : Script) : s.goOn s.rest = s := rfl

/-- The first step gives the first outcome. -/
theorem outcomes_eq {safe : Bool} {s s' : Script} {r : Step} (h : s.step safe = (r, s')) :
    outcomes safe s = r.outcome?.elim [] (· :: outcomes safe s') := by
  rw [outcomes]
  split <;> next heq =>
    rw [h] at heq
    obtain ⟨rfl, rfl⟩ := Prod.mk.inj heq
    rfl

@[simp]
theorem outcomes_nil (safe : Bool) (s : Script) : outcomes safe (s.goOn []) = [] :=
  outcomes_eq (r := .done) rfl

/-- Semicolons in front of a statement do not count. -/
theorem outcomes_semicolon (safe : Bool) (s : Script) {t : Token} (h : isSemicolon t = true)
    (ts : List Token) : outcomes safe (s.goOn (t :: ts)) = outcomes safe (s.goOn ts) := by
  have hstep : (s.goOn (t :: ts)).step safe = (s.goOn ts).step safe := by
    unfold step
    rw [rest_goOn, List.dropWhile_cons, if_pos h]
    rfl
  cases hs : (s.goOn ts).step safe with
  | mk r s' => rw [outcomes_eq (hstep.trans hs), outcomes_eq hs]

/-- A statement that is read comes first, and the script goes on behind the semicolon. -/
theorem outcomes_of_ok (safe : Bool) (s : Script) {head : Token} {ts rest : List Token}
    {statement : Statement} (h : isSemicolon head = false)
    (hrun : (closedStatement safe head).run ts = .ok statement rest) :
    outcomes safe (s.goOn (head :: ts)) =
      .ok statement :: outcomes safe (s.goOn (rest.drop 1)) := by
  have hstep : (s.goOn (head :: ts)).step safe =
      (.parsed (s.parsed statement (head :: ts) rest), s.goOn (rest.drop 1)) := by
    rw [step, rest_goOn, List.dropWhile_cons, h]
    simp only [Bool.false_eq_true, if_false, hrun]
    rfl
  rw [outcomes_eq hstep]
  rfl

/-- A statement that fails leaves its kind of error, and the script goes on behind a semicolon. -/
theorem outcomes_of_fail (safe : Bool) (s : Script) {head : Token} {ts rest : List Token}
    {fault : Fault} (h : isSemicolon head = false)
    (hrun : (closedStatement safe head).run ts = .fail fault rest) :
    outcomes safe (s.goOn (head :: ts)) =
      .error fault.kind :: outcomes safe (s.goOn (resync rest)) := by
  have hstep : (s.goOn (head :: ts)).step safe =
      (.failed (fault.error s.scan.stop), s.goOn (resync rest)) := by
    rw [step, rest_goOn, List.dropWhile_cons, h]
    simp only [Bool.false_eq_true, if_false, hrun]
    rfl
  rw [outcomes_eq hstep, ← Fault.kind_error]
  rfl

/-! ## One statement and its semicolon -/

theorem unbroken_iff {ts : List Token} : Unbroken ts ↔ ∀ t ∈ ts, isSemicolon t = false := by
  simp [Unbroken, isSemicolon]

theorem resync_of_unbroken {ts : List Token} (h : Unbroken ts) : resync ts = [] := by
  rw [resync, ← List.append_nil ts, List.dropWhile_append_of_pos]
  · simp
  · intro t ht
    simp [unbroken_iff.mp h t ht]

theorem resync_append {ts : List Token} (h : Unbroken ts) {semi : Token}
    (hsemi : isSemicolon semi = true) (more : List Token) : resync (ts ++ semi :: more) = more := by
  rw [resync, List.dropWhile_append_of_pos]
  · simp [hsemi]
  · intro t ht
    simp [unbroken_iff.mp h t ht]

/-- The look at the token behind a statement is local: the semicolon looks like the end. -/
theorem extends_closedStatement (safe : Bool) {head : Token} {ts tail : List Token}
    (h : ¬Swallows (head :: ts)) (hts : Unbroken ts)
    (htail : headKind tail = some (.symbol .semicolon)) :
    Outcome.Extends tail ((closedStatement safe head).run ts)
      ((closedStatement safe head).run (ts ++ tail)) := by
  refine extends_bind (extends_statement safe h hts htail) fun s rest hrun => ?_
  refine Local.peekKind (fun k => ?_) rfl rest tail (hts.of_suffix (suffix_of_run hrun)) htail
  cases k with
  | none => exact .pure s
  | some k => exact .ite (.pure s) .complain

/-- A statement without semicolons that is read leaves nothing. -/
theorem rest_eq_nil_of_run {safe : Bool} {head : Token} {ts rest : List Token}
    {statement : Statement} (hts : Unbroken ts)
    (hrun : (closedStatement safe head).run ts = .ok statement rest) : rest = [] := by
  have hrest : Unbroken rest := hts.of_suffix (suffix_of_run hrun)
  rw [closedStatement, Parser.run_bind] at hrun
  cases hs : (Grammar.statement safe head).run ts with
  | fail fault left => rw [hs] at hrun; cases hrun
  | ok s mid =>
    rw [hs] at hrun
    simp only [run_bind_ok (run_peekKind mid)] at hrun
    -- only a semicolon may follow, and there is none
    cases mid with
    | nil => exact (Outcome.ok.inj hrun).2.symm
    | cons t mid =>
      simp only [headKind_cons] at hrun
      split at hrun
      · next hk =>
        obtain ⟨-, rfl⟩ := Outcome.ok.inj hrun
        exact absurd hk (hrest t List.mem_cons_self)
      · cases hrun

/-- A segment gives one outcome. -/
theorem length_outcomes_segment (safe : Bool) (s : Script) {seg : List Token} (h : Unbroken seg)
    (hne : seg ≠ []) : (outcomes safe (s.goOn seg)).length = 1 := by
  obtain ⟨head, ts, rfl⟩ := List.exists_cons_of_ne_nil hne
  have hhead : isSemicolon head = false := unbroken_iff.mp h head List.mem_cons_self
  have hts : Unbroken ts := h.of_suffix (List.suffix_cons head ts)
  cases hrun : (closedStatement safe head).run ts with
  | ok statement rest =>
    rw [outcomes_of_ok safe s hhead hrun, rest_eq_nil_of_run hts hrun]
    simp
  | fail fault rest =>
    have hrest : Unbroken rest := hts.of_suffix (suffix_of_fail hrun)
    rw [outcomes_of_fail safe s hhead hrun, resync_of_unbroken hrest]
    simp

/-- **A segment in front of a semicolon** gives what it gives alone, and the script goes on behind
the semicolon, unless the segment swallows it. -/
theorem outcomes_append (safe : Bool) (s : Script) {seg more : List Token} {semi : Token}
    (hseg : Unbroken seg) (hsemi : isSemicolon semi = true) :
    outcomes safe (s.goOn (seg ++ semi :: more)) =
      outcomes safe (s.goOn seg) ++
        outcomes safe (s.goOn (if Swallows seg then resync more else more)) := by
  have hkind : semi.kind = .symbol .semicolon := by simpa [isSemicolon] using hsemi
  cases seg with
  | nil =>
    rw [List.nil_append, outcomes_semicolon safe s hsemi, outcomes_nil, if_neg not_swallows_nil]
    rfl
  | cons head ts =>
    have hhead : isSemicolon head = false := unbroken_iff.mp hseg head List.mem_cons_self
    have hts : Unbroken ts := hseg.of_suffix (List.suffix_cons head ts)
    rw [List.cons_append]
    by_cases h : Swallows (head :: ts)
    · -- the error comes behind the semicolon, so the one behind that is skipped to
      obtain ⟨f, g, hf, hg, halone, hrun⟩ := run_statement_of_swallows safe h hkind more
      rw [if_pos h, outcomes_of_fail safe s hhead (run_bind_fail halone),
        outcomes_of_fail safe s hhead (run_bind_fail hrun), hf, hg]
      simp [resync]
    · rw [if_neg h]
      have hext := extends_closedStatement safe h hts
        (show headKind (semi :: more) = some (.symbol .semicolon) by simp [hkind])
      cases hrun : (closedStatement safe head).run ts with
      | ok statement rest =>
        obtain rfl := rest_eq_nil_of_run hts hrun
        rw [hrun] at hext
        rw [outcomes_of_ok safe s hhead hrun, outcomes_of_ok safe s hhead hext]
        simp
      | fail fault rest =>
        -- the error leaves no semicolon of the segment, so this one is skipped to
        have hrest : Unbroken rest := hts.of_suffix (suffix_of_fail hrun)
        rw [hrun] at hext
        obtain ⟨g, hg, hrun'⟩ := hext
        rw [outcomes_of_fail safe s hhead hrun, outcomes_of_fail safe s hhead hrun', hg,
          resync_of_unbroken hrest, resync_append hrest hsemi]
        simp

/-! ## All segments -/

/-- The tokens between the semicolons; two in a row have an empty segment between them. -/
def segments (ts : List Token) : List (List Token) := ts.splitOnP isSemicolon

/-- The segments that are read: one that swallows its semicolon costs the one behind it. -/
def survivors : List (List Token) → List (List Token)
  | [] => []
  | [seg] => [seg]
  | seg :: next :: segs =>
    if Swallows seg then seg :: survivors segs else seg :: survivors (next :: segs)

theorem survivors_cons (seg : List Token) (segs : List (List Token)) :
    survivors (seg :: segs) = seg :: survivors (if Swallows seg then segs.tail else segs) := by
  cases segs with
  | nil => simp [survivors]
  | cons next segs =>
    rw [survivors]
    split <;> rfl

theorem survivors_sublist (segs : List (List Token)) : (survivors segs).Sublist segs := by
  fun_induction survivors segs with
  | case1 => exact .slnil
  | case2 seg => exact .refl _
  | case3 seg next segs _ ih => exact .cons_cons seg (.cons next ih)
  | case4 seg next segs _ ih => exact .cons_cons seg ih

theorem segments_of_unbroken {ts : List Token} (h : Unbroken ts) : segments ts = [ts] :=
  List.splitOnP_eq_singleton (unbroken_iff.mp h)

theorem segments_append {seg : List Token} (h : Unbroken seg) {semi : Token}
    (hsemi : isSemicolon semi = true) (more : List Token) :
    segments (seg ++ semi :: more) = seg :: segments more :=
  List.splitOnP_append_cons_of_forall_mem (unbroken_iff.mp h) semi hsemi more

/-- Induction over the segments of a list of tokens. -/
theorem segments_induction {motive : List Token → Prop} (last : ∀ ts, Unbroken ts → motive ts)
    (step : ∀ seg semi more, Unbroken seg → isSemicolon semi = true →
      (∀ ts, ts <:+ more → motive ts) → motive (seg ++ semi :: more)) (ts : List Token) :
    motive ts := by
  induction hlen : ts.length using Nat.strongRecOn generalizing ts with
  | _ len ih =>
    have hsplit := List.takeWhile_append_dropWhile (p := fun t => !isSemicolon t) (l := ts)
    have hseg : Unbroken (ts.takeWhile fun t => !isSemicolon t) := by
      rw [unbroken_iff]
      intro t ht
      simpa using List.all_eq_true.mp List.all_takeWhile t ht
    cases hrest : ts.dropWhile fun t => !isSemicolon t with
    | nil =>
      rw [hrest, List.append_nil] at hsplit
      exact last ts (hsplit ▸ hseg)
    | cons semi more =>
      have hsemi : isSemicolon semi = true := by
        have := List.head?_dropWhile_not (fun t => !isSemicolon t) ts
        simpa [hrest] using this
      rw [hrest] at hsplit
      rw [← hsplit]
      refine step _ semi more hseg hsemi fun us hus => ih us.length ?_ us rfl
      have := hus.length_le
      rw [← hlen, ← hsplit, List.length_append, List.length_cons]
      omega

theorem unbroken_of_mem_segments {ts seg : List Token} (h : seg ∈ segments ts) :
    Unbroken seg := by
  induction ts using segments_induction with
  | last ts hts =>
    rw [segments_of_unbroken hts, List.mem_singleton] at h
    exact h ▸ hts
  | step first semi more hfirst hsemi ih =>
    rw [segments_append hfirst hsemi, List.mem_cons] at h
    rcases h with rfl | h
    · exact hfirst
    · exact ih more List.suffix_rfl h

/-- Behind the next semicolon come the segments but the first. -/
theorem survivors_tail_segments {β : Type} (f : List Token → List β) (hf : f [] = [])
    (ts : List Token) :
    (survivors (segments ts).tail).flatMap f = (survivors (segments (resync ts))).flatMap f := by
  induction ts using segments_induction with
  | last ts hts =>
    rw [segments_of_unbroken hts, resync_of_unbroken hts,
      segments_of_unbroken (show Unbroken [] by simp [Unbroken])]
    simp [survivors, hf]
  | step seg semi more hseg hsemi _ =>
    rw [segments_append hseg hsemi, resync_append hseg hsemi, List.tail_cons]

theorem resync_suffix (ts : List Token) : resync ts <:+ ts :=
  (List.drop_suffix 1 _).trans (List.dropWhile_suffix _)

/-- **A script gives what its surviving segments give alone,** in their order. -/
theorem outcomes_eq_survivors (safe : Bool) (s : Script) :
    outcomes safe s =
      (survivors (segments s.rest)).flatMap fun seg => outcomes safe (s.goOn seg) := by
  rw [← goOn_rest s]
  generalize s.rest = ts
  simp only [rest_goOn, goOn_goOn]
  induction ts using segments_induction with
  | last ts hts =>
    rw [segments_of_unbroken hts]
    simp [survivors]
  | step seg semi more hseg hsemi ih =>
    rw [outcomes_append safe s hseg hsemi, segments_append hseg hsemi, survivors_cons,
      List.flatMap_cons]
    split
    · rw [survivors_tail_segments _ (outcomes_nil safe s), ih _ (resync_suffix more)]
    · rw [ih more List.suffix_rfl]

/-- Nothing is lost exactly when no segment that swallows stands in front of a statement. -/
theorem flatMap_survivors_eq_iff {β : Type} {f : List Token → List β} {segs : List (List Token)}
    (hf : ∀ seg ∈ segs, f seg = [] ↔ seg = []) :
    (survivors segs).flatMap f = segs.flatMap f ↔
      segs.IsChain fun seg next => Swallows seg → next = [] := by
  fun_induction survivors segs with
  | case1 => simp
  | case2 seg => simp
  | case3 seg next segs hsw ih =>
    rw [List.isChain_cons_cons, List.flatMap_cons, List.flatMap_cons, List.flatMap_cons,
      List.append_cancel_left_eq]
    have hnext := hf next (List.mem_cons_of_mem seg List.mem_cons_self)
    by_cases h : next = []
    · have hchain : ([] :: segs).IsChain (fun seg next => Swallows seg → next = []) ↔
          segs.IsChain fun seg next => Swallows seg → next = [] := by
        cases segs <;> simp [not_swallows_nil]
      rw [hnext.mpr h, List.nil_append, h, hchain,
        ih fun a ha => hf a (List.mem_cons_of_mem seg (List.mem_cons_of_mem next ha))]
      simp
    · -- the segment behind has an outcome, and what survives gives at most the others
      have hlen := ((survivors_sublist segs).flatMap f).length_le
      have hpos := List.length_pos_iff.mpr (mt hnext.mp h)
      constructor
      · intro heq
        rw [heq, List.length_append] at hlen
        omega
      · rintro ⟨hempty, -⟩
        exact absurd (hempty hsw) h
  | case4 seg next segs hsw ih =>
    rw [List.isChain_cons_cons, List.flatMap_cons, List.flatMap_cons, List.append_cancel_left_eq,
      ih fun a ha => hf a (List.mem_cons_of_mem seg ha)]
    simp [hsw]

/-- Empty segments give nothing. -/
theorem flatMap_nonempty {β : Type} {f : List Token → List β} (hf : f [] = [])
    (segs : List (List Token)) : (segs.filter (· ≠ [])).flatMap f = segs.flatMap f := by
  induction segs with
  | nil => rfl
  | cons seg segs ih => by_cases h : seg = [] <;> simp_all

/--
**Recovery is local to a statement as long as no semicolon is swallowed.** A script gives one
outcome for each segment that is not empty, the one that the segment gives alone, exactly when
nothing but an empty segment stands behind `set` and behind `set paving mode =`.
-/
theorem outcomes_eq_segments_iff (safe : Bool) (s : Script) :
    (∀ seg ∈ segments s.rest, seg ≠ [] → (outcomes safe (s.goOn seg)).length = 1) ∧
    (outcomes safe s =
        ((segments s.rest).filter (· ≠ [])).flatMap (fun seg => outcomes safe (s.goOn seg)) ↔
      (segments s.rest).IsChain fun seg next => Swallows seg → next = []) := by
  have hone : ∀ seg ∈ segments s.rest, seg ≠ [] → (outcomes safe (s.goOn seg)).length = 1 :=
    fun seg hseg hne => length_outcomes_segment safe s (unbroken_of_mem_segments hseg) hne
  refine ⟨hone, ?_⟩
  have hempty : ∀ seg ∈ segments s.rest, outcomes safe (s.goOn seg) = [] ↔ seg = [] := by
    intro seg hseg
    constructor
    · intro hnil
      by_contra hne
      have := hone seg hseg hne
      simp [hnil] at this
    · rintro rfl
      exact outcomes_nil safe s
  rw [outcomes_eq_survivors, flatMap_nonempty (outcomes_nil safe s)]
  exact flatMap_survivors_eq_iff hempty

-- `set` takes the semicolon for the name of a setting, and `pave` is skipped.
example : outcomes true (ofText "set; pave") = [.error .unexpected] := by decide +kernel

end Script

end PaveScript
