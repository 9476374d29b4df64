import PaveScript.Proofs.SafeInput
import PaveScript.Proofs.Trimming

/-!
# The text of a statement

A statement that was read without skipping a character can be read again from its text alone, and
wherever the text stands between two semicolons.

* `Script.Reached` — the points that reading a text leads to; each of them stands at the beginning
  of the text or behind a semicolon
* `Clause` — a text that reads as a statement
* `exists_excerpt` — the text from the first to the last token of a statement
* `clause_of_lexed` — such a text reads as the statement
* `step_clause` — what a script makes of such a text
-/

namespace PaveScript

open Grammar Phrase Lexer

namespace Script

/-! ## The tokens of a statement -/

/-- **The tokens of a statement** are those up to the next semicolon, and the statement can be read
from them alone. -/
theorem exists_of_run_closedStatement {safe : Bool} {head : Token} {ts rest : List Token}
    {statement : Statement} (h : (closedStatement safe head).run ts = .ok statement rest) :
    ∃ seg, ts = seg ++ rest ∧ Unbroken seg ∧ (∀ t ∈ rest.head?, isSemicolon t = true) ∧
      (closedStatement safe head).run seg = .ok statement [] := by
  cases ts using segments_induction with
  | last ts hts =>
    obtain rfl := rest_eq_nil_of_run hts h
    exact ⟨ts, by simp, hts, by simp, h⟩
  | step seg semi more hseg hsemi =>
    have hkind : semi.kind = .symbol .semicolon := by simpa [isSemicolon] using hsemi
    by_cases hsw : Swallows (head :: seg)
    · obtain ⟨f, g, -, -, -, hrun⟩ := run_statement_of_swallows safe hsw hkind more
      rw [show (closedStatement safe head).run _ = _ from run_bind_fail hrun] at h
      cases h
    · have hext := extends_closedStatement safe hsw hseg
        (show headKind (semi :: more) = some (.symbol .semicolon) by simp [hkind])
      cases hrun : (closedStatement safe head).run seg with
      | ok statement' rest' =>
        obtain rfl := rest_eq_nil_of_run hseg hrun
        rw [hrun] at hext
        obtain ⟨rfl, rfl⟩ := Outcome.ok.inj (h.symm.trans hext)
        exact ⟨seg, rfl, hseg, by simpa using hsemi, hrun⟩
      | fail fault rest' =>
        rw [hrun] at hext
        obtain ⟨g, -, hrun'⟩ := hext
        rw [hrun'] at h
        cases h

/-- A semicolon behind the tokens of a statement ends it. -/
theorem run_closedStatement_append {safe : Bool} {head semi : Token} {seg : List Token}
    {statement : Statement} (hseg : Unbroken seg) (hsemi : isSemicolon semi = true)
    (h : (closedStatement safe head).run seg = .ok statement []) (more : List Token) :
    ¬Swallows (head :: seg) ∧
      (closedStatement safe head).run (seg ++ semi :: more) = .ok statement (semi :: more) := by
  have hkind : semi.kind = .symbol .semicolon := by simpa [isSemicolon] using hsemi
  have hsw : ¬Swallows (head :: seg) := by
    intro hsw
    obtain ⟨f, -, -, -, hrun, -⟩ := run_statement_of_swallows safe hsw hkind more
    rw [show (closedStatement safe head).run _ = _ from run_bind_fail hrun] at h
    cases h
  have hext := extends_closedStatement safe hsw hseg
    (show headKind (semi :: more) = some (.symbol .semicolon) by simp [hkind])
  rw [h] at hext
  exact ⟨hsw, hext⟩

/-- A statement that is read is read without safe input, too. -/
theorem run_closedStatement_off {safe : Bool} {head : Token} {ts rest : List Token}
    {statement : Statement} (h : (closedStatement safe head).run ts = .ok statement rest) :
    (safe && statement.isApproximate) = false ∧
      (closedStatement false head).run ts = .ok statement rest := by
  have hgates : Gates safe false Statement.isApproximate (closedStatement false head)
      (closedStatement safe head) := gates_closedStatement rfl
  have hgated := hgates.gated (by simp) ts ts (.refl ts)
  rw [h] at hgated
  generalize hoff : (closedStatement false head).run ts = off at hgated
  cases hgated with
  | ok hexact hrest =>
    rw [eq_of_suffix_of_alike (suffix_of_run hoff) (suffix_of_run h) hrest]
    exact ⟨hexact, rfl⟩

/-- **A statement depends on the kinds of its tokens alone,** and on safe input only if it is
approximate. -/
theorem run_closedStatement_alike {safe : Bool} {head head' : Token} {ts us rest : List Token}
    {statement : Statement} (h : (closedStatement safe head).run ts = .ok statement rest)
    (hhead : head.kind = head'.kind) (hts : Alike ts us) (safe' : Bool) :
    if safe' && statement.isApproximate then
      ∃ left, (closedStatement safe' head').run us = .fail .approximate left
    else ∃ left, (closedStatement safe' head').run us = .ok statement left ∧ Alike rest left := by
  have hgates : Gates safe' false Statement.isApproximate (closedStatement false head)
      (closedStatement safe' head') := gates_closedStatement hhead
  have hgated := hgates.gated (by simp) ts us hts
  rw [(run_closedStatement_off h).2] at hgated
  generalize (closedStatement safe' head').run us = on at hgated ⊢
  cases hgated with
  | @ok _ _ left hexact hrest =>
    rw [hexact, if_neg Bool.false_ne_true]
    exact ⟨left, rfl, hrest⟩
  | @refused _ left hsafe happrox =>
    rw [hsafe, happrox statement rest rfl, Bool.and_self, if_pos rfl]
    exact ⟨left, rfl⟩

/-- On the same tokens the same is left. -/
theorem run_closedStatement_safe {safe : Bool} {head : Token} {ts rest : List Token}
    {statement : Statement} (h : (closedStatement safe head).run ts = .ok statement rest)
    (safe' : Bool) :
    if safe' && statement.isApproximate then
      ∃ left, (closedStatement safe' head).run ts = .fail .approximate left
    else (closedStatement safe' head).run ts = .ok statement rest := by
  have hsame := run_closedStatement_alike h rfl (.refl ts) safe'
  cases happrox : safe' && statement.isApproximate with
  | true => rwa [happrox] at hsame
  | false =>
    rw [happrox, if_neg Bool.false_ne_true] at hsame
    obtain ⟨left, hleft, halike⟩ := hsame
    obtain rfl := eq_of_suffix_of_alike (suffix_of_run h) (suffix_of_run hleft) halike
    rwa [if_neg Bool.false_ne_true]

/-! ## The points of a script -/

/-- The scripts that reading a text leads to. -/
inductive Reached [Text.Normalizer] (text : String) : Script → Prop
  | start : Reached text (Script.ofText text).takePending.2
  | step {s : Script} (safe : Bool) (h : Reached text s) : Reached text (s.step safe).2

theorem Reached.scan_eq [Text.Normalizer] {text : String} {s : Script} (h : Reached text s) :
    s.scan = Scan.ofText text := by
  induction h with
  | start => rfl
  | @step s safe _ ih =>
    rw [← ih, Script.step]
    split
    · rfl
    · split <;> rfl

/-- The next semicolon, and what comes behind it. -/
theorem exists_resync (ts : List Token) :
    ∃ pre, ts = pre ++ resync ts ∧
      (resync ts ≠ [] → ∃ t, pre.getLast? = some t ∧ isSemicolon t = true) := by
  cases ts using segments_induction with
  | last ts hts =>
    rw [resync_of_unbroken hts]
    exact ⟨ts, by simp, fun h => absurd rfl h⟩
  | step seg semi more hseg hsemi =>
    rw [resync_append hseg hsemi]
    exact ⟨seg ++ [semi], by simp, fun _ => ⟨semi, by simp, hsemi⟩⟩

/-- A script goes on behind a semicolon, if it goes on. -/
theorem exists_onward (safe : Bool) (head : Token) (ts : List Token) :
    ∃ pre, ts = pre ++ onward ((closedStatement safe head).run ts) ∧
      (onward ((closedStatement safe head).run ts) ≠ [] →
        ∃ t, pre.getLast? = some t ∧ isSemicolon t = true) := by
  cases ts using segments_induction with
  | last ts hts =>
    rw [onward_of_unbroken safe head hts]
    exact ⟨ts, by simp, fun h => absurd rfl h⟩
  | step seg semi more hseg hsemi =>
    rw [onward_append safe hseg hsemi]
    split
    · obtain ⟨pre, hpre, hlast⟩ := exists_resync more
      refine ⟨seg ++ semi :: pre, ?_, fun hne => ?_⟩
      · rw [List.append_assoc, List.cons_append, ← hpre]
      · obtain ⟨t, ht, hsemi'⟩ := hlast hne
        refine ⟨t, ?_, hsemi'⟩
        rw [List.getLast?_append, List.getLast?_cons, ht]
        rfl
    · exact ⟨seg ++ [semi], by simp, fun _ => ⟨semi, by simp, hsemi⟩⟩

/-- A step takes tokens from the front, up to a semicolon if something is left. -/
theorem exists_step (safe : Bool) (s : Script) :
    ∃ pre, s.rest = pre ++ (s.step safe).2.rest ∧
      ((s.step safe).2.rest ≠ [] → ∃ t, pre.getLast? = some t ∧ isSemicolon t = true) := by
  cases hts : s.rest.dropWhile isSemicolon with
  | nil =>
    rw [step_eq_done safe hts]
    exact ⟨s.rest, by simp [goOn], fun h => absurd rfl h⟩
  | cons head ts =>
    rw [step_eq safe hts]
    obtain ⟨pre, hpre, hlast⟩ := exists_onward safe head ts
    obtain ⟨semis, hrest⟩ : ∃ semis, s.rest = semis ++ head :: ts :=
      ⟨s.rest.takeWhile isSemicolon, by rw [← hts, List.takeWhile_append_dropWhile]⟩
    refine ⟨semis ++ head :: pre, ?_, fun hne => ?_⟩
    · rw [List.append_assoc, List.cons_append]
      exact hpre ▸ hrest
    · obtain ⟨t, ht, hsemi⟩ := hlast hne
      refine ⟨t, ?_, hsemi⟩
      rw [List.getLast?_append, List.getLast?_cons, ht]
      rfl

theorem rest_step_suffix (safe : Bool) (s : Script) : (s.step safe).2.rest <:+ s.rest := by
  obtain ⟨pre, hpre, -⟩ := exists_step safe s
  exact ⟨pre, hpre.symm⟩

/-- **What is left of a script stands at its beginning or behind a semicolon.** -/
theorem Reached.exists_before [Text.Normalizer] {text : String} {s : Script}
    (h : Reached text s) :
    ∃ before, s.scan.tokens = before ++ s.rest ∧
      (s.rest ≠ [] → ∀ t ∈ before.getLast?, isSemicolon t = true) := by
  induction h with
  | start => exact ⟨[], rfl, fun _ => by simp⟩
  | @step s safe hs ih =>
    obtain ⟨before, htokens, -⟩ := ih
    obtain ⟨pre, hpre, hlast⟩ := exists_step safe s
    refine ⟨before ++ pre, ?_, fun hne t ht => ?_⟩
    · rw [(hs.step safe).scan_eq, ← hs.scan_eq, htokens, hpre, List.append_assoc]
    · obtain ⟨u, hu, hsemi⟩ := hlast hne
      rw [List.getLast?_append, hu] at ht
      rwa [← Option.some.inj ht]

/-! ## The pieces of a statement -/

/-- The place of a token among the pieces. -/
theorem exists_pieces {pieces : List Piece} {before after : List Token} {t : Token}
    (h : pieces.filterMap Piece.token? = before ++ t :: after) :
    ∃ front back, pieces = front ++ .token t :: back ∧ front.filterMap Piece.token? = before ∧
      back.filterMap Piece.token? = after := by
  obtain ⟨front, rest, rfl, hfront, hrest⟩ := List.filterMap_eq_append_iff.mp h
  obtain ⟨gap, piece, back, rfl, hgap, hpiece, hback⟩ := List.filterMap_eq_cons_iff.mp hrest
  have htoken : piece = .token t := by
    cases piece with
    | token u => rw [Option.some.inj hpiece]
    | illegal c p => cases hpiece
  refine ⟨front ++ gap, back, by simp [htoken], ?_, hback⟩
  rw [List.filterMap_append, List.filterMap_eq_nil_iff.mpr hgap, hfront, List.append_nil]

/-- Tokens that stand in a row, if a character is skipped only behind the semicolon that follows
them. -/
theorem exists_pieces_of_clean {seg rest : List Token} {back : List Piece}
    (h : back.filterMap Piece.token? = seg ++ rest) (hseg : Unbroken seg)
    (hrest : ∀ t ∈ rest.head?, isSemicolon t = true)
    (hclean : ∀ front c p more, back = front ++ .illegal c p :: more →
      ∃ t ∈ rest.head?, .token t ∈ front) :
    ∃ more, back = seg.map .token ++ more ∧
      ∀ piece ∈ more.head?, ∃ t : Token, piece = .token t ∧ t.kind = .symbol .semicolon := by
  induction seg generalizing back with
  | nil =>
    refine ⟨back, rfl, fun piece hpiece => ?_⟩
    obtain ⟨more, rfl⟩ := List.head?_eq_some_iff.mp hpiece
    cases piece with
    | token t =>
      refine ⟨t, rfl, ?_⟩
      have ht : t ∈ rest.head? := by
        rw [← List.nil_append rest, ← h]
        rfl
      simpa [isSemicolon] using hrest t ht
    | illegal c p =>
      obtain ⟨t, -, hmem⟩ := hclean [] c p more rfl
      cases hmem
  | cons u seg ih =>
    cases back with
    | nil => cases h
    | cons piece back =>
      cases piece with
      | illegal c p =>
        obtain ⟨t, -, hmem⟩ := hclean [] c p back rfl
        cases hmem
      | token t =>
        obtain ⟨rfl, hback⟩ : t = u ∧ back.filterMap Piece.token? = seg ++ rest :=
          List.cons.inj h
        have hclean' : ∀ front c p more, back = front ++ .illegal c p :: more →
            ∃ v ∈ rest.head?, .token v ∈ front := by
          intro front c p more hsplit
          obtain ⟨v, hv, hmem⟩ := hclean (.token t :: front) c p more (by rw [hsplit]; rfl)
          refine ⟨v, hv, ?_⟩
          rcases List.mem_cons.mp hmem with heq | hmem
          · -- the semicolon is none of the tokens of the statement
            have hv' := hrest v hv
            rw [Piece.token.inj heq, unbroken_iff.mp hseg t List.mem_cons_self] at hv'
            cases hv'
          · exact hmem
        obtain ⟨more, rfl, hmore⟩ :=
          ih hback (hseg.of_suffix (List.suffix_cons t seg)) hclean'
        exact ⟨more, rfl, hmore⟩

/-- The context is calm at the beginning and behind a semicolon. -/
theorem calm_pushPiece {front : List Piece}
    (h : ∀ t ∈ (front.filterMap Piece.token?).getLast?, isSemicolon t = true) :
    Calm (front.foldl Context.pushPiece {}) := by
  induction front using List.reverseRecOn with
  | nil => exact .start
  | append_singleton front piece ih =>
    rw [List.foldl_append, List.foldl_cons, List.foldl_nil]
    rw [List.filterMap_append] at h
    cases piece with
    | illegal c p => exact ih (by simpa [Piece.token?] using h)
    | token t =>
      have ht : isSemicolon t = true := h t (by simp [Piece.token?])
      have hkind : t.kind = .symbol .semicolon := by simpa [isSemicolon] using ht
      simp [Context.pushPiece, Piece.token?, Calm, Context.push, Context.expectsFile, hkind]

/-- No character was skipped between the beginning of a token and the beginning of what is left. -/
def CleanBetween (scan : Scan) (head : Token) (rest : List Token) : Prop :=
  ∀ offset ∈ scan.skippedOffsets, head.start.offset ≤ offset →
    (rest.head?.map fun t => t.start.offset).getD scan.stop.offset ≤ offset

/-- Skipped characters that are not between two tokens stand behind the second one. -/
theorem clean_of_cleanBetween {cs : List Char} {front back : List Piece} {head : Token}
    {seg rest : List Token} (hpieces : (Scan.ofChars cs).pieces = front ++ .token head :: back)
    (hback : back.filterMap Piece.token? = seg ++ rest)
    (hclean : CleanBetween (Scan.ofChars cs) head rest) (mid : List Piece) (c : Char) (p : Position)
    (more : List Piece) (hsplit : back = mid ++ .illegal c p :: more) :
    ∃ t ∈ rest.head?, .token t ∈ mid := by
  have hordered := ordered_scanFrom {} Position.start cs
  rw [show scanFrom {} Position.start cs = _ from hpieces, hsplit] at hordered
  obtain ⟨-, hbehind, -⟩ := List.pairwise_append.mp hordered.apart
  obtain ⟨hhead, htail⟩ := List.pairwise_cons.mp hbehind
  obtain ⟨-, hlater, -⟩ := List.pairwise_append.mp htail
  have hinside := hordered.within (.token head) (by simp)
  have hskipped := hordered.within (.illegal c p) (by simp)
  have hmem : p.offset ∈ (Scan.ofChars cs).skippedOffsets :=
    Scan.mem_skippedOffsets (c := c) (by rw [hpieces, hsplit]; simp)
  have hle : head.start.offset ≤ p.offset :=
    Nat.le_trans (Nat.le_of_lt hinside.2.1) (hhead (.illegal c p) (by simp))
  have hstop := hclean p.offset hmem hle
  cases rest with
  | nil =>
    have hend : (Scan.ofChars cs).stop.offset ≤ p.offset := hstop
    have hlt : p.offset < (Position.start.after cs).offset :=
      Nat.lt_of_lt_of_le hskipped.2.1 hskipped.2.2
    exact absurd hlt (Nat.not_lt.mpr hend)
  | cons t ts =>
    refine ⟨t, rfl, ?_⟩
    have hle' : t.start.offset ≤ p.offset := hstop
    have ht : .token t ∈ back := by
      have hmem : t ∈ back.filterMap Piece.token? := by rw [hback]; simp
      obtain ⟨piece, hpiece, htoken⟩ := List.mem_filterMap.mp hmem
      cases piece with
      | token u => rwa [← Option.some.inj htoken]
      | illegal => cases htoken
    rw [hsplit] at ht
    rcases List.mem_append.mp ht with ht | ht
    · exact ht
    · rcases List.mem_cons.mp ht with ht | ht
      · cases ht
      · -- the token would stand behind the skipped character
        have hafter := (List.pairwise_cons.mp hlater).1 (.token t) ht
        have hlt : p.offset < t.start.offset := Nat.lt_of_lt_of_le hskipped.2.1 hafter
        exact absurd hlt (Nat.not_lt.mpr hle')

/-- Tokens end before the next one starts. -/
theorem endOffset_le_start {cs : List Char} {before after : List Token} {head t : Token}
    (htokens : (Scan.ofChars cs).tokens = before ++ head :: after) (ht : t ∈ before) :
    t.endOffset ≤ head.start.offset := by
  obtain ⟨front, back, hpieces, rfl, -⟩ := exists_pieces htokens
  have hordered := ordered_scanFrom {} Position.start cs
  rw [show scanFrom {} Position.start cs = _ from hpieces] at hordered
  obtain ⟨-, -, hacross⟩ := List.pairwise_append.mp hordered.apart
  obtain ⟨piece, hpiece, htoken⟩ := List.mem_filterMap.mp ht
  have hle := hacross piece hpiece (.token head) List.mem_cons_self
  cases piece with
  | token u => rwa [← Option.some.inj htoken]
  | illegal => cases htoken

/-- **The text from the first to the last token of a statement,** cut out of the text it stands
in. -/
theorem exists_excerpt {cs : List Char} {before seg rest : List Token} {head : Token}
    (htokens : (Scan.ofChars cs).tokens = before ++ head :: (seg ++ rest))
    (hbefore : ∀ t ∈ before.getLast?, isSemicolon t = true) (hseg : Unbroken seg)
    (hrest : ∀ t ∈ rest.head?, isSemicolon t = true)
    (hclean : CleanBetween (Scan.ofChars cs) head rest) :
    ∃ a c x y ctx ctx', cs = a ++ (c :: x ++ y) ∧ isBlank c = false ∧ c ≠ '#' ∧ Calm ctx ∧
      head.start = Position.start.after a ∧ Broken y ∧
      Lexed ctx (Position.start.after a) (c :: x) (head :: seg) ctx' := by
  obtain ⟨front, back, hpieces, hfront, hback⟩ := exists_pieces htokens
  obtain ⟨more, rfl, hmore⟩ := exists_pieces_of_clean hback hseg hrest
    (clean_of_cleanBetween hpieces hback hclean)
  obtain ⟨a, c, b, rfl, hblank, hhash, hstart, hscan⟩ := exists_resume hpieces
  rw [← List.cons_append, ← List.map_cons] at hscan
  obtain ⟨x, y, ctx', hxy, hlexed, hy, -⟩ := exists_lexed hscan hmore
  cases x with
  | nil => cases hlexed
  | cons d x =>
    obtain ⟨rfl, rfl⟩ := List.cons.inj hxy
    exact ⟨a, c, x, y, _, ctx', rfl, hblank, hhash, calm_pushPiece (hfront ▸ hbefore), hstart,
      hy, hlexed⟩

/-- What stands in front of the next statement ends with a semicolon, if there is anything. -/
theorem Reached.exists_before_head [Text.Normalizer] {text : String} {s : Script}
    (h : Reached text s) {head : Token} {ts : List Token}
    (hts : s.rest.dropWhile isSemicolon = head :: ts) :
    ∃ before, s.scan.tokens = before ++ head :: ts ∧
      ∀ t ∈ before.getLast?, isSemicolon t = true := by
  obtain ⟨before, htokens, hbefore⟩ := h.exists_before
  have hrest := List.takeWhile_append_dropWhile (p := isSemicolon) (l := s.rest)
  have hsemis : ∀ t ∈ s.rest.takeWhile isSemicolon, isSemicolon t = true :=
    fun t ht => List.mem_takeWhile_imp ht
  rw [hts] at hrest
  generalize s.rest.takeWhile isSemicolon = semis at hrest hsemis
  refine ⟨before ++ semis, by rw [htokens, ← hrest, List.append_assoc], fun t ht => ?_⟩
  rw [List.getLast?_append] at ht
  cases hlast : semis.getLast? with
  | none =>
    rw [hlast] at ht
    exact hbefore (by simp [← hrest]) t ht
  | some u =>
    rw [hlast] at ht
    obtain rfl : u = t := Option.some.inj ht
    exact hsemis u (List.mem_of_getLast? hlast)

end Script

/-! ## Texts that read as a statement -/

/-- A text that reads as a statement wherever no file name is due. -/
def Clause (x : List Char) (statement : Statement) : Prop :=
  ∀ (ctx : Context) (p : Position), Calm ctx →
    ∃ head seg ctx', Lexed ctx p x (head :: seg) ctx' ∧ head.start = p ∧ Unbroken (head :: seg) ∧
      (Script.closedStatement false head).run seg = .ok statement []

namespace Script

/-- A text that reads as a statement at one place does so at every place. -/
theorem clause_of_lexed {ctx ctx' : Context} {p : Position} {c : Char} {x : List Char}
    {head : Token} {seg : List Token} {safe : Bool} {statement : Statement}
    (h : Lexed ctx p (c :: x) (head :: seg) ctx') (hctx : Calm ctx) (hblank : isBlank c = false)
    (hhash : c ≠ '#') (hhead : isSemicolon head = false) (hseg : Unbroken seg)
    (hrun : (closedStatement safe head).run seg = .ok statement []) :
    Clause (c :: x) statement := by
  intro b q hb
  obtain ⟨us, b', hus, hkinds⟩ := h.relocate (hctx.agrees hb) q
  have hunbroken : Unbroken (head :: seg) := by
    rw [unbroken_iff, List.forall_mem_cons]
    exact ⟨hhead, unbroken_iff.mp hseg⟩
  have hunbroken' : Unbroken us := by
    intro t ht
    have hmem : t.kind ∈ us.map Token.kind := List.mem_map_of_mem ht
    rw [hkinds] at hmem
    obtain ⟨u, hu, hkind⟩ := List.mem_map.mp hmem
    exact hkind ▸ hunbroken u hu
  obtain ⟨head', seg', rfl, hhead', hseg'⟩ := List.map_eq_cons_iff.mp hkinds
  refine ⟨head', seg', b', hus, hus.start_head hblank hhash, hunbroken', ?_⟩
  have halike := run_closedStatement_alike hrun hhead'.symm hseg'.symm false
  rw [Bool.false_and, if_neg Bool.false_ne_true] at halike
  obtain ⟨left, hleft, hnil⟩ := halike
  rw [hleft, hnil.eq_nil]

/-- The last token in front of what is left. -/
theorem endBefore_eq {s : Script} {before rest : List Token} {t : Token}
    (h : s.scan.tokens = before ++ rest) (ht : before.getLast? = some t) :
    s.endBefore rest = t.endOffset := by
  rw [endBefore, lastBefore?, h, List.length_append, Nat.add_sub_cancel, List.take_left, ht]
  rfl

theorem endBefore_le {s : Script} {before rest : List Token} {n : Nat}
    (h : s.scan.tokens = before ++ rest) (hle : ∀ t ∈ before, t.endOffset ≤ n) :
    s.endBefore rest ≤ n := by
  cases ht : before.getLast? with
  | none =>
    rw [endBefore, lastBefore?, h, List.length_append, Nat.add_sub_cancel, List.take_left, ht]
    exact Nat.zero_le n
  | some t =>
    rw [endBefore_eq h ht]
    exact hle t (List.mem_of_getLast? ht)

/-- **Trimming changes no text of a statement:** it goes from the beginning of the first token to
the end of the last one. -/
theorem text_parsed_eq_slice {s : Script} {cs : List Char} {before seg rest : List Token}
    {head : Token} (hscan : s.scan = Scan.ofChars cs)
    (htokens : s.scan.tokens = before ++ head :: (seg ++ rest)) (statement : Statement) :
    (s.parsed statement (head :: (seg ++ rest)) rest).text =
      String.ofList (Text.slice cs head.start.offset (s.endBefore rest)) := by
  obtain ⟨t, ht⟩ : ∃ t, (head :: seg).getLast? = some t :=
    ⟨_, List.getLast?_eq_some_getLast (by simp)⟩
  have hlast : s.endBefore rest = t.endOffset := by
    have hthrough : s.scan.tokens = (before ++ head :: seg) ++ rest := by simp [htokens]
    rw [endBefore_eq hthrough (by rw [List.getLast?_append, ht]; rfl)]
  rw [hscan] at htokens
  have hmem : ∀ u ∈ head :: seg, u ∈ (Scan.ofChars cs).tokens := by
    intro u hu
    rw [htokens, ← List.cons_append]
    exact List.mem_append_right _ (List.mem_append_left _ hu)
  have hle : head.start.offset ≤ t.endOffset :=
    Scan.start_le_endOffset htokens (List.mem_append_left rest (List.mem_of_getLast? ht))
  have htrim :=
    Scan.trim_slice (hmem head List.mem_cons_self) (hmem t (List.mem_of_getLast? ht)) hle
  show String.ofList (Text.trim (Text.slice _ head.start.offset _)) = _
  rw [hscan, hlast]
  exact congrArg String.ofList htrim

/-- The text that is kept with a statement goes from its first to its last token. -/
theorem text_parsed {s : Script} {a x y : List Char} {before seg rest : List Token} {head : Token}
    {ctx ctx' : Context} (hscan : s.scan = Scan.ofChars (a ++ (x ++ y)))
    (htokens : s.scan.tokens = before ++ head :: (seg ++ rest))
    (hstart : head.start = Position.start.after a)
    (hlexed : Lexed ctx (Position.start.after a) x (head :: seg) ctx') (statement : Statement) :
    (s.parsed statement (head :: (seg ++ rest)) rest).text = String.ofList x := by
  have hfirst : head.start.offset = Text.byteSize a := by
    rw [hstart, Text.offset_after]
    exact Nat.zero_add _
  obtain ⟨t, ht⟩ : ∃ t, (head :: seg).getLast? = some t :=
    ⟨_, List.getLast?_eq_some_getLast (by simp)⟩
  have hlast : s.endBefore rest = Text.byteSize a + Text.byteSize x := by
    have hbefore : s.scan.tokens = (before ++ head :: seg) ++ rest := by rw [htokens]; simp
    rw [endBefore_eq hbefore (by rw [List.getLast?_append, ht]; rfl), hlexed.endOffset_getLast ht,
      Text.offset_after, Text.offset_after]
    show 0 + _ + _ = _
    rw [Nat.zero_add]
  rw [text_parsed_eq_slice hscan htokens, hfirst, hlast, Text.slice_append]

/-- No statement has a skipped character if its text has none. -/
theorem skipped_parsed {s : Script} (h : s.scan.errors = []) (statement : Statement)
    (before rest : List Token) : (s.parsed statement before rest).skipped = false := by
  simp [parsed, Scan.skippedOffsets, h]

/-- A statement that a step gives was read from the tokens in front. -/
theorem exists_run_of_step {s : Script} {safe : Bool} {parsed : Parsed}
    (h : (s.step safe).1 = .parsed parsed) :
    ∃ head ts statement rest, s.rest.dropWhile isSemicolon = head :: ts ∧
      (closedStatement safe head).run ts = .ok statement rest ∧
      s.parsed statement (head :: ts) rest = parsed := by
  cases hts : s.rest.dropWhile isSemicolon with
  | nil =>
    rw [step_eq_done safe hts] at h
    cases h
  | cons head ts =>
    rw [step_eq safe hts] at h
    cases hrun : (closedStatement safe head).run ts with
    | fail fault left =>
      rw [hrun] at h
      cases h
    | ok statement rest =>
      rw [hrun] at h
      exact ⟨head, ts, statement, rest, rfl, hrun, Step.parsed.inj h⟩

theorem skipped_of_step {s : Script} {safe : Bool} {parsed : Parsed}
    (hstep : (s.step safe).1 = .parsed parsed) (h : s.scan.errors = []) :
    parsed.skipped = false := by
  obtain ⟨head, ts, statement, rest, -, -, rfl⟩ := exists_run_of_step hstep
  exact skipped_parsed h statement (head :: ts) rest

/-! ## Reading such texts -/

/-- A semicolon is a token wherever it stands. -/
theorem scanFrom_semicolon (ctx : Context) (p : Position) (cs : List Char) :
    scanFrom ctx p (';' :: cs) =
      .token ⟨.symbol .semicolon, ";", p⟩ ::
        scanFrom (ctx.push (.symbol .semicolon)) (p.after [';']) cs := by
  refine scanFrom_token (r := []) ctx p (by decide) (by decide) ?_
  cases ctx.expectsFile <;> rfl

theorem calm_semicolon (ctx : Context) : Calm (ctx.push (.symbol .semicolon)) := by
  simp [Calm, Context.push, Context.expectsFile]

/-- The pieces of a text up to a semicolon, and of what comes behind it. -/
theorem scanFrom_append_semicolon {ctx ctx' : Context} {p : Position} {x : List Char}
    {ts : List Token} (h : Lexed ctx p x ts ctx') (cs : List Char) :
    scanFrom ctx p (x ++ ';' :: cs) =
      ts.map .token ++ .token ⟨.symbol .semicolon, ";", p.after x⟩ ::
        scanFrom (ctx'.push (.symbol .semicolon)) (p.after (x ++ [';'])) cs := by
  rw [h.scanFrom_append (broken_cons (by decide) cs), scanFrom_semicolon, ← Position.after_append]

/--
**What a script makes of a text that reads as a statement:** the statement with that text, unless
safe input refuses it. The script goes on behind the semicolon.
-/
theorem step_clause {s : Script} {a x b : List Char} {statement : Statement} {ctx : Context}
    (hclause : Clause x statement) (hscan : s.scan = Scan.ofChars (a ++ (x ++ ';' :: b)))
    (herrors : s.scan.errors = []) (hctx : Calm ctx)
    (hrest : s.rest =
      (scanFrom ctx (Position.start.after a) (x ++ ';' :: b)).filterMap Piece.token?)
    (hsuffix : s.rest <:+ s.scan.tokens) (safe : Bool) :
    ∃ ctx', Calm ctx' ∧ s.step safe =
      (if safe && statement.isApproximate then .failed (.domain .approximateInput)
        else .parsed ⟨statement, String.ofList x, false⟩,
      s.goOn ((scanFrom ctx' (Position.start.after (a ++ (x ++ [';']))) b).filterMap
        Piece.token?)) := by
  obtain ⟨head, seg, ctx', hlexed, hstart, hunbroken, halone⟩ :=
    hclause ctx (Position.start.after a) hctx
  refine ⟨ctx'.push (.symbol .semicolon), calm_semicolon ctx', ?_⟩
  rw [scanFrom_append_semicolon hlexed, ← Position.after_append, ← Position.after_append] at hrest
  generalize scanFrom (ctx'.push (.symbol .semicolon))
    (Position.start.after (a ++ (x ++ [';']))) b = behind at hrest ⊢
  obtain ⟨semi, hsemi, hrest⟩ : ∃ semi, isSemicolon semi = true ∧
      s.rest = head :: (seg ++ semi :: behind.filterMap Piece.token?) := by
    refine ⟨⟨.symbol .semicolon, ";", Position.start.after (a ++ x)⟩, rfl, ?_⟩
    rw [hrest, List.filterMap_append, List.filterMap_map]
    simp [Function.comp_def, Piece.token?]
  generalize behind.filterMap Piece.token? = more at hrest ⊢
  have hhead : isSemicolon head = false := unbroken_iff.mp hunbroken head List.mem_cons_self
  have hseg : Unbroken seg := hunbroken.of_suffix (List.suffix_cons head seg)
  have hdrop : s.rest.dropWhile isSemicolon = head :: (seg ++ semi :: more) := by
    rw [hrest, List.dropWhile_cons_of_neg (by simp [hhead])]
  obtain ⟨hsw, hrun⟩ := run_closedStatement_append hseg hsemi halone more
  rw [step_eq safe hdrop, onward_append safe hseg hsemi, if_neg hsw]
  congr 1
  have hsafe := run_closedStatement_safe hrun safe
  cases happrox : safe && statement.isApproximate with
  | true =>
    rw [happrox, if_pos rfl] at hsafe
    obtain ⟨left, hleft⟩ := hsafe
    rw [hleft, if_pos rfl]
    rfl
  | false =>
    rw [happrox, if_neg Bool.false_ne_true] at hsafe
    rw [hsafe, if_neg Bool.false_ne_true]
    obtain ⟨before, hbefore⟩ := hsuffix
    have htokens : s.scan.tokens = before ++ head :: (seg ++ semi :: more) := by
      rw [← hbefore, hrest]
    have htext := text_parsed hscan htokens hstart hlexed statement
    have hskipped := skipped_parsed herrors statement (head :: (seg ++ semi :: more)) (semi :: more)
    rw [← htext, ← hskipped]
    rfl

end Script

end PaveScript
