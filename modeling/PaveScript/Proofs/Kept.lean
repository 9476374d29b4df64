import PaveScript.Proofs.Clause

/-!
# The text kept with a statement

The text of a statement goes from its first to its last token, and a break stands on both sides of
it: a blank, a comment, a semicolon, or nothing. So if no character was skipped in the statement,
its text reads as the statement, and it is in the normalization form that the whole text was
brought into.

* `exists_kept` — the text of a statement in the text that it was read from
* `clause_of_step` — it reads as the statement
* `normalize_text_of_step` — it is in the form
-/

namespace PaveScript

open Lexer Text

namespace Script

/-! ## In front of a statement -/

theorem eq_of_byteSize_eq {a b cs : List Char} (ha : a <+: cs) (hb : b <+: cs)
    (h : byteSize a = byteSize b) : a = b :=
  (prefix_of_byteSize_le ha hb h.le).eq_of_length
    (Nat.le_antisymm (prefix_of_byteSize_le ha hb h.le).length_le
      (prefix_of_byteSize_le hb ha h.ge).length_le)

/-- Behind a semicolon scanning goes on with the next character. -/
theorem scanFrom_of_semicolon {ctx : Context} {p : Position} {c : Char} {cs : List Char} {t : Token}
    {after : List Piece} (hblank : isBlank c = false) (hhash : c ≠ '#')
    (h : scanFrom ctx p (c :: cs) = .token t :: after) (ht : isSemicolon t = true) :
    c = ';' ∧ scanFrom (ctx.push (.symbol .semicolon)) (p.after [';']) cs = after := by
  rw [scanFrom, if_neg (by simp [hblank]), if_neg hhash] at h
  cases hfound : scanToken? ctx.expectsFile c cs with
  | none =>
    rw [hfound] at h
    cases (List.cons.inj h).1
  | some found =>
    obtain ⟨kind, r⟩ := found
    rw [hfound] at h
    obtain ⟨htoken, hafter⟩ := List.cons.inj h
    obtain rfl := Piece.token.inj htoken
    obtain rfl : kind = .symbol .semicolon := by simpa [isSemicolon] using ht
    obtain ⟨rfl, rfl⟩ := eq_semicolon_of_scanToken hfound
    exact ⟨rfl, hafter⟩

/-- **A break stands in front of a token** that is the first piece or follows a semicolon. -/
theorem isBreak_of_front {cs a b : List Char} {front back : List Piece} {head : Token}
    (hpieces : (Scan.ofChars cs).pieces = front ++ .token head :: back) (hcs : cs = a ++ b)
    (hstart : head.start = Position.start.after a)
    (hfront : ∀ piece ∈ front.getLast?, ∃ t : Token, piece = .token t ∧ isSemicolon t = true) :
    ∀ d ∈ a.getLast?, isBreak d = true := by
  have hplace : ∀ {e f}, cs = e ++ f → head.start = Position.start.after e → a = e := by
    intro e f he hstart'
    refine eq_of_byteSize_eq ⟨b, hcs.symm⟩ ⟨f, he.symm⟩ ?_
    rw [← (Position.isBehind_after a).offset, ← hstart, hstart', (Position.isBehind_after e).offset]
  have hgap : ∀ {gap : List Char}, (∀ d ∈ gap.getLast?, isBlank d = true) →
      ∀ d ∈ gap.getLast?, isBreak d = true := by
    intro gap hgap d hd
    simp [isBreak, hgap d hd]
  cases front using List.reverseRecOn with
  | nil =>
    obtain ⟨gap, c, rest, hrest, -, hstart', hblank⟩ := exists_gap hpieces
    rw [hplace hrest hstart']
    exact hgap hblank
  | append_singleton front piece =>
    obtain ⟨t, rfl, ht⟩ := hfront piece (by simp)
    rw [List.append_assoc, List.singleton_append] at hpieces
    obtain ⟨e, c, rest, hrest, hblank, hhash, -, hscan⟩ := exists_resume hpieces
    obtain ⟨rfl, hbehind⟩ := scanFrom_of_semicolon hblank hhash hscan ht
    obtain ⟨gap, d, more, rfl, -, hstart', hblank'⟩ := exists_gap hbehind
    have ha : a = e ++ ';' :: gap := by
      refine hplace (f := d :: more) (by simp [hrest]) (hstart'.trans ?_)
      rw [← Position.after_append, ← Position.after_append]
      rfl
    rw [ha, List.getLast?_append_of_ne_nil _ (List.cons_ne_nil _ _)]
    cases gap with
    | nil => simp [isBreak]
    | cons f gap => exact hgap hblank'

/-- The piece in front of a statement is a semicolon, unless a character was skipped there. -/
theorem semicolon_of_getLast {cs : List Char} {front back : List Piece} {head : Token}
    (hpieces : (Scan.ofChars cs).pieces = front ++ .token head :: back)
    (hbefore : ∀ t ∈ (front.filterMap Piece.token?).getLast?, isSemicolon t = true)
    (hclean : ∀ offset ∈ (Scan.ofChars cs).skippedOffsets, offset < head.start.offset →
      ∃ t ∈ front.filterMap Piece.token?, offset < t.endOffset) :
    ∀ piece ∈ front.getLast?, ∃ t : Token, piece = .token t ∧ isSemicolon t = true := by
  intro piece hpiece
  obtain ⟨init, rfl⟩ := List.getLast?_eq_some_iff.mp hpiece
  rw [List.filterMap_append] at hbefore
  cases piece with
  | token t => exact ⟨t, rfl, hbefore t (by simp [Piece.token?])⟩
  | illegal c p =>
    have hordered := ordered_scanFrom {} Position.start cs
    rw [show scanFrom {} Position.start cs = _ from hpieces] at hordered
    obtain ⟨hfront, -, hacross⟩ := List.pairwise_append.mp hordered.apart
    have hlt := (hordered.within (.illegal c p) (by simp)).2.1
    have hle := hacross (.illegal c p) (by simp) (.token head) List.mem_cons_self
    obtain ⟨t, ht, hend⟩ := hclean p.offset
      (Scan.mem_skippedOffsets (c := c) (by rw [hpieces]; simp)) (Nat.lt_of_lt_of_le hlt hle)
    -- the tokens in front end before the skipped character
    obtain ⟨other, hother, htoken⟩ := List.mem_filterMap.mp ht
    rcases List.mem_append.mp hother with hother | hother
    · have hapart := (List.pairwise_append.mp hfront).2.2 other hother (.illegal c p) (by simp)
      cases other with
      | token u =>
        obtain rfl : u = t := Option.some.inj htoken
        exact absurd hend (Nat.not_lt.mpr hapart)
      | illegal => cases htoken
    · rw [List.mem_singleton.mp hother] at htoken
      cases htoken

/-- What is left behind a statement starts behind its first token. -/
theorem start_le_startOf {cs : List Char} {s : Script} (hscan : s.scan = Scan.ofChars cs)
    {before seg rest : List Token} {head : Token}
    (htokens : (Scan.ofChars cs).tokens = before ++ head :: (seg ++ rest)) :
    head.start.offset ≤ s.startOf rest := by
  have hlossless := Scan.lossless_ofChars cs
  cases rest with
  | nil =>
    rw [startOf, hscan]
    exact (hlossless.beforeStop head (by simp [htokens])).1.le
  | cons t more =>
    have hapart := hlossless.apart
    rw [htokens] at hapart
    obtain ⟨-, hbehind, -⟩ := List.pairwise_append.mp hapart
    exact ((List.pairwise_cons.mp hbehind).1 t (by simp)).1.le

/-! ## The text of a statement -/

/--
**The text of a statement stands between two breaks** in the text that it was read from, if no
character was skipped in the statement.
-/
theorem exists_kept [Normalizer] {text : String} {s : Script} (hs : Reached text s) {safe : Bool}
    {parsed : Parsed} (hstep : (s.step safe).1 = .parsed parsed) (hskip : parsed.skipped = false) :
    ∃ a c x y ctx ctx' head seg, Normalizer.normalize text.toList = a ++ (c :: x ++ y) ∧
      parsed.text.toList = c :: x ∧ (∀ d ∈ a.getLast?, isBreak d = true) ∧ Broken y ∧
      isBlank c = false ∧ c ≠ '#' ∧ Calm ctx ∧ isSemicolon head = false ∧ Unbroken seg ∧
      Lexed ctx (Position.start.after a) (c :: x) (head :: seg) ctx' ∧
      (closedStatement safe head).run seg = .ok parsed.statement [] := by
  obtain ⟨head, ts, statement, rest, hts, hrun, rfl⟩ := exists_run_of_step hstep
  obtain ⟨seg, rfl, hseg, hrest, halone⟩ := exists_of_run_closedStatement hrun
  obtain ⟨before, htokens, hbefore⟩ := hs.exists_before_head hts
  generalize hcs : Normalizer.normalize text.toList = cs
  have hscan : s.scan = Scan.ofChars cs := by rw [hs.scan_eq, Scan.ofText, hcs]
  have hclean : ∀ offset ∈ (Scan.ofChars cs).skippedOffsets,
      s.endBefore (head :: (seg ++ rest)) ≤ offset → s.startOf rest ≤ offset := by
    intro offset hoffset hle
    have hnone := List.any_eq_false.mp hskip offset (by rw [hscan]; exact hoffset)
    simpa [hle] using hnone
  have hend : ∀ {n}, (∀ t ∈ before, t.endOffset ≤ n) → s.endBefore (head :: (seg ++ rest)) ≤ n :=
    endBefore_le htokens
  rw [hscan] at htokens
  have hhead : isSemicolon head = false := by
    simpa [hts] using List.head?_dropWhile_not isSemicolon s.rest
  obtain ⟨a, c, x, y, ctx, ctx', rfl, hblank, hhash, hctx, hstart, hy, hlexed⟩ :=
    exists_excerpt htokens hbefore hseg hrest fun offset hoffset hle => by
      have hle' := hclean offset hoffset
        (Nat.le_trans (hend fun t ht => endOffset_le_start htokens ht) hle)
      rwa [startOf, hscan] at hle'
  refine ⟨a, c, x, y, ctx, ctx', head, seg, rfl, ?_, ?_, hy, hblank, hhash, hctx, hhead, hseg,
    hlexed, halone⟩
  · rw [text_parsed hscan (hscan ▸ htokens) hstart hlexed, String.toList_ofList]
  · obtain ⟨front, back, hpieces, rfl, hback⟩ := exists_pieces htokens
    refine isBreak_of_front hpieces rfl hstart (semicolon_of_getLast hpieces hbefore ?_)
    intro offset hoffset hlt
    by_contra hnone
    push Not at hnone
    have hle := (start_le_startOf hscan htokens).trans (hclean offset hoffset (hend hnone))
    exact absurd hlt (Nat.not_lt.mpr hle)

/--
**The text of a statement reads as the statement,** if no character was skipped in it. And it was
read either without safe input or without an approximate number in it.
-/
theorem clause_of_step [Normalizer] {text : String} {s : Script} (hs : Reached text s)
    {safe : Bool} {parsed : Parsed} (hstep : (s.step safe).1 = .parsed parsed)
    (hskip : parsed.skipped = false) :
    Clause parsed.text.toList parsed.statement ∧
      (safe && parsed.statement.isApproximate) = false := by
  obtain ⟨a, c, x, y, ctx, ctx', head, seg, -, htext, -, -, hblank, hhash, hctx, hhead, hseg,
    hlexed, hrun⟩ := exists_kept hs hstep hskip
  rw [htext]
  exact ⟨clause_of_lexed hlexed hctx hblank hhash hhead hseg hrun, (run_closedStatement_off hrun).1⟩

/-- Tokens end at inert characters. -/
theorem isInert_of_isBreak {c : Char} (h : isBreak c = true) : isInert c = true := by
  simp only [isBreak, Lexer.isBlank, Bool.or_eq_true, beq_iff_eq] at h
  rcases h with (((((rfl | rfl) | rfl) | rfl) | h) | rfl) | rfl
  case inl.inl.inr => simp [isInert, h]
  all_goals decide

/-- **The text of a statement is in the normalization form** of the text that it was read from, if
no character was skipped in it. -/
theorem normalize_text_of_step [Normalizer] {text : String} {s : Script} (hs : Reached text s)
    {safe : Bool} {parsed : Parsed} (hstep : (s.step safe).1 = .parsed parsed)
    (hskip : parsed.skipped = false) :
    Normalizer.normalize parsed.text.toList = parsed.text.toList := by
  obtain ⟨a, c, x, y, -, -, -, -, hsource, htext, ha, hy, -⟩ := exists_kept hs hstep hskip
  have hwhole := Normalizer.normalize_normalize text.toList
  rw [hsource] at hwhole
  rw [htext]
  -- first what stands behind the text is taken away, then what stands in front of it
  have hfront : Normalizer.normalize (a ++ (c :: x)) = a ++ (c :: x) := by
    cases y with
    | nil => simpa using hwhole
    | cons d y =>
      rw [← List.append_assoc] at hwhole
      exact (Normalizer.normalize_pieces (isInert_of_isBreak (hy d rfl)) hwhole).1
  cases a using List.reverseRecOn with
  | nil => exact hfront
  | append_singleton a d =>
    rw [List.append_assoc, List.singleton_append] at hfront
    exact (Normalizer.normalize_pieces (isInert_of_isBreak (ha d (by simp))) hfront).2

end Script

end PaveScript
