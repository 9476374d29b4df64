import PaveScript.Proofs.Kept
import PaveScript.Text.Normal.Form

/-!
# What belongs to a statement

A statement is kept with the text from its first to its last token, and it answers for the
characters that were skipped between the semicolon in front of it and the one behind it.

* `Script.givesOnly_of_clause` — a script that is the text of one statement gives this statement
* `Script.reread_alone` — so does the text that is kept with a statement, alone or with a semicolon
* `Scan.mem_skippedOffsets_iff` — line and column of a report lead to the character it reports
* `Script.skipped_iff_inRegion` — a statement is marked if such a character stands in its region
-/

namespace PaveScript

open Grammar Phrase Lexer

namespace Script

/-! ## Texts of one statement -/

/-- A script in which nothing is skipped, and which has one statement under a setting of safe
input. -/
structure GivesOnly (s : Script) (safe : Bool) (parsed : Parsed) : Prop where
  errors : s.scan.errors = []
  first : (s.step safe).1 = .parsed parsed
  last : ∀ safe', ((s.step safe).2.step safe').1 = .done

/-- What may stand behind the only statement of a text. -/
def endings : List (List Char) := [[], [';']]

/-- Behind the only statement of a text comes a semicolon or nothing. -/
theorem scanFrom_ending {ending : List Char} (h : ending ∈ endings) (ctx : Context) (p : Position) :
    ∃ semis : List Token, scanFrom ctx p ending = semis.map .token ∧ semis.drop 1 = [] ∧
      ∀ t ∈ semis, isSemicolon t = true := by
  rcases List.mem_pair.mp h with rfl | rfl
  · exact ⟨[], by simp [scanFrom], rfl, by simp⟩
  · refine ⟨[⟨.symbol .semicolon, ";", p⟩], ?_, rfl, by simp [isSemicolon]⟩
    rw [scanFrom_semicolon]
    simp [scanFrom]

/-- Semicolons behind the tokens of a statement are left over. -/
theorem run_closedStatement_semis {safe : Bool} {head : Token} {seg semis : List Token}
    {statement : Statement} (hseg : Unbroken seg) (hsemis : ∀ t ∈ semis, isSemicolon t = true)
    (h : (closedStatement safe head).run seg = .ok statement []) :
    (closedStatement safe head).run (seg ++ semis) = .ok statement semis := by
  cases semis with
  | nil => rwa [List.append_nil]
  | cons semi more => exact (run_closedStatement_append hseg (hsemis semi (by simp)) h more).2

/-- **A script that is the text of a statement gives this statement,** unless safe input refuses
it. -/
theorem givesOnly_of_clause {x ending : List Char} {statement : Statement}
    (hclause : Clause x statement) (hending : ending ∈ endings) {safe : Bool}
    (hsafe : (safe && statement.isApproximate) = false) :
    (ofScan (Scan.ofChars (x ++ ending))).GivesOnly safe ⟨statement, String.ofList x, false⟩ := by
  obtain ⟨head, seg, ctx, hlexed, hstart, hunbroken, halone⟩ := hclause {} .start .start
  obtain ⟨semis, hscan, hdrop, hsemis⟩ := scanFrom_ending hending ctx (Position.start.after x)
  generalize hs : ofScan (Scan.ofChars (x ++ ending)) = s
  have hbroken : Broken ending := by
    rcases List.mem_pair.mp hending with rfl | rfl
    · exact broken_nil
    · exact broken_cons (by decide) []
  have hpieces : s.scan.pieces = (head :: (seg ++ semis)).map .token := by
    rw [← hs, List.map_cons, List.map_append, ← hscan]
    exact hlexed.scanFrom_append hbroken
  have htokens : s.scan.tokens = [] ++ head :: (seg ++ semis) := by
    rw [Scan.tokens, hpieces, List.filterMap_map]
    simp [Function.comp_def, Piece.token?]
  have herrors : s.scan.errors = [] := by
    rw [Scan.errors, hpieces, List.filterMap_map]
    simp [Function.comp_def, Piece.error?]
  -- the tokens of the statement are all that is read
  have hhead : isSemicolon head = false := unbroken_iff.mp hunbroken head List.mem_cons_self
  have hrest : s.rest.dropWhile isSemicolon = head :: (seg ++ semis) := by
    rw [show s.rest = s.scan.tokens from hs ▸ rfl, htokens, List.nil_append,
      List.dropWhile_cons_of_neg (by simp [hhead])]
  have hrun : (closedStatement safe head).run (seg ++ semis) = .ok statement semis := by
    have halone' := run_closedStatement_safe halone safe
    rw [hsafe, if_neg Bool.false_ne_true] at halone'
    exact run_closedStatement_semis (hunbroken.of_suffix (List.suffix_cons head seg)) hsemis halone'
  have htext : (s.parsed statement (head :: (seg ++ semis)) semis).text = String.ofList x :=
    text_parsed (a := []) (y := ending) (hs ▸ rfl) htokens hstart hlexed statement
  have hskipped := skipped_parsed herrors statement (head :: (seg ++ semis)) semis
  have hstep : s.step safe = (.parsed ⟨statement, String.ofList x, false⟩, s.goOn []) := by
    rw [step_eq safe hrest, hrun, reported, onward, hdrop, ← htext, ← hskipped]
    rfl
  refine ⟨herrors, by rw [hstep], fun safe' => ?_⟩
  rw [hstep, step_eq_done safe' rfl]

/--
**The text of a statement is read as this statement again.** A statement in which no character was
skipped, read at any point of a script, is kept with a text that is a script of its own, with a
semicolon behind it or without one: nothing of it is skipped, and reading it under the same safe
input gives the same statement with the same text, and no other statement. This is so for the text
as it is kept, which is in normal form, and for every text with that normal form.
-/
theorem reread_alone [Text.Normalizer] {text : String} {s : Script} (hs : Reached text s)
    {safe : Bool} {parsed : Parsed} (hstep : (s.step safe).1 = .parsed parsed)
    (hskip : parsed.skipped = false) (ending : List Char) (hending : ending ∈ endings) :
    (ofScan (Scan.ofChars (parsed.text.toList ++ ending))).GivesOnly safe parsed ∧
      (ofText (String.ofList (parsed.text.toList ++ ending))).GivesOnly safe parsed ∧
      ∀ again : String, Text.Normalizer.normalize again.toList = parsed.text.toList ++ ending →
        (ofText again).GivesOnly safe parsed := by
  obtain ⟨hclause, hsafe⟩ := clause_of_step hs hstep hskip
  have halone := givesOnly_of_clause hclause hending hsafe
  rw [String.ofList_toList, ← hskip] at halone
  have hagain : ∀ again : String, Text.Normalizer.normalize again.toList =
      parsed.text.toList ++ ending → (ofText again).GivesOnly safe parsed := by
    intro again hagain
    rw [ofText, Scan.ofText, hagain]
    exact halone
  refine ⟨halone, hagain _ ?_, hagain⟩
  have hnormal := normalize_text_of_step hs hstep hskip
  rw [String.toList_ofList]
  rcases List.mem_pair.mp hending with rfl | rfl
  · rw [List.append_nil, hnormal]
  · rw [Text.Normalizer.normalize_append_cons (by decide), hnormal, Text.Normalizer.normalize_nil]

/-- A statement with a file name behind a comment, between one with a skipped character and one that
is empty. -/
def slantText : String := "pave é; set output = # é $\n x/y.txt ;; pave"

theorem reread_alone_slantText :
    let s := ((ofText slantText).takePending.2.step true).2
    let parsed : Parsed := ⟨.set (.output "x/y.txt"), "set output = # é $\n x/y.txt", false⟩
    (s.step true).1 = .parsed parsed ∧ (ofText parsed.text).GivesOnly true parsed ∧
      (ofText (parsed.text ++ ";")).GivesOnly true parsed := by
  intro s parsed
  have hreached : Reached slantText s := .step true .start
  have hstep : (s.step true).1 = .parsed parsed := by decide +kernel
  have halone := reread_alone hreached hstep rfl [] (by decide)
  have hclosed := reread_alone hreached hstep rfl [';'] (by decide)
  exact ⟨hstep, halone.2.2 _ (by decide +kernel), hclosed.2.2 _ (by decide +kernel)⟩

end Script

/-! ## Skipped characters -/

namespace Scan

/-- A skipped character stands where its report says, and line and column lead back there. -/
theorem exists_place_illegal {cs : List Char} {c : Char} {p : Position}
    (h : .illegal c p ∈ (ofChars cs).pieces) :
    ∃ a b, cs = a ++ c :: b ∧ p = Position.start.after a ∧
      Text.byteOffset? cs p.line p.column = some p.offset := by
  obtain ⟨ss, -, rfl, hpieces⟩ := exists_stretches cs
  rw [hpieces] at h
  obtain ⟨before, stretch, after, rfl, hpiece⟩ := Stretch.exists_of_mem_pieces h
  cases stretch with
  | illegal d =>
    obtain ⟨rfl, rfl⟩ := Piece.illegal.inj (Option.some.inj hpiece)
    have hcs : Stretch.textOf (before ++ .illegal d :: after) =
        Stretch.textOf before ++ d :: Stretch.textOf after := Stretch.textOf_append ..
    refine ⟨Stretch.textOf before, Stretch.textOf after, hcs, rfl, ?_⟩
    rw [hcs]
    exact Text.byteOffset?_after _ _ (List.cons_ne_nil _ _)
  | _ => cases hpiece

/-- **The skipped characters are found again by line and column,** and nothing else is. -/
theorem mem_skippedOffsets_iff {cs : List Char} {offset : Nat} :
    offset ∈ (ofChars cs).skippedOffsets ↔
      ∃ c p, .illegal c p ∈ (ofChars cs).pieces ∧ p.offset = offset := by
  constructor
  · intro h
    obtain ⟨e, he, hoffset⟩ := List.mem_filterMap.mp h
    obtain ⟨piece, hpiece, hreport⟩ := List.mem_filterMap.mp he
    cases piece with
    | token t => cases hreport
    | illegal c p =>
      obtain rfl := Option.some.inj hreport
      obtain ⟨-, -, -, -, hplace⟩ := exists_place_illegal hpiece
      exact ⟨c, p, hpiece, Option.some.inj (hplace.symm.trans hoffset)⟩
  · rintro ⟨c, p, hpiece, rfl⟩
    exact mem_skippedOffsets hpiece

/--
The part of a text that belongs to a statement with the tokens `before` in front of it and `rest`
behind it: from the end of the nearest semicolon in front of it, or from the beginning, up to the
next semicolon or the end.
-/
def InRegion (s : Scan) (before rest : List Token) (offset : Nat) : Prop :=
  (∀ semi ∈ before.reverse.find? Script.isSemicolon, semi.endOffset ≤ offset) ∧
    offset < ((rest.find? Script.isSemicolon).map fun semi => semi.start.offset).getD s.stop.offset

end Scan

namespace Script

/-- The nearest semicolon in front of a statement is the token in front of it. -/
theorem endBefore_le_iff {s : Script} {before rest : List Token}
    (htokens : s.scan.tokens = before ++ rest)
    (hbefore : ∀ t ∈ before.getLast?, isSemicolon t = true) {offset : Nat} :
    s.endBefore rest ≤ offset ↔
      ∀ semi ∈ before.reverse.find? isSemicolon, semi.endOffset ≤ offset := by
  cases before using List.reverseRecOn with
  | nil =>
    have hzero := endBefore_le htokens (n := 0) (by simp)
    simp only [List.reverse_nil, List.find?_nil, Option.mem_def, reduceCtorEq, false_implies,
      implies_true, iff_true]
    omega
  | append_singleton before t =>
    have ht : isSemicolon t = true := hbefore t (by simp)
    rw [endBefore_eq htokens (t := t) (by simp), List.reverse_append, List.reverse_singleton,
      List.singleton_append, List.find?_cons_of_pos ht]
    simp

/-- The next semicolon is the token behind a statement. -/
theorem startOf_eq {s : Script} {rest : List Token}
    (hrest : ∀ t ∈ rest.head?, isSemicolon t = true) :
    s.startOf rest =
      ((rest.find? isSemicolon).map fun semi => semi.start.offset).getD s.scan.stop.offset := by
  cases rest with
  | nil => rfl
  | cons semi rest => rw [List.find?_cons_of_pos (hrest semi rfl), startOf, List.head?_cons]

/-- A statement is marked if a character was skipped in its region. -/
theorem skipped_iff_inRegion {cs : List Char} {s : Script} (hscan : s.scan = Scan.ofChars cs)
    {before after rest : List Token} (htokens : s.scan.tokens = before ++ after)
    (hbefore : ∀ t ∈ before.getLast?, isSemicolon t = true)
    (hrest : ∀ t ∈ rest.head?, isSemicolon t = true) (statement : Statement) :
    (s.parsed statement after rest).skipped = true ↔
      ∃ c p, .illegal c p ∈ s.scan.pieces ∧ s.scan.InRegion before rest p.offset := by
  have hregion : ∀ offset, (s.endBefore after ≤ offset && offset < s.startOf rest) = true ↔
      s.scan.InRegion before rest offset := by
    intro offset
    rw [Bool.and_eq_true, decide_eq_true_eq, decide_eq_true_eq, endBefore_le_iff htokens hbefore,
      startOf_eq hrest]
    rfl
  rw [parsed, List.any_eq_true]
  constructor
  · rintro ⟨offset, hoffset, hinside⟩
    rw [hscan] at hoffset
    obtain ⟨c, p, hpiece, rfl⟩ := Scan.mem_skippedOffsets_iff.mp hoffset
    exact ⟨c, p, hscan ▸ hpiece, (hregion _).mp hinside⟩
  · rintro ⟨c, p, hpiece, hinside⟩
    rw [hscan] at hpiece
    refine ⟨p.offset, ?_, (hregion _).mpr hinside⟩
    rw [hscan]
    exact Scan.mem_skippedOffsets hpiece

/--
**Skipped characters are held against the statement they stand in.** The line and the column of
every report lead back to the character that it reports. And a statement that is read at any point
of a script, from the tokens up to the next semicolon, is marked exactly if a skipped character
stands between the nearest semicolon in front of it and that next one. So a character that stands
between two semicolons without a statement, behind the last one or in another statement marks none.
-/
theorem skipped_attributed [Text.Normalizer] (text : String) :
    (∀ e ∈ (Scan.ofText text).errors, ∃ a c b, (Scan.ofText text).source = a ++ c :: b ∧
      .illegal c (Position.start.after a) ∈ (Scan.ofText text).pieces ∧
      e = .illegal c (Text.lineOf a) (Text.columnOf a) ∧
      Text.byteOffset? (Scan.ofText text).source (Text.lineOf a) (Text.columnOf a) =
        some (Text.byteSize a)) ∧
    ∀ (s : Script) (safe : Bool) (parsed : Parsed), Reached text s →
      (s.step safe).1 = .parsed parsed → ∃ before head seg rest,
        s.scan.tokens = before ++ head :: (seg ++ rest) ∧
        s.rest.dropWhile isSemicolon = head :: (seg ++ rest) ∧
        (s.step safe).2.rest = rest.drop 1 ∧
        Unbroken (head :: seg) ∧ (∀ t ∈ rest.head?, isSemicolon t = true) ∧
        (parsed.skipped = true ↔
          ∃ c p, .illegal c p ∈ s.scan.pieces ∧ s.scan.InRegion before rest p.offset) := by
  constructor
  · intro e he
    obtain ⟨piece, hpiece, hreport⟩ := List.mem_filterMap.mp he
    cases piece with
    | token t => cases hreport
    | illegal c p =>
      obtain ⟨a, b, hsource, rfl, hplace⟩ := Scan.exists_place_illegal hpiece
      have hbehind := Position.isBehind_after a
      rw [hbehind.line, hbehind.column, hbehind.offset] at hplace
      refine ⟨a, c, b, hsource, hpiece, ?_, hplace⟩
      rw [← hbehind.line, ← hbehind.column]
      exact (Option.some.inj hreport).symm
  · intro s safe parsed hs hstep
    obtain ⟨head, ts, statement, rest, hts, hrun, rfl⟩ := exists_run_of_step hstep
    obtain ⟨seg, rfl, hseg, hrest, -⟩ := exists_of_run_closedStatement hrun
    obtain ⟨before, htokens, hbefore⟩ := hs.exists_before_head hts
    have hhead : isSemicolon head = false := by
      simpa [hts] using List.head?_dropWhile_not isSemicolon s.rest
    have hnext : (s.step safe).2.rest = rest.drop 1 := by
      rw [step_eq safe hts, hrun]
      rfl
    have hunbroken : Unbroken (head :: seg) :=
      unbroken_iff.mpr (List.forall_mem_cons.mpr ⟨hhead, unbroken_iff.mp hseg⟩)
    exact ⟨before, head, seg, rest, htokens, hts, hnext, hunbroken, hrest,
      skipped_iff_inRegion hs.scan_eq htokens hbefore hrest statement⟩

/-- Skipped characters in the second and in the third of four statements, and behind the last. -/
def speckledText : String := "pave;\n  min $;é max; minmax; $"

theorem skipped_attributed_speckledText :
    let s := ((ofText speckledText).takePending.2.step true).2
    (∃ a c b, (Scan.ofText speckledText).source = a ++ c :: b ∧
      Error.illegal '$' 2 7 = .illegal c (Text.lineOf a) (Text.columnOf a) ∧
      Text.byteOffset? (Scan.ofText speckledText).source 2 7 = some (Text.byteSize a)) ∧
    (s.step true).1 = .parsed ⟨.action .min, "min", true⟩ ∧
    ∃ before head seg rest c p, s.scan.tokens = before ++ head :: (seg ++ rest) ∧
      .illegal c p ∈ s.scan.pieces ∧ s.scan.InRegion before rest p.offset := by
  intro s
  have hreached : Reached speckledText s := .step true .start
  have hstep : (s.step true).1 = .parsed ⟨.action .min, "min", true⟩ := by decide +kernel
  obtain ⟨hplace, hregion⟩ := skipped_attributed speckledText
  obtain ⟨a, c, b, hsource, -, hreport, hoffset⟩ := hplace (.illegal '$' 2 7) (by decide +kernel)
  obtain ⟨before, head, seg, rest, htokens, -, -, -, -, hiff⟩ := hregion s true _ hreached hstep
  obtain ⟨d, p, hpiece, hinside⟩ := hiff.mp rfl
  refine ⟨⟨a, c, b, hsource, hreport, ?_⟩, hstep, before, head, seg, rest, d, p, htokens, hpiece,
    hinside⟩
  obtain ⟨-, hline, hcolumn⟩ := Error.illegal.inj hreport
  rwa [← hline, ← hcolumn] at hoffset

end Script

end PaveScript
