import PaveScript.Proofs.Seam
import PaveScript.Proofs.Segment

/-!
# A script inside a longer one

A text that is put into a longer one is read there as it is read alone, as long as nothing but a
semicolon or the end comes behind it and none of its statements fails by the grammar: the statements
and their texts are the same, and so are the refusals of safe input. Statements that fail by the
grammar are left out for two reasons. Their errors name a place, and one that has consumed its
semicolon goes on at another point than it would alone.

* `Embedded` — the two scripts, at the same point of the text
* `Embedded.step` — one statement
* `Embedded.step_done` — the end of the text
* `Script.exists_embedded_append` — two texts in one
-/

namespace PaveScript

open Grammar Phrase Text

/-! ## Parts of a text at another place -/

namespace Scan

/-- **The text from one token to another** is the same in a longer text. -/
theorem slice_moved {cs : List Char} {t u : Token} (ht : t ∈ (ofChars cs).tokens)
    (hu : u ∈ (ofChars cs).tokens) (h : t.start.offset ≤ u.endOffset) (front back : List Char) :
    slice (front ++ (cs ++ back)) (byteSize front + t.start.offset)
        (byteSize front + u.endOffset) =
      slice cs t.start.offset u.endOffset := by
  obtain ⟨a, x, z, rfl, hfirst, hlast, -, -⟩ := exists_between ht hu h
  rw [hfirst, hlast, slice_append, ← Nat.add_assoc, ← byteSize_append]
  have hlong : front ++ (a ++ (x ++ z) ++ back) = (front ++ a) ++ (x ++ (z ++ back)) := by
    simp only [List.append_assoc]
  rw [hlong, slice_append]

end Scan

/-! ## One statement -/

theorem Fault.eq_approximate_of_kind {f : Fault} (h : f.kind = .domain) : f = .approximate := by
  cases f with
  | approximate => rfl
  | unexpected c found =>
    cases found with
    | none => cases h
    | some t =>
      simp only [Fault.kind] at h
      split at h <;> cases h

namespace Script

variable {safe : Bool} {head head' : Token} {seg seg' tail : List Token} {statement : Statement}

/-- Safe input refuses the statement that these tokens begin. -/
def Refuses (safe : Bool) (head : Token) (ts : List Token) : Prop :=
  ∃ left, (closedStatement safe head).run ts = .fail .approximate left

/-- A statement that swallows its semicolon is no matter of safe input. -/
theorem not_refuses_of_swallows (h : Swallows (head :: seg)) : ¬Refuses safe head seg := by
  rintro ⟨left, hrun⟩
  have hsemi : (⟨.symbol .semicolon, "", .start⟩ : Token).kind = .symbol .semicolon := rfl
  obtain ⟨f, -, hf, -, halone, -⟩ := run_statement_of_swallows safe h hsemi []
  rw [show (closedStatement safe head).run seg = .fail f [] from run_bind_fail halone] at hrun
  rw [(Outcome.fail.inj hrun).1] at hf
  cases hf

/-- **Safe input refuses a segment in front of what ends a statement** exactly when it refuses it
alone. -/
theorem refuses_segment_iff (hseg : Unbroken seg) (htail : EndsStatement (headKind tail)) :
    Refuses safe head (seg ++ tail) ↔ Refuses safe head seg := by
  cases tail with
  | nil => rw [List.append_nil]
  | cons semi more =>
    have hsemi : semi.kind = .symbol .semicolon := by simpa [EndsStatement] using htail
    by_cases h : Swallows (head :: seg)
    · refine iff_of_false ?_ (not_refuses_of_swallows h)
      rintro ⟨left, hrun⟩
      obtain ⟨-, g, -, hg, -, hrun'⟩ := run_statement_of_swallows safe h hsemi more
      rw [show (closedStatement safe head).run _ = .fail g more from run_bind_fail hrun'] at hrun
      rw [(Outcome.fail.inj hrun).1] at hg
      cases hg
    · have hext := extends_closedStatement safe h hseg
        (show headKind (semi :: more) = some (.symbol .semicolon) by simp [hsemi])
      unfold Refuses
      cases hrun : (closedStatement safe head).run seg with
      | ok statement rest =>
        rw [hrun] at hext
        rw [show (closedStatement safe head).run (seg ++ semi :: more) = _ from hext]
        simp
      | fail f rest =>
        rw [hrun] at hext
        obtain ⟨g, hg, hrun'⟩ := hext
        rw [hrun']
        constructor
        · rintro ⟨left, hleft⟩
          rw [(Outcome.fail.inj hleft).1] at hg
          exact ⟨rest, by rw [Fault.eq_approximate_of_kind hg.symm]⟩
        · rintro ⟨left, hleft⟩
          rw [(Outcome.fail.inj hleft).1] at hg
          exact ⟨rest ++ semi :: more, by rw [Fault.eq_approximate_of_kind hg]⟩

/-- A script goes on behind the semicolon of a segment that is refused. -/
theorem onward_of_refuses (hseg : Unbroken seg) (htail : EndsStatement (headKind tail))
    (h : Refuses safe head seg) :
    onward ((closedStatement safe head).run (seg ++ tail)) = tail.drop 1 := by
  cases tail with
  | nil =>
    rw [List.append_nil]
    exact onward_of_unbroken safe head hseg
  | cons semi more =>
    have hsemi : isSemicolon semi = true := by simpa [EndsStatement, isSemicolon] using htail
    rw [onward_append safe hseg hsemi, if_neg fun hsw => not_refuses_of_swallows hsw h]
    rfl

/-- Tokens at another place are refused as they are refused here. -/
theorem Refuses.alike (h : Refuses safe head seg) (hhead : head.kind = head'.kind)
    (hseg : Alike seg seg') : Refuses safe head' seg' := by
  obtain ⟨left, hrun⟩ := h
  have hgated := gated_closedStatement safe hhead hseg
  rw [hrun] at hgated
  generalize hrun' : (closedStatement safe head').run seg' = o at hgated
  cases hgated with
  | fail hkind =>
    obtain rfl := Fault.eq_approximate_of_kind hkind
    exact ⟨_, hrun'⟩
  | refused hsafe => cases hsafe

/-- Tokens at another place are read as they are read here. -/
theorem run_closedStatement_of_alike
    (h : (closedStatement safe head).run seg = .ok statement []) (hhead : head.kind = head'.kind)
    (hseg : Alike seg seg') : (closedStatement safe head').run seg' = .ok statement [] := by
  have hgated := gated_closedStatement safe hhead hseg
  rw [h] at hgated
  generalize (closedStatement safe head').run seg' = o at hgated
  cases hgated with
  | ok _ hrest => rw [hrest.eq_nil]
  | refused hsafe => cases hsafe

/-- The tokens up to the next semicolon, and the rest. -/
theorem exists_segment (ts : List Token) :
    ∃ seg tail, ts = seg ++ tail ∧ Unbroken seg ∧ EndsStatement (headKind tail) := by
  cases ts using segments_induction with
  | last ts hts => exact ⟨ts, [], by simp, hts, .inl rfl⟩
  | step seg semi more hseg hsemi =>
    have hkind : semi.kind = .symbol .semicolon := by simpa [isSemicolon] using hsemi
    exact ⟨seg, semi :: more, rfl, hseg, .inr (by simp [hkind])⟩

theorem unbroken_of_alike (h : Alike seg seg') (hseg : Unbroken seg) : Unbroken seg' := by
  intro u hu
  have hmem : u.kind ∈ seg'.map Token.kind := List.mem_map_of_mem hu
  rw [← h] at hmem
  obtain ⟨t, ht, hkind⟩ := List.mem_map.mp hmem
  exact hkind ▸ hseg t ht

/-! ## Scripts -/

/--
The script `s'` reads a longer text in which that of `s` stands behind `d` bytes, and both are at
the same point of it. In `s'` the tokens `tail` come behind the text of `s`. In neither text a
character is skipped.
-/
structure Embedded (d : Nat) (tail : List Token) (s s' : Script) : Prop where
  scan : s.scan = Scan.ofChars s.scan.source
  source : ∃ front back, byteSize front = d ∧ s'.scan.source = front ++ (s.scan.source ++ back)
  suffix : s.rest <:+ s.scan.tokens
  suffix' : s'.rest <:+ s'.scan.tokens
  rest : ∃ ts, AllMoved d s.rest ts ∧
    s'.rest.dropWhile isSemicolon = (ts ++ tail).dropWhile isSemicolon
  errors : s.scan.errors = []
  errors' : s'.scan.errors = []

/-- Semicolons in front of a statement do not count. -/
theorem step_eq_of_dropWhile {s : Script} {ts us : List Token} (safe : Bool)
    (h : ts.dropWhile isSemicolon = us.dropWhile isSemicolon) :
    (s.goOn ts).step safe = (s.goOn us).step safe := by
  unfold step
  rw [rest_goOn, rest_goOn, h]
  rfl

/-- A semicolon that ends a statement may be missing in front of the next one. -/
theorem dropWhile_drop_one (h : EndsStatement (headKind tail)) :
    (tail.drop 1).dropWhile isSemicolon = tail.dropWhile isSemicolon := by
  cases tail with
  | nil => rfl
  | cons semi more =>
    have hsemi : isSemicolon semi = true := by simpa [EndsStatement, isSemicolon] using h
    rw [List.drop_one, List.tail_cons, List.dropWhile_cons, if_pos hsemi]

/-- Tokens end where the last of them ends. -/
theorem endBefore_concat {s : Script} {before init rest : List Token} {t : Token}
    (h : s.scan.tokens = before ++ (init ++ [t] ++ rest)) : s.endBefore rest = t.endOffset := by
  have hthrough : s.scan.tokens = (before ++ init ++ [t]) ++ rest := by simp [h]
  exact endBefore_eq hthrough List.getLast?_concat

namespace Embedded

variable {d : Nat} {s s' : Script}

/-- Both scripts go on. -/
theorem goOn (h : Embedded d tail s s') {ts us vs : List Token} (hts : ts <:+ s.scan.tokens)
    (hus : us <:+ s'.scan.tokens) (hmoved : AllMoved d ts vs)
    (hrest : us.dropWhile isSemicolon = (vs ++ tail).dropWhile isSemicolon) :
    Embedded d tail (s.goOn ts) (s'.goOn us) :=
  ⟨h.scan, h.source, hts, hus, ⟨vs, hmoved, hrest⟩, h.errors, h.errors'⟩

/-- **The text of a statement is the same in both scripts.** It goes from the beginning of its first
token to the end of its last one. -/
theorem text_eq (h : Embedded d tail s s') {before before' rest rest' : List Token}
    (htokens : s.scan.tokens = before ++ (head :: seg ++ rest))
    (htokens' : s'.scan.tokens = before' ++ (head' :: seg' ++ rest'))
    (hmoved : AllMoved d (head :: seg) (head' :: seg')) :
    slice s'.scan.source head'.start.offset (s'.endBefore rest') =
      slice s.scan.source head.start.offset (s.endBefore rest) := by
  obtain ⟨init, t, hinit⟩ : ∃ init t, head :: seg = init ++ [t] :=
    ⟨_, _, (List.dropLast_concat_getLast (List.cons_ne_nil head seg)).symm⟩
  obtain ⟨init', last', hinit', -, hlast'⟩ := (hinit ▸ hmoved).exists_append
  obtain ⟨t', rfl, ht'⟩ : ∃ t', last' = [t'] ∧ t.Moved d t' := by
    cases hlast' with
    | cons ht htail =>
      cases htail
      exact ⟨_, rfl, ht⟩
  have hhead : head.Moved d head' := by
    cases hmoved with
    | cons hhead _ => exact hhead
  have hend : s.endBefore rest = t.endOffset := endBefore_concat (hinit ▸ htokens)
  have hend' : s'.endBefore rest' = t'.endOffset := endBefore_concat (hinit' ▸ htokens')
  rw [hend, hend', hhead.offset, ht'.endOffset]
  obtain ⟨front, back, rfl, hsource⟩ := h.source
  rw [h.scan] at htokens
  have hmem : ∀ u ∈ head :: seg, u ∈ (Scan.ofChars s.scan.source).tokens := by
    intro u hu
    rw [htokens]
    exact List.mem_append_right _ (List.mem_append_left _ hu)
  have hlast : t ∈ head :: seg := by simp [hinit]
  have hle : head.start.offset ≤ t.endOffset :=
    Scan.start_le_endOffset htokens (List.mem_append_left rest hlast)
  rw [hsource]
  exact Scan.slice_moved (hmem head List.mem_cons_self) (hmem t hlast) hle front back

/-- **A statement is the same in both scripts.** -/
theorem parsed_eq (h : Embedded d tail s s') {before before' rest rest' : List Token}
    (htokens : s.scan.tokens = before ++ (head :: seg ++ rest))
    (htokens' : s'.scan.tokens = before' ++ (head' :: seg' ++ rest'))
    (hmoved : AllMoved d (head :: seg) (head' :: seg')) (statement : Statement) :
    s'.parsed statement (head' :: seg' ++ rest') rest' =
      s.parsed statement (head :: seg ++ rest) rest := by
  have hshape : ∀ (r : Script) (ts us : List Token), r.scan.errors = [] →
      r.parsed statement ts us =
        ⟨statement, String.ofList (trim (slice r.scan.source (r.startOf ts) (r.endBefore us))),
          false⟩ :=
    fun r ts us hr => by rw [← skipped_parsed hr statement ts us]; rfl
  rw [hshape s' _ _ h.errors', hshape s _ _ h.errors]
  exact congrArg (Parsed.mk statement · false)
    (congrArg (String.ofList <| trim ·) (h.text_eq htokens htokens' hmoved))

/-- The tokens of the next statement in the longer text. -/
theorem exists_next (h : Embedded d tail s s') {rest : List Token}
    (hdrop : s.rest.dropWhile isSemicolon = head :: seg ++ rest) :
    ∃ head' seg' rest', AllMoved d (head :: seg) (head' :: seg') ∧ AllMoved d rest rest' ∧
      s'.rest.dropWhile isSemicolon = head' :: seg' ++ (rest' ++ tail) := by
  obtain ⟨all, hall, hdrop'⟩ := h.rest
  have hmoved := hall.dropWhile
  rw [hdrop] at hmoved
  obtain ⟨own, rest', hown, hmoved, hrest⟩ := hmoved.exists_append
  cases hmoved with
  | @cons _ head' _ seg' hhead hseg =>
    refine ⟨head', seg', rest', .cons hhead hseg, hrest, ?_⟩
    rw [hdrop', List.dropWhile_append, hown]
    simp

/-- What ends a statement in the text ends it in the longer one. -/
theorem endsStatement_append {rest rest' : List Token} (hmoved : AllMoved d rest rest')
    (h : EndsStatement (headKind rest)) (htail : EndsStatement (headKind tail)) :
    EndsStatement (headKind (rest' ++ tail)) := by
  cases hmoved with
  | nil => exact htail
  | cons hhead _ =>
    show EndsStatement (some _)
    rw [hhead.kind]
    exact h

/-- Behind a statement both scripts go on behind its semicolon. -/
theorem goOn_drop_one (h : Embedded d tail s s') (htail : EndsStatement (headKind tail))
    {rest rest' : List Token} (hrest : rest <:+ s.rest) (hrest' : rest' ++ tail <:+ s'.rest)
    (hmoved : AllMoved d rest rest') :
    Embedded d tail (s.goOn (rest.drop 1)) (s'.goOn ((rest' ++ tail).drop 1)) := by
  refine h.goOn ((List.drop_suffix 1 rest).trans (hrest.trans h.suffix))
    ((List.drop_suffix 1 _).trans (hrest'.trans h.suffix')) (List.forall₂_drop 1 hmoved) ?_
  cases rest' with
  | nil => exact dropWhile_drop_one htail
  | cons t ts => rfl

/-- **One statement is read alike in both scripts,** unless it fails by the grammar. -/
theorem step (h : Embedded d tail s s') (htail : EndsStatement (headKind tail)) {r : Step}
    {next : Script} (hstep : s.step safe = (r, next)) (hnext : r ≠ .done)
    (hmild : ∀ e, r = .failed e → e.kind = .domain) :
    ∃ ts, s'.step safe = (r, s'.goOn ts) ∧ Embedded d tail next (s'.goOn ts) := by
  cases hdrop : s.rest.dropWhile isSemicolon with
  | nil =>
    rw [step_eq_done safe hdrop] at hstep
    exact absurd (Prod.mk.inj hstep).1.symm hnext
  | cons head ts =>
    obtain ⟨seg, rest, rfl, hseg, hrest⟩ := exists_segment ts
    obtain ⟨head', seg', rest', hmoved, hrest', hdrop'⟩ := h.exists_next hdrop
    have halike : Alike (head :: seg) (head' :: seg') := hmoved.alike
    obtain ⟨hhead, hsegs⟩ := List.cons.inj halike
    have hseg' : Unbroken seg' := unbroken_of_alike hsegs hseg
    have hends : EndsStatement (headKind (rest' ++ tail)) :=
      endsStatement_append hrest' hrest htail
    have hsuffix : head :: seg ++ rest <:+ s.rest := by
      rw [List.cons_append, ← hdrop]
      exact List.dropWhile_suffix _
    have hsuffix' : head' :: seg' ++ (rest' ++ tail) <:+ s'.rest := by
      rw [← hdrop']
      exact List.dropWhile_suffix _
    have honward := h.goOn_drop_one htail ((List.suffix_append _ rest).trans hsuffix)
      ((List.suffix_append _ _).trans hsuffix') hrest'
    rw [List.cons_append] at hdrop'
    rw [step_eq safe hdrop] at hstep
    have hstep' := step_eq safe hdrop'
    cases hrun : (closedStatement safe head).run (seg ++ rest) with
    | ok statement left =>
      obtain ⟨halone, rfl⟩ := (run_closedStatement_segment_iff hseg hrest).mp hrun
      have hrun' := (run_closedStatement_segment_iff hseg' hends).mpr
        ⟨run_closedStatement_of_alike halone hhead hsegs, rfl⟩
      rw [hrun] at hstep
      rw [hrun'] at hstep'
      obtain ⟨rfl, rfl⟩ := Prod.mk.inj hstep
      obtain ⟨before, hbefore⟩ := hsuffix.trans h.suffix
      obtain ⟨before', hbefore'⟩ := hsuffix'.trans h.suffix'
      refine ⟨_, hstep'.trans (congrArg (Prod.mk · _) ?_), honward⟩
      exact congrArg Step.parsed (h.parsed_eq hbefore.symm hbefore'.symm hmoved statement)
    | fail fault left =>
      rw [hrun] at hstep
      obtain ⟨rfl, rfl⟩ := Prod.mk.inj hstep
      have hkind : fault.kind = .domain := by
        rw [← fault.kind_error s.scan.stop]
        exact hmild _ rfl
      obtain rfl := Fault.eq_approximate_of_kind hkind
      have hrefuses : Refuses safe head seg := (refuses_segment_iff hseg hrest).mp ⟨left, hrun⟩
      have hrefuses' : Refuses safe head' seg' := hrefuses.alike hhead hsegs
      obtain ⟨left', hrun'⟩ := (refuses_segment_iff hseg' hends).mpr hrefuses'
      rw [hrun'] at hstep'
      rw [← onward_of_refuses hseg hrest hrefuses, ← onward_of_refuses hseg' hends hrefuses', hrun,
        hrun'] at honward
      exact ⟨_, hstep', honward⟩

/-- **At the end of the text** the longer one goes on with what comes behind it. -/
theorem step_done (h : Embedded d tail s s') {next : Script}
    (hstep : s.step safe = (.done, next)) : s'.step safe = (s'.goOn tail).step safe := by
  cases hdrop : s.rest.dropWhile isSemicolon with
  | cons head ts =>
    rw [step_eq safe hdrop] at hstep
    cases hrun : (closedStatement safe head).run ts <;> rw [hrun] at hstep <;> cases hstep
  | nil =>
    obtain ⟨all, hall, hdrop'⟩ := h.rest
    have hmoved := hall.dropWhile
    rw [hdrop] at hmoved
    have hnil := List.forall₂_nil_left_iff.mp hmoved
    rw [List.dropWhile_append, hnil] at hdrop'
    exact step_eq_of_dropWhile safe hdrop'

end Embedded

/-- The script of a text, nothing of it read. -/
theorem embedded_ofText [Normalizer] {text : String} {d : Nat} {s' : Script}
    (errors : (Scan.ofText text).errors = []) (errors' : s'.scan.errors = [])
    (source : ∃ front back, byteSize front = d ∧
      s'.scan.source = front ++ (Normalizer.normalize text.toList ++ back))
    (suffix' : s'.rest <:+ s'.scan.tokens)
    (rest : ∃ ts, AllMoved d (Scan.ofText text).tokens ts ∧
      s'.rest.dropWhile isSemicolon = (ts ++ tail).dropWhile isSemicolon) :
    Embedded d tail (ofText text).takePending.2 s' :=
  ⟨rfl, source, List.suffix_rfl, suffix', rest, errors, errors'⟩

end Script

/-! ## Two texts -/

/-- The end of a line and a semicolon stay between two texts. -/
theorem Scan.ofText_append [Normalizer] (A B : String) :
    ofText (A ++ "\n;" ++ B) =
      ofChars (Normalizer.normalize A.toList ++ '\n' :: ';' :: Normalizer.normalize B.toList) := by
  have hchars : (A ++ "\n;" ++ B).toList = A.toList ++ '\n' :: ([] ++ ';' :: B.toList) := by
    simp
  rw [ofText, hchars, Normalizer.normalize_append_cons (by decide),
    Normalizer.normalize_append_cons (by decide), Normalizer.normalize_nil, List.nil_append]

/-- **Two texts with the end of a line and a semicolon between them** are both read in the longer
text, one after the other. -/
theorem Script.exists_embedded_append [Normalizer] {A B : String}
    (hA : (Scan.ofText A).errors = []) (hB : (Scan.ofText B).errors = []) :
    let whole := (ofText (A ++ "\n;" ++ B)).takePending.2
    whole.scan.errors = [] ∧ ∃ d tail, EndsStatement (headKind tail) ∧
      Embedded 0 tail (ofText A).takePending.2 whole ∧
      Embedded d [] (ofText B).takePending.2 (whole.goOn tail) := by
  intro whole
  obtain ⟨semi, moved, hsemi, htokens, hmoved, herrors⟩ :=
    exists_tokens_joined (Normalizer.normalize A.toList) (Normalizer.normalize B.toList)
  rw [← Scan.ofText_append] at htokens herrors
  have hwhole : whole.scan.errors = [] := herrors.mpr ⟨hA, hB⟩
  have hsource : whole.scan.source =
      Normalizer.normalize A.toList ++ '\n' :: ';' :: Normalizer.normalize B.toList :=
    congrArg Scan.source (Scan.ofText_append A B)
  have hkind : semi.kind = .symbol .semicolon := by simpa [isSemicolon] using hsemi
  let d := byteSize (Normalizer.normalize A.toList ++ ['\n', ';'])
  refine ⟨hwhole, d, semi :: moved, .inr (congrArg some hkind), ?_, ?_⟩
  · refine embedded_ofText hA hwhole ⟨[], _, rfl, hsource⟩ List.suffix_rfl ?_
    exact ⟨_, .refl _, congrArg (List.dropWhile isSemicolon) htokens⟩
  · refine embedded_ofText hB hwhole ⟨_, [], rfl, ?_⟩ ?_ ⟨moved, hmoved, ?_⟩
    · rw [List.append_nil, List.append_assoc]
      exact hsource
    · show semi :: moved <:+ (Scan.ofText (A ++ "\n;" ++ B)).tokens
      rw [htokens]
      exact List.suffix_append _ _
    · show (semi :: moved).dropWhile isSemicolon = _
      rw [List.append_nil, List.dropWhile_cons, if_pos hsemi]

end PaveScript
