import PaveScript.Text.Normal.Decomposition
import PaveScript.Text.Normal.Order

/-!
# Composition undoes decomposition

A composed text keeps its ordered decomposition: `order_decompose_composeFrom` follows the marks
through `composeFrom`. Composing what is decomposed and ordered again therefore gives the same
text, and so the form is reached in one step. Inert characters take part in none of the steps.
With both, the tables are a `Normalizer`.
-/

namespace PaveScript.Text.Normal

/-! ## Facts about the tables -/

/-- Whether a list of numbers ascends. -/
def ascending : List Nat → Bool
  | a :: b :: rest => decide (a < b) && ascending (b :: rest)
  | _ => true

/-- The composed characters ascend, lie beyond ASCII and are no syllables; neither their parts nor
the marks are inert. -/
theorem composites_checked :
    ascending (composites.map (·.1)) = true ∧
      (∀ entry ∈ composites,
        (0xC0 ≤ entry.1 ∧ entry.1.isValidChar ∧ isSyllable entry.1 = false) ∧
          ∀ part ∈ [entry.2.1, entry.2.2], 0x3C ≤ part ∧ part ≠ 0xFEFF) ∧
      ∀ range ∈ classes, 0x3C ≤ range.1 ∧ (range.2.1 < 0xFEFF ∨ 0xFEFF < range.1) := by
  decide +kernel

theorem lt_of_ascending {a b : Nat} {rest : List Nat} (h : ascending (a :: rest) = true)
    (hb : b ∈ rest) : a < b := by
  induction rest generalizing a with
  | nil => cases hb
  | cons next rest ih =>
    rw [ascending, Bool.and_eq_true, decide_eq_true_eq] at h
    rcases List.mem_cons.mp hb with rfl | hb
    · exact h.1
    · exact Nat.lt_trans h.1 (ih h.2 hb)

theorem lookup_of_ascending {c a b : Nat} {table : List (Nat × Nat × Nat)}
    (hsorted : ascending (table.map (·.1)) = true) (h : (c, a, b) ∈ table) :
    (table.map fun (c, a, b) => (c, [a, b])).lookup c = some [a, b] := by
  induction table with
  | nil => cases h
  | cons entry rest ih =>
    rw [List.map_cons, List.lookup_cons]
    rcases List.mem_cons.mp h with rfl | hrest
    · simp
    · have hlt : entry.1 < c := lt_of_ascending hsorted (List.mem_map_of_mem hrest)
      have hrest' : ascending (rest.map (·.1)) = true := by
        cases rest with
        | nil => rfl
        | cons next rest => exact ((Bool.and_eq_true _ _).mp hsorted).2
      rw [show (c == entry.1) = false from beq_false_of_ne (Nat.ne_of_gt hlt)]
      exact ih hrest' hrest

/-! ## Composed characters -/

theorem parts?_of_composite {a b : Char} {c : Nat} (h : (c, a.toNat, b.toNat) ∈ composites) :
    parts? (Char.ofNat c) = some [a, b] := by
  obtain ⟨hlarge, hvalid, hsyllable⟩ := (composites_checked.2.1 _ h).1
  have hlookup : decompositionTable.lookup c = some [a.toNat, b.toNat] := by
    rw [decompositionTable, List.map_append, List.append_assoc, List.lookup_append,
      lookup_of_ascending composites_checked.1 h]
    rfl
  rw [parts?, toNat_ofNat hvalid, if_neg (Nat.not_lt.mpr hlarge), hsyllable, hlookup]
  simp [Char.ofNat_toNat]

theorem parts?_of_index {i : Nat} (h : i < 19 * 21 * 28) {c : Char}
    (hc : c.toNat = syllableBase + i) : parts? c = some ((letters i).map Char.ofNat) := by
  have hlarge : ¬ syllableBase + i < 0xC0 :=
    Nat.not_lt.mpr (Nat.le_trans (by decide) (Nat.le_add_right _ _))
  rw [parts?, hc, if_neg hlarge, if_pos (isSyllable_iff.mpr ⟨i, h, rfl⟩), Nat.add_sub_cancel_left]

theorem toNat_syllable {i : Nat} (h : i < 19 * 21 * 28) :
    (Char.ofNat (syllableBase + i)).toNat = syllableBase + i :=
  toNat_ofNat (.inl (Nat.lt_of_lt_of_le (Nat.add_lt_add_left h _) (by decide)))

/-- A syllable is composed of a leading letter and a vowel, or closed with a trailing letter. -/
theorem composeSyllable?_cases {a b c : Char} (h : composeSyllable? a b = some c) :
    (∃ l v, l < 19 ∧ v < 21 ∧ a.toNat = leadBase + l ∧ b.toNat = vowelBase + v ∧
      c.toNat = syllableBase + (l * 21 + v) * 28) ∨
    ∃ i t, i + t < 19 * 21 * 28 ∧ i % 28 = 0 ∧ 0 < t ∧ t < 28 ∧ a.toNat = syllableBase + i ∧
      b.toNat = trailBase + t ∧ c.toNat = syllableBase + (i + t) := by
  rw [composeSyllable?] at h
  split at h
  · rename_i hab
    simp only [Bool.and_eq_true, decide_eq_true_eq, and_assoc] at hab
    obtain ⟨hl, hl', hv, hv'⟩ := hab
    obtain ⟨l, hl⟩ := Nat.exists_eq_add_of_le hl
    obtain ⟨v, hv⟩ := Nat.exists_eq_add_of_le hv
    rw [hl] at hl'
    rw [hv] at hv'
    have hl' := Nat.lt_of_add_lt_add_left hl'
    have hv' := Nat.lt_of_add_lt_add_left hv'
    obtain rfl := Option.some.inj h
    refine .inl ⟨l, v, hl', hv', hl, hv, ?_⟩
    rw [hl, hv, Nat.add_sub_cancel_left, Nat.add_sub_cancel_left]
    exact toNat_syllable (by omega)
  · split at h
    · rename_i hab
      simp only [Bool.and_eq_true, decide_eq_true_eq, beq_iff_eq, and_assoc] at hab
      obtain ⟨hi, hopen, ht, ht'⟩ := hab
      obtain ⟨i, hi, ha⟩ := isSyllable_iff.mp hi
      obtain ⟨t, hb⟩ := Nat.exists_eq_add_of_le (Nat.le_of_lt ht)
      rw [ha, Nat.add_sub_cancel_left] at hopen
      rw [hb] at ht ht'
      have ht := Nat.pos_of_lt_add_right ht
      have ht' := Nat.lt_of_add_lt_add_left ht'
      obtain rfl := Option.some.inj h
      have hit : i + t < 19 * 21 * 28 := by omega
      refine .inr ⟨i, t, hit, hopen, ht, ht', ha, hb, ?_⟩
      rw [ha, hb, Nat.add_sub_cancel_left, Nat.add_assoc]
      exact toNat_syllable hit
    · cases h

theorem letters_open (l : Nat) {v : Nat} (hv : v < 21) :
    letters ((l * 21 + v) * 28) = [leadBase + l, vowelBase + v] := by
  have hlead : (l * 21 + v) * 28 / (21 * 28) = l := by omega
  have hvowel : (l * 21 + v) * 28 % (21 * 28) / 28 = v := by omega
  rw [letters, hlead, hvowel, if_pos (Nat.mul_mod_left _ _)]
  rfl

theorem letters_closed {i t : Nat} (hi : i % 28 = 0) (ht : 0 < t) (ht' : t < 28) :
    letters (i + t) = letters i ++ [trailBase + t] := by
  have hlead : (i + t) / (21 * 28) = i / (21 * 28) := by omega
  have hvowel : (i + t) % (21 * 28) / 28 = i % (21 * 28) / 28 := by omega
  have htrail : (i + t) % 28 = t := by omega
  rw [letters, letters, hlead, hvowel, htrail, if_pos hi, if_neg (Nat.ne_of_gt ht)]
  rfl

/-- The full decomposition of a composed character is that of its parts. -/
theorem decompose_of_compose {a b c : Char} (h : compose? a b = some c) :
    decompose nesting c = decompose nesting a ++ decompose nesting b := by
  rw [compose?] at h
  split at h
  · rename_i syllable hc
    obtain rfl := Option.some.inj h
    obtain ⟨l, v, hl, hv, ha, hb, hc⟩ | ⟨i, t, hit, hi, ht, ht', ha, hb, hc⟩ :=
      composeSyllable?_cases hc
    · rw [decompose_of_parts (parts?_of_index (by omega) hc), letters_open l hv, ← ha, ← hb]
      simp [Char.ofNat_toNat]
    · rw [decompose_of_parts (parts?_of_index hit hc), letters_closed hi ht ht',
        decompose_of_parts (parts?_of_index (Nat.lt_of_add_right_lt hit) ha), ← hb]
      simp [Char.ofNat_toNat]
  · obtain ⟨⟨c, x, y⟩, hfind, rfl⟩ := Option.map_eq_some_iff.mp h
    have hmem := List.mem_of_find?_eq_some hfind
    have hxy := List.find?_some hfind
    simp only [Bool.and_eq_true, beq_iff_eq] at hxy
    obtain ⟨rfl, rfl⟩ := hxy
    rw [decompose_of_parts (parts?_of_composite hmem)]
    simp

/-! ## The decomposition of a composed text -/

/-- What waits are marks of at most the class of the last one. -/
def Waits (waiting : List Char) : Prop :=
  ∀ m ∈ waiting, classOf m ≠ 0 ∧ classOf m ≤ openClass waiting

theorem waits_nil : Waits [] := by simp [Waits]

/-- **Composing keeps the ordered decomposition.** -/
theorem order_decompose_composeFrom {starter : Char} {waiting rest : List Char}
    (hwaits : Waits waiting) (hsorted : SortedFrom (openClass waiting) rest)
    (hwaiting : ∀ m ∈ waiting, parts? m = none) (hrest : ∀ c ∈ rest, parts? c = none) :
    order ((composeFrom starter waiting rest).flatMap (decompose nesting)) =
      order (decompose nesting starter ++ (waiting.reverse ++ rest)) := by
  induction rest generalizing starter waiting with
  | nil =>
    rw [composeFrom, List.flatMap_cons, List.append_nil,
      flatMap_decompose_of_none (by simpa using hwaiting)]
  | cons c rest ih =>
    obtain ⟨hc, hrest⟩ := List.forall_mem_cons.mp hrest
    obtain ⟨hopen, hsorted⟩ := hsorted
    rw [composeFrom]
    split
    · -- The mark composes: it stood after marks of lower class only.
      rename_i composed hcompose
      obtain ⟨hpass, hcompose⟩ := Option.ite_none_left_eq_some.mp hcompose
      have hlt : ∀ m ∈ waiting, classOf m ≠ 0 ∧ classOf m < classOf c := by
        intro m hm
        refine ⟨(hwaits m hm).1, Nat.lt_of_le_of_lt (hwaits m hm).2 (Nat.lt_of_not_le ?_)⟩
        simpa [List.ne_nil_of_mem hm] using hpass
      have hsorted' : SortedFrom (openClass waiting) rest := by
        cases waiting with
        | nil => exact hsorted.of_le (Nat.zero_le _)
        | cons w waiting => exact hsorted.of_le (Nat.le_of_lt (hlt w List.mem_cons_self).2)
      rw [ih hwaits hsorted' hwaiting hrest, decompose_of_compose hcompose, decompose_of_none hc,
        List.append_assoc]
      refine order_append_congr ?_ _
      exact (order_move (by simpa using hlt) rest).symm
    · split
      · -- The next starter begins a cluster of its own.
        rename_i hzero
        have hnext : order ((composeFrom c [] rest).flatMap (decompose nesting)) =
            order (decompose nesting c ++ rest) :=
          ih waits_nil (hsorted.of_le (Nat.zero_le _)) (by simp) hrest
        rw [decompose_of_none hc] at hnext
        rw [List.cons_append, List.flatMap_cons, List.flatMap_append,
          flatMap_decompose_of_none (by simpa using hwaiting)]
        exact order_append_congr (order_append_congr hnext _) _
      · -- The mark joins those that wait.
        rename_i hclass
        have hle : openClass waiting ≤ classOf c := hopen.resolve_left hclass
        have hwaits' : Waits (c :: waiting) := List.forall_mem_cons.mpr
          ⟨⟨hclass, Nat.le_refl _⟩, fun m hm => (hwaits m hm).imp_right (Nat.le_trans · hle)⟩
        rw [ih hwaits' hsorted (List.forall_mem_cons.mpr ⟨hc, hwaiting⟩) hrest]
        simp

theorem order_decompose_composeAll {k : Nat} {cs : List Char} (hsorted : SortedFrom k cs)
    (hcs : ∀ c ∈ cs, parts? c = none) :
    order ((composeAll cs).flatMap (decompose nesting)) = order cs := by
  induction cs generalizing k with
  | nil => rfl
  | cons c rest ih =>
    obtain ⟨hc, hrest⟩ := List.forall_mem_cons.mp hcs
    rw [composeAll]
    split
    · rename_i hzero
      rw [order_decompose_composeFrom waits_nil (hsorted.2.of_le (Nat.zero_le _)) (by simp) hrest,
        decompose_of_none hc]
      rfl
    · rw [List.flatMap_cons, decompose_of_none hc]
      exact order_append_congr (ih hsorted.2 hrest) [c]

/-- **A text composed once** is decomposed, ordered and composed to itself. -/
theorem recompose_recompose (cs : List Char) : recompose (recompose cs) = recompose cs := by
  have hplain : ∀ c ∈ order (cs.flatMap (decompose nesting)), parts? c = none := by
    intro c hc
    obtain ⟨d, -, hd⟩ := List.mem_flatMap.mp (mem_order.mp hc)
    exact parts?_of_mem_decompose ((settles_three d).succ) hd
  rw [recompose, recompose, order_decompose_composeAll (sortedFrom_order _) hplain, order_order]

/-! ## Inert characters -/

theorem isInert_iff {c : Char} : isInert c = true ↔ c.toNat < 0x3C ∨ c.toNat = 0xFEFF := by
  rw [isInert, Bool.or_eq_true, decide_eq_true_eq, beq_iff_eq]

variable {i : Char}

theorem parts?_of_inert (h : isInert i = true) : parts? i = none := by
  rcases isInert_iff.mp h with hsmall | hmark
  · rw [parts?, if_pos (Nat.lt_trans hsmall (by decide))]
  · refine parts?_of_lookup (by rw [hmark]; rfl)
      (List.lookup_eq_none_iff.mpr fun entry hentry => ?_)
    have hkey := (decompositionTable_checked.2 entry hentry).1
    simp only [hmark, leadBase, trailBase, bne_iff_ne, ne_eq] at hkey ⊢
    omega

theorem classOf_of_inert (h : isInert i = true) : classOf i = 0 := by
  have hfind :
      (classes.find? fun (first, last, _) => first ≤ i.toNat && i.toNat ≤ last) = none := by
    refine List.find?_eq_none.mpr fun (first, last, k) hrange hin => ?_
    have hbounds : 0x3C ≤ first ∧ (last < 0xFEFF ∨ 0xFEFF < first) := composites_checked.2.2 _ hrange
    simp only [Bool.and_eq_true, decide_eq_true_eq] at hin
    rcases isInert_iff.mp h with hi | hi <;> omega
  rw [classOf, hfind]
  rfl

/-- An inert character composes with none. -/
theorem compose?_of_inert {a b : Char} (h : isInert a = true ∨ isInert b = true) :
    compose? a b = none := by
  simp only [isInert_iff] at h
  have hsyllable : composeSyllable? a b = none := by
    refine Option.eq_none_iff_forall_ne_some.mpr fun c hc => ?_
    obtain ⟨l, v, hl, hv, ha, hb, -⟩ | ⟨i, t, hit, -, -, ht, ha, hb, -⟩ :=
      composeSyllable?_cases hc
    · simp only [leadBase, vowelBase] at ha hb
      omega
    · simp only [syllableBase, trailBase] at ha hb
      omega
  have hfind : (composites.find? fun (_, x, y) => x == a.toNat && y == b.toNat) = none := by
    refine List.find?_eq_none.mpr ?_
    rintro ⟨c, x, y⟩ hentry hab
    have hparts := (composites_checked.2.1 (c, x, y) hentry).2
    simp only [List.forall_mem_cons, Bool.and_eq_true, beq_iff_eq] at hparts hab
    omega
  rw [compose?, hsyllable, hfind]
  rfl

theorem composeFrom_of_inert (h : isInert i = true) (waiting cs : List Char) :
    composeFrom i waiting cs = i :: waiting.reverse ++ composeAll cs := by
  induction cs generalizing waiting with
  | nil => simp [composeFrom, composeAll]
  | cons c rest ih =>
    rw [composeFrom, composeAll, compose?_of_inert (.inl h), ite_self]
    dsimp only
    split
    · rfl
    · rw [ih]
      simp

theorem composeFrom_append_cons (h : isInert i = true) (starter : Char)
    (waiting cs ds : List Char) :
    composeFrom starter waiting (cs ++ i :: ds) =
      composeFrom starter waiting cs ++ i :: composeAll ds := by
  induction cs generalizing starter waiting with
  | nil =>
    rw [List.nil_append, composeFrom, composeFrom, compose?_of_inert (.inr h), ite_self]
    dsimp only
    rw [if_pos (classOf_of_inert h), composeFrom_of_inert h]
    rfl
  | cons c rest ih =>
    rw [List.cons_append, composeFrom, composeFrom]
    split
    · exact ih _ _
    · split
      · rw [ih, List.append_assoc]
      · exact ih _ _

theorem composeAll_append_cons (h : isInert i = true) (cs ds : List Char) :
    composeAll (cs ++ i :: ds) = composeAll cs ++ i :: composeAll ds := by
  induction cs with
  | nil =>
    simp [composeAll, classOf_of_inert h, composeFrom_of_inert h]
  | cons c rest ih =>
    rw [List.cons_append, composeAll, composeAll, composeFrom_append_cons h, ih]
    split <;> rfl

/-- **Inert characters** are left where they are by all three steps. -/
theorem recompose_append_cons (h : isInert i = true) (cs ds : List Char) :
    recompose (cs ++ i :: ds) = recompose cs ++ i :: recompose ds := by
  rw [recompose, List.flatMap_append, List.flatMap_cons, decompose_of_none (parts?_of_inert h),
    List.singleton_append, order_append_cons (classOf_of_inert h), composeAll_append_cons h]
  rfl

end PaveScript.Text.Normal
