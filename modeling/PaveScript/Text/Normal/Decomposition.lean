import PaveScript.Text.Normal

/-!
# Decompositions are complete

Following the table three times decomposes every character completely, so that no character of a
full decomposition decomposes, and the full decomposition of a character is that of its parts.

The table is checked by levels: `nested depth` lists the entries that nest more than `depth` deep,
and the third list is empty. A set of characters is a number with a bit for each.
-/

namespace PaveScript.Text.Normal

/-! ## Facts about the tables -/

/-- The characters that a list decomposes, as the bits of a number. -/
def keySet : List (Nat × List Nat) → Nat
  | [] => 0
  | (c, _) :: rest => keySet rest ||| 1 <<< c

/-- The entries of the table that nest more than `depth` deep. -/
def nested : (depth : Nat) → List (Nat × List Nat)
  | 0 => decompositionTable
  | depth + 1 =>
    (nested depth).filter fun (_, parts) => parts.any (keySet (nested depth)).testBit

/-- No entry nests deeper than three, the keys are neither letters of syllables nor the byte order
mark, and the parts are characters that lie below or beyond the syllables. -/
theorem decompositionTable_checked :
    nested 3 = [] ∧
      ∀ entry ∈ decompositionTable,
        (entry.1 < leadBase ∨ trailBase + 28 ≤ entry.1 ∧ entry.1 ≠ 0xFEFF) ∧
          ∀ p ∈ entry.2, p < syllableBase ∨ 0xDFFF < p ∧ p < 0x110000 := by
  -- One evaluation of the table serves all its facts.
  decide +kernel

theorem isValidChar_of_part {entry : Nat × List Nat} (h : entry ∈ decompositionTable) {p : Nat}
    (hp : p ∈ entry.2) : p.isValidChar ∧ isSyllable p = false := by
  have hbounds := (decompositionTable_checked.2 entry h).2 p hp
  rw [isSyllable, Bool.and_eq_false_iff, decide_eq_false_iff_not, decide_eq_false_iff_not]
  unfold Nat.isValidChar
  simp only [syllableBase] at hbounds ⊢
  omega

theorem testBit_keySet {entry : Nat × List Nat} {table : List (Nat × List Nat)}
    (h : entry ∈ table) : (keySet table).testBit entry.1 = true := by
  induction table with
  | nil => cases h
  | cons first rest ih =>
    rw [keySet, Nat.testBit_or, Bool.or_eq_true]
    rcases List.mem_cons.mp h with rfl | hrest
    · exact .inr (by rw [Nat.one_shiftLeft, Nat.testBit_two_pow_self])
    · exact .inl (ih hrest)

/-- An entry with a key of one level among its parts belongs to the next. -/
theorem mem_nested_succ {depth : Nat} {entry deep : Nat × List Nat}
    (hentry : entry ∈ decompositionTable) (hdeep : deep ∈ nested depth) (hpart : deep.1 ∈ entry.2) :
    entry ∈ nested (depth + 1) := by
  induction depth with
  | zero =>
    exact List.mem_filter.mpr
      ⟨hentry, List.any_eq_true.mpr ⟨_, hpart, testBit_keySet hdeep⟩⟩
  | succ depth ih =>
    exact List.mem_filter.mpr
      ⟨ih (List.mem_filter.mp hdeep).1, List.any_eq_true.mpr ⟨_, hpart, testBit_keySet hdeep⟩⟩

/-! ## Parts -/

theorem toNat_ofNat {n : Nat} (h : n.isValidChar) : (Char.ofNat n).toNat = n := by
  rw [Char.ofNat, dif_pos h]
  rfl

theorem parts?_of_lookup {c : Char} (h : isSyllable c.toNat = false)
    (hlookup : decompositionTable.lookup c.toNat = none) : parts? c = none := by
  rw [parts?, hlookup]
  split
  · rfl
  · rw [h]; rfl

/-- The letters of syllables do not decompose. -/
theorem parts?_letter {n : Nat} (h : leadBase ≤ n) (h' : n < trailBase + 28) :
    parts? (Char.ofNat n) = none := by
  simp only [leadBase, trailBase] at h h'
  have hn := toNat_ofNat (n := n) (.inl (by omega))
  refine parts?_of_lookup ?_ (List.lookup_eq_none_iff.mpr fun entry hentry => ?_)
  · simp only [hn, isSyllable, syllableBase, Bool.and_eq_false_iff, decide_eq_false_iff_not]
    omega
  · have hkey := (decompositionTable_checked.2 entry hentry).1
    simp only [hn, leadBase, trailBase, bne_iff_ne, ne_eq] at hkey ⊢
    omega

theorem isSyllable_iff {n : Nat} :
    isSyllable n = true ↔ ∃ i, i < 19 * 21 * 28 ∧ n = syllableBase + i := by
  rw [isSyllable, Bool.and_eq_true, decide_eq_true_eq, decide_eq_true_eq]
  constructor
  · rintro ⟨hfrom, hto⟩
    obtain ⟨i, rfl⟩ := Nat.exists_eq_add_of_le hfrom
    exact ⟨i, Nat.lt_of_add_lt_add_left hto, rfl⟩
  · rintro ⟨i, hi, rfl⟩
    exact ⟨Nat.le_add_right _ _, Nat.add_lt_add_left hi _⟩

theorem letters_bounds {i p : Nat} (h : i < 19 * 21 * 28) (hp : p ∈ letters i) :
    leadBase ≤ p ∧ p < trailBase + 28 := by
  simp only [letters, leadBase, vowelBase, trailBase, List.mem_append, List.mem_cons,
    List.not_mem_nil, or_false] at hp ⊢
  obtain (rfl | rfl) | hp := hp
  · omega
  · omega
  · split at hp
    · cases hp
    · obtain rfl := List.mem_singleton.mp hp
      omega

/-- The letters of a syllable do not decompose. -/
theorem parts?_of_syllable {c : Char} (h : isSyllable c.toNat = true) {parts : List Char}
    (hparts : parts? c = some parts) : ∀ p ∈ parts, parts? p = none := by
  obtain ⟨i, hi, hc⟩ := isSyllable_iff.mp h
  rw [parts?, if_pos h] at hparts
  split at hparts
  · cases hparts
  · obtain rfl := Option.some.inj hparts
    intro p hp
    obtain ⟨n, hn, rfl⟩ := List.mem_map.mp hp
    rw [hc, Nat.add_sub_cancel_left] at hn
    obtain ⟨hfrom, hto⟩ := letters_bounds hi hn
    exact parts?_letter hfrom hto

/-- Any other character that decomposes is listed with its parts. -/
theorem parts?_of_listed {c : Char} (h : isSyllable c.toNat = false) {parts : List Char}
    (hparts : parts? c = some parts) :
    ∃ entry ∈ decompositionTable, entry.1 = c.toNat ∧ parts = entry.2.map Char.ofNat := by
  rw [parts?, h, if_neg Bool.false_ne_true] at hparts
  split at hparts
  · cases hparts
  · obtain ⟨numbers, hlookup, rfl⟩ := Option.map_eq_some_iff.mp hparts
    obtain ⟨front, back, htable, -⟩ := List.lookup_eq_some_iff.mp hlookup
    exact ⟨_, htable ▸ List.mem_append_right _ List.mem_cons_self, rfl, rfl⟩

/-! ## Depth -/

/-- The decomposition of a character nests at most `depth` deep. -/
def Settles : (depth : Nat) → Char → Prop
  | 0, c => parts? c = none
  | depth + 1, c => ∀ parts, parts? c = some parts → ∀ p ∈ parts, Settles depth p

theorem settles_of_none {c : Char} (h : parts? c = none) (depth : Nat) : Settles depth c := by
  cases depth with
  | zero => exact h
  | succ depth => intro parts hparts; rw [h] at hparts; cases hparts

theorem Settles.succ {depth : Nat} {c : Char} (h : Settles depth c) : Settles (depth + 1) c := by
  induction depth generalizing c with
  | zero => exact settles_of_none h 1
  | succ depth ih => exact fun parts hparts p hp => ih (h parts hparts p hp)

/-- A character that is no key of a level settles there. -/
theorem settles_of_not_key {depth : Nat} {c : Char} (hc : isSyllable c.toNat = false)
    (h : ∀ entry ∈ nested depth, entry.1 ≠ c.toNat) : Settles depth c := by
  induction depth generalizing c with
  | zero =>
    refine parts?_of_lookup hc (List.lookup_eq_none_iff.mpr fun entry hentry => ?_)
    simpa using (h entry hentry).symm
  | succ depth ih =>
    intro parts hparts p hp
    obtain ⟨entry, hentry, hkey, rfl⟩ := parts?_of_listed hc hparts
    obtain ⟨n, hn, rfl⟩ := List.mem_map.mp hp
    obtain ⟨hvalid, hno⟩ := isValidChar_of_part hentry hn
    refine ih (by rwa [toNat_ofNat hvalid]) fun deep hdeep heq => h entry ?_ hkey
    rw [toNat_ofNat hvalid] at heq
    exact mem_nested_succ hentry hdeep (heq ▸ hn)

/-- Every decomposition nests at most three deep. -/
theorem settles_three (c : Char) : Settles 3 c := by
  cases hc : isSyllable c.toNat with
  | false => exact settles_of_not_key hc (by rw [decompositionTable_checked.1]; simp)
  | true =>
    intro parts hparts p hp
    exact settles_of_none (parts?_of_syllable hc hparts p hp) 2

/-! ## Full decompositions -/

theorem decompose_of_none {c : Char} (h : parts? c = none) (depth : Nat) :
    decompose depth c = [c] := by
  cases depth with
  | zero => rfl
  | succ depth => rw [decompose, h]

theorem decompose_succ {depth : Nat} {c : Char} (h : Settles depth c) :
    decompose (depth + 1) c = decompose depth c := by
  induction depth generalizing c with
  | zero => rw [decompose_of_none h, decompose_of_none h]
  | succ depth ih =>
    rw [decompose, decompose]
    cases hparts : parts? c with
    | none => rfl
    | some parts =>
      have hmap := List.map_congr_left fun p hp => ih (h parts hparts p hp)
      simp only [List.flatMap_def, hmap]

/-- The full decomposition of a character is that of its parts. -/
theorem decompose_of_parts {c : Char} {parts : List Char} (h : parts? c = some parts) :
    decompose nesting c = parts.flatMap (decompose nesting) := by
  have hdepth : decompose nesting = decompose 3 := funext fun p => decompose_succ (settles_three p)
  rw [hdepth, ← decompose_succ (settles_three c), decompose, h]

/-- No character of a full decomposition decomposes. -/
theorem parts?_of_mem_decompose {depth : Nat} {c d : Char} (h : Settles depth c)
    (hd : d ∈ decompose depth c) : parts? d = none := by
  induction depth generalizing c with
  | zero =>
    obtain rfl := List.mem_singleton.mp hd
    exact h
  | succ depth ih =>
    rw [decompose] at hd
    cases hparts : parts? c with
    | none =>
      rw [hparts] at hd
      obtain rfl := List.mem_singleton.mp hd
      exact hparts
    | some parts =>
      rw [hparts] at hd
      obtain ⟨p, hp, hd⟩ := List.mem_flatMap.mp hd
      exact ih (h parts hparts p hp) hd

/-- A text of characters that do not decompose is its own decomposition. -/
theorem flatMap_decompose_of_none {cs : List Char} (h : ∀ c ∈ cs, parts? c = none) :
    cs.flatMap (decompose nesting) = cs := by
  induction cs with
  | nil => rfl
  | cons c rest ih =>
    obtain ⟨hc, hrest⟩ := List.forall_mem_cons.mp h
    rw [List.flatMap_cons, decompose_of_none hc, ih hrest]
    rfl

end PaveScript.Text.Normal
