import PaveScript.Text.Normal

/-!
# Ordering the marks of a text

Each run of marks is sorted by class, and marks of one class keep their order. A text that is sorted
stays as it is, the order does not depend on where a mark stood among marks of lower class, and a
character of class zero cuts the text into parts that are sorted on their own.
-/

namespace PaveScript.Text.Normal

/-! ## Sorted texts -/

/-- The marks up to the next starter have class `k` at least, and each run ascends. -/
def SortedFrom : Nat → List Char → Prop
  | _, [] => True
  | k, c :: rest => (classOf c = 0 ∨ k ≤ classOf c) ∧ SortedFrom (classOf c) rest

theorem SortedFrom.of_le {k k' : Nat} (hk : k ≤ k') {cs : List Char} (h : SortedFrom k' cs) :
    SortedFrom k cs := by
  cases cs with
  | nil => trivial
  | cons c rest => exact ⟨h.1.imp_right (Nat.le_trans hk), h.2⟩

theorem insertMark_of_sortedFrom {c : Char} {cs : List Char} (h : SortedFrom (classOf c) cs) :
    insertMark c cs = c :: cs := by
  cases cs with
  | nil => rfl
  | cons d rest =>
    rw [insertMark, if_neg]
    rintro ⟨hd, hlt⟩
    exact h.1.elim hd (Nat.not_le_of_lt hlt)

/-- A sorted text stays as it is. -/
theorem order_of_sortedFrom {k : Nat} {cs : List Char} (h : SortedFrom k cs) : order cs = cs := by
  induction cs generalizing k with
  | nil => rfl
  | cons c rest ih =>
    rw [order, ih h.2, insertMark_of_sortedFrom h.2]
    split <;> rfl

theorem SortedFrom.insertMark {k : Nat} {c : Char} (hk : k ≤ classOf c) {cs : List Char}
    (h : SortedFrom k cs) : SortedFrom k (insertMark c cs) := by
  induction cs generalizing k with
  | nil => exact ⟨.inr hk, trivial⟩
  | cons d rest ih =>
    rw [Normal.insertMark]
    split
    · rename_i hd
      exact ⟨h.1, ih (Nat.le_of_lt hd.2) h.2⟩
    · rename_i hd
      refine ⟨.inr hk, ?_, h.2⟩
      by_cases hzero : classOf d = 0
      · exact .inl hzero
      · exact .inr (Nat.le_of_not_lt fun hlt => hd ⟨hzero, hlt⟩)

/-- What is ordered is sorted. -/
theorem sortedFrom_order (cs : List Char) : SortedFrom 0 (order cs) := by
  induction cs with
  | nil => trivial
  | cons c rest ih =>
    rw [order]
    split
    · rename_i hc
      exact ⟨.inl hc, hc ▸ ih⟩
    · exact ih.insertMark (Nat.zero_le _)

@[simp]
theorem order_order (cs : List Char) : order (order cs) = order cs :=
  order_of_sortedFrom (sortedFrom_order cs)

/-! ## Members -/

theorem mem_insertMark {c d : Char} {cs : List Char} : d ∈ insertMark c cs ↔ d = c ∨ d ∈ cs := by
  induction cs with
  | nil => simp [insertMark]
  | cons e rest ih =>
    rw [insertMark]
    split
    · rw [List.mem_cons, ih, List.mem_cons, or_left_comm]
    · rw [List.mem_cons]

theorem mem_order {c : Char} {cs : List Char} : c ∈ order cs ↔ c ∈ cs := by
  induction cs with
  | nil => rfl
  | cons d rest ih =>
    rw [order]
    split
    · rw [List.mem_cons, List.mem_cons, ih]
    · rw [mem_insertMark, List.mem_cons, ih]

/-! ## Moving a mark -/

/-- The order of a text depends on its end only through the order of that end. -/
theorem order_append_congr {cs ds : List Char} (h : order cs = order ds) (front : List Char) :
    order (front ++ cs) = order (front ++ ds) := by
  induction front with
  | nil => exact h
  | cons c rest ih => rw [List.cons_append, List.cons_append, order, order, ih]

/-- Marks of different classes may be inserted in either order. -/
theorem insertMark_comm {c m : Char} (hm : classOf m ≠ 0) (hlt : classOf m < classOf c)
    (cs : List Char) : insertMark c (insertMark m cs) = insertMark m (insertMark c cs) := by
  have hc : ¬ (classOf c ≠ 0 ∧ classOf c < classOf m) := fun h => Nat.lt_asymm h.2 hlt
  induction cs with
  | nil => simp only [insertMark, if_pos (And.intro hm hlt), if_neg hc]
  | cons d rest ih =>
    by_cases hdm : classOf d ≠ 0 ∧ classOf d < classOf m
    · have hdc := And.intro hdm.1 (Nat.lt_trans hdm.2 hlt)
      simp only [insertMark, if_pos hdm, if_pos hdc, ih]
    · by_cases hdc : classOf d ≠ 0 ∧ classOf d < classOf c
      · simp only [insertMark, if_neg hdm, if_pos hdc, if_pos (And.intro hm hlt)]
      · simp only [insertMark, if_neg hdm, if_neg hdc, if_pos (And.intro hm hlt), if_neg hc]

/-- A mark that stands after marks of lower class may as well stand before them. -/
theorem order_move {c : Char} {marks : List Char}
    (h : ∀ m ∈ marks, classOf m ≠ 0 ∧ classOf m < classOf c) (rest : List Char) :
    order (marks ++ c :: rest) = order (c :: (marks ++ rest)) := by
  induction marks with
  | nil => rfl
  | cons m marks ih =>
    obtain ⟨⟨hm, hlt⟩, hmarks⟩ := List.forall_mem_cons.mp h
    have hc : classOf c ≠ 0 := Nat.ne_of_gt (Nat.zero_lt_of_lt hlt)
    rw [List.cons_append, List.cons_append, order, if_neg hm, ih hmarks]
    simp only [order, if_neg hc, if_neg hm]
    rw [insertMark_comm hm hlt]

/-! ## Parts of a text -/

theorem insertMark_append {i : Char} (hi : classOf i = 0) (c : Char) (cs ds : List Char) :
    insertMark c (cs ++ i :: ds) = insertMark c cs ++ i :: ds := by
  induction cs with
  | nil => simp [insertMark, hi]
  | cons d rest ih =>
    rw [List.cons_append, insertMark, insertMark, ih]
    split <;> rfl

/-- A starter cuts a text into parts that are sorted on their own. -/
theorem order_append_cons {i : Char} (hi : classOf i = 0) (cs ds : List Char) :
    order (cs ++ i :: ds) = order cs ++ i :: order ds := by
  induction cs with
  | nil => simp [order, hi]
  | cons c rest ih =>
    rw [List.cons_append, order, order, ih, insertMark_append hi]
    split <;> rfl

end PaveScript.Text.Normal
