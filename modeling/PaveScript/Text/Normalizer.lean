/-!
# Bringing a text into normalization form

A script is read in Unicode normalization form C, so that equal texts have equal characters. Which
characters compose is data of the Unicode standard and comes from outside: a `Normalizer` is a
function on texts with the three properties of the form that a reader of scripts relies on.

The characters of the language that end a token all take no part in composition. They cut a text
into pieces, and each piece is brought into the form on its own. A piece of a text that is in the
form is therefore in the form too (`Normalizer.normalize_pieces`).
-/

namespace PaveScript.Text

/--
The characters that stay as they are, whatever stands around them: those below `<`, and the byte
order mark.
-/
def isInert (c : Char) : Bool := c.toNat < 0x3C || c.toNat == 0xFEFF

/-- A function that brings texts into normalization form C. -/
class Normalizer where
  /-- The text in the form. -/
  normalize : List Char → List Char
  /-- A text without characters from U+0300 on is in the form. -/
  normalize_of_small : ∀ {cs : List Char}, (∀ c ∈ cs, c.toNat < 0x300) → normalize cs = cs
  /-- Texts with an inert character between them are brought into the form on their own. -/
  normalize_append_cons : ∀ {c : Char}, isInert c = true → ∀ cs ds : List Char,
    normalize (cs ++ c :: ds) = normalize cs ++ c :: normalize ds
  /-- A text that was brought into the form is in the form. -/
  normalize_normalize : ∀ cs : List Char, normalize (normalize cs) = normalize cs

/-! ## Pieces between inert characters -/

section Pieces

variable {f : List Char → List Char}
  (hlocal : ∀ {c : Char}, isInert c = true → ∀ cs ds, f (cs ++ c :: ds) = f cs ++ c :: f ds)

include hlocal

/-- A function that leaves inert characters where they are does not lose any. -/
theorem countP_isInert_le (cs : List Char) : cs.countP isInert ≤ (f cs).countP isInert := by
  suffices ∀ run : List Char, run.countP isInert = 0 →
      cs.countP isInert ≤ (f (run ++ cs)).countP isInert from this [] rfl
  induction cs with
  | nil => simp
  | cons c cs ih =>
    intro run hrun
    by_cases hc : isInert c = true
    · have hrest := ih [] rfl
      rw [List.nil_append] at hrest
      rw [hlocal hc, List.countP_append, List.countP_cons_of_pos hc, List.countP_cons_of_pos hc]
      omega
    · have hrest := ih (run ++ [c]) (by simp [List.countP_append, hrun, hc])
      rw [List.append_assoc] at hrest
      rw [List.countP_cons_of_neg hc]
      exact hrest

/-- **The pieces of a text that such a function keeps** are kept too. -/
theorem fixed_pieces {c : Char} (hc : isInert c = true) {cs ds : List Char}
    (h : f (cs ++ c :: ds) = cs ++ c :: ds) : f cs = cs ∧ f ds = ds := by
  rw [hlocal hc] at h
  have hle := countP_isInert_le hlocal cs
  have hle' := countP_isInert_le hlocal ds
  -- Pieces of other lengths would have other numbers of inert characters.
  have heq : f cs = cs := by
    obtain ⟨t, hcs, ht⟩ | ⟨t, hcs, ht⟩ := List.append_eq_append_iff.mp h
    · cases t with
      | nil => simpa using hcs.symm
      | cons d t =>
        obtain ⟨rfl, -⟩ := List.cons.inj ht
        have hcount := congrArg (List.countP isInert) hcs
        rw [List.countP_append, List.countP_cons_of_pos hc] at hcount
        omega
    · cases t with
      | nil => simpa using hcs
      | cons d t =>
        obtain ⟨rfl, hds⟩ := List.cons.inj ht
        have hcount := congrArg (List.countP isInert) hds
        rw [List.append_eq, List.countP_append, List.countP_cons_of_pos hc] at hcount
        omega
  rw [heq] at h
  exact ⟨heq, (List.cons.inj (List.append_cancel_left h)).2⟩

end Pieces

namespace Normalizer

variable [Normalizer]

@[simp]
theorem normalize_nil : normalize [] = [] := normalize_of_small (by simp)

/-- A piece between inert characters of a text in the form is in the form. -/
theorem normalize_pieces {c : Char} (hc : isInert c = true) {cs ds : List Char}
    (h : normalize (cs ++ c :: ds) = cs ++ c :: ds) : normalize cs = cs ∧ normalize ds = ds :=
  fixed_pieces normalize_append_cons hc h

end Normalizer

end PaveScript.Text
