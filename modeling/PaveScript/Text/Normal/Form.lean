import PaveScript.Text.Normal.Composition

/-!
# The tables are a normalizer

Each run between inert characters is brought into the form on its own. An inert character may arise
inside a run, since U+037E stands for the semicolon; the run is then cut into more runs when it is
read again, and each of them stays as it is because composition leaves inert characters where they
are.
-/

namespace PaveScript.Text.Normal

theorem normalizeRun_of_small {cs : List Char} (h : ∀ c ∈ cs, c.toNat < 0x300) :
    normalizeRun cs = cs := if_pos (by simpa using h)

/-- A run is left alone, or composed to a text that composition leaves alone. -/
theorem normalizeRun_cases (cs : List Char) :
    (∀ c ∈ normalizeRun cs, c.toNat < 0x300) ∨
      recompose (normalizeRun cs) = normalizeRun cs := by
  by_cases hsmall : ∀ c ∈ cs, c.toNat < 0x300
  · exact .inl (by rwa [normalizeRun_of_small hsmall])
  · exact .inr (by rw [normalizeRun, if_neg (by simpa using hsmall), recompose_recompose])

theorem normalizeRun_of_recompose {cs : List Char} (h : recompose cs = cs) :
    normalizeRun cs = cs := by
  rw [normalizeRun, h, ite_self]

/-! ## The three properties -/

/-- A text without characters from U+0300 on is in the form. -/
theorem normalize_of_small {cs : List Char} (h : ∀ c ∈ cs, c.toNat < 0x300) :
    normalize cs = cs := by
  suffices ∀ run : List Char, (∀ c ∈ run, c.toNat < 0x300) →
      normalizeFrom run cs = run.reverse ++ cs from this [] (by simp)
  induction cs with
  | nil =>
    intro run hrun
    rw [normalizeFrom, normalizeRun_of_small (by simpa using hrun), List.append_nil]
  | cons c cs ih =>
    intro run hrun
    obtain ⟨hc, hcs⟩ := List.forall_mem_cons.mp h
    rw [normalizeFrom]
    split
    · rw [normalizeRun_of_small (by simpa using hrun), ih hcs [] (by simp)]
      rfl
    · rw [ih hcs (c :: run) (List.forall_mem_cons.mpr ⟨hc, hrun⟩)]
      simp

/-- **Texts with an inert character between them** are brought into the form on their own. -/
theorem normalize_append_cons {c : Char} (h : isInert c = true) (cs ds : List Char) :
    normalize (cs ++ c :: ds) = normalize cs ++ c :: normalize ds := by
  suffices ∀ run : List Char, normalizeFrom run (cs ++ c :: ds) =
      normalizeFrom run cs ++ c :: normalize ds from this []
  induction cs with
  | nil =>
    intro run
    simp [normalizeFrom, normalize, h]
  | cons b cs ih =>
    intro run
    rw [List.cons_append, normalizeFrom, normalizeFrom]
    split
    · rw [ih [], List.append_assoc]
      rfl
    · exact ih (b :: run)

/-- A text that composition leaves alone is left alone run by run. -/
theorem normalize_of_recompose {cs : List Char} (h : recompose cs = cs) : normalize cs = cs := by
  suffices ∀ run : List Char, recompose (run.reverse ++ cs) = run.reverse ++ cs →
      normalizeFrom run cs = run.reverse ++ cs from this [] h
  clear h
  induction cs with
  | nil =>
    intro run hrun
    rw [List.append_nil] at hrun ⊢
    exact normalizeRun_of_recompose hrun
  | cons c cs ih =>
    intro run hrun
    rw [normalizeFrom]
    split
    · next hc =>
      obtain ⟨hrun, hcs⟩ := fixed_pieces recompose_append_cons hc hrun
      rw [normalizeRun_of_recompose hrun, ih [] hcs]
      rfl
    · rw [ih (c :: run) (by simpa using hrun)]
      simp

theorem normalize_normalizeRun (cs : List Char) : normalize (normalizeRun cs) = normalizeRun cs :=
  (normalizeRun_cases cs).elim normalize_of_small normalize_of_recompose

/-- **A text that was brought into the form** is in the form. -/
theorem normalize_normalize (cs : List Char) : normalize (normalize cs) = normalize cs := by
  suffices ∀ run : List Char, normalize (normalizeFrom run cs) = normalizeFrom run cs from this []
  induction cs with
  | nil =>
    intro run
    exact normalize_normalizeRun run.reverse
  | cons c cs ih =>
    intro run
    rw [normalizeFrom]
    split
    · next hc => rw [normalize_append_cons hc, ih [], normalize_normalizeRun]
    · exact ih (c :: run)

/-- Normalization by the tables of the standard. -/
instance : Normalizer where
  normalize := normalize
  normalize_of_small := normalize_of_small
  normalize_append_cons := normalize_append_cons
  normalize_normalize := normalize_normalize

/-- U+037E becomes a semicolon and so ends a statement; a letter and its accent compose. -/
example : normalize [Char.ofNat 0x37E, 'e', Char.ofNat 0x301] = [';', Char.ofNat 0xE9] := by
  decide +kernel

end PaveScript.Text.Normal
