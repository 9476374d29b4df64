import Mathlib.Data.List.Induction
import Mathlib.Data.Nat.Digits.Defs
import PaveScript.Literal

/-!
# Whole numbers of any length

Digits without a point are an integer. Their value has no limit, but what a script may write has,
and a machine that decodes digit by digit into a 64-bit word meets a limit of its own first. This
module says which number digits denote, and that the two limits together make one: leading zeros
never reach the limit of the word, and digits that do are past the largest literal anyway.

* `value_eq_ofDigits` — digits denote their number in base ten
* `word?_eq` — a word holds the value of digits of any length, unless it is too large for a word
* `ofDecimal_whole` — which digits are an integer
-/

namespace PaveScript

namespace Digits

/-! ## The value of digits -/

/-- The value of a text of digits in base ten, the last digit having the weight one. -/
def denotes (cs : List Char) : Nat := Nat.ofDigits 10 (cs.map valueOf).reverse

theorem value_eq_ofDigits (cs : List Char) : value cs = denotes cs := by
  induction cs using List.reverseRecOn with
  | nil => rfl
  | append_singleton cs c ih =>
    rw [value_append_singleton, ih, denotes, denotes, List.map_append, List.reverse_append,
      List.map_singleton, List.reverse_singleton, List.singleton_append, Nat.ofDigits_cons]
    omega

theorem valueOf_lt (c : Char) : valueOf c < 10 := by
  unfold valueOf
  split
  · next h =>
    simp only [Char.isDigit, Bool.and_eq_true, decide_eq_true_eq, UInt32.le_iff_toNat_le] at h
    have hc : c.toNat ≤ 57 := h.2
    omega
  · decide

/-! ## Words -/

/-- The product of two words, if a word holds it. -/
def times? (m n : UInt64) : Option UInt64 :=
  if m.toNat * n.toNat < UInt64.size then some (m * n) else none

/-- The sum of two words, if a word holds it. -/
def plus? (m n : UInt64) : Option UInt64 :=
  if m.toNat + n.toNat < UInt64.size then some (m + n) else none

/-- A word with one more digit behind it, if a word holds it. -/
def push? (n : UInt64) (c : Char) : Option UInt64 := do
  plus? (← times? n 10) (UInt64.ofNat (valueOf c))

/-- The word that a text of digits denotes. Decoding stops at the first digit that is too much. -/
def word? (cs : List Char) : Option UInt64 := cs.foldlM push? 0

/-- The check of the product refuses nothing that the check of the sum would let pass. -/
theorem push?_eq (n : UInt64) (c : Char) :
    push? n c =
      if n.toNat * 10 + valueOf c < UInt64.size then some (.ofNat (n.toNat * 10 + valueOf c))
      else none := by
  have hdigit : (UInt64.ofNat (valueOf c)).toNat = valueOf c :=
    UInt64.toNat_ofNat_of_lt' ((valueOf_lt c).trans (by decide))
  have hten : (10 : UInt64).toNat = 10 := rfl
  have hpush : n * 10 + .ofNat (valueOf c) = .ofNat (n.toNat * 10 + valueOf c) := by
    simp [UInt64.ofNat_add, UInt64.ofNat_mul]
  rw [push?, times?, hten]
  by_cases hproduct : n.toNat * 10 < UInt64.size
  · have hvalue : (n * 10).toNat = n.toNat * 10 := by
      rw [UInt64.toNat_mul, hten]
      exact Nat.mod_eq_of_lt hproduct
    rw [if_pos hproduct, Option.bind_eq_bind, Option.bind_some, plus?, hdigit, hvalue, hpush]
  · rw [if_neg hproduct, if_neg (by omega)]
    rfl

/-- **A word holds the value of digits of any length,** unless the value is too large for a word.
Decoding stops early exactly then, since more digits never make the value less. -/
theorem word?_eq (cs : List Char) :
    word? cs = if value cs < UInt64.size then some (.ofNat (value cs)) else none := by
  induction cs using List.reverseRecOn with
  | nil => rfl
  | append_singleton cs c ih =>
    rw [word?] at ih
    rw [word?, List.foldlM_append, ih, value_append_singleton]
    by_cases hvalue : value cs < UInt64.size
    · rw [if_pos hvalue, Option.bind_eq_bind, Option.bind_some, List.foldlM_cons, push?_eq,
        UInt64.toNat_ofNat_of_lt' hvalue]
      split <;> rfl
    · rw [if_neg hvalue, if_neg (by omega)]
      rfl

end Digits

namespace Literal

open Digits

/-- What a text of digits is as a literal when it is decoded into a word first. -/
def ofWord (cs : List Char) : Except LiteralError Literal :=
  match word? cs with
  | none => .error .overflow
  | some n => if 2147483647 < n then .error .overflow else .ok (.integer n.toNat)

/-- **Both limits together are the limit of literals.** -/
theorem ofWord_eq (cs : List Char) :
    ofWord cs =
      if value cs ≤ 2147483647 then .ok (.integer (value cs)) else .error .overflow := by
  rw [ofWord, word?_eq]
  by_cases hword : value cs < UInt64.size
  · have hlt : 2147483647 < UInt64.ofNat (value cs) ↔ ¬value cs ≤ 2147483647 := by
      rw [UInt64.lt_iff_toNat_lt, UInt64.toNat_ofNat_of_lt' hword, Nat.not_le]
      rfl
    rw [if_pos hword]
    simp only [hlt, UInt64.toNat_ofNat_of_lt' hword, ite_not]
  · have hsize : 2147483647 < UInt64.size := by decide
    rw [if_neg hword, if_neg (by omega)]

/-- Digits alone are decoded by their value. -/
theorem ofDecimal_of_isDigit {cs : List Char} (hne : cs ≠ [])
    (hdigits : ∀ c ∈ cs, c.isDigit = true) :
    ofDecimal cs =
      if value cs ≤ 2147483647 then .ok (.integer (value cs)) else .error .overflow := by
  have hpoint : cs.contains '.' = false := by
    rw [Bool.eq_false_iff, ne_eq, List.contains_iff_mem]
    intro hmem
    exact absurd (hdigits _ hmem) (by decide)
  have hform : (cs.isEmpty || !cs.all Char.isDigit) = false := by
    simpa [hne] using hdigits
  rw [ofDecimal, hpoint, hform]
  simp only [Bool.false_eq_true, if_false]
  have hbound : bound = 2147483647 := rfl
  by_cases hvalue : value cs ≤ 2147483647
  · rw [if_pos hvalue, if_neg (by omega)]
  · rw [if_neg hvalue, if_pos (by omega)]

theorem ofDecimal_malformed {cs : List Char} (hpoint : '.' ∉ cs)
    (hform : cs = [] ∨ ∃ c ∈ cs, c.isDigit = false) : ofDecimal cs = .error .malformed := by
  have hpoint' : cs.contains '.' = false := by
    rwa [Bool.eq_false_iff, ne_eq, List.contains_iff_mem]
  have hform' : (cs.isEmpty || !cs.all Char.isDigit) = true := by
    simpa using hform
  rw [ofDecimal, hpoint', hform']
  rfl

/--
**Digits of any length are decoded exactly.** They are the integer that they denote in base ten if
it is at most the largest literal, and too large otherwise, whether or not a word holds them.
Without a point nothing else is a number.
-/
theorem ofDecimal_whole (cs : List Char) :
    (cs ≠ [] → (∀ c ∈ cs, c.isDigit = true) →
      ofDecimal cs = ofWord cs ∧
        (denotes cs ≤ 2147483647 → ofDecimal cs = .ok (.integer (denotes cs))) ∧
        (2147483647 < denotes cs → ofDecimal cs = .error .overflow)) ∧
    ('.' ∉ cs → (cs = [] ∨ ∃ c ∈ cs, c.isDigit = false) → ofDecimal cs = .error .malformed) := by
  refine ⟨?_, ofDecimal_malformed⟩
  intro hne hdigits
  rw [ofWord_eq, ofDecimal_of_isDigit hne hdigits, value_eq_ofDigits]
  refine ⟨rfl, ?_, ?_⟩
  · intro hle
    rw [if_pos hle]
  · intro hlt
    rw [if_neg (by omega)]

/-- Zeros in front of the largest literal, which are more than a word has digits. -/
def paddedBound : List Char := List.replicate 40 '0' ++ "2147483647".toList

theorem ofDecimal_whole_paddedBound :
    ofDecimal paddedBound = .ok (.integer 2147483647) ∧
      ofDecimal "18446744073709551616".toList = .error .overflow ∧
      ofDecimal "12e3".toList = .error .malformed := by
  refine ⟨?_, ?_, ?_⟩
  · have hdigits : paddedBound.all Char.isDigit = true := by decide +kernel
    have hvalue : denotes paddedBound = 2147483647 := by decide +kernel
    have h := ((ofDecimal_whole paddedBound).1 (by decide +kernel)
      (List.all_eq_true.mp hdigits)).2.1 (by omega)
    rwa [hvalue] at h
  · have hdigits : "18446744073709551616".toList.all Char.isDigit = true := by decide +kernel
    have hvalue : denotes "18446744073709551616".toList = 18446744073709551616 := by
      decide +kernel
    exact ((ofDecimal_whole _).1 (by decide) (List.all_eq_true.mp hdigits)).2.2 (by omega)
  · exact (ofDecimal_whole "12e3".toList).2 (by decide) (.inr ⟨'e', by decide, by decide⟩)

end Literal

end PaveScript
