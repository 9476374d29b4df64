import Mathlib.Algebra.Group.Nat.Defs
import PaveScript.Double

/-!
# Rounding to a double

`nearestRank` rounds a quotient to a significand of 53 bits and a shift. This module relates a rank
to its significand and shift and gets from there what reading and writing numbers need:

* `nearestRank_units` — the magnitude of a rank rounds to that rank, so nothing is lost
* `one_dvd_units_nearestRank` — a whole number rounds to a whole number
* `units_nearestRank_of_lt` — a whole number below `2 ^ 53` is exact
* `isZero_ofInt_iff` — only the integer zero rounds to a zero
-/

namespace PaveScript.Double

theorem binade_eq : binade = 2 ^ 52 := rfl

theorem one_eq : one = 2 ^ 1074 := by
  rw [one, Nat.pow_eq]

theorem one_pos : 0 < one := by
  rw [one_eq]
  exact Nat.two_pow_pos _

/-! ## Significands -/

/-- A significand `q` that is shifted by `k` bits: only unshifted ones may be short. -/
def Significand (k q : Nat) : Prop := q ≤ 2 ^ 53 ∧ (k = 0 ∨ 2 ^ 52 ≤ q)

/-- The magnitude of a rank that is given by shift and significand. -/
theorem unitsOfRank_significand {k q : Nat} (h : Significand k q) :
    unitsOfRank (k * binade + q) = q * 2 ^ k := by
  obtain ⟨hq, hk⟩ := h
  unfold unitsOfRank
  rw [Nat.pow_eq, binade_eq]
  by_cases hshort : q < 2 ^ 52
  · -- short significands are unshifted
    have hk0 : k = 0 := by omega
    subst hk0
    rw [if_pos (by omega)]
    simp
  · rw [if_neg (by omega)]
    by_cases hcarry : q = 2 ^ 53
    · have hdiv : (k * 2 ^ 52 + q) / 2 ^ 52 - 1 = k + 1 := by omega
      have hmod : (k * 2 ^ 52 + q) % 2 ^ 52 = 0 := by omega
      rw [hdiv, hmod, Nat.pow_succ, hcarry]
      omega
    · have hdiv : (k * 2 ^ 52 + q) / 2 ^ 52 - 1 = k := by omega
      have hmod : 2 ^ 52 + (k * 2 ^ 52 + q) % 2 ^ 52 = q := by omega
      rw [hdiv, hmod]

/-- Every rank has a shift and a significand below `2 ^ 53`. -/
theorem exists_significand (r : Nat) :
    ∃ k q, r = k * binade + q ∧ q < 2 ^ 53 ∧ Significand k q := by
  rw [binade_eq]
  by_cases hr : r < 2 ^ 52
  · exact ⟨0, r, by omega, by omega, by omega, Or.inl rfl⟩
  · exact ⟨r / 2 ^ 52 - 1, 2 ^ 52 + r % 2 ^ 52, by omega, by omega, by omega, Or.inr (by omega)⟩

/-! ## Exact quotients -/

theorem divEven_mul (q : Nat) {den : Nat} (h : 0 < den) : divEven (q * den) den = q := by
  simp [divEven, Nat.mul_div_cancel q h, h]

/-- The bits that fall off are those that the shift brought in. -/
theorem log2_significand {k q : Nat} (hq : q < 2 ^ 53) (hk : k = 0 ∨ 2 ^ 52 ≤ q) :
    (q * 2 ^ k).log2 - 52 = k := by
  rcases hk with rfl | hlow
  · rw [Nat.pow_zero, Nat.mul_one, Nat.sub_eq_zero_iff_le]
    by_cases h0 : q = 0
    · simp [h0]
    · exact Nat.lt_succ_iff.mp ((Nat.log2_lt h0).mpr hq)
  · have hlog : (q * 2 ^ k).log2 = 52 + k := by
      rw [Nat.log2_eq_iff (Nat.mul_ne_zero (by omega) (Nat.ne_of_gt (Nat.two_pow_pos k)))]
      constructor
      · rw [Nat.pow_add]
        exact Nat.mul_le_mul_right _ hlow
      · rw [show 52 + k + 1 = 53 + k by omega, Nat.pow_add]
        exact Nat.mul_lt_mul_of_pos_right hq (Nat.two_pow_pos k)
    omega

/-- **The magnitude of a rank rounds to that rank,** whatever denominator it is written with. -/
theorem nearestRank_units (r : Nat) {d : Nat} (hd : 0 < d) :
    nearestRank (unitsOfRank r * d) d = r := by
  obtain ⟨k, q, rfl, hq, hs⟩ := exists_significand r
  rw [unitsOfRank_significand hs]
  unfold nearestRank
  simp only [Nat.mul_div_cancel _ hd, log2_significand hq hs.2, Nat.pow_eq]
  rw [show q * 2 ^ k * d = q * (d * 2 ^ k) by rw [Nat.mul_assoc, Nat.mul_comm (2 ^ k)],
    divEven_mul q (Nat.mul_pos hd (Nat.two_pow_pos k))]

theorem nearestRank_units_one (r : Nat) : nearestRank (unitsOfRank r) 1 = r := by
  have h := nearestRank_units r Nat.one_pos
  rwa [Nat.mul_one] at h

/-- No two ranks have the same magnitude. -/
theorem unitsOfRank_injective {r s : Nat} (h : unitsOfRank r = unitsOfRank s) : r = s := by
  rw [← nearestRank_units_one r, h, nearestRank_units_one s]

/-- A higher rank has a larger magnitude. -/
theorem unitsOfRank_le_of_le {r s : Nat} (h : r ≤ s) : unitsOfRank r ≤ unitsOfRank s := by
  have step : ∀ r, unitsOfRank r ≤ unitsOfRank (r + 1) := by
    intro r
    -- the next significand may be `2 ^ 53`, which is why a significand is allowed to be it
    obtain ⟨k, q, rfl, hq, hs⟩ := exists_significand r
    have hs' : Significand k (q + 1) := ⟨hq, hs.2.imp_right fun h => Nat.le_succ_of_le h⟩
    rw [Nat.add_assoc, unitsOfRank_significand hs, unitsOfRank_significand hs']
    exact Nat.mul_le_mul_right _ (Nat.le_succ q)
  induction h with
  | refl => exact Nat.le_refl _
  | step _ ih => exact Nat.le_trans ih (step _)

theorem unitsOfRank_zero : unitsOfRank 0 = 0 := by
  simp [unitsOfRank]

theorem unitsOfRank_eq_zero_iff {r : Nat} : unitsOfRank r = 0 ↔ r = 0 := by
  constructor
  · intro h
    exact unitsOfRank_injective (h.trans unitsOfRank_zero.symm)
  · rintro rfl
    exact unitsOfRank_zero

/-- Finite magnitudes are below `2 ^ 1024`. -/
theorem unitsOfRank_lt {r : Nat} (h : r < infinityRank) : unitsOfRank r < 2 ^ 1024 * one := by
  obtain ⟨k, q, rfl, hq, hs⟩ := exists_significand r
  rw [infinityRank, binade_eq] at h
  have hk : k ≤ 2045 := by
    rcases hs.2 with rfl | hlow
    · omega
    · omega
  rw [unitsOfRank_significand hs, one_eq, ← Nat.pow_add]
  calc q * 2 ^ k < 2 ^ 53 * 2 ^ k := Nat.mul_lt_mul_of_pos_right hq (Nat.two_pow_pos k)
    _ = 2 ^ (53 + k) := (Nat.pow_add ..).symm
    _ ≤ 2 ^ (1024 + 1074) := Nat.pow_le_pow_right (by omega) (by omega)

/-! ## Whole numbers -/

/-- What rounding makes of a whole number of units is a significand again. -/
theorem significand_divEven (num : Nat) :
    Significand (num.log2 - 52) (divEven num (2 ^ (num.log2 - 52))) := by
  generalize hk : num.log2 - 52 = k
  by_cases h0 : num = 0
  · subst h0
    simp [Significand, divEven, ← hk]
  have hlow : 2 ^ num.log2 ≤ num := Nat.log2_self_le h0
  have hhigh : num < 2 ^ (num.log2 + 1) := Nat.lt_log2_self
  by_cases hshort : num.log2 ≤ 52
  · have hk0 : k = 0 := by omega
    subst hk0
    have hlt : num < 2 ^ 53 := Nat.lt_of_lt_of_le hhigh (Nat.pow_le_pow_right (by omega) (by omega))
    have hdiv : divEven num (2 ^ 0) = num := by
      have := divEven_mul num (show 0 < 2 ^ 0 by omega)
      simpa using this
    exact ⟨by omega, Or.inl rfl⟩
  · -- the quotient has 53 bits, and rounding adds at most one
    have hlog : num.log2 = 52 + k := by omega
    rw [hlog, Nat.pow_add] at hlow
    rw [hlog, show 52 + k + 1 = 53 + k by omega, Nat.pow_add] at hhigh
    have hquot : 2 ^ 52 ≤ num / 2 ^ k := (Nat.le_div_iff_mul_le (Nat.two_pow_pos k)).mpr hlow
    have hquot' : num / 2 ^ k < 2 ^ 53 := (Nat.div_lt_iff_lt_mul (Nat.two_pow_pos k)).mpr hhigh
    have hround : num / 2 ^ k ≤ divEven num (2 ^ k) ∧ divEven num (2 ^ k) ≤ num / 2 ^ k + 1 := by
      unfold divEven
      have := Nat.mod_lt (num / 2 ^ k) (show 0 < 2 by omega)
      simp only
      split
      · omega
      · split <;> omega
    exact ⟨by omega, Or.inr (by omega)⟩

theorem units_nearestRank (num : Nat) :
    unitsOfRank (nearestRank num 1) =
      divEven num (2 ^ (num.log2 - 52)) * 2 ^ (num.log2 - 52) := by
  have h := unitsOfRank_significand (significand_divEven num)
  unfold nearestRank
  simpa [Nat.pow_eq] using h

/-- Nothing is rounded when the bits that fall off are all zero. -/
theorem units_nearestRank_of_dvd {num : Nat} (h : 2 ^ (num.log2 - 52) ∣ num) :
    unitsOfRank (nearestRank num 1) = num := by
  rw [units_nearestRank]
  obtain ⟨q, hq⟩ := h
  generalize num.log2 - 52 = k at hq ⊢
  rw [hq, Nat.mul_comm (2 ^ k) q, divEven_mul q (Nat.two_pow_pos k)]

/-- **A whole number rounds to a whole number.** -/
theorem one_dvd_units_nearestRank (n : Nat) : one ∣ unitsOfRank (nearestRank (n * one) 1) := by
  by_cases h : (n * one).log2 - 52 ≤ 1074
  · have hdvd : 2 ^ ((n * one).log2 - 52) ∣ n * one :=
      Nat.dvd_trans (Nat.pow_dvd_pow 2 h) (Nat.dvd_mul_left one n)
    rw [units_nearestRank_of_dvd hdvd]
    exact Nat.dvd_mul_left one n
  · have hdvd : one ∣ 2 ^ ((n * one).log2 - 52) := by
      rw [one_eq] at h ⊢
      exact Nat.pow_dvd_pow 2 (by omega)
    rw [units_nearestRank]
    exact Nat.dvd_trans hdvd (Nat.dvd_mul_left _ _)

/-- A whole number below `2 ^ 53` is a double. -/
theorem units_nearestRank_of_lt {n : Nat} (h : n < 2 ^ 53) :
    unitsOfRank (nearestRank (n * one) 1) = n * one := by
  refine units_nearestRank_of_dvd (Nat.dvd_trans (Nat.pow_dvd_pow 2 ?_) (Nat.dvd_mul_left one n))
  by_cases h0 : n = 0
  · simp [h0]
  · have hlt : (n * one).log2 < 53 + 1074 := by
      rw [Nat.log2_lt (Nat.mul_ne_zero h0 (Nat.ne_of_gt one_pos)), Nat.pow_add, ← one_eq]
      exact Nat.mul_lt_mul_of_pos_right h one_pos
    omega

/-! ## Zeros -/

/-- There are two zeros. -/
theorem isZero_iff {x : Double} : x.isZero = true ↔ ∃ negative, x = ofRank negative 0 := by
  constructor
  · intro h
    refine ⟨x.negative, ?_⟩
    obtain ⟨negative, rank, hrank⟩ := x
    obtain rfl : rank = 0 := by simpa [isZero] using h
    rfl
  · rintro ⟨negative, rfl⟩
    rfl

/-- Only zero is rounded to zero. -/
theorem nearestRank_eq_zero_iff {n : Nat} : nearestRank n 1 = 0 ↔ n = 0 := by
  constructor
  · intro h
    have hsignificand := significand_divEven n
    have hunits := units_nearestRank n
    rw [h, unitsOfRank_zero] at hunits
    have hzero : divEven n (2 ^ (n.log2 - 52)) = 0 := by
      rcases Nat.mul_eq_zero.mp hunits.symm with h | h
      · exact h
      · exact absurd h (Nat.ne_of_gt (Nat.two_pow_pos _))
    -- a significand of zero is short, so nothing has fallen off
    obtain ⟨-, hshift | hlong⟩ := hsignificand
    · rw [hshift, Nat.pow_zero] at hzero
      have hexact := divEven_mul n Nat.one_pos
      rw [Nat.mul_one] at hexact
      rw [← hexact, hzero]
    · omega
  · rintro rfl
    rfl

theorem isZero_ofInt_iff {i : Int} : (ofInt i).isZero = true ↔ i = 0 := by
  have hrank : (ofInt i).rank = min (nearestRank (i.natAbs * one) 1) infinityRank := rfl
  have hpos : 0 < infinityRank := by decide
  have hmin : ∀ r, min r infinityRank = 0 ↔ r = 0 := by omega
  rw [isZero, hrank, beq_iff_eq, hmin, nearestRank_eq_zero_iff, Nat.mul_eq_zero, Int.natAbs_eq_zero]
  exact or_iff_left (Nat.ne_of_gt one_pos)

end PaveScript.Double
