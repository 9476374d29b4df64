import PaveScript.Literal
import PaveScript.Proofs.Double.Rounding

/-!
# Numbers that are written and read back

The text of a number is digits, or digits with a point among them. This module says which number
such a text is read as, and that a literal is read back from its own text.

* `nearestRank_shortest` — the shortest decimal of a double rounds to that double
* `exists_realText` — the text of a real has a point and stands for the real
* `text_of_isIntegral` — a double without fraction is written as the digits of its whole part
-/

namespace PaveScript

/-! ## Digits -/

namespace Digits

theorem foldl_value (cs : List Char) (n : Nat) :
    cs.foldl (fun n c => n * 10 + valueOf c) n = n * 10 ^ cs.length + value cs := by
  induction cs generalizing n with
  | nil => simp [value]
  | cons c cs ih =>
    have hc : value (c :: cs) = valueOf c * 10 ^ cs.length + value cs := by
      rw [value, List.foldl_cons, ih]
      simp
    rw [List.foldl_cons, ih, hc, List.length_cons, Nat.pow_succ]
    grind

theorem value_append (as bs : List Char) :
    value (as ++ bs) = value as * 10 ^ bs.length + value bs := by
  rw [value, List.foldl_append, foldl_value]
  rfl

/-- Zeros in front change nothing. -/
theorem value_zeros_append (n : Nat) (cs : List Char) :
    value (Decimal.zeros n ++ cs) = value cs := by
  have hzero : value (Decimal.zeros n) = 0 := by
    induction n with
    | zero => rfl
    | succ n ih =>
      rw [Decimal.zeros, List.replicate_succ', value_append_singleton]
      rw [Decimal.zeros] at ih
      rw [ih]
      decide
  rw [value_append, hzero]
  simp

theorem isDigit_of_mem_zeros {n : Nat} {c : Char} (h : c ∈ Decimal.zeros n) :
    c.isDigit = true := by
  rw [List.eq_of_mem_replicate h]
  decide

theorem length_decimal_le {n k : Nat} (hk : 0 < k) (h : n < 10 ^ k) :
    (decimal n).length ≤ k := by
  induction k generalizing n with
  | zero => omega
  | succ k ih =>
    rw [decimal]
    split
    · simp
    · next hn =>
      have hpow : 0 < k := by
        rcases k with _ | k
        · simp at h; omega
        · omega
      have hdiv : n / 10 < 10 ^ k := by
        rw [Nat.pow_succ] at h
        omega
      have := ih hpow hdiv
      simp only [List.length_append, List.length_singleton]
      omega

theorem lt_length_decimal {n k : Nat} (h : 10 ^ k ≤ n) : k < (decimal n).length := by
  induction k generalizing n with
  | zero => exact List.length_pos_iff.mpr (decimal_ne_nil n)
  | succ k ih =>
    rw [Nat.pow_succ] at h
    have hpos : 0 < 10 ^ k := Nat.pow_pos (by omega)
    rw [decimal, if_neg (by omega)]
    have := ih (n := n / 10) (by omega)
    simp only [List.length_append, List.length_singleton]
    omega

/-- A power of ten as a factor is written as zeros. -/
theorem decimal_mul_ten_pow {c : Nat} (hc : c ≠ 0) (e : Nat) :
    decimal (c * 10 ^ e) = decimal c ++ Decimal.zeros e := by
  induction e with
  | zero => simp [Decimal.zeros]
  | succ e ih =>
    have hpos : 0 < c * 10 ^ e := Nat.mul_pos (Nat.pos_of_ne_zero hc) (Nat.pow_pos (by omega))
    have hdiv : c * 10 ^ (e + 1) / 10 = c * 10 ^ e := by
      rw [Nat.pow_succ, ← Nat.mul_assoc, Nat.mul_div_cancel _ (by omega)]
    have hmod : c * 10 ^ (e + 1) % 10 = 0 := by
      rw [Nat.pow_succ, ← Nat.mul_assoc, Nat.mul_mod_left]
    rw [decimal, if_neg (by omega), hdiv, hmod, ih, List.append_assoc]
    rw [Decimal.zeros, Decimal.zeros, List.replicate_succ']
    rfl

end Digits

/-! ## Decimals -/

namespace Decimal

/-- The value of a decimal decides between the shortcuts of `nearestRank`. -/
theorem nearestRank_eq {d : Decimal} (h0 : d.coefficient ≠ 0) (hhigh : d.point ≤ 310)
    (hlow : -330 ≤ d.point) : d.nearestRank = Double.nearestRank d.ratio.1 d.ratio.2 := by
  rw [nearestRank, if_neg h0, if_neg (by omega), if_neg (by omega)]

/-- Positional notation of a decimal with a fraction: the point stands among its digits. -/
theorem exists_positional {d : Decimal} (h : d.exponent < 0) :
    ∃ whole fraction, d.positional = whole ++ '.' :: fraction ∧ whole ≠ [] ∧
      (∀ c ∈ whole ++ fraction, c.isDigit = true) ∧
      Digits.value (whole ++ fraction) = d.coefficient ∧ -(fraction.length : Int) = d.exponent := by
  have hdigit : ∀ c ∈ d.digits, c.isDigit = true := fun c hc => Digits.isDigit_of_mem_decimal hc
  have hvalue : Digits.value d.digits = d.coefficient := Digits.value_decimal d.coefficient
  unfold positional
  rw [if_neg (by omega)]
  split
  · next hpoint =>
    -- the point stands between two digits
    have hle : d.point.toNat < d.digits.length := by
      simp only [point] at hpoint ⊢
      omega
    refine ⟨d.digits.take d.point.toNat, d.digits.drop d.point.toNat, by simp, ?_, ?_, ?_, ?_⟩
    · rw [← List.length_pos_iff, List.length_take]
      omega
    · rwa [List.take_append_drop]
    · rw [List.take_append_drop, hvalue]
    · rw [List.length_drop]
      simp only [point] at hpoint hle ⊢
      omega
  · next hpoint =>
    -- the point stands in front of the digits, and zeros fill the gap
    refine ⟨['0'], zeros (-d.point).toNat ++ d.digits, by simp, by simp, ?_, ?_, ?_⟩
    · intro c hc
      rcases List.mem_append.mp hc with hc | hc
      · rw [List.mem_singleton.mp hc]
        decide
      · rcases List.mem_append.mp hc with hc | hc
        · exact Digits.isDigit_of_mem_zeros hc
        · exact hdigit c hc
    · rw [← hvalue, ← Digits.value_zeros_append (-d.point).toNat d.digits]
      exact Digits.value_zeros_append 1 _
    · simp only [zeros, List.length_append, List.length_replicate, point] at hpoint ⊢
      omega

end Decimal

namespace Double

/-! ## Shortest decimals -/

theorem pow_two_lt : 2 ^ 1024 < 10 ^ 309 := by decide +kernel

theorem pow_five_ge : 10 ^ 750 ≤ 5 ^ 1074 := by decide +kernel

theorem pow_five_mul_one : 5 ^ 1074 * one = 10 ^ 1074 := by
  rw [one_eq, ← Nat.mul_pow]

/-- The exact expansion of a double rounds to that double. -/
theorem nearestRank_exactDecimal {r : Nat} (h0 : r ≠ 0) (h : r < infinityRank) :
    (exactDecimal (unitsOfRank r)).nearestRank = r := by
  have hu : 0 < unitsOfRank r := Nat.pos_of_ne_zero (mt unitsOfRank_eq_zero_iff.mp h0)
  have hcoeff : (exactDecimal (unitsOfRank r)).coefficient = unitsOfRank r * 5 ^ 1074 := rfl
  have hexp : (exactDecimal (unitsOfRank r)).exponent = -1074 := rfl
  have hhigh : unitsOfRank r * 5 ^ 1074 < 10 ^ 1383 := by
    calc unitsOfRank r * 5 ^ 1074 < 2 ^ 1024 * one * 5 ^ 1074 :=
          Nat.mul_lt_mul_of_pos_right (unitsOfRank_lt h) (Nat.pow_pos (by omega))
      _ = 2 ^ 1024 * 10 ^ 1074 := by
          rw [Nat.mul_assoc, Nat.mul_comm one, pow_five_mul_one]
      _ ≤ 10 ^ 309 * 10 ^ 1074 := Nat.mul_le_mul_right _ (Nat.le_of_lt pow_two_lt)
      _ = 10 ^ 1383 := by rw [← Nat.pow_add]
  have hlow : 10 ^ 750 ≤ unitsOfRank r * 5 ^ 1074 :=
    Nat.le_trans pow_five_ge (Nat.le_mul_of_pos_left _ hu)
  -- between 751 and 1383 digits, so none of the shortcuts for the sizes applies
  have hlength := Digits.length_decimal_le (by omega) hhigh
  have hlength' := Digits.lt_length_decimal hlow
  have hpoint : (exactDecimal (unitsOfRank r)).point =
      (Digits.decimal (unitsOfRank r * 5 ^ 1074)).length - 1074 := by
    rw [Decimal.point, hexp, Decimal.digits, hcoeff]
    omega
  have hne : (exactDecimal (unitsOfRank r)).coefficient ≠ 0 :=
    Nat.ne_of_gt (Nat.mul_pos hu (Nat.pow_pos (by omega)))
  rw [Decimal.nearestRank_eq hne (by omega) (by omega), Decimal.ratio, hcoeff, hexp]
  rw [show (-1074 : Int).toNat = 0 from rfl, show (-(-1074) : Int).toNat = 1074 from rfl,
    Nat.pow_eq, Nat.pow_eq, Nat.pow_zero, Nat.mul_one, Nat.mul_assoc, pow_five_mul_one]
  exact nearestRank_units r (Nat.pow_pos (by omega))

/-- **The shortest decimal of a finite double rounds to that double.** -/
theorem nearestRank_shortest (tie : Tie) {x : Double} (h : x.isFinite = true) :
    (x.shortest tie).nearestRank = x.rank := by
  unfold shortest
  split
  · next h0 => rw [h0, Decimal.nearestRank, if_pos rfl]
  · next h0 =>
    dsimp only
    -- what the search finds was tested, and the exact expansion needs no test
    cases hfind : (List.range 18).findSome? _ with
    | none => exact nearestRank_exactDecimal h0 (by simpa [isFinite] using h)
    | some d =>
      obtain ⟨n, -, hd⟩ := List.exists_of_findSome?_eq_some hfind
      simpa using List.find?_some hd

/-- A decimal without fraction is rounded as a whole number, unless it is past every double. -/
theorem nearestRank_of_exponent {d : Decimal} {e : Nat} (he : d.exponent = e)
    (h : d.nearestRank < infinityRank) :
    d.nearestRank = nearestRank (d.coefficient * 10 ^ e * one) 1 := by
  by_cases h0 : d.coefficient = 0
  · rw [Decimal.nearestRank, if_pos h0, h0, Nat.zero_mul, Nat.zero_mul]
    exact (nearestRank_units_one 0).symm
  · have hlow : -330 ≤ d.point := by
      rw [Decimal.point]
      omega
    have hhigh : d.point ≤ 310 := by
      by_cases hp : 310 < d.point
      · rw [Decimal.nearestRank, if_neg h0, if_pos hp] at h
        omega
      · omega
    rw [Decimal.nearestRank_eq h0 hhigh hlow, Decimal.ratio, he,
      show (-(e : Int)).toNat = 0 by omega, Int.toNat_natCast, Nat.pow_eq, Nat.pow_eq, Nat.pow_zero]

/-- A decimal without fraction rounds to a whole number. -/
theorem one_dvd_of_exponent_nonneg {d : Decimal} (he : 0 ≤ d.exponent) {r : Nat}
    (h : d.nearestRank = r) (hr : r < infinityRank) : one ∣ unitsOfRank r := by
  obtain ⟨e, he⟩ := Int.eq_ofNat_of_zero_le he
  rw [← h, nearestRank_of_exponent he (h ▸ hr)]
  exact one_dvd_units_nearestRank _

theorem isIntegral_iff {x : Double} :
    x.isIntegral = true ↔ x.isFinite = true ∧ one ∣ x.units := by
  simp [isIntegral, Nat.dvd_iff_mod_eq_zero]

/-- A whole number with a zero behind the point rounds to itself. -/
theorem nearestRank_wholePart {x : Double} (h : x.isIntegral = true) :
    (⟨x.wholePart * 10, -1⟩ : Decimal).nearestRank = x.rank := by
  obtain ⟨hfin, hdvd⟩ := isIntegral_iff.mp h
  have hwhole : x.wholePart * one = x.units := Nat.div_mul_cancel hdvd
  by_cases h0 : x.wholePart = 0
  · rw [h0, Nat.zero_mul, units] at hwhole
    rw [Decimal.nearestRank, if_pos (by simp [h0]), unitsOfRank_eq_zero_iff.mp hwhole.symm]
  · have hlt : x.wholePart < 10 ^ 309 := by
      have hunits := unitsOfRank_lt (r := x.rank) (by simpa [isFinite] using hfin)
      rw [← units, ← hwhole] at hunits
      exact Nat.lt_trans (Nat.lt_of_mul_lt_mul_right hunits) pow_two_lt
    have hlen := Digits.length_decimal_le (n := x.wholePart * 10) (k := 310) (by omega) (by
      rw [Nat.pow_succ 10 309]
      omega)
    have hpoint : (⟨x.wholePart * 10, -1⟩ : Decimal).point =
        (Digits.decimal (x.wholePart * 10)).length - 1 := rfl
    rw [Decimal.nearestRank_eq (Nat.mul_ne_zero h0 (by omega)) (by omega) (by omega),
      Decimal.ratio]
    rw [show (-1 : Int).toNat = 0 from rfl, show (-(-1) : Int).toNat = 1 from rfl, Nat.pow_eq,
      Nat.pow_eq, Nat.pow_zero, Nat.mul_one, Nat.pow_one, Nat.mul_right_comm, hwhole]
    exact nearestRank_units x.rank (by omega)

/-! ## Texts with a point -/

/-- What digits with a point among them are read as. -/
theorem readUnsigned?_point {whole fraction : List Char} (hne : whole ≠ [])
    (h : ∀ c ∈ whole ++ fraction, c.isDigit = true) :
    readUnsigned? (whole ++ '.' :: fraction) =
      some ⟨Digits.value (whole ++ fraction), -(fraction.length : Int)⟩ := by
  have hw : ∀ c ∈ whole, c.isDigit = true := fun c hc => h c (List.mem_append_left _ hc)
  have hf : ∀ c ∈ fraction, c.isDigit = true := fun c hc => h c (List.mem_append_right _ hc)
  have htake : fraction.takeWhile Char.isDigit = fraction := by
    rw [← List.append_nil fraction, List.takeWhile_append_of_pos hf]
    rfl
  have hdrop : fraction.dropWhile Char.isDigit = [] := by
    rw [← List.append_nil fraction, List.dropWhile_append_of_pos hf]
    rfl
  rw [readUnsigned?, List.takeWhile_append_of_pos hw, List.dropWhile_append_of_pos hw]
  simp [htake, hdrop, hne, readExponent?]

theorem isNaN_of_rank_le {x : Double} (h : x.rank ≤ infinityRank) : x.isNaN = false := by
  simp only [isNaN, beq_eq_false_iff_ne]
  omega

theorem place_ofInt (n : Nat) :
    (ofInt n).place = (min (nearestRank (n * one) 1) infinityRank : Nat) := by
  have hneg : (ofInt n).negative = false := by simp [ofInt, nearest, ofRank]
  rw [place, if_neg (by simp [hneg])]
  rfl

theorem text_of_isFinite {x : Double} (h : x.isFinite = true) :
    x.text = x.signText ++ String.ofList (x.shortest .up).positional := by
  have hrank : x.rank < infinityRank := by simpa [isFinite] using h
  have hnan : x.isNaN = false := isNaN_of_rank_le (Nat.le_of_lt hrank)
  have hinf : x.isInfinite = false := by
    simp only [isInfinite, beq_eq_false_iff_ne]
    omega
  simp [text, hnan, hinf]

/-- The two layouts of a real: a point stands among its digits, and they round to the real. -/
theorem exists_realText {x : Double} (hfin : x.isFinite = true) (hneg : x.negative = false) :
    ∃ whole fraction, (Literal.real x).text.toList = whole ++ '.' :: fraction ∧ whole ≠ [] ∧
      (∀ c ∈ whole ++ fraction, c.isDigit = true) ∧
      (⟨Digits.value (whole ++ fraction), -(fraction.length : Int)⟩ : Decimal).nearestRank =
        x.rank := by
  have hsign : x.signText = "" := by simp [signText, hneg]
  rw [Literal.text]
  split
  · next hint =>
    refine ⟨Digits.decimal x.wholePart, ['0'], ?_, Digits.decimal_ne_nil _, ?_, ?_⟩
    · simp [wholeText, hsign, Digits.text]
    · intro c hc
      rcases List.mem_append.mp hc with hc | hc
      · exact Digits.isDigit_of_mem_decimal hc
      · rw [List.mem_singleton.mp hc]
        decide
    · rw [Digits.value_append_singleton, Digits.value_decimal]
      exact nearestRank_wholePart hint
  · next hint =>
    -- a decimal that has no fraction would round to a whole number
    have hexp : (x.shortest .up).exponent < 0 := by
      refine Int.not_le.mp fun hexp => hint (isIntegral_iff.mpr ⟨hfin, ?_⟩)
      exact one_dvd_of_exponent_nonneg hexp (nearestRank_shortest .up hfin)
        (by simpa [isFinite] using hfin)
    obtain ⟨whole, fraction, htext, hne, hdigit, hvalue, hlen⟩ := Decimal.exists_positional hexp
    refine ⟨whole, fraction, ?_, hne, hdigit, ?_⟩
    · rw [text_of_isFinite hfin, hsign, ← htext]
      simp
    · rw [hvalue, hlen]
      exact nearestRank_shortest .up hfin

/-! ## Texts without a point -/

/-- A search over the first numbers stops at the first hit. -/
theorem exists_findSome?_range {β : Type} (f : Nat → Option β) {m n : Nat} (hm : m < n)
    (h : (f m).isSome) : ∃ k ≤ m, ∃ b, (List.range n).findSome? f = some b ∧ f k = some b := by
  induction n with
  | zero => omega
  | succ n ih =>
    rw [List.range_succ, List.findSome?_append]
    by_cases hmn : m < n
    · obtain ⟨k, hk, b, hfind, hb⟩ := ih hmn
      exact ⟨k, hk, b, by rw [hfind, Option.some_or], hb⟩
    · obtain rfl : m = n := by omega
      cases hfind : (List.range m).findSome? f with
      | some b =>
        obtain ⟨k, hk, hb⟩ := List.exists_of_findSome?_eq_some hfind
        exact ⟨k, Nat.le_of_lt (List.mem_range.mp hk), b, rfl, hb⟩
      | none =>
        obtain ⟨b, hb⟩ := Option.isSome_iff_exists.mp h
        exact ⟨m, Nat.le_refl m, b, by simp [hb], hb⟩

/-- The neighbours on a grid of whole numbers. -/
theorem mem_neighbours {u e : Nat} {d : Decimal} (h : d ∈ neighbours .up u e) :
    d.exponent = e ∧ d.coefficient ≤ u / (one * 10 ^ e) + 1 := by
  unfold neighbours at h
  simp only [Int.toNat_natCast, show (-(e : Int)).toNat = 0 by omega, Nat.pow_eq, Nat.pow_zero,
    Nat.mul_one] at h
  split at h <;>
    rcases List.mem_cons.mp h with rfl | h <;>
    first
    | exact ⟨rfl, by simp⟩
    | (obtain rfl := List.mem_singleton.mp h; exact ⟨rfl, by simp⟩)

/-- A neighbour of a number up to the bound of literals is a double itself. -/
theorem neighbour_lt {m e c : Nat} (hm : m ≤ Literal.bound) (he : e ≤ 10)
    (hc : c ≤ m * one / (one * 10 ^ e) + 1) : c * 10 ^ e < 2 ^ 53 := by
  have hpow : 10 ^ e ≤ 10 ^ 10 := Nat.pow_le_pow_right (by omega) he
  rw [Nat.mul_comm m one, Nat.mul_div_mul_left _ _ one_pos] at hc
  have hdiv := Nat.div_mul_le_self m (10 ^ e)
  have hbound : Literal.bound = 2147483647 := rfl
  calc c * 10 ^ e ≤ (m / 10 ^ e + 1) * 10 ^ e := Nat.mul_le_mul_right _ hc
    _ = m / 10 ^ e * 10 ^ e + 10 ^ e := by rw [Nat.add_mul, Nat.one_mul]
    _ < 2 ^ 53 := by omega

/-- A decimal without fraction that is below `2 ^ 53` is exact. -/
theorem coefficient_of_nearestRank {d : Decimal} {e r : Nat} (he : d.exponent = e)
    (hlt : d.coefficient * 10 ^ e < 2 ^ 53) (h : d.nearestRank = r) (hr : r < infinityRank) :
    d.coefficient * 10 ^ e * one = unitsOfRank r := by
  rw [← h, nearestRank_of_exponent he (h ▸ hr), units_nearestRank_of_lt hlt]

theorem nearestRank_whole {m : Nat} (h0 : m ≠ 0) (hlen : (Digits.decimal m).length ≤ 310) :
    (⟨m, 0⟩ : Decimal).nearestRank = nearestRank (m * one) 1 := by
  have hpoint : (⟨m, 0⟩ : Decimal).point = (Digits.decimal m).length := by
    simp [Decimal.point, Decimal.digits]
  rw [Decimal.nearestRank_eq h0 (by omega) (by omega), Decimal.ratio]
  simp

theorem decimalPoint_whole {m : Nat} (h0 : m ≠ 0) :
    decimalPoint (m * one) = (Digits.decimal m).length := by
  rw [decimalPoint, Nat.pow_eq, Nat.mul_right_comm, Nat.mul_div_cancel _ one_pos,
    Digits.decimal_mul_ten_pow h0, List.length_append, Decimal.zeros, List.length_replicate]
  omega

/-- The grid of whole numbers has a whole number itself, so the search ends there or before. -/
theorem exists_grid {m r : Nat} (len : Nat) (hlen : len < 18)
    (h : (⟨m, 0⟩ : Decimal).nearestRank = r) :
    ∃ k ≤ len, ∃ d,
      ((List.range 18).findSome? fun n : Nat =>
        (neighbours .up (m * one) (len - n)).find? fun d => d.nearestRank == r) = some d ∧
      ((neighbours .up (m * one) (len - k)).find? fun d => d.nearestRank == r) = some d := by
  refine exists_findSome?_range _ hlen ?_
  rw [List.find?_isSome]
  refine ⟨⟨m, 0⟩, ?_, by rw [h]; exact beq_self_eq_true r⟩
  rw [Int.sub_self, neighbours]
  simp [one_pos]

theorem shortest_of_rank_ne_zero (tie : Tie) {x : Double} (h : x.rank ≠ 0) :
    x.shortest tie =
      ((List.range 18).findSome? fun n : Nat =>
        (neighbours tie x.units (decimalPoint x.units - n)).find? fun d =>
          d.nearestRank == x.rank).getD (exactDecimal x.units) := by
  rw [shortest, if_neg h]

/-- The shortest decimal of a whole number up to the bound of literals is that number. -/
theorem shortest_of_isIntegral {x : Double} (h : x.isIntegral = true)
    (hle : x.wholePart ≤ Literal.bound) :
    ∃ e : Nat, (x.shortest .up).exponent = e ∧
      (x.shortest .up).coefficient * 10 ^ e = x.wholePart ∧
      ((x.shortest .up).coefficient = 0 → e = 0) := by
  obtain ⟨hfin, hdvd⟩ := isIntegral_iff.mp h
  have hwhole : x.wholePart * one = x.units := Nat.div_mul_cancel hdvd
  by_cases h0 : x.rank = 0
  · have hu : x.units = 0 := by rw [units, h0, unitsOfRank_zero]
    rw [shortest, if_pos h0]
    exact ⟨0, rfl, by simp [wholePart, hu], fun _ => rfl⟩
  · have hm : x.wholePart ≠ 0 := by
      intro hm
      rw [hm, Nat.zero_mul, units] at hwhole
      exact h0 (unitsOfRank_eq_zero_iff.mp hwhole.symm)
    have hlen : (Digits.decimal x.wholePart).length ≤ 10 :=
      Digits.length_decimal_le (by omega) (Nat.lt_of_le_of_lt hle (by decide))
    rw [shortest_of_rank_ne_zero .up h0, ← hwhole, decimalPoint_whole hm]
    generalize hL : (Digits.decimal x.wholePart).length = len at hlen
    -- the search stops on a grid of whole numbers, where rounding to `x` means being `x`
    obtain ⟨k, hk, d, hfind, hd⟩ := exists_grid (r := x.rank) len (by omega) (by
      rw [nearestRank_whole hm (by omega), hwhole]
      exact nearestRank_units_one x.rank)
    have hexp : (len : Int) - k = (len - k : Nat) := by omega
    obtain ⟨he, hcoeff⟩ := mem_neighbours (hexp ▸ List.mem_of_find?_eq_some hd)
    have hrank : d.nearestRank = x.rank := by simpa using List.find?_some hd
    rw [hfind, Option.getD_some]
    have hlt := neighbour_lt hle (show len - k ≤ 10 by omega) hcoeff
    have hexact := coefficient_of_nearestRank he hlt hrank (by simpa [isFinite] using hfin)
    have hvalue : d.coefficient * 10 ^ (len - k) = x.wholePart :=
      Nat.eq_of_mul_eq_mul_right one_pos (hexact.trans hwhole.symm)
    refine ⟨len - k, he, hvalue, fun hd0 => ?_⟩
    rw [hd0, Nat.zero_mul] at hvalue
    exact absurd hvalue.symm hm

/-- A double without fraction is written as the digits of its whole part. -/
theorem text_of_isIntegral {x : Double} (h : x.isIntegral = true)
    (hle : x.wholePart ≤ Literal.bound) : x.text = x.signText ++ Digits.text x.wholePart := by
  obtain ⟨e, he, hvalue, hzero⟩ := shortest_of_isIntegral h hle
  rw [text_of_isFinite (isIntegral_iff.mp h).1, Digits.text, Decimal.positional, he,
    if_pos (by omega), Int.toNat_natCast, Decimal.digits]
  by_cases h0 : (x.shortest .up).coefficient = 0
  · rw [← hvalue, h0, hzero h0, Nat.zero_mul]
    simp [Decimal.zeros]
  · rw [← Digits.decimal_mul_ten_pow h0, hvalue]

end Double

namespace Literal

/-- **Digits are read as the integer that they write.** -/
theorem ofDecimal_decimal {n : Nat} (h : n ≤ bound) :
    ofDecimal (Digits.decimal n) = .ok (integer n) := by
  have hdigit : ∀ c ∈ Digits.decimal n, c.isDigit = true := fun c hc =>
    Digits.isDigit_of_mem_decimal hc
  have hpoint : (Digits.decimal n).contains '.' = false := by
    rw [List.contains_eq_mem, decide_eq_false_iff_not]
    intro hmem
    exact absurd (hdigit '.' hmem) (by decide)
  have hall : (Digits.decimal n).all Char.isDigit = true := List.all_eq_true.mpr hdigit
  rw [ofDecimal, hpoint, hall, Digits.value_decimal]
  simp [Digits.decimal_ne_nil, Nat.not_lt.mpr h]

/-- **The text of a real is read as that real.** -/
theorem ofDecimal_text_real {x : Double} (hfin : x.isFinite = true) (hneg : x.negative = false)
    (hle : exceedsBound x = false) : ofDecimal (real x).text.toList = .ok (real x) := by
  obtain ⟨whole, fraction, htext, hne, hdigit, hrank⟩ := Double.exists_realText hfin hneg
  have hread := Double.readUnsigned?_point hne hdigit
  have hx : Double.ofRank false x.rank = x := by
    have hle : x.rank ≤ infinityRank := Nat.le_of_lt (by simpa [Double.isFinite] using hfin)
    cases x
    simp_all [Double.ofRank]
  have hof : Double.ofText? (whole ++ '.' :: fraction) = some x := by
    obtain ⟨c, cs, rfl⟩ := List.exists_cons_of_ne_nil hne
    have hc : c.isDigit = true := hdigit c (by simp)
    unfold Double.ofText?
    split
    -- a digit is neither of the signs
    · next heq =>
      obtain ⟨rfl, -⟩ := List.cons.inj heq
      exact absurd hc (by decide)
    · next heq =>
      obtain ⟨rfl, -⟩ := List.cons.inj heq
      exact absurd hc (by decide)
    · rw [hread, Option.map_some, Decimal.toDouble, hrank, hx]
  rw [htext, ofDecimal, hof]
  simp [hle]

theorem rank_le_of_not_exceedsBound {x : Double} (hrank : x.rank ≤ infinityRank)
    (hneg : x.negative = false) (hle : exceedsBound x = false) :
    x.rank ≤ Double.nearestRank (bound * Double.one) 1 := by
  have hnan : x.isNaN = false := Double.isNaN_of_rank_le hrank
  have hnan' : (Double.ofInt bound).isNaN = false :=
    Double.isNaN_of_rank_le (Nat.min_le_right _ _)
  have hplaces : ¬(Double.ofInt bound).place < x.place := by
    simpa [exceedsBound, Double.lt, hnan, hnan'] using hle
  rw [Double.place_ofInt, Double.place, if_neg (by simp [hneg])] at hplaces
  omega

/-- A literal within the bound has a whole part within the bound. -/
theorem wholePart_le_bound {x : Double} (hfin : x.isFinite = true) (hneg : x.negative = false)
    (hle : exceedsBound x = false) : x.wholePart ≤ bound := by
  have hrank : x.rank < infinityRank := by simpa [Double.isFinite] using hfin
  have hplace := rank_le_of_not_exceedsBound (Nat.le_of_lt hrank) hneg hle
  have hunits : x.units ≤ bound * Double.one := by
    rw [← Double.units_nearestRank_of_lt (show bound < 2 ^ 53 by decide)]
    exact Double.unitsOfRank_le_of_le hplace
  exact (Nat.div_le_iff_le_mul_add_pred Double.one_pos).mpr (by rw [Nat.mul_comm]; omega)

end Literal

/-! ## Signs -/

namespace Double

theorem text_neg {x : Double} (hfin : x.isFinite = true) (h : x.negative = true) :
    x.text = "-" ++ x.neg.text := by
  have hfin' : x.neg.isFinite = true := hfin
  have hsign : x.signText = "-" := by simp [signText, h]
  have hsign' : x.neg.signText = "" := by simp [signText, neg, h]
  rw [text_of_isFinite hfin, text_of_isFinite hfin', hsign, hsign']
  simp
  rfl

theorem wholeText_neg {x : Double} (h : x.negative = true) :
    x.wholeText = "-" ++ x.neg.wholeText := by
  have hsign : x.signText = "-" := by simp [signText, h]
  have hsign' : x.neg.signText = "" := by simp [signText, neg, h]
  rw [wholeText, wholeText, hsign, hsign']
  rw [String.empty_append, String.append_assoc]
  rfl

end Double

end PaveScript
