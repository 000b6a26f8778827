import Mathlib
import LeasePlan.Number.Binary64

namespace LeasePlan.Binary64

/-- A number that is not negative stands for a value. -/
def Denotes (x : Binary64) (v : ℚ) : Prop :=
  ∃ m e, x = finite false m e ∧ (m : ℚ) * 2 ^ e = v

/-- A number is what an exact value that is not negative is rounded to. -/
def Rounds (x : Binary64) (v : ℚ) : Prop :=
  ∃ num den : Nat, 0 < den ∧ (num : ℚ) / den = v ∧ x = ofRatio false num den

theorem zpow_toNat (e : Int) : (2 : ℚ) ^ e.toNat / 2 ^ (-e).toNat = 2 ^ e := by
  rw [← zpow_natCast, ← zpow_natCast, ← zpow_sub₀ two_ne_zero]
  congr 1
  omega

section Ratio

variable (m : Nat) (e : Int)

theorem ratio_pos : 0 < (ratio m e).2 := Nat.pow_pos Nat.two_pos

theorem ratio_value : ((ratio m e).1 : ℚ) / (ratio m e).2 = m * 2 ^ e := by
  simp only [ratio, Nat.pow_eq, Nat.cast_mul, Nat.cast_pow, Nat.cast_ofNat]
  rw [mul_div_assoc, zpow_toNat]

end Ratio

section Rounding

variable {num den : Nat}

theorem roundEven_bounds (num : Nat) (h : 0 < den) :
    2 * (den * roundEven num den) ≤ 2 * num + den ∧
      2 * num ≤ 2 * (den * roundEven num den) + den := by
  have hdiv := Nat.div_add_mod num den
  have hmod := Nat.mod_lt num h
  unfold roundEven
  dsimp only
  split
  · rw [Nat.mul_add, Nat.mul_one]
    omega
  · split
    · rw [Nat.mul_add]
      rcases Nat.mod_two_eq_zero_or_one (num / den) with heven | hodd
      · rw [heven, Nat.mul_zero]
        omega
      · rw [hodd, Nat.mul_one]
        omega
    · omega

theorem abs_roundEven_sub_le (h : 0 < den) : |(roundEven num den : ℚ) - num / den| ≤ 1 / 2 := by
  obtain ⟨hlo, hhi⟩ := roundEven_bounds num h
  have hpos : (0 : ℚ) < den := Nat.cast_pos.2 h
  have hlo' : 2 * (den * (roundEven num den : ℚ)) ≤ 2 * num + den := by exact_mod_cast hlo
  have hhi' : 2 * (num : ℚ) ≤ 2 * (den * roundEven num den) + den := by exact_mod_cast hhi
  have hcancel : den * ((num : ℚ) / den) = num := mul_div_cancel₀ _ hpos.ne'
  rw [abs_le]
  constructor
  · by_contra hlt
    nlinarith
  · by_contra hlt
    nlinarith

theorem roundEven_mul_self (n : Nat) (h : 0 < den) : roundEven (n * den) den = n := by
  rw [roundEven, Nat.mul_mod_left, Nat.mul_div_cancel n h]
  simp only [Nat.mul_zero, Nat.not_lt_zero, ↓reduceIte, h.ne]

/-- A quotient below a power of two has its last place that far down. -/
theorem exponentFor_le {k : Nat} (h : num ≤ den * 2 ^ k) :
    exponentFor num den ≤ k - 52 := by
  have hlog : num.log2 ≤ den.log2 + k := by
    by_cases hn : num = 0
    · rw [hn, Nat.log2_zero]
      exact Nat.zero_le _
    · rw [← Nat.lt_succ_iff, Nat.log2_lt hn, Nat.succ_eq_add_one, Nat.add_right_comm, pow_add]
      exact h.trans_lt (Nat.mul_lt_mul_of_pos_right Nat.lt_log2_self (Nat.two_pow_pos k))
  unfold exponentFor
  dsimp only
  split <;> split <;> omega

/-- The significand is rounded at the exponent; a carry only changes how the value is written. -/
theorem denotes_ofRatio (hnum : num ≠ 0) (he : exponentFor num den < 971) :
    (ofRatio false num den).Denotes
      (roundEven (num * Nat.pow 2 (-exponentFor num den).toNat)
        (den * Nat.pow 2 (exponentFor num den).toNat) * 2 ^ exponentFor num den) := by
  rw [ofRatio, if_neg hnum]
  dsimp only
  split
  next hcarry =>
    dsimp only
    rw [if_neg (by omega), hcarry]
    refine ⟨_, _, rfl, ?_⟩
    rw [zpow_add_one₀ two_ne_zero]
    norm_num
    ring
  next =>
    dsimp only
    rw [if_neg (by omega)]
    exact ⟨_, _, rfl, rfl⟩

theorem denotes_zero : (finite false 0 (-1074)).Denotes 0 :=
  ⟨0, -1074, rfl, by rw [Nat.cast_zero, zero_mul]⟩

end Rounding

namespace Rounds

variable {x : Binary64} {v : ℚ}

/-- The error is at most half a unit in the last place. -/
theorem near (h : x.Rounds v) {k : Nat} (hv : v ≤ 2 ^ k) (hk : k ≤ 1000) :
    ∃ w, x.Denotes w ∧ |w - v| ≤ 2 ^ ((k : ℤ) - 53) := by
  obtain ⟨num, den, hden, rfl, rfl⟩ := h
  have hpos : (0 : ℚ) < den := Nat.cast_pos.2 hden
  by_cases hnum : num = 0
  · refine ⟨0, ?_, ?_⟩
    · rw [ofRatio, if_pos hnum]
      exact denotes_zero
    · rw [hnum, Nat.cast_zero, zero_div, sub_zero, abs_zero]
      positivity
  · have hle : num ≤ den * 2 ^ k := by
      rw [div_le_iff₀' hpos] at hv
      exact_mod_cast hv
    have hexp := exponentFor_le hle
    refine ⟨_, denotes_ofRatio hnum (by omega), ?_⟩
    set e := exponentFor num den
    have hscale : ((num * Nat.pow 2 (-e).toNat : Nat) : ℚ) / (den * Nat.pow 2 e.toNat : Nat) *
        2 ^ e = num / den := by
      simp only [Nat.pow_eq, Nat.cast_mul, Nat.cast_pow, Nat.cast_ofNat]
      rw [← zpow_toNat e]
      field_simp
    have hscaled : 0 < den * Nat.pow 2 e.toNat := Nat.mul_pos hden (Nat.pow_pos Nat.two_pos)
    have hround : |(roundEven (num * Nat.pow 2 (-e).toNat) (den * Nat.pow 2 e.toNat) : ℚ) -
        (num * Nat.pow 2 (-e).toNat : Nat) / (den * Nat.pow 2 e.toNat : Nat)| ≤ 1 / 2 :=
      abs_roundEven_sub_le hscaled
    have htwo : (0 : ℚ) < 2 ^ e := by positivity
    calc |_ - (num : ℚ) / den|
      _ = |(roundEven (num * Nat.pow 2 (-e).toNat) (den * Nat.pow 2 e.toNat) : ℚ) -
            (num * Nat.pow 2 (-e).toNat : Nat) / (den * Nat.pow 2 e.toNat : Nat)| * 2 ^ e := by
        rw [← hscale, ← sub_mul, abs_mul, abs_of_pos htwo]
      _ ≤ 1 / 2 * 2 ^ e := mul_le_mul_of_nonneg_right hround htwo.le
      _ = 2 ^ (e - 1) := by rw [zpow_sub_one₀ two_ne_zero]; ring
      _ ≤ 2 ^ ((k : ℤ) - 53) := zpow_le_zpow_right₀ one_le_two (by omega)

/-- Whole numbers that are not too large are not changed by rounding. -/
theorem denotes {n : Nat} (h : x.Rounds n) (hn : n ≤ 2 ^ 52) : x.Denotes n := by
  obtain ⟨num, den, hden, hv, rfl⟩ := h
  have hnum : num = n * den := by
    rw [div_eq_iff (Nat.cast_ne_zero.2 hden.ne')] at hv
    exact_mod_cast hv
  by_cases hzero : num = 0
  · rcases Nat.mul_eq_zero.1 (hnum.symm.trans hzero) with rfl | hd
    · rw [ofRatio, if_pos hzero, Nat.cast_zero]
      exact denotes_zero
    · exact absurd hd hden.ne'
  · have hexp : exponentFor num den ≤ (52 : Nat) - 52 := by
      refine exponentFor_le ?_
      rw [hnum, Nat.mul_comm]
      exact Nat.mul_le_mul_left den hn
    have hlow : exponentFor num den < 971 := by omega
    have hdenotes := denotes_ofRatio hzero hlow
    set e := exponentFor num den
    obtain ⟨j, hj⟩ : ∃ j : Nat, e = -j := ⟨(-e).toNat, by omega⟩
    have hwhole : num * Nat.pow 2 (-e).toNat = n * 2 ^ j * (den * Nat.pow 2 e.toNat) := by
      rw [hj, hnum]
      simp only [neg_neg, Int.toNat_natCast, Nat.pow_eq, Int.toNat_neg_natCast, pow_zero]
      ring
    have hscale : 0 < den * Nat.pow 2 e.toNat := Nat.mul_pos hden (Nat.pow_pos Nat.two_pos)
    rw [hwhole, roundEven_mul_self _ hscale, hj, zpow_neg, zpow_natCast] at hdenotes
    rw [Nat.cast_mul, Nat.cast_pow, Nat.cast_ofNat, mul_inv_cancel_right₀ (by positivity)]
      at hdenotes
    exact hdenotes

end Rounds

theorem denotes_ofInt {n : Nat} (h : n ≤ 2 ^ 52) : (ofInt n).Denotes n := by
  refine Rounds.denotes ⟨n, 1, Nat.one_pos, ?_, ?_⟩ h
  · rw [Nat.cast_one, div_one]
  · rw [ofInt, Int.natAbs_natCast, decide_eq_false (Int.not_lt.2 (Int.natCast_nonneg n))]

namespace Denotes

variable {x y : Binary64} {v w : ℚ}

theorem mul (hx : x.Denotes v) (hy : y.Denotes w) : (x.mul y).Rounds (v * w) := by
  obtain ⟨m, e, rfl, rfl⟩ := hx
  obtain ⟨n, f, rfl, rfl⟩ := hy
  refine ⟨(ratio m e).1 * (ratio n f).1, (ratio m e).2 * (ratio n f).2,
    Nat.mul_pos (ratio_pos m e) (ratio_pos n f), ?_, rfl⟩
  rw [Nat.cast_mul, Nat.cast_mul, mul_div_mul_comm, ratio_value, ratio_value]

theorem div (hx : x.Denotes v) (hy : y.Denotes w) (hw : w ≠ 0) : (x.div y).Rounds (v / w) := by
  obtain ⟨m, e, rfl, rfl⟩ := hx
  obtain ⟨n, f, rfl, rfl⟩ := hy
  have hn : n ≠ 0 := by
    rintro rfl
    exact hw (by rw [Nat.cast_zero, zero_mul])
  have hpos : 0 < (ratio n f).1 := Nat.mul_pos (Nat.pos_of_ne_zero hn) (Nat.pow_pos Nat.two_pos)
  refine ⟨(ratio m e).1 * (ratio n f).2, (ratio m e).2 * (ratio n f).1,
    Nat.mul_pos (ratio_pos m e) hpos, ?_, if_neg hn⟩
  rw [Nat.cast_mul, Nat.cast_mul, mul_div_mul_comm, ratio_value, ← ratio_value n f,
    div_div_eq_mul_div, mul_div_assoc]

theorem add (hx : x.Denotes v) (hy : y.Denotes w) : (x.add y).Rounds (v + w) := by
  obtain ⟨m, e, rfl, rfl⟩ := hx
  obtain ⟨n, f, rfl, rfl⟩ := hy
  set low := if e < f then e else f with hlow
  have hle : low ≤ e ∧ low ≤ f := by
    rw [hlow]
    split <;> omega
  have hunits {k : ℤ} (hk : low ≤ k) : (2 : ℚ) ^ (k - low).toNat * 2 ^ low = 2 ^ k := by
    rw [← zpow_natCast, Int.toNat_of_nonneg (Int.sub_nonneg.2 hk), ← zpow_add₀ two_ne_zero,
      sub_add_cancel]
  set sum := m * Nat.pow 2 (e - low).toNat + n * Nat.pow 2 (f - low).toNat with hsum
  refine ⟨sum * Nat.pow 2 low.toNat, Nat.pow 2 (-low).toNat, Nat.pow_pos Nat.two_pos, ?_, ?_⟩
  · rw [hsum]
    simp only [Nat.pow_eq, Nat.cast_mul, Nat.cast_pow, Nat.cast_ofNat, Nat.cast_add]
    rw [mul_div_assoc, zpow_toNat, add_mul, mul_assoc, mul_assoc, hunits hle.1, hunits hle.2]
  · have hadd : add (finite false m e) (finite false n f) =
        if (sum : ℤ) = 0 then finite false 0 (-1074)
        else ofRatio ((sum : ℤ) < 0) ((sum : ℤ).natAbs * Nat.pow 2 low.toNat)
          (Nat.pow 2 (-low).toNat) := rfl
    rw [hadd, Int.natAbs_natCast, decide_eq_false (Int.not_lt.2 (Int.natCast_nonneg sum))]
    split
    next hzero =>
      rw [Int.natCast_eq_zero.1 hzero, Nat.zero_mul, ofRatio, if_pos rfl]
    next => rfl

/-- A value below one has no whole part and is its own fraction. -/
theorem wholePart (hx : x.Denotes v) : x.wholePart = ⌊v⌋₊ := by
  obtain ⟨m, e, rfl, rfl⟩ := hx
  rw [← ratio_value, Nat.floor_div_eq_div]
  rfl

theorem fractionPart (hx : x.Denotes v) (hv : v < 1) : x.fractionPart.Rounds v := by
  obtain ⟨m, e, rfl, rfl⟩ := hx
  have hpos : (0 : ℚ) < (ratio m e).2 := Nat.cast_pos.2 (ratio_pos m e)
  rw [← ratio_value, div_lt_one hpos, Nat.cast_lt] at hv
  refine ⟨(ratio m e).1, (ratio m e).2, ratio_pos m e, ratio_value m e, ?_⟩
  change ofRatio false ((ratio m e).1 % (ratio m e).2) (ratio m e).2 = _
  rw [Nat.mod_eq_of_lt hv]

theorem roundHalfUp (hx : x.Denotes v) : x.roundHalfUp = ⌊v + 1 / 2⌋₊ := by
  obtain ⟨m, e, rfl, rfl⟩ := hx
  have hpos : (0 : ℚ) < (ratio m e).2 := Nat.cast_pos.2 (ratio_pos m e)
  have hhalf : ((ratio m e).1 : ℚ) / (ratio m e).2 + 1 / 2 =
      (2 * (ratio m e).1 + (ratio m e).2 : Nat) / (2 * (ratio m e).2 : Nat) := by
    push_cast
    field_simp
  rw [← ratio_value, hhalf, Nat.floor_div_eq_div]
  rfl

end Denotes

end LeasePlan.Binary64
