import Mathlib
import LeasePlan.Subnet

namespace LeasePlan.Subnet

theorem bitLength_two_pow_sub_one (k : Nat) : bitLength (2 ^ k - 1) = k := by
  unfold bitLength
  cases k with
  | zero => rfl
  | succ k =>
    have hk := Nat.two_pow_pos k
    have hne : 2 ^ (k + 1) - 1 ≠ 0 := by
      rw [Nat.pow_succ]
      omega
    have hlog : (2 ^ (k + 1) - 1).log2 = k := by
      rw [Nat.log2_eq_iff hne, Nat.pow_succ]
      omega
    rw [if_neg hne, hlog]

theorem and_succ_eq_zero_iff (h : Nat) : h &&& (h + 1) = 0 ↔ ∃ k, h + 1 = 2 ^ k := by
  rw [Nat.and_comm]
  exact Nat.and_sub_one_eq_zero_iff_isPowerOfTwo (Nat.succ_ne_zero h)

/-- A mask has a prefix length if it is what remains of 2³² without a power of two. -/
theorem maskLength?_eq_some_iff {m : Number4} {p : Nat} :
    maskLength? m = some p ↔ p ≤ 32 ∧ m.val = 2 ^ 32 - 2 ^ (32 - p) := by
  have hm : m.val < 2 ^ 32 := m.isLt
  have hh : hostBits m + 1 = 2 ^ 32 - m.val := by
    unfold hostBits
    omega
  constructor
  · intro h
    simp only [maskLength?] at h
    split at h
    · cases h
    next hz =>
      cases h
      obtain ⟨k, hk⟩ := (and_succ_eq_zero_iff _).1 (not_not.1 hz)
      have hbits : hostBits m = 2 ^ k - 1 := by omega
      have hk32 : k ≤ 32 := by
        apply (Nat.pow_le_pow_iff_right (a := 2) (by decide)).1
        omega
      rw [hbits, bitLength_two_pow_sub_one]
      refine ⟨Nat.sub_le 32 k, ?_⟩
      rw [Nat.sub_sub_self hk32]
      omega
  · rintro ⟨hp, hv⟩
    have hpow : 2 ^ (32 - p) ≤ 2 ^ 32 := Nat.pow_le_pow_right (by decide) (Nat.sub_le 32 p)
    have hpos := Nat.two_pow_pos (32 - p)
    have hbits : hostBits m = 2 ^ (32 - p) - 1 := by omega
    have hz : hostBits m &&& (hostBits m + 1) = 0 :=
      (and_succ_eq_zero_iff _).2 ⟨32 - p, by omega⟩
    simp only [maskLength?, hz, ne_eq, not_true_eq_false, ↓reduceIte]
    rw [hbits, bitLength_two_pow_sub_one, Nat.sub_sub_self hp]

theorem maskLength?_eq_none_iff {m : Number4} :
    maskLength? m = none ↔ ¬ ∃ p ≤ 32, m.val = 2 ^ 32 - 2 ^ (32 - p) := by
  simp only [Option.eq_none_iff_forall_ne_some, ne_eq, maskLength?_eq_some_iff, not_exists]

theorem mask_eq (s : Subnet) : s.mask = 2 ^ 32 - 2 ^ (32 - s.length) := rfl

/-- How many addresses the network of a subnet has. -/
def size (s : Subnet) : Nat := 2 ^ (32 - s.length)

theorem size_pos (s : Subnet) : 0 < s.size := Nat.two_pow_pos _

/-- Three addresses need two host bits. -/
theorem length_le_of_size {s : Subnet} (h : 2 < s.size) : s.length ≤ 30 := by
  have hone : 1 < 32 - s.length := (Nat.pow_lt_pow_iff_right (a := 2) (by decide)).1 h
  omega

theorem testBit_mask (s : Subnet) (i : Nat) :
    s.mask.testBit i = (decide (i < 32) && decide (32 - s.length ≤ i)) := by
  have hle : 2 ^ (32 - s.length) ≤ 2 ^ 32 := Nat.pow_le_pow_right (by decide) (Nat.sub_le _ _)
  have hpos := Nat.two_pow_pos (32 - s.length)
  have hlt : 2 ^ (32 - s.length) - 1 < 2 ^ 32 := by omega
  have hs : s.mask = 2 ^ 32 - (2 ^ (32 - s.length) - 1 + 1) := by
    rw [mask_eq, Nat.sub_add_cancel hpos]
  rw [hs, Nat.testBit_two_pow_sub_succ hlt, Nat.testBit_two_pow_sub_one]
  simp only [← decide_not, Nat.not_lt]

theorem and_mask (s : Subnet) {n : Nat} (hn : n < 2 ^ 32) :
    n &&& s.mask = n / s.size * s.size := by
  apply Nat.eq_of_testBit_eq
  intro i
  rw [Nat.testBit_and, testBit_mask, size, Nat.testBit_mul_two_pow, Nat.testBit_div_two_pow]
  by_cases hi : 32 - s.length ≤ i
  · by_cases h32 : i < 32
    · simp only [hi, h32, decide_true, Bool.and_true, Bool.true_and, Nat.sub_add_cancel]
    · have hz : n.testBit i = false := by
        apply Nat.testBit_lt_two_pow
        exact Nat.lt_of_lt_of_le hn (Nat.pow_le_pow_right (by decide) (Nat.not_lt.1 h32))
      simp only [hi, h32, hz, Nat.sub_add_cancel, Bool.false_and, Bool.and_false]
  · simp only [hi, decide_false, Bool.and_false, Bool.false_and]

theorem network_eq (s : Subnet) : s.network = s.host.val / s.size * s.size :=
  and_mask s s.host.isLt

theorem containsNumber_iff_div (s : Subnet) {n : Nat} (hn : n < 2 ^ 32) :
    s.containsNumber n = true ↔ n / s.size = s.host.val / s.size := by
  rw [containsNumber, decide_eq_true_eq, network_eq, and_mask s hn]
  exact Nat.mul_left_inj (Nat.ne_of_gt s.size_pos)

/-- The network is a block of consecutive numbers. -/
theorem containsNumber_iff (s : Subnet) {n : Nat} (hn : n < 2 ^ 32) :
    s.containsNumber n = true ↔ s.network ≤ n ∧ n < s.network + s.size := by
  have hpos := s.size_pos
  rw [containsNumber_iff_div s hn, Nat.div_eq_iff hpos, network_eq]
  omega

theorem contains_host (s : Subnet) : s.containsNumber s.host.val = true :=
  (containsNumber_iff_div s s.host.isLt).2 rfl

end LeasePlan.Subnet
