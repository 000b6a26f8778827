import Mathlib
import LeasePlan.AddressRange.Basic

namespace LeasePlan

theorem Address.atMost_v4_iff {m n : Number4} : (Address.v4 m).atMost (.v4 n) = true ↔ m ≤ n := by
  simp only [atMost, Bool.or_eq_true, decide_eq_true_eq, v4.injEq]
  exact (le_iff_lt_or_eq (a := m) (b := n)).symm

namespace AddressRange

theorem ofEnds_eq_ok_iff {a b : Address} {r : AddressRange} :
    ofEnds a b = .ok r ↔ r.first = a ∧ r.last = b := by
  unfold ofEnds
  constructor
  · intro h
    split at h
    · split at h
      · split at h
        · cases h
          exact ⟨rfl, rfl⟩
        · cases h
      · cases h
    · cases h
  · rintro ⟨rfl, rfl⟩
    rw [dif_pos r.family_eq, dif_pos r.number_lt, dif_pos r.length_le]

/-- What two addresses must be like to have a flaw. -/
def HasFlaw (a b : Address) : RangeFlaw → Prop
  | .familyMismatch => a.family ≠ b.family
  | .notAscending => a.family = b.family ∧ b.number ≤ a.number
  | .tooLarge n => a.family = b.family ∧ a.number < b.number ∧ n = b.number - a.number + 1 ∧
      maxLength < n

theorem hasFlaw_of_ofEnds {a b : Address} {flaw : RangeFlaw} (h : ofEnds a b = .error flaw) :
    HasFlaw a b flaw := by
  unfold ofEnds at h
  split at h
  next hf =>
    split at h
    next hn =>
      split at h
      · cases h
      next hl =>
        cases h
        exact ⟨hf, hn, rfl, Nat.lt_of_not_le hl⟩
    next hn =>
      cases h
      exact ⟨hf, Nat.le_of_not_lt hn⟩
  next hf =>
    cases h
    exact hf

/-- IPv4 ends have no flaw but that they do not rise, or that they are the ends of the family. -/
theorem ofEnds_v4_eq_error {s e : Number4} {flaw : RangeFlaw}
    (h : ofEnds (.v4 s) (.v4 e) = .error flaw) :
    (flaw = .notAscending ∧ e ≤ s) ∨ ∃ n, flaw = .tooLarge n ∧ s = 0 ∧ e = 4294967295 := by
  have hflaw := hasFlaw_of_ofEnds h
  cases flaw with
  | familyMismatch => exact absurd rfl hflaw
  | notAscending => exact .inl ⟨rfl, hflaw.2⟩
  | tooLarge n =>
    obtain ⟨-, hlt, hn, hmax⟩ := hflaw
    have he := e.isLt
    simp only [Address.number, maxLength] at hlt hn hmax
    refine .inr ⟨n, rfl, Fin.ext ?_, Fin.ext ?_⟩
    · change s.val = 0
      omega
    · change e.val = 4294967295
      omega

theorem number_mem_of_contains {r : AddressRange} {a : Address} (h : r.contains a = true) :
    a.family = r.family ∧ r.first.number ≤ a.number ∧ a.number ≤ r.last.number := by
  simp only [contains, Bool.and_eq_true, decide_eq_true_eq] at h
  exact ⟨h.1.1, Address.number_le_of_atMost h.1.2, Address.number_le_of_atMost h.2⟩

theorem contains_iff_of_v4 {r : AddressRange} {s e : Number4} (hs : r.first = .v4 s)
    (he : r.last = .v4 e) {a : Address} :
    r.contains a = true ↔ ∃ n, a = .v4 n ∧ s ≤ n ∧ n ≤ e := by
  rw [contains, family, hs, he]
  cases a with
  | v4 n =>
    simp only [Address.family, decide_true, Bool.true_and, Bool.and_eq_true, Address.atMost_v4_iff,
      Address.v4.injEq, exists_eq_left']
  | v6 n z =>
    simp only [Address.family, reduceCtorEq, decide_false, Bool.false_and, Bool.false_eq_true,
      false_and, exists_const]

theorem offset?_of_contains {r : AddressRange} {a : Address} (h : r.contains a = true) :
    ∃ k, r.offset? a = some k ∧ r.first.number + k = a.number ∧ k < r.length := by
  obtain ⟨-, hlo, hhi⟩ := number_mem_of_contains h
  refine ⟨a.number - r.first.number, if_pos h, Nat.add_sub_cancel' hlo, ?_⟩
  rw [length]
  omega

end AddressRange

end LeasePlan
