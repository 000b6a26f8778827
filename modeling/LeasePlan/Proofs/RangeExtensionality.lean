import Mathlib
import LeasePlan.Proofs.RangeWalk

namespace LeasePlan

/-- Of two addresses with one number neither comes before the other unless they are the same. -/
theorem Address.eq_of_mutual {a b : Address} (hab : a.number < b.number ∨ a = b)
    (hba : b.number < a.number ∨ b = a) : a = b := by
  rcases hab with hlt | heq
  · rcases hba with hgt | heq
    · exact absurd hgt (Nat.not_lt_of_gt hlt)
    · exact heq.symm
  · exact heq

namespace AddressRange

variable {r t : AddressRange} {a : Address}

theorem contains_first (r : AddressRange) : r.contains r.first = true :=
  contains_iff.2 ⟨rfl, .inr rfl, .inl r.number_lt⟩

theorem contains_last (r : AddressRange) : r.contains r.last = true :=
  contains_iff.2 ⟨r.family_eq.symm, .inl r.number_lt, .inr rfl⟩

/-- An address stands in the interval of a range, and at a border of it only as the end itself. -/
structure Encloses (r : AddressRange) (a : Address) : Prop where
  family_eq : a.family = r.family
  first_le : r.first.number ≤ a.number
  le_last : a.number ≤ r.last.number
  eq_first : a.number = r.first.number → a = r.first
  eq_last : a.number = r.last.number → a = r.last

theorem Encloses.of_contains (h : r.contains a = true) : r.Encloses a := by
  obtain ⟨hf, hlo, hhi⟩ := contains_iff.1 h
  obtain ⟨-, hle, hge⟩ := number_mem_of_contains h
  constructor
  · exact hf
  · exact hle
  · exact hge
  · intro hn
    exact (hlo.resolve_left (Nat.not_lt_of_le (Nat.le_of_eq hn))).symm
  · intro hn
    exact hhi.resolve_left (Nat.not_lt_of_le (Nat.le_of_eq hn.symm))

theorem Encloses.contains (h : r.Encloses a) : r.contains a = true := by
  apply contains_iff.2
  constructor
  · exact h.family_eq
  constructor
  · rcases Nat.lt_or_eq_of_le h.first_le with hlt | heq
    · exact .inl hlt
    · exact .inr (h.eq_first heq.symm).symm
  · rcases Nat.lt_or_eq_of_le h.le_last with hlt | heq
    · exact .inl hlt
    · exact .inr (h.eq_last heq)

/-- A range lies in another one exactly if its two ends do. -/
theorem forall_contains_iff : (∀ a, r.contains a = true → t.contains a = true) ↔
    t.contains r.first = true ∧ t.contains r.last = true := by
  constructor
  · intro h
    exact ⟨h _ r.contains_first, h _ r.contains_last⟩
  · intro h a ha
    obtain ⟨hf, hlo, hhi⟩ := contains_iff.1 ha
    obtain ⟨hff, hfirst, -⟩ := contains_iff.1 h.1
    obtain ⟨-, -, hlast⟩ := contains_iff.1 h.2
    have hle := (number_mem_of_contains h.1).2.1
    have hge := (number_mem_of_contains h.2).2.2
    apply contains_iff.2
    constructor
    · exact hf.trans hff
    constructor
    · rcases hlo with hlt | rfl
      · exact .inl (Nat.lt_of_le_of_lt hle hlt)
      · exact hfirst
    · rcases hhi with hlt | rfl
      · exact .inl (Nat.lt_of_lt_of_le hlt hge)
      · exact hlast

theorem eq_of_ends (hfirst : r.first = t.first) (hlast : r.last = t.last) : r = t := by
  cases r
  cases t
  cases hfirst
  cases hlast
  rfl

/-- Ranges that lie in one another have the same ends. -/
theorem eq_of_forall_contains (hrt : ∀ a, r.contains a = true → t.contains a = true)
    (htr : ∀ a, t.contains a = true → r.contains a = true) : r = t := by
  obtain ⟨hrfirst, hrlast⟩ := forall_contains_iff.1 hrt
  obtain ⟨htfirst, htlast⟩ := forall_contains_iff.1 htr
  apply eq_of_ends
  · apply Address.eq_of_mutual
    · exact (contains_iff.1 htfirst).2.1
    · exact (contains_iff.1 hrfirst).2.1
  · apply Address.eq_of_mutual
    · exact (contains_iff.1 hrlast).2.2
    · exact (contains_iff.1 htlast).2.2

/-- Two ranges are equal exactly if they contain the same addresses, and these are the ones in the
interval between the ends, where at the borders only the ends themselves count. -/
theorem extensional (r t : AddressRange) :
    (r = t ↔ ∀ a, r.contains a = t.contains a) ∧ ∀ a, r.contains a = true ↔ r.Encloses a := by
  constructor
  · constructor
    · rintro rfl a
      rfl
    · intro h
      apply eq_of_forall_contains
      · intro a ha
        rw [← h a, ha]
      · intro a ha
        rw [h a, ha]
  · intro a
    exact ⟨.of_contains, fun h => h.contains⟩

end AddressRange

end LeasePlan
