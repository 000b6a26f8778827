import Mathlib
import LeasePlan.Proofs.RangeMembership

namespace LeasePlan

namespace Address

/-- The address of a family with a number, in no zone. -/
structure IsPlain (f : Family) (n : Nat) (a : Address) : Prop where
  family_eq : a.family = f
  number_eq : a.number = n
  zone_eq : a.zone = none

theorem IsPlain.unique {f : Family} {n : Nat} {a b : Address} (ha : a.IsPlain f n)
    (hb : b.IsPlain f n) : a = b :=
  ext_view (ha.family_eq.trans hb.family_eq.symm) (ha.number_eq.trans hb.number_eq.symm)
    (ha.zone_eq.trans hb.zone_eq.symm)

theorem isPlain_of_ofNumber? {f : Family} {n : Nat} {a : Address} (h : ofNumber? f n = some a) :
    a.IsPlain f n := by
  cases f with
  | v4 =>
    obtain ⟨_, he⟩ := Option.dite_none_right_eq_some.1 h
    cases he
    exact ⟨rfl, rfl, rfl⟩
  | v6 =>
    obtain ⟨_, he⟩ := Option.dite_none_right_eq_some.1 h
    cases he
    exact ⟨rfl, rfl, rfl⟩

theorem exists_ofNumber? {f : Family} {n : Nat} (h : n < f.size) :
    ∃ a, ofNumber? f n = some a := by
  cases f with
  | v4 => exact ⟨_, dif_pos h⟩
  | v6 => exact ⟨_, dif_pos h⟩

end Address

namespace AddressRange

/-- Where a family has enough numbers, an address is built for each that is asked for. -/
theorem numbered_built {f : Family} {count n : Nat} (h : n + count ≤ f.size) :
    List.Forall₂ (fun m a => Address.ofNumber? f m = some a) (List.range' n count)
      (numbered f count n) := by
  induction count generalizing n with
  | zero => exact .nil
  | succ count ih =>
    obtain ⟨a, ha⟩ := Address.exists_ofNumber? (f := f) (n := n) (by omega)
    have htail := ih (n := n + 1) (by omega)
    rw [List.range'_succ, numbered, ha]
    exact .cons ha htail

variable {r : AddressRange} {a b : Address} {k : Nat}

theorem number_add_length (r : AddressRange) : r.first.number + r.length = r.last.number + 1 := by
  have hlt := r.number_lt
  rw [length]
  omega

theorem number_add_length_le (r : AddressRange) :
    r.first.number + r.length ≤ r.family.size := by
  have hlast : r.last.number < r.family.size := by
    rw [family, r.family_eq]
    exact r.last.number_lt
  rw [number_add_length]
  exact hlast

theorem two_le_length (r : AddressRange) : 2 ≤ r.length := by
  have hlt := r.number_lt
  rw [length]
  omega

/-- The walk takes the numbers from the first to the last end, each of which the family has. -/
theorem walk_built (r : AddressRange) :
    List.Forall₂ (fun n a => Address.ofNumber? r.family n = some a)
      (List.range' r.first.number r.length) r.walk :=
  numbered_built r.number_add_length_le

theorem length_walk (r : AddressRange) : r.walk.length = r.length := by
  rw [← r.walk_built.length_eq, List.length_range']

theorem exists_walk (hk : k < r.length) :
    ∃ b, r.walk[k]? = some b ∧ b.IsPlain r.family (r.first.number + k) := by
  have hrange : k < (List.range' r.first.number r.length).length := by
    rwa [List.length_range']
  have hwalk : k < r.walk.length := by rwa [r.length_walk]
  have hget := r.walk_built.get hrange hwalk
  rw [List.get_eq_getElem, List.get_eq_getElem, List.getElem_range', Nat.one_mul] at hget
  exact ⟨r.walk[k], List.getElem?_eq_getElem hwalk, Address.isPlain_of_ofNumber? hget⟩

theorem lt_length_of_walk (h : r.walk[k]? = some b) : k < r.length := by
  obtain ⟨hk, -⟩ := List.getElem?_eq_some_iff.1 h
  rwa [length_walk] at hk

theorem isPlain_of_walk (h : r.walk[k]? = some b) : b.IsPlain r.family (r.first.number + k) := by
  obtain ⟨b', hb', hplain⟩ := exists_walk (lt_length_of_walk h)
  cases hb'.symm.trans h
  exact hplain

/-- The ends are contained by being themselves, and what is between them by its number. -/
theorem contains_iff : r.contains a = true ↔ a.family = r.family ∧
    (r.first.number < a.number ∨ r.first = a) ∧ (a.number < r.last.number ∨ a = r.last) := by
  simp only [contains, Address.atMost, Bool.and_eq_true, Bool.or_eq_true, decide_eq_true_eq,
    and_assoc]

/-- The place of an end that lies in a zone: the walk passes it with another address. -/
def MissesAt (r : AddressRange) (k : Nat) : Prop :=
  (k = 0 ∧ r.first.zone ≠ none) ∨ (k + 1 = r.length ∧ r.last.zone ≠ none)

theorem contains_walk_iff (h : r.walk[k]? = some b) :
    r.contains b = true ↔ ¬ r.MissesAt k := by
  obtain ⟨hf, hn, hz⟩ := isPlain_of_walk h
  have hlt := lt_length_of_walk h
  have hsum := r.number_add_length
  have hfirst : r.first.number < b.number ∨ r.first = b ↔ ¬ (k = 0 ∧ r.first.zone ≠ none) := by
    rw [not_and_or, not_not]
    constructor
    · rintro (hlo | rfl)
      · exact .inl (by omega)
      · exact .inr hz
    · intro hor
      by_cases hk : k = 0
      · have hzone : r.first.zone = none := hor.resolve_left (not_not.2 hk)
        right
        exact Address.ext_view hf.symm (by omega) (hzone.trans hz.symm)
      · left
        omega
  have hlast : b.number < r.last.number ∨ b = r.last ↔
      ¬ (k + 1 = r.length ∧ r.last.zone ≠ none) := by
    rw [not_and_or, not_not]
    constructor
    · rintro (hhi | rfl)
      · exact .inl (by omega)
      · exact .inr hz
    · intro hor
      by_cases hk : k + 1 = r.length
      · have hzone : r.last.zone = none := hor.resolve_left (not_not.2 hk)
        right
        exact Address.ext_view (hf.trans r.family_eq) (by omega) (hz.trans hzone.symm)
      · left
        omega
  rw [contains_iff, hfirst, hlast, MissesAt, not_or]
  exact and_iff_right hf

theorem offset?_walk (h : r.walk[k]? = some b) (hk : ¬ r.MissesAt k) : r.offset? b = some k := by
  rw [offset?, if_pos ((contains_walk_iff h).2 hk), (isPlain_of_walk h).number_eq,
    Nat.add_sub_cancel_left]

theorem offset?_eq_none (h : r.contains a = false) : r.offset? a = none := by
  rw [offset?, h]
  rfl

/-- The number that stands for the offset of an address: zero for one that is not contained. -/
def position (r : AddressRange) (a : Address) : Nat := (r.offset? a).getD 0

theorem number_add_position (h : r.contains a = true) :
    r.first.number + r.position a = a.number := by
  obtain ⟨k, hk, hsum, -⟩ := offset?_of_contains h
  rw [position, hk]
  exact hsum

/-- A range whose ends are on its own walk. -/
structure Plain (r : AddressRange) : Prop where
  first_zone : r.first.zone = none
  last_zone : r.last.zone = none

namespace Plain

theorem not_missesAt (hr : r.Plain) : ¬ r.MissesAt k := by
  rintro (⟨-, h⟩ | ⟨-, h⟩)
  · exact h hr.first_zone
  · exact h hr.last_zone

theorem position_walk (hr : r.Plain) (h : r.walk[k]? = some b) : r.position b = k := by
  rw [position, offset?_walk h hr.not_missesAt]
  rfl

/-- A contained address in no zone stands on the walk, at its offset. -/
theorem walk_position (ha : r.contains a = true) (hz : a.zone = none) :
    r.walk[r.position a]? = some a := by
  obtain ⟨hf, -, hhi⟩ := number_mem_of_contains ha
  have hsum := number_add_position ha
  have hlen := r.number_add_length
  obtain ⟨b, hb, hplain⟩ := exists_walk (r := r) (k := r.position a) (by omega)
  rw [hb, hplain.unique ⟨hf, hsum.symm, hz⟩]

theorem bijOn_position (hr : r.Plain) :
    Set.BijOn r.position {a | r.contains a = true ∧ a.zone = none} (Set.Iio r.length) := by
  refine ⟨?_, ?_, ?_⟩
  · rintro a ⟨ha, hz⟩
    exact lt_length_of_walk (walk_position ha hz)
  · rintro a ⟨ha, hza⟩ b ⟨hb, hzb⟩ heq
    have hwa := walk_position ha hza
    have hwb := walk_position hb hzb
    rw [heq, hwb] at hwa
    exact (Option.some.inj hwa).symm
  · intro k hk
    obtain ⟨b, hb, hplain⟩ := exists_walk hk
    exact ⟨b, ⟨(contains_walk_iff hb).2 hr.not_missesAt, hplain.zone_eq⟩, hr.position_walk hb⟩

theorem find?_position (hr : r.Plain) (ha : r.contains a = true) (hz : a.zone = none) :
    (r.find? fun x => r.position x = r.position a) = some a := by
  have hwalk := walk_position ha hz
  obtain ⟨hlt, hget⟩ := List.getElem?_eq_some_iff.1 hwalk
  rw [find?_eq, List.find?_eq_some_iff_getElem]
  refine ⟨decide_eq_true rfl, r.position a, hlt, hget, ?_⟩
  intro j hj
  have hpos : r.position r.walk[j] = j :=
    hr.position_walk (List.getElem?_eq_getElem (Nat.lt_trans hj hlt))
  rw [hpos, decide_eq_false (Nat.ne_of_lt hj)]
  rfl

end Plain

/-- Offsets of the plain contained addresses number them in order and without gaps. -/
structure Numbering (r : AddressRange) : Prop where
  bijOn : Set.BijOn r.position {a | r.contains a = true ∧ a.zone = none} (Set.Iio r.length)
  position_lt_iff : ∀ a b, r.contains a = true → r.contains b = true →
    (r.position a < r.position b ↔ a.number < b.number)
  find? : ∀ a, r.contains a = true → a.zone = none →
    (r.find? fun x => r.position x = r.position a) = some a

/-- Walk, length, offset and containment describe one set of addresses, apart from ends that lie in
a zone. -/
structure Coherent (r : AddressRange) : Prop where
  two_le_length : 2 ≤ r.length
  length_le : r.length ≤ 2 ^ 32 - 1
  built : List.Forall₂ (fun n a => Address.ofNumber? r.family n = some a)
    (List.range' r.first.number r.length) r.walk
  length_walk : r.walk.length = r.length
  walk : ∀ k < r.length, ∃ b, r.walk[k]? = some b ∧ b.IsPlain r.family (r.first.number + k)
  offset? : ∀ a, r.contains a = true → ∃ k b, r.offset? a = some k ∧
    r.first.number + k = a.number ∧ k ≤ 2 ^ 32 - 2 ∧ r.walk[k]? = some b ∧ b.number = a.number
  contained : ∀ k b, r.walk[k]? = some b → ¬ r.MissesAt k →
    r.contains b = true ∧ r.offset? b = some k
  missed : ∀ k b, r.walk[k]? = some b → r.MissesAt k →
    r.contains b = false ∧ r.offset? b = none
  numbering : r.Plain → r.Numbering

theorem coherent (r : AddressRange) : r.Coherent where
  two_le_length := r.two_le_length
  length_le := r.length_le
  built := r.walk_built
  length_walk := r.length_walk
  walk _ hk := exists_walk hk
  offset? := by
    intro a ha
    obtain ⟨k, hk, hsum, hlt⟩ := offset?_of_contains ha
    obtain ⟨b, hb, hplain⟩ := exists_walk hlt
    have hle : r.length ≤ 2 ^ 32 - 1 := r.length_le
    exact ⟨k, b, hk, hsum, by omega, hb, hplain.number_eq.trans hsum⟩
  contained _ _ hb hk := ⟨(contains_walk_iff hb).2 hk, offset?_walk hb hk⟩
  missed := by
    intro k b hb hk
    have hout : r.contains b = false := by
      rw [← Bool.not_eq_true, contains_walk_iff hb, not_not]
      exact hk
    exact ⟨hout, offset?_eq_none hout⟩
  numbering hr := {
    bijOn := hr.bijOn_position
    position_lt_iff := by
      intro a b ha hb
      have hsa := number_add_position ha
      have hsb := number_add_position hb
      omega
    find? := fun _ ha hz => hr.find?_position ha hz }

end AddressRange

end LeasePlan
