import Mathlib
import LeasePlan.Proofs.RangeWalk

namespace LeasePlan.AddressRange

variable {r : AddressRange} {p : Address → Bool} {a : Address} {l : List Address}

theorem walk_pairwise_lt (r : AddressRange) :
    r.walk.Pairwise fun a b => a.number < b.number := by
  apply List.pairwise_iff_getElem.2
  intro i j hi hj hij
  have hni := (isPlain_of_walk (List.getElem?_eq_getElem hi)).number_eq
  have hnj := (isPlain_of_walk (List.getElem?_eq_getElem hj)).number_eq
  rw [hni, hnj]
  exact Nat.add_lt_add_left hij _

theorem nodup_walk (r : AddressRange) : r.walk.Nodup := by
  apply r.walk_pairwise_lt.imp
  intro a b hlt heq
  rw [heq] at hlt
  exact Nat.lt_irrefl _ hlt

/-- In a list that rises by number the first match is the one with the least number. -/
theorem find?_eq_some_iff_least (hl : l.Pairwise fun a b => a.number < b.number) :
    l.find? p = some a ↔ a ∈ l ∧ p a = true ∧ ∀ b ∈ l, p b = true → a.number ≤ b.number := by
  induction l with
  | nil => simp only [List.find?_nil, reduceCtorEq, List.not_mem_nil, false_and]
  | cons c l ih =>
    obtain ⟨hc, hl⟩ := List.pairwise_cons.1 hl
    by_cases hp : p c = true
    · rw [List.find?_cons_of_pos hp]
      constructor
      · intro h
        cases h
        refine ⟨List.mem_cons_self, hp, ?_⟩
        intro b hb _
        rcases List.mem_cons.1 hb with rfl | hb
        · exact Nat.le_refl _
        · exact Nat.le_of_lt (hc b hb)
      · intro h
        obtain ⟨ha, -, hleast⟩ := h
        rcases List.mem_cons.1 ha with rfl | ha
        · rfl
        · have hle := hleast c List.mem_cons_self hp
          exact absurd (hc a ha) (Nat.not_lt_of_le hle)
    · rw [List.find?_cons_of_neg hp, ih hl]
      constructor
      · intro h
        obtain ⟨ha, hpa, hleast⟩ := h
        refine ⟨List.mem_cons_of_mem _ ha, hpa, ?_⟩
        intro b hb hpb
        rcases List.mem_cons.1 hb with rfl | hb
        · exact absurd hpb hp
        · exact hleast b hb hpb
      · intro h
        obtain ⟨ha, hpa, hleast⟩ := h
        rcases List.mem_cons.1 ha with rfl | ha
        · exact absurd hpa hp
        · exact ⟨ha, hpa, fun b hb => hleast b (List.mem_cons_of_mem _ hb)⟩

/-- The search with a question in place of the property, asked about one address after the other. -/
def searchM {m : Type → Type} [Monad m] (f : Family) (ask : Address → m Bool) :
    Nat → Nat → m (Option Address)
  | 0, _ => pure none
  | count + 1, n =>
    match Address.ofNumber? f n with
    | none => pure none
    | some a => do
      if ← ask a then pure (some a) else searchM f ask count (n + 1)

/-- Answers by a property, and notes down which address the question was about. -/
def noting (p : Address → Bool) (a : Address) : StateM (List Address) Bool := do
  modify fun asked => asked ++ [a]
  pure (p a)

/-- A list up to its first match, with that one. -/
def upToMatch (p : Address → Bool) (l : List Address) : List Address := l.take (l.findIdx p + 1)

theorem upToMatch_cons_of_pos (h : p a = true) : upToMatch p (a :: l) = [a] := by
  rw [upToMatch, List.findIdx_cons, h]
  rfl

theorem upToMatch_cons_of_neg (h : p a = false) :
    upToMatch p (a :: l) = a :: upToMatch p l := by
  rw [upToMatch, List.findIdx_cons, h]
  rfl

/-- One step of the search: the question about the address is noted before it is answered. -/
theorem run_searchM_noting_succ {f : Family} {n : Nat} (h : Address.ofNumber? f n = some a)
    (p : Address → Bool) (count : Nat) (asked : List Address) :
    (searchM f (noting p) (count + 1) n).run asked =
      if p a then (some a, asked ++ [a])
      else (searchM f (noting p) count (n + 1)).run (asked ++ [a]) := by
  have hask : (noting p a).run asked = (p a, asked ++ [a]) := rfl
  rw [searchM, h]
  simp only [StateT.run_bind, hask]
  cases p a with
  | true => rfl
  | false => rfl

/-- Noting the questions down changes nothing about the search, and they go up to its match. -/
theorem run_searchM_noting (f : Family) (p : Address → Bool) (count n : Nat)
    (asked : List Address) : (searchM f (noting p) count n).run asked =
      (search f p count n, asked ++ upToMatch p (numbered f count n)) := by
  induction count generalizing n asked with
  | zero => exact congrArg (Prod.mk none) (List.append_nil asked).symm
  | succ count ih =>
    cases hn : Address.ofNumber? f n with
    | none =>
      rw [searchM, search, numbered, hn]
      exact congrArg (Prod.mk none) (List.append_nil asked).symm
    | some a =>
      rw [run_searchM_noting_succ hn, search, numbered, hn, ih]
      cases hp : p a with
      | true => simp only [hp, ↓reduceIte, upToMatch_cons_of_pos hp]
      | false =>
        simp only [hp, Bool.false_eq_true, ↓reduceIte, upToMatch_cons_of_neg hp,
          List.append_assoc, List.singleton_append]

/-- The search through a range with a question in place of the property. -/
def findM {m : Type → Type} [Monad m] (r : AddressRange) (ask : Address → m Bool) :
    m (Option Address) :=
  searchM r.family ask r.length r.first.number

theorem run_findM_noting (r : AddressRange) (p : Address → Bool) :
    (r.findM (noting p)).run [] = (r.find? p, upToMatch p r.walk) :=
  run_searchM_noting _ _ _ _ _

theorem number_of_find? (h : r.find? p = some a) :
    a.number = r.first.number + r.walk.findIdx p := by
  rw [find?_eq, List.find?_eq_getElem?_findIdx] at h
  exact (isPlain_of_walk h).number_eq

theorem findIdx_of_find?_eq_none (h : r.find? p = none) : r.walk.findIdx p = r.length := by
  rw [find?_eq, List.find?_eq_none] at h
  rw [← r.length_walk, List.findIdx_eq_length]
  intro a ha
  exact eq_false_of_ne_true (h a ha)

/-- Whether an address is none of a set. -/
def outside (s : Finset Address) (a : Address) : Bool := decide (a ∉ s)

/-- The walk passes over no more addresses than a set has members before it leaves the set. -/
theorem findIdx_outside_le (r : AddressRange) (s : Finset Address) :
    r.walk.findIdx (outside s) ≤ s.card := by
  have hle : r.walk.findIdx (outside s) ≤ r.walk.length := List.findIdx_le_length
  have hnodup := r.nodup_walk.sublist (List.take_sublist (r.walk.findIdx (outside s)) r.walk)
  have hsub : (r.walk.take (r.walk.findIdx (outside s))).toFinset ⊆ s := by
    intro a ha
    obtain ⟨i, hi, rfl⟩ := List.mem_take_iff_getElem.1 (List.mem_toFinset.1 ha)
    have hin := List.not_of_lt_findIdx (Nat.lt_of_lt_of_le hi (Nat.min_le_left _ _))
    exact not_not.1 (of_decide_eq_false hin)
  calc r.walk.findIdx (outside s)
      = (r.walk.take (r.walk.findIdx (outside s))).length := (List.length_take_of_le hle).symm
    _ = (r.walk.take (r.walk.findIdx (outside s))).toFinset.card :=
        (List.toFinset_card_of_nodup hnodup).symm
    _ ≤ s.card := Finset.card_le_card hsub

/-- A search finds the address of the walk with the least number that has the property. -/
structure FindsLeast (r : AddressRange) (p : Address → Bool) : Prop where
  some_iff : ∀ a, r.find? p = some a ↔
    a ∈ r.walk ∧ p a = true ∧ ∀ b ∈ r.walk, p b = true → a.number ≤ b.number
  none_iff : r.find? p = none ↔ ∀ a ∈ r.walk, p a = false

theorem findsLeast (r : AddressRange) (p : Address → Bool) : r.FindsLeast p where
  some_iff _ := by
    rw [find?_eq]
    exact find?_eq_some_iff_least r.walk_pairwise_lt
  none_iff := by
    simp only [find?_eq, List.find?_eq_none, Bool.not_eq_true]

/-- A search for an address outside a set ends near the start of the range, or the range is no
longer than the set is large; in either case it asks about few addresses. -/
structure EndsEarly (r : AddressRange) (s : Finset Address) : Prop where
  near : ∀ a, r.find? (outside s) = some a →
    r.first.number ≤ a.number ∧ a.number - r.first.number ≤ s.card
  exhausted : r.find? (outside s) = none → r.length ≤ s.card
  asked : ∃ asked, (r.findM (noting (outside s))).run [] = (r.find? (outside s), asked) ∧
    asked <+: r.walk ∧ asked.length ≤ s.card + 1

theorem endsEarly (r : AddressRange) (s : Finset Address) : r.EndsEarly s where
  near := by
    intro a h
    rw [number_of_find? h, Nat.add_sub_cancel_left]
    exact ⟨Nat.le_add_right _ _, r.findIdx_outside_le s⟩
  exhausted := by
    intro h
    rw [← findIdx_of_find?_eq_none h]
    exact r.findIdx_outside_le s
  asked := by
    refine ⟨upToMatch (outside s) r.walk, r.run_findM_noting _, List.take_prefix _ _, ?_⟩
    calc (upToMatch (outside s) r.walk).length
        ≤ r.walk.findIdx (outside s) + 1 := List.length_take_le _ _
      _ ≤ s.card + 1 := Nat.succ_le_succ (r.findIdx_outside_le s)

/-- The search finds the least match, and ends early where few addresses do not match. -/
theorem search_least_and_early (r : AddressRange) :
    (∀ p, r.FindsLeast p) ∧ ∀ s, r.EndsEarly s :=
  ⟨r.findsLeast, r.endsEarly⟩

end LeasePlan.AddressRange
