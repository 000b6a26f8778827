import Mathlib
import LeasePlan.NameMap
import LeasePlan.Proofs.RawTexts

namespace LeasePlan

variable {α β κ : Type}

theorem find?_key_eq_some_iff [DecidableEq κ] {key : α → κ} {l : List α} (h : (l.map key).Nodup)
    {k : κ} {a : α} : l.find? (fun x => key x = k) = some a ↔ a ∈ l ∧ key a = k := by
  constructor
  · intro hf
    have hk := List.find?_some hf
    exact ⟨List.mem_of_find?_eq_some hf, of_decide_eq_true hk⟩
  · rintro ⟨ha, rfl⟩
    cases hf : l.find? (fun x => key x = key a) with
    | none => exact absurd (decide_eq_true rfl) (List.find?_eq_none.1 hf a ha)
    | some b =>
      have hb := List.mem_of_find?_eq_some hf
      have hk := List.find?_some hf
      rw [List.inj_on_of_nodup_map h hb ha (of_decide_eq_true hk)]

theorem nodup_eraseDups [BEq α] [LawfulBEq α] (l : List α) : l.eraseDups.Nodup := by
  induction hn : l.length using Nat.strong_induction_on generalizing l with
  | h n ih =>
    cases l with
    | nil => exact List.nodup_nil
    | cons a l =>
      rw [List.eraseDups_cons, List.nodup_cons]
      constructor
      · simp only [List.mem_eraseDups, List.mem_filter, beq_self_eq_true, Bool.not_true,
          Bool.false_eq_true, and_false, not_false_eq_true]
      · refine ih _ ?_ _ rfl
        rw [← hn, List.length_cons]
        exact Nat.lt_succ_of_le (List.length_filter_le _ _)

/-- Sorting names that are all different leaves no two neighbours equal. -/
theorem mergeSort_pairwise_lt {l : List RawText} (h : l.Nodup) :
    (l.mergeSort fun a b => a ≤ b).Pairwise (· < ·) := by
  have hle : (l.mergeSort fun a b => a ≤ b).Pairwise fun a b => decide (a ≤ b) = true := by
    apply List.pairwise_mergeSort
    · intro a b c hab hbc
      exact decide_eq_true (List.le_trans (of_decide_eq_true hab) (of_decide_eq_true hbc))
    · intro a b
      rw [Bool.or_eq_true, decide_eq_true_eq, decide_eq_true_eq]
      exact List.le_total a b
  have hne := (List.mergeSort_perm l fun a b => a ≤ b).nodup_iff.2 h
  exact (hle.and hne).imp fun ⟨hab, hn⟩ => RawText.lt_of_le_of_ne (of_decide_eq_true hab) hn

/-- In a strictly rising list the first hit is the one with the smallest name. -/
theorem findSome?_least {l : List RawText} {f : RawText → Option β} {b : β}
    (h : l.Pairwise (· < ·)) (hf : l.findSome? f = some b) :
    ∃ a ∈ l, f a = some b ∧ ∀ x ∈ l, f x ≠ none → a ≤ x := by
  obtain ⟨l₁, a, l₂, rfl, ha, hl₁⟩ := List.findSome?_eq_some_iff.1 hf
  refine ⟨a, by simp only [List.mem_append, List.mem_cons, true_or, or_true], ha, ?_⟩
  intro x hx hfx
  rcases List.mem_append.1 hx with hx | hx
  · exact absurd (hl₁ x hx) hfx
  · rcases List.mem_cons.1 hx with rfl | hx
    · exact List.le_refl x
    · have hpair := (List.pairwise_append.1 h).2.1
      exact RawText.le_of_lt ((List.pairwise_cons.1 hpair).1 x hx)

theorem pairwise_map_filterMap {R : κ → κ → Prop} {f : κ → Option β} {key : β → κ} {l : List κ}
    (hf : ∀ k ∈ l, ∀ b, f k = some b → key b = k) (h : l.Pairwise R) :
    ((l.filterMap f).map key).Pairwise R := by
  rw [List.pairwise_map, List.pairwise_filterMap]
  refine h.imp_of_mem fun {a a'} ha ha' haa' b hb b' hb' => ?_
  rw [hf a ha b hb, hf a' ha' b' hb']
  exact haa'

theorem find?_filterMap_eq_some_iff [DecidableEq κ] {f : κ → Option β} {key : β → κ} {l : List κ}
    (hf : ∀ k ∈ l, ∀ b, f k = some b → key b = k) (h : l.Nodup) {k : κ} {b : β} :
    (l.filterMap f).find? (fun x => key x = k) = some b ↔ k ∈ l ∧ f k = some b := by
  rw [find?_key_eq_some_iff (pairwise_map_filterMap hf h), List.mem_filterMap]
  constructor
  · rintro ⟨⟨k', hk', hb⟩, hkey⟩
    cases (hf k' hk' b hb).symm.trans hkey
    exact ⟨hk', hb⟩
  · rintro ⟨hk, hb⟩
    exact ⟨⟨k, hk, hb⟩, hf k hk b hb⟩

namespace NameMap

variable {m : NameMap α} {n : RawText}

theorem find?_eq_some_iff {a : α} : m.find? n = some a ↔ (n, a) ∈ m.entries := by
  rw [find?, Option.map_eq_some_iff]
  constructor
  · rintro ⟨e, he, rfl⟩
    obtain ⟨hmem, rfl⟩ := (find?_key_eq_some_iff m.nodup).1 he
    exact hmem
  · intro h
    exact ⟨(n, a), (find?_key_eq_some_iff m.nodup).2 ⟨h, rfl⟩, rfl⟩

theorem mem_names_iff : n ∈ m.names ↔ ∃ a, m.find? n = some a := by
  simp only [names, List.mem_map, find?_eq_some_iff, Prod.exists, exists_and_right, exists_eq_right]

theorem mem_sortedNames : n ∈ m.sortedNames ↔ n ∈ m.names := List.mem_mergeSort

theorem mem_sortedNames_iff : n ∈ m.sortedNames ↔ ∃ a, m.find? n = some a :=
  mem_sortedNames.trans mem_names_iff

theorem sortedNames_pairwise_lt (m : NameMap α) : m.sortedNames.Pairwise (· < ·) :=
  mergeSort_pairwise_lt m.nodup

end NameMap

end LeasePlan
