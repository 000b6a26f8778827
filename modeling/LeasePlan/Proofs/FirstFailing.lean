import Mathlib
import LeasePlan.Proofs.RawTexts

namespace LeasePlan

/-- The first element of a list that fails a test, behind elements that all pass it. -/
inductive FirstFailing {α : Type} (Passes : α → Prop) : List α → α → Prop
  | head {a : α} {as : List α} (h : ¬ Passes a) : FirstFailing Passes (a :: as) a
  | tail {a b : α} {as : List α} (ha : Passes a) (h : FirstFailing Passes as b) :
      FirstFailing Passes (a :: as) b

namespace FirstFailing

variable {α β : Type} {Passes : α → Prop} {l : List α} {a : α}

theorem exists_or_forall (Passes : α → Prop) (l : List α) :
    (∃ a, FirstFailing Passes l a) ∨ ∀ a ∈ l, Passes a := by
  induction l with
  | nil => exact .inr fun a ha => absurd ha List.not_mem_nil
  | cons b l ih =>
    by_cases hb : Passes b
    · rcases ih with ⟨a, ha⟩ | hall
      · exact .inl ⟨a, .tail hb ha⟩
      · exact .inr (List.forall_mem_cons.2 ⟨hb, hall⟩)
    · exact .inl ⟨b, .head hb⟩

theorem mem_and_not (h : FirstFailing Passes l a) : a ∈ l ∧ ¬ Passes a := by
  induction h with
  | head h => exact ⟨List.mem_cons_self, h⟩
  | tail _ _ ih => exact ⟨List.mem_cons_of_mem _ ih.1, ih.2⟩

/-- Everything before the first element that fails passes. -/
theorem passes_takeWhile [DecidableEq α] (h : FirstFailing Passes l a) :
    ∀ b ∈ l.takeWhile (fun b => decide (b ≠ a)), Passes b := by
  induction h with
  | @head a as h =>
    have hstop : ¬ decide (a ≠ a) = true := by
      rw [decide_eq_true_eq, not_not]
    rw [List.takeWhile_cons, if_neg hstop]
    exact fun b hb => absurd hb List.not_mem_nil
  | @tail c a as hc h ih =>
    have hne : c ≠ a := by
      rintro rfl
      exact h.mem_and_not.2 hc
    rw [List.takeWhile_cons, if_pos (decide_eq_true hne)]
    exact List.forall_mem_cons.2 ⟨hc, ih⟩

/-- In a strictly rising list the first element that fails is the least one. -/
theorem isLeast {l : List RawText} {Passes : RawText → Prop} {a : RawText}
    (hl : l.Pairwise (· < ·)) (h : FirstFailing Passes l a) :
    IsLeast {n | n ∈ l ∧ ¬ Passes n} a := by
  refine ⟨h.mem_and_not, ?_⟩
  rintro n ⟨hn, hf⟩
  induction h with
  | head h =>
    rcases List.mem_cons.1 hn with rfl | hn
    · exact List.le_refl n
    · exact RawText.le_of_lt ((List.pairwise_cons.1 hl).1 n hn)
  | tail ha _ ih =>
    rcases List.mem_cons.1 hn with rfl | hn
    · exact absurd ha hf
    · exact ih (List.pairwise_cons.1 hl).2 hn

theorem of_isLeast {l : List RawText} {Passes : RawText → Prop} {a : RawText}
    (hl : l.Pairwise (· < ·)) (h : IsLeast {n | n ∈ l ∧ ¬ Passes n} a) :
    FirstFailing Passes l a := by
  rcases exists_or_forall Passes l with ⟨b, hb⟩ | hall
  · have hleast := hb.isLeast hl
    rw [List.le_antisymm (h.2 hleast.1) (hleast.2 h.1)]
    exact hb
  · exact absurd (hall a h.1.1) h.1.2

/-- A search for what does not pass stops at the first element that fails. -/
theorem find?_eq (h : FirstFailing Passes l a) {p : α → Bool}
    (hp : ∀ x, p x = true ↔ ¬ Passes x) : l.find? p = some a := by
  induction h with
  | head h => exact List.find?_cons_of_pos ((hp _).2 h)
  | tail hpass _ ih =>
    rw [List.find?_cons_of_neg fun hx => (hp _).1 hx hpass]
    exact ih

/-- A search that skips what passes stops at the first element that fails. -/
theorem findSome?_eq {f : α → Option β} {b : β} (h : FirstFailing Passes l a)
    (hskip : ∀ x ∈ l, Passes x → f x = none) (ha : f a = some b) : l.findSome? f = some b := by
  induction h with
  | head h => rw [List.findSome?_cons, ha]
  | tail hp _ ih =>
    rw [List.findSome?_cons, hskip _ List.mem_cons_self hp]
    exact ih (fun x hx => hskip x (List.mem_cons_of_mem _ hx)) ha

end FirstFailing

end LeasePlan
