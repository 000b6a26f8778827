import Mathlib
import LeasePlan.Proofs.Outcome
import LeasePlan.Interface.Requirement

namespace LeasePlan

theorem Text.parts_eq_splitOn {α : Type} [DecidableEq α] (sep : α) (cs : List α) :
    parts sep cs = cs.splitOn sep := by
  induction cs with
  | nil => rfl
  | cons c cs ih =>
    rw [List.splitOn_cons_eq_if_modifyHead, ← ih, parts]
    by_cases h : c = sep
    · simp only [h, beq_self_eq_true, ↓reduceIte]
    · cases hp : parts sep cs with
      | nil => exact absurd hp (parts_ne_nil sep cs)
      | cons p ps => simp only [h, beq_iff_eq, ↓reduceIte, List.modifyHead_cons]

namespace DomainName

/-- ASCII letters and digits, underscores and hyphens. -/
def LabelChar : CodePoint → Prop
  | .char c => ('a' ≤ c ∧ c ≤ 'z') ∨ ('A' ≤ c ∧ c ≤ 'Z') ∨ ('0' ≤ c ∧ c ≤ '9') ∨ c = '_' ∨ c = '-'
  | .surrogate _ => False

structure IsLabel (l : RawText) : Prop where
  length_pos : 1 ≤ l.length
  length_le : l.length ≤ 63
  chars : ∀ c ∈ l, LabelChar c
  head : l.head? ≠ some (.char '-')
  last : l.getLast? ≠ some (.char '-')

/-- Labels between dots, at most 253 characters in all. -/
structure IsName (cs : RawText) : Prop where
  length_pos : 1 ≤ cs.length
  length_le : cs.length ≤ 253
  labels : ∀ l ∈ cs.splitOn (.char '.'), IsLabel l

theorem isLabelChar_iff (c : CodePoint) : isLabelChar c = true ↔ LabelChar c := by
  cases c with
  | char c =>
    simp only [isLabelChar, LabelChar, Bool.or_eq_true, Bool.and_eq_true, decide_eq_true_eq,
      or_assoc]
  | surrogate k => exact iff_of_false Bool.false_ne_true not_false

theorem labelChar_iff_toNat (c : Char) : LabelChar (.char c) ↔
    (97 ≤ c.toNat ∧ c.toNat ≤ 122) ∨ (65 ≤ c.toNat ∧ c.toNat ≤ 90) ∨
      (48 ≤ c.toNat ∧ c.toNat ≤ 57) ∨ c = '_' ∨ c = '-' := by
  have hle (a b : Char) : a ≤ b ↔ a.toNat ≤ b.toNat := Iff.rfl
  simp only [LabelChar, hle]
  rfl

theorem isAlphanum_iff_toNat (c : Char) : c.isAlphanum = true ↔
    (65 ≤ c.toNat ∧ c.toNat ≤ 90) ∨ (97 ≤ c.toNat ∧ c.toNat ≤ 122) ∨
      (48 ≤ c.toNat ∧ c.toNat ≤ 57) := by
  simp only [Char.isAlphanum, Char.isAlpha, Char.isUpper, Char.isLower, Char.isDigit,
    Bool.or_eq_true, Bool.and_eq_true, decide_eq_true_eq, ge_iff_le, UInt32.le_iff_toNat_le,
    or_assoc]
  rfl

theorem toNat_lt_of_labelChar {c : Char} (h : LabelChar (.char c)) : c.toNat < 128 := by
  rcases (labelChar_iff_toNat c).1 h with h | h | h | rfl | rfl
  · omega
  · omega
  · omega
  · decide
  · decide

theorem isFamiliar_char_iff (c : Char) : isFamiliar (.char c) = true ↔ LabelChar (.char c) := by
  simp only [isFamiliar, Bool.and_eq_true, Bool.or_eq_true, decide_eq_true_eq]
  constructor
  · rintro ⟨-, h⟩
    rw [isAlphanum_iff_toNat] at h
    rw [labelChar_iff_toNat]
    tauto
  · intro h
    refine ⟨toNat_lt_of_labelChar h, ?_⟩
    rw [labelChar_iff_toNat] at h
    rw [isAlphanum_iff_toNat]
    tauto

theorem isFamiliar_iff (c : CodePoint) : isFamiliar c = true ↔ LabelChar c := by
  cases c with
  | char c => exact isFamiliar_char_iff c
  | surrogate k => exact iff_of_false Bool.false_ne_true not_false

theorem mem_iff_exists_zipIdx {c : CodePoint} {cs : RawText} :
    c ∈ cs ↔ ∃ i, (c, i) ∈ cs.zipIdx := by
  rw [List.mem_iff_getElem?]
  simp only [List.mem_zipIdx_iff_getElem?]

theorem foreignChar?_eq_none_iff (cs : RawText) :
    foreignChar? cs = none ↔ ∀ c ∈ cs, LabelChar c := by
  simp only [foreignChar?, List.find?_eq_none, Bool.not_eq_true', Bool.not_eq_false, isFamiliar_iff,
    Prod.forall, mem_iff_exists_zipIdx, forall_exists_index]

theorem all_isLabelChar_iff (cs : RawText) :
    cs.all isLabelChar = true ↔ ∀ c ∈ cs, LabelChar c := by
  simp only [List.all_eq_true, isLabelChar_iff]

theorem isEmpty_eq_false_iff_length {cs : RawText} : cs.isEmpty = false ↔ 1 ≤ cs.length :=
  List.isEmpty_eq_false_iff.trans List.length_pos_iff.symm

theorem labelFlaw?_eq_none_iff (cs : RawText) : labelFlaw? cs = none ↔ IsLabel cs := by
  unfold labelFlaw?
  constructor
  · intro h
    split at h
    · cases h
    · split at h
      · cases h
      · split at h
        · split at h <;> cases h
        · split at h
          · cases h
          next he hl hc hh =>
            simp only [Bool.not_eq_true', Bool.not_eq_false, all_isLabelChar_iff] at hc
            simp only [Bool.or_eq_true, decide_eq_true_eq, not_or] at hh
            exact ⟨isEmpty_eq_false_iff_length.1 (eq_false_of_ne_true he), Nat.le_of_not_lt hl, hc,
              hh.1, hh.2⟩
  · intro h
    have he := isEmpty_eq_false_iff_length.2 h.length_pos
    have hl : ¬ maxLabelLength < cs.length := Nat.not_lt.2 h.length_le
    have hc := (all_isLabelChar_iff cs).2 h.chars
    simp only [he, hl, hc, h.head, h.last, Bool.not_true, decide_false, Bool.or_false,
      Bool.false_eq_true, ↓reduceIte]

/-- The search for the character that spoils a label finds one. -/
theorem labelFlaw?_ne_unexplained (cs : RawText) : labelFlaw? cs ≠ some .unexplained := by
  unfold labelFlaw?
  intro h
  split at h
  · cases h
  · split at h
    · cases h
    · split at h
      next hc =>
        split at h
        · cases h
        next hf =>
          rw [(all_isLabelChar_iff cs).2 ((foreignChar?_eq_none_iff cs).1 hf)] at hc
          cases hc
      · split at h <;> cases h

theorem flaw?_eq_none_iff (cs : RawText) : flaw? cs = none ↔ IsName cs := by
  unfold flaw?
  constructor
  · intro h
    split at h
    · cases h
    · split at h
      · cases h
      next he hl =>
        simp only [List.findSome?_eq_none_iff, Option.map_eq_none_iff, labelFlaw?_eq_none_iff,
          Text.parts_eq_splitOn] at h
        exact ⟨isEmpty_eq_false_iff_length.1 (eq_false_of_ne_true he), Nat.le_of_not_lt hl, h⟩
  · intro h
    have he := isEmpty_eq_false_iff_length.2 h.length_pos
    have hl : ¬ maxLength < cs.length := Nat.not_lt.2 h.length_le
    simp only [he, hl, Bool.false_eq_true, ↓reduceIte, List.findSome?_eq_none_iff,
      Option.map_eq_none_iff, labelFlaw?_eq_none_iff, Text.parts_eq_splitOn]
    exact h.labels

theorem flaw?_ne_unexplained (cs l : RawText) : flaw? cs ≠ some (.label l .unexplained) := by
  unfold flaw?
  intro h
  split at h
  · cases h
  · split at h
    · cases h
    · obtain ⟨p, -, hp⟩ := List.exists_of_findSome?_eq_some h
      obtain ⟨f, hf, he⟩ := Option.map_eq_some_iff.1 hp
      cases he
      exact labelFlaw?_ne_unexplained _ hf

end DomainName

namespace Requirement

theorem domainName_eq_ok_iff (name : RawText) :
    domainName name = .ok () ↔ DomainName.IsName name := by
  rw [← DomainName.flaw?_eq_none_iff, domainName]
  split
  next h => simp only [h]
  next h => simp only [h, reduceCtorEq]
  next h => simp only [h, reduceCtorEq]

theorem domainName_of_flaw {name : RawText} {flaw : DomainName.Flaw}
    (h : DomainName.flaw? name = some flaw) :
    domainName name = .error (.ofCause (.domainName name flaw.reason)) := by
  unfold domainName
  split
  next hn => cases hn.symm.trans h
  next hu => exact absurd hu (DomainName.flaw?_ne_unexplained _ _)
  next f _ hf =>
    cases hf.symm.trans h
    rfl

theorem domainName_onlyFaults (name : RawText) : OnlyFaults (domainName name) := by
  unfold domainName
  split
  next => exact .ok ()
  next h => exact absurd h (DomainName.flaw?_ne_unexplained _ _)
  next => exact .fault _

end Requirement

end LeasePlan
