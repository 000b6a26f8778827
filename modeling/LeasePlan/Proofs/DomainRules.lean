import Mathlib
import LeasePlan.Proofs.DomainGrammar
import LeasePlan.Proofs.FirstFailing

namespace LeasePlan

namespace DomainName

/-- The first rule that a label breaks; a character that may not stand in a label is told with its
place in the label. -/
inductive LabelBreaks (l : RawText) : LabelFlaw → Prop
  | empty (h : l = []) : LabelBreaks l .empty
  | tooLong (h : 63 < l.length) : LabelBreaks l .tooLong
  | badChar (c : CodePoint) (i : Nat) (hpos : 1 ≤ l.length) (hle : l.length ≤ 63)
      (hc : FirstFailing (fun p => LabelChar p.1) l.zipIdx (c, i)) : LabelBreaks l (.badChar c i)
  | hyphenAtEnd (hpos : 1 ≤ l.length) (hle : l.length ≤ 63) (hc : ∀ c ∈ l, LabelChar c)
      (hend : l.head? = some (.char '-') ∨ l.getLast? = some (.char '-')) :
      LabelBreaks l .hyphenAtEnd

/-- The first rule that a name breaks. -/
inductive Breaks (cs : RawText) : Flaw → Prop
  | empty (h : cs = []) : Breaks cs .empty
  | tooLong (h : 253 < cs.length) : Breaks cs .tooLong
  | label (l : RawText) (f : LabelFlaw) (hpos : 1 ≤ cs.length) (hle : cs.length ≤ 253)
      (hl : FirstFailing IsLabel (cs.splitOn (.char '.')) l) (hf : LabelBreaks l f) :
      Breaks cs (.label l f)

variable {cs l : RawText} {f : LabelFlaw} {g : Flaw}

theorem foreignChar?_of_firstFailing {c : CodePoint} {i : Nat}
    (h : FirstFailing (fun p => LabelChar p.1) l.zipIdx (c, i)) : foreignChar? l = some (c, i) := by
  apply h.find?_eq
  intro p
  rw [Bool.not_eq_true', ← Bool.not_eq_true, isFamiliar_iff]

/-- Where a label is refused for its characters, one of them is found that may not stand there. -/
theorem exists_foreignChar? (h : l.all isLabelChar = false) : ∃ p, foreignChar? l = some p := by
  cases hf : foreignChar? l with
  | some p => exact ⟨p, rfl⟩
  | none =>
    rw [(all_isLabelChar_iff l).2 ((foreignChar?_eq_none_iff l).1 hf)] at h
    cases h

theorem labelFlaw?_of_breaks (h : LabelBreaks l f) : labelFlaw? l = some f := by
  cases h with
  | empty h =>
    subst h
    rfl
  | tooLong h =>
    have he : l.isEmpty = false := isEmpty_eq_false_iff_length.2 (Nat.one_le_of_lt h)
    have hl : maxLabelLength < l.length := h
    simp only [labelFlaw?, he, hl, Bool.false_eq_true, ↓reduceIte]
  | badChar c i hpos hle hc =>
    have he := isEmpty_eq_false_iff_length.2 hpos
    have hl : ¬ maxLabelLength < l.length := Nat.not_lt.2 hle
    have hall : ¬ l.all isLabelChar = true := by
      intro hall
      obtain ⟨hmem, hbad⟩ := hc.mem_and_not
      exact hbad ((all_isLabelChar_iff l).1 hall c (mem_iff_exists_zipIdx.2 ⟨i, hmem⟩))
    simp only [labelFlaw?, he, hl, hall, foreignChar?_of_firstFailing hc, Bool.not_false,
      Bool.false_eq_true, ↓reduceIte]
  | hyphenAtEnd hpos hle hc hend =>
    have he := isEmpty_eq_false_iff_length.2 hpos
    have hl : ¬ maxLabelLength < l.length := Nat.not_lt.2 hle
    have hall := (all_isLabelChar_iff l).2 hc
    have hhyphen : (l.head? = some (.char '-') || l.getLast? = some (.char '-')) = true := by
      rw [Bool.or_eq_true, decide_eq_true_eq, decide_eq_true_eq]
      exact hend
    simp only [labelFlaw?, he, hl, hall, hhyphen, Bool.not_true, Bool.false_eq_true, ↓reduceIte]

theorem isLabel_or_breaks (l : RawText) : IsLabel l ∨ ∃ f, LabelBreaks l f := by
  by_cases hnil : l = []
  · exact .inr ⟨_, .empty hnil⟩
  by_cases hle : l.length ≤ 63
  · have hpos : 1 ≤ l.length := List.length_pos_iff.2 hnil
    rcases FirstFailing.exists_or_forall (fun p => LabelChar p.1) l.zipIdx with ⟨⟨c, i⟩, hc⟩ | hall
    · exact .inr ⟨_, .badChar c i hpos hle hc⟩
    · have hc : ∀ c ∈ l, LabelChar c := by
        intro c hc
        obtain ⟨i, hi⟩ := mem_iff_exists_zipIdx.1 hc
        exact hall _ hi
      by_cases hend : l.head? = some (.char '-') ∨ l.getLast? = some (.char '-')
      · exact .inr ⟨_, .hyphenAtEnd hpos hle hc hend⟩
      · exact .inl ⟨hpos, hle, hc, fun h => hend (.inl h), fun h => hend (.inr h)⟩
  · exact .inr ⟨_, .tooLong (Nat.lt_of_not_le hle)⟩

theorem flaw?_of_breaks (h : Breaks cs g) : flaw? cs = some g := by
  cases h with
  | empty h =>
    subst h
    rfl
  | tooLong h =>
    have he : cs.isEmpty = false := isEmpty_eq_false_iff_length.2 (Nat.one_le_of_lt h)
    have hl : maxLength < cs.length := h
    simp only [flaw?, he, hl, Bool.false_eq_true, ↓reduceIte]
  | label l f hpos hle hl hf =>
    have he := isEmpty_eq_false_iff_length.2 hpos
    have hlen : ¬ maxLength < cs.length := Nat.not_lt.2 hle
    simp only [flaw?, he, hlen, Bool.false_eq_true, ↓reduceIte, Text.parts_eq_splitOn]
    apply hl.findSome?_eq
    · intro p _ hp
      rw [(labelFlaw?_eq_none_iff p).2 hp]
      rfl
    · rw [labelFlaw?_of_breaks hf]
      rfl

theorem isName_or_breaks (cs : RawText) : IsName cs ∨ ∃ g, Breaks cs g := by
  by_cases hnil : cs = []
  · exact .inr ⟨_, .empty hnil⟩
  by_cases hle : cs.length ≤ 253
  · have hpos : 1 ≤ cs.length := List.length_pos_iff.2 hnil
    rcases FirstFailing.exists_or_forall IsLabel (cs.splitOn (.char '.')) with ⟨l, hl⟩ | hall
    · rcases isLabel_or_breaks l with hlabel | ⟨f, hf⟩
      · exact absurd hlabel hl.mem_and_not.2
      · exact .inr ⟨_, .label l f hpos hle hl hf⟩
    · exact .inl ⟨hpos, hle, hall⟩
  · exact .inr ⟨_, .tooLong (Nat.lt_of_not_le hle)⟩

/-- A flaw is found exactly if the name breaks the rule behind it before all others. -/
theorem flaw?_eq_some_iff : flaw? cs = some g ↔ Breaks cs g := by
  constructor
  · intro h
    rcases isName_or_breaks cs with hname | ⟨g', hg⟩
    · cases ((flaw?_eq_none_iff cs).2 hname).symm.trans h
    · cases (flaw?_of_breaks hg).symm.trans h
      exact hg
  · exact flaw?_of_breaks

theorem Breaks.not_isName (h : Breaks cs g) : ¬ IsName cs := by
  intro hname
  cases ((flaw?_eq_none_iff cs).2 hname).symm.trans (flaw?_eq_some_iff.2 h)

theorem not_isName_iff : ¬ IsName cs ↔ ∃! g, Breaks cs g := by
  constructor
  · intro h
    obtain ⟨g, hg⟩ := (isName_or_breaks cs).resolve_left h
    refine ⟨g, hg, ?_⟩
    intro g' hg'
    cases (flaw?_eq_some_iff.2 hg').symm.trans (flaw?_eq_some_iff.2 hg)
    rfl
  · intro h
    obtain ⟨g, hg, -⟩ := h
    exact hg.not_isName

end DomainName

namespace Requirement

open DomainName

variable {name s : RawText} {e : Failure}

theorem checkedName_eq_ok_iff : checkedName name = .ok s ↔ s = name ∧ IsName name := by
  rw [checkedName, bind_eq_ok]
  constructor
  · intro h
    obtain ⟨u, hu, hs⟩ := h
    cases hs
    exact ⟨rfl, (domainName_eq_ok_iff name).1 hu⟩
  · intro h
    obtain ⟨rfl, hname⟩ := h
    exact ⟨(), (domainName_eq_ok_iff s).2 hname, rfl⟩

theorem checkedName_eq_error_iff : checkedName name = .error e ↔
    ∃ g, Breaks name g ∧ e = .ofCause (.domainName name g.reason) := by
  have herror : checkedName name = .error e ↔ domainName name = .error e := by
    rw [checkedName, bind_eq_error]
    simp only [reduceCtorEq, and_false, exists_false, or_false]
  rw [herror]
  constructor
  · intro h
    rcases isName_or_breaks name with hname | ⟨g, hg⟩
    · cases ((domainName_eq_ok_iff name).2 hname).symm.trans h
    · cases (domainName_of_flaw (flaw?_eq_some_iff.2 hg)).symm.trans h
      exact ⟨g, hg, rfl⟩
  · intro h
    obtain ⟨g, hg, rfl⟩ := h
    exact domainName_of_flaw (flaw?_eq_some_iff.2 hg)

/-- How the check of a name ends: with the name itself, or with the first rule that it breaks. -/
structure Judges (name : RawText) (outcome : Except Failure RawText) : Prop where
  passed : ∀ s, outcome = .ok s ↔ s = name ∧ IsName name
  refused : ∀ e, outcome = .error e ↔
    ∃ g, Breaks name g ∧ e = .ofCause (.domainName name g.reason)
  one_rule : ¬ IsName name ↔ ∃! g, Breaks name g
  explained : ∀ l : RawText, l.all isLabelChar = false → ∃ p, foreignChar? l = some p

/-- A name of the grammar is passed on as it is, and every other one is refused for the one rule
that it breaks before all others. -/
theorem checkedName_judges (name : RawText) : Judges name (checkedName name) where
  passed _ := checkedName_eq_ok_iff
  refused _ := checkedName_eq_error_iff
  one_rule := not_isName_iff
  explained _ := exists_foreignChar?

end Requirement

end LeasePlan
