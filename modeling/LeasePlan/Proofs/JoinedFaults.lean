import Mathlib
import LeasePlan.Proofs.FaultText

namespace LeasePlan.Fault

/-- The faults among the outcomes of some checks. -/
def present (es : List (Option Fault)) : List Fault := es.filterMap id

theorem present_none (es : List (Option Fault)) : present (none :: es) = present es := rfl

theorem present_some (f : Fault) (es : List (Option Fault)) :
    present (some f :: es) = f :: present es := rfl

theorem present_append (es fs : List (Option Fault)) :
    present (es ++ fs) = present es ++ present fs := List.filterMap_append

theorem present_eq_nil_iff {es : List (Option Fault)} : present es = [] ↔ ∀ e ∈ es, e = none :=
  List.filterMap_eq_nil_iff

/-- The texts of the faults that are there, in order and on lines of their own. -/
def lines (es : List (Option Fault)) : RawText :=
  List.intercalate "\n" ((present es).map text)

/-- What some outcomes are together: nothing if there is no fault, a single fault as it is, and else
a fault that tells all of them line by line. -/
structure IsJoin (es : List (Option Fault)) (r : Option Fault) : Prop where
  eq_none_iff : r = none ↔ ∀ e ∈ es, e = none
  text_eq : ∀ f, r = some f → f.text = lines es
  eq_some : ∀ f, present es = [f] → r = some f

theorem join_eq (es : List (Option Fault)) : join es = match present es with
    | [] => none
    | [f] => some f
    | f :: g :: fs => some (joined [] (f :: g :: fs)) := rfl

theorem isJoin_none {es : List (Option Fault)} (h : present es = []) : IsJoin es none := by
  constructor
  · exact iff_of_true rfl (present_eq_nil_iff.1 h)
  · intro f hf
    cases hf
  · intro f hf
    rw [h] at hf
    cases hf

theorem isJoin_some {es : List (Option Fault)} {f : Fault} (hne : present es ≠ [])
    (htext : f.text = lines es) (hsingle : ∀ g, present es = [g] → f = g) :
    IsJoin es (some f) := by
  constructor
  · rw [← present_eq_nil_iff]
    exact iff_of_false (Option.some_ne_none f) hne
  · intro g hg
    obtain rfl := Option.some.inj hg
    exact htext
  · intro g hg
    exact congrArg some (hsingle g hg)

theorem isJoin_join (es : List (Option Fault)) : IsJoin es (join es) := by
  rw [join_eq]
  cases hes : present es with
  | nil => exact isJoin_none hes
  | cons f fs =>
    cases fs with
    | nil =>
      apply isJoin_some
      · rw [hes]
        exact List.cons_ne_nil f []
      · rw [lines, hes, List.map_singleton, List.intercalate_singleton]
      · intro g hg
        exact List.singleton_inj.1 (hes.symm.trans hg)
    | cons g fs =>
      apply isJoin_some
      · rw [hes]
        exact List.cons_ne_nil f (g :: fs)
      · rw [text_joined, lines, hes, followedBy, List.nil_append]
      · intro h hh
        rw [hes] at hh
        cases hh

/-- A group with a fault in it adds its lines to those of the groups behind it. -/
theorem lines_append {es fs : List (Option Fault)} (hes : present es ≠ [])
    (hfs : present fs ≠ []) : lines (es ++ fs) = lines es ++ "\n" ++ lines fs := by
  obtain ⟨f, fs', hf⟩ := List.exists_cons_of_ne_nil hfs
  rw [lines, present_append, List.map_append, lines, lines, hf, List.map_cons,
    intercalate_append_cons, followedBy_of_ne_nil (mt List.map_eq_nil_iff.1 hes)]

theorem IsJoin.exists_eq_some {es : List (Option Fault)} {r : Option Fault} (h : IsJoin es r)
    (hes : present es ≠ []) : ∃ f, r = some f := by
  apply Option.ne_none_iff_exists'.1
  rw [Ne, h.eq_none_iff, ← present_eq_nil_iff]
  exact hes

/-- What is kept of groups of outcomes when each group is replaced by its join. -/
structure SameLines (es rs : List (Option Fault)) : Prop where
  nil_iff : present rs = [] ↔ present es = []
  lines_eq : lines rs = lines es
  single : ∀ f, present es = [f] → present rs = [f]

theorem SameLines.cons {es fs rs : List (Option Fault)} {r : Option Fault} (h : IsJoin es r)
    (ih : SameLines fs rs) : SameLines (es ++ fs) (r :: rs) := by
  by_cases hes : present es = []
  · have hr : r = none := h.eq_none_iff.2 (present_eq_nil_iff.1 hes)
    have hpresent : present (es ++ fs) = present fs := by rw [present_append, hes, List.nil_append]
    rw [hr]
    constructor
    · rw [present_none, hpresent]
      exact ih.nil_iff
    · rw [lines, lines, present_none, hpresent]
      exact ih.lines_eq
    · rw [present_none, hpresent]
      exact ih.single
  · obtain ⟨g, rfl⟩ := h.exists_eq_some hes
    have htext := h.text_eq g rfl
    constructor
    · rw [present_some, present_append, List.append_eq_nil_iff]
      exact iff_of_false (List.cons_ne_nil g _) fun hnil => hes hnil.1
    · by_cases hfs : present fs = []
      · have hrs := ih.nil_iff.2 hfs
        rw [lines, lines, present_some, present_append, hrs, hfs, List.append_nil,
          List.map_singleton, List.intercalate_singleton]
        exact htext
      · have hrs : present rs ≠ [] := mt ih.nil_iff.1 hfs
        rw [lines_append hes hfs, ← htext, ← ih.lines_eq, lines, present_some, List.map_cons]
        exact List.intercalate_cons_of_ne_nil (mt List.map_eq_nil_iff.1 hrs)
    · intro f hf
      rw [present_append, List.append_eq_singleton_iff] at hf
      obtain ⟨hnil, -⟩ | ⟨hsingle, hfs⟩ := hf
      · exact absurd hnil hes
      · obtain rfl := Option.some.inj (h.eq_some f hsingle)
        rw [present_some, ih.nil_iff.2 hfs]

theorem sameLines_flatten {cuts : List (List (Option Fault))} {rs : List (Option Fault)}
    (h : List.Forall₂ IsJoin cuts rs) : SameLines cuts.flatten rs := by
  induction h with
  | nil => exact ⟨Iff.rfl, rfl, fun _ hf => hf⟩
  | cons h _ ih => exact .cons h ih

/-- A join of joins is a join of all that was joined, whatever the groups were joined by. -/
theorem IsJoin.flatten {cuts : List (List (Option Fault))} {rs : List (Option Fault)}
    {r : Option Fault} (h : List.Forall₂ IsJoin cuts rs) (hr : IsJoin rs r) :
    IsJoin cuts.flatten r := by
  have hsame := sameLines_flatten h
  constructor
  · rw [hr.eq_none_iff, ← present_eq_nil_iff, hsame.nil_iff, present_eq_nil_iff]
  · intro f hf
    rw [hr.text_eq f hf, hsame.lines_eq]
  · intro f hf
    exact hr.eq_some f (hsame.single f hf)

theorem forall₂_isJoin_join (cuts : List (List (Option Fault))) :
    List.Forall₂ IsJoin cuts (cuts.map join) := by
  induction cuts with
  | nil => exact .nil
  | cons es cuts ih => exact .cons (isJoin_join es) ih

/-- Outcomes may be joined at once or, however they are cut, piece by piece: either way nothing is
left of them exactly if there is no fault, a single fault stays as it is, and several are told line
by line. -/
theorem join_associative (cuts : List (List (Option Fault))) :
    IsJoin cuts.flatten (join cuts.flatten) ∧ IsJoin cuts.flatten (join (cuts.map join)) ∧
      (join (cuts.map join)).map text = (join cuts.flatten).map text := by
  have hwhole := isJoin_join cuts.flatten
  have hpieces := IsJoin.flatten (forall₂_isJoin_join cuts) (isJoin_join _)
  refine ⟨hwhole, hpieces, ?_⟩
  cases hr : join cuts.flatten with
  | none => rw [hpieces.eq_none_iff.2 (hwhole.eq_none_iff.1 hr), Option.map_none]
  | some f =>
    have hsome : join (cuts.map join) ≠ none := by
      rw [Ne, hpieces.eq_none_iff, ← hwhole.eq_none_iff, hr]
      exact Option.some_ne_none f
    obtain ⟨g, hg⟩ := Option.ne_none_iff_exists'.1 hsome
    rw [hg, Option.map_some, Option.map_some, hpieces.text_eq g hg, hwhole.text_eq f hr]

end LeasePlan.Fault
