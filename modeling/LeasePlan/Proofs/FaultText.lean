import Mathlib
import LeasePlan.Fault.Basic

namespace LeasePlan.Fault

/-- Texts with a separator behind each of them. -/
def followedBy (sep : RawText) : List RawText → RawText
  | [] => []
  | s :: ss => s ++ sep ++ followedBy sep ss

theorem intercalate_append_cons (sep t : RawText) (ss ts : List RawText) :
    List.intercalate sep (ss ++ t :: ts) = followedBy sep ss ++ List.intercalate sep (t :: ts) := by
  induction ss with
  | nil => rfl
  | cons s ss ih =>
    have hne : ss ++ t :: ts ≠ [] := List.append_ne_nil_of_right_ne_nil ss (List.cons_ne_nil t ts)
    rw [List.cons_append, List.intercalate_cons_of_ne_nil hne, ih, followedBy, List.append_assoc,
      List.append_assoc, List.append_assoc]

theorem followedBy_append (sep : RawText) (ss ts : List RawText) :
    followedBy sep (ss ++ ts) = followedBy sep ss ++ followedBy sep ts := by
  induction ss with
  | nil => rfl
  | cons s ss ih => rw [List.cons_append, followedBy, followedBy, ih, ← List.append_assoc]

theorem followedBy_of_ne_nil {sep : RawText} {ss : List RawText} (h : ss ≠ []) :
    followedBy sep ss = List.intercalate sep ss ++ sep := by
  induction ss with
  | nil => exact absurd rfl h
  | cons s ss ih =>
    cases ss with
    | nil => rw [followedBy, followedBy, List.intercalate_singleton, List.append_nil]
    | cons t ts =>
      rw [followedBy, ih (List.cons_ne_nil t ts), List.intercalate_cons_cons, ← List.append_assoc]

theorem text_eq (f : Fault) : f.text = followedBy ": " f.context ++ f.message :=
  (intercalate_append_cons ": " f.message f.context []).trans
    (congrArg (followedBy ": " f.context ++ ·) (List.intercalate_singleton ..))

theorem text_joined (steps : List RawText) (fs : List Fault) :
    (joined steps fs).text = followedBy ": " steps ++ List.intercalate "\n" (fs.map text) := by
  rw [text_eq, context, message, texts_eq_map]

/-- The text of a joined fault around the text of one of its parts. -/
theorem exists_text_joined (steps : List RawText) (earlier later : List Fault) (f : Fault) :
    ∃ after, (joined steps (earlier ++ f :: later)).text =
      followedBy ": " steps ++ followedBy "\n" (earlier.map text) ++ f.text ++ after := by
  have hlines : ∃ after, List.intercalate "\n" (f.text :: later.map text) = f.text ++ after := by
    cases later with
    | nil =>
      refine ⟨[], ?_⟩
      rw [List.map_nil, List.intercalate_singleton, List.append_nil]
    | cons g later =>
      refine ⟨"\n" ++ List.intercalate "\n" (g.text :: later.map text), ?_⟩
      rw [List.map_cons, List.intercalate_cons_cons, List.append_assoc]
  obtain ⟨after, hafter⟩ := hlines
  refine ⟨after, ?_⟩
  rw [text_joined, List.map_append, List.map_cons, intercalate_append_cons, hafter]
  simp only [List.append_assoc]

end LeasePlan.Fault
