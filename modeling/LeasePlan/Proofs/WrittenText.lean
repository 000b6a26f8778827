import Mathlib
import LeasePlan.Proofs.MarkupText
import LeasePlan.Proofs.RawTexts
import LeasePlan.Report

namespace LeasePlan

open Console (Line MarkupFlaw)

section Written

variable {shown : Char → Except MarkupFlaw (List Line)}

theorem written_of_eq {r : Except MarkupFlaw (List Line)} (h : ∀ mark, shown mark = r) :
    written shown = r.mapError .markup := by
  rw [written, h, h]
  cases r with
  | error flaw => rfl
  | ok ls => exact if_pos rfl

/-- The characters that are shown in place of surrogates. -/
def IsMark (mark : Char) : Prop := mark = Char.ofNat 0xFFFD ∨ mark = Char.ofNat 0xFFFC

/-- Nothing is written if nothing can be shown, or if the marks are seen. -/
theorem written_eq_error {e : Failure} (h : written shown = .error e) :
    (∃ flaw mark, e = .markup flaw ∧ IsMark mark ∧ shown mark = .error flaw) ∨
      e = .crash .unwritable ∧ ∃ mark other, shown mark ≠ shown other := by
  rw [written] at h
  cases hfirst : shown (Char.ofNat 0xFFFD) with
  | error flaw =>
    rw [hfirst] at h
    cases h
    exact .inl ⟨flaw, _, rfl, .inl rfl, hfirst⟩
  | ok ls =>
    cases hsecond : shown (Char.ofNat 0xFFFC) with
    | error flaw =>
      rw [hfirst, hsecond] at h
      cases h
      exact .inl ⟨flaw, _, rfl, .inr rfl, hsecond⟩
    | ok others =>
      rw [hfirst, hsecond] at h
      change (if ls = others then .ok ls else .error (.crash .unwritable)) = Except.error e at h
      split_ifs at h with hsame
      cases h
      refine .inr ⟨rfl, Char.ofNat 0xFFFD, Char.ofNat 0xFFFC, ?_⟩
      rw [hfirst, hsecond, Ne, Except.ok.injEq]
      exact hsame

/-- Which mark stands for a surrogate makes no difference to tags. -/
theorem hasTag_marked {mark other : Char} (hmark : IsMark mark) (hother : IsMark other)
    (t : RawText) : Console.hasTag Console.isSlash (t.marked mark).toList =
      Console.hasTag Console.isSlash (t.marked other).toList := by
  have hplain {c : Char} (hc : IsMark c) :
      Console.isBracket c = false ∧ Console.isSlash c = false := by
    rcases hc with rfl | rfl
    · decide
    · decide
  rw [RawText.marked, RawText.marked, String.toList_ofList, String.toList_ofList]
  refine Console.AgreeOnTags.hasTag_eq (fun c => ?_) t
  cases c with
  | char c => exact .inl rfl
  | surrogate k => exact .inr ⟨hplain hmark, hplain hother⟩

end Written

namespace Console

variable (console : Console)

theorem printRaw_ofString (s : String) :
    console.printRaw s = (console.print s).mapError .markup :=
  written_of_eq fun mark => by rw [RawText.marked_ofString]

variable {console}

theorem printRaw_of_print {s : String} {ls : List Line} (h : console.print s = .ok ls) :
    console.printRaw s = .ok ls := by
  rw [printRaw_ofString, h]
  rfl

theorem printRaw_ofChars {cs : List Char} {ls : List Line}
    (h : console.print (String.ofList cs) = .ok ls) :
    console.printRaw (RawText.ofChars cs) = .ok ls := by
  rw [← RawText.ofString_ofList]
  exact printRaw_of_print h

end Console

/-- A fault is told in full if no text in it has surrogates. -/
theorem Fault.report_of_not_isBroken {f : Fault} (h : ∀ p ∈ f.parts, p.text.isBroken = false) :
    f.report = .ok (Console.printPlain "配置验证失败:" ++
      f.parts.flatMap fun p => Console.printPlain ("  • " ++ p.text.lossy)) := by
  refine written_of_eq (r := .ok _) fun mark => ?_
  have hparts : f.parts.map (fun p => Console.printPlain ("  • " ++ p.text.marked mark)) =
      f.parts.map fun p => Console.printPlain ("  • " ++ p.text.lossy) := by
    refine List.map_congr_left fun p hp => ?_
    rw [RawText.marked_of_not_isBroken (h p hp)]
  rw [List.flatMap_def, hparts, ← List.flatMap_def]

end LeasePlan
