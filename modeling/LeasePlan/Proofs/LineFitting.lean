import Mathlib
import LeasePlan.Console.Wrap
import LeasePlan.Proofs.AddressText

namespace LeasePlan.Console

section Width

variable {last : Option Char} {c : Char} {r : List Char}

theorem widthFrom_joiner_nil : widthFrom last [joiner] = 0 := by
  rw [widthFrom, if_pos rfl]

theorem widthFrom_joiner (d : Char) : widthFrom last (joiner :: d :: r) = widthFrom last r := by
  rw [widthFrom, if_pos rfl]

theorem widthFrom_selector :
    widthFrom last (selector :: r) = widening last + widthFrom none r := by
  rw [widthFrom.eq_def]
  exact (if_neg (by decide)).trans (if_pos rfl)

theorem widthFrom_zero (hj : c ≠ joiner) (hs : c ≠ selector) (h : charWidth c = 0) :
    widthFrom last (c :: r) = widthFrom last r := by
  rw [widthFrom.eq_def]
  exact (if_neg hj).trans ((if_neg hs).trans (if_pos h))

theorem widthFrom_char (hj : c ≠ joiner) (hs : c ≠ selector) (h : charWidth c ≠ 0) :
    widthFrom last (c :: r) = charWidth c + widthFrom (some c) r := by
  rw [widthFrom.eq_def]
  exact (if_neg hj).trans ((if_neg hs).trans (if_neg h))

theorem widthFrom_none_le (last : Option Char) (cs : List Char) :
    widthFrom none cs ≤ widthFrom last cs := by
  fun_induction widthFrom last cs with
  | case1 => exact Nat.le_refl _
  | case2 => exact Nat.le_of_eq widthFrom_joiner_nil
  | case3 last d r ih => rwa [widthFrom_joiner]
  | case4 last r hj ih =>
    rw [widthFrom_selector]
    exact Nat.add_le_add_right (Nat.zero_le _) _
  | case5 last c r hj hs hzero ih => rwa [widthFrom_zero hj hs hzero]
  | case6 last c r hj hs hzero ih => exact Nat.le_of_eq (widthFrom_char hj hs hzero)

theorem widthFrom_prefix_le (last : Option Char) (a b : List Char) :
    widthFrom last a ≤ widthFrom last (a ++ b) := by
  fun_induction widthFrom last a with
  | case1 => exact Nat.zero_le _
  | case2 => exact Nat.zero_le _
  | case3 last d r ih => rwa [List.cons_append, List.cons_append, widthFrom_joiner]
  | case4 last r hj ih =>
    rw [List.cons_append, widthFrom_selector]
    exact Nat.add_le_add_left ih _
  | case5 last c r hj hs hzero ih => rwa [List.cons_append, widthFrom_zero hj hs hzero]
  | case6 last c r hj hs hzero ih =>
    rw [List.cons_append, widthFrom_char hj hs hzero]
    exact Nat.add_le_add_left ih _

theorem getLast?_ne_of_cons {a : List Char} {d : Char} (h : (c :: a).getLast? ≠ some d) :
    a.getLast? ≠ some d := by
  intro hlast
  apply h
  rw [List.getLast?_cons, hlast]
  rfl

/-- Behind a text that does not end with a joiner the next one is measured on its own, but for the
character that a selector could widen. -/
theorem exists_widthFrom_append {a : List Char} (h : a.getLast? ≠ some joiner)
    (last : Option Char) :
    ∃ next, ∀ b, widthFrom last (a ++ b) = widthFrom last a + widthFrom next b := by
  fun_induction widthFrom last a with
  | case1 last => exact ⟨last, fun b => (Nat.zero_add _).symm⟩
  | case2 last => exact absurd rfl h
  | case3 last d r ih =>
    obtain ⟨next, hnext⟩ := ih (getLast?_ne_of_cons (getLast?_ne_of_cons h))
    refine ⟨next, fun b => ?_⟩
    rw [List.cons_append, List.cons_append, widthFrom_joiner, hnext]
  | case4 last r hj ih =>
    obtain ⟨next, hnext⟩ := ih (getLast?_ne_of_cons h)
    refine ⟨next, fun b => ?_⟩
    rw [List.cons_append, widthFrom_selector, hnext, Nat.add_assoc]
  | case5 last c r hj hs hzero ih =>
    obtain ⟨next, hnext⟩ := ih (getLast?_ne_of_cons h)
    refine ⟨next, fun b => ?_⟩
    rw [List.cons_append, widthFrom_zero hj hs hzero, hnext]
  | case6 last c r hj hs hzero ih =>
    obtain ⟨next, hnext⟩ := ih (getLast?_ne_of_cons h)
    refine ⟨next, fun b => ?_⟩
    rw [List.cons_append, widthFrom_char hj hs hzero, hnext, Nat.add_assoc]

theorem width_add_le {a : List Char} (h : a.getLast? ≠ some joiner) (b : List Char) :
    width a + width b ≤ width (a ++ b) := by
  obtain ⟨next, hnext⟩ := exists_widthFrom_append h none
  rw [width, width, width, hnext]
  exact Nat.add_le_add_left (widthFrom_none_le next b) _

theorem width_prefix_le {a b : List Char} (h : a <+: b) : width a ≤ width b := by
  obtain ⟨t, rfl⟩ := h
  exact widthFrom_prefix_le none a t

theorem charWidth_le_two (c : Char) : charWidth c ≤ 2 := by
  rw [charWidth]
  split
  · decide
  · split
    · decide
    · split <;> decide

theorem widthFrom_le_two_mul (last : Option Char) (cs : List Char) :
    widthFrom last cs ≤ 2 * cs.length := by
  fun_induction widthFrom last cs with
  | case1 => exact Nat.zero_le _
  | case2 => exact Nat.zero_le _
  | case3 last d r ih =>
    rw [List.length_cons, List.length_cons]
    omega
  | case4 last r hj ih =>
    have hwidening : widening last ≤ 1 := by
      rw [widening.eq_def]
      split
      · split <;> decide
      · decide
    rw [List.length_cons]
    omega
  | case5 last c r hj hs hzero ih =>
    rw [List.length_cons]
    omega
  | case6 last c r hj hs hzero ih =>
    have hchar := charWidth_le_two c
    rw [List.length_cons]
    omega

theorem width_le_two_mul (cs : List Char) : width cs ≤ 2 * cs.length :=
  widthFrom_le_two_mul none cs

/-- A character of ASCII that is no control character. -/
def isPrintableAscii (c : Char) : Bool := 32 ≤ c.toNat && c.toNat < 127

theorem width_of_printableAscii {cs : List Char} (h : ∀ c ∈ cs, isPrintableAscii c = true) :
    width cs = cs.length := by
  have hfrom (last : Option Char) : widthFrom last cs = cs.length := by
    induction cs generalizing last with
    | nil => rfl
    | cons c r ih =>
      obtain ⟨hc, hr⟩ := List.forall_mem_cons.1 h
      have hwidth : charWidth c = 1 := if_pos hc
      have hj : c ≠ joiner := by
        rintro rfl
        exact absurd hc (by decide)
      have hs : c ≠ selector := by
        rintro rfl
        exact absurd hc (by decide)
      rw [widthFrom_char hj hs (by omega), hwidth, ih hr, List.length_cons, Nat.add_comm]
  exact hfrom none

end Width

namespace Line

variable {limit : Nat} {line : Line}

theorem flatten_words (line : Line) : (words line).flatten = line := by
  have hsplit := List.flatten_splitBy (fun a b => !(Text.isSpace a && !Text.isSpace b)) line
  rw [words.eq_def]
  split
  next first second rest heq =>
    rw [heq] at hsplit
    split
    · rw [List.flatten_cons, List.append_assoc]
      exact hsplit
    · exact hsplit
  · exact hsplit

/-- Every word but the last ends with white space. -/
theorem isChain_words (line : Line) :
    (words line).IsChain fun a _ => ∃ c ∈ a.getLast?, Text.isSpace c = true := by
  have hsplit := List.isChain_getLast_head_splitBy
    (fun a b => !(Text.isSpace a && !Text.isSpace b)) line
  have hchain : (line.splitBy fun a b => !(Text.isSpace a && !Text.isSpace b)).IsChain
      fun a _ => ∃ c ∈ a.getLast?, Text.isSpace c = true := by
    refine hsplit.imp ?_
    rintro a b ⟨ha, hb, h⟩
    refine ⟨a.getLast ha, List.getLast?_eq_some_getLast ha, ?_⟩
    rw [Bool.not_eq_false', Bool.and_eq_true] at h
    exact h.1
  rw [words.eq_def]
  split
  next first second rest heq =>
    rw [heq] at hchain
    split
    · rw [List.isChain_cons] at hchain ⊢
      have hsecond := hchain.2
      rw [List.isChain_cons] at hsecond
      refine ⟨?_, hsecond.2⟩
      intro next hnext
      obtain ⟨c, hc, hspace⟩ := hsecond.1 next hnext
      exact ⟨c, by rw [List.getLast?_append, Option.mem_def.1 hc]; rfl, hspace⟩
    · exact hchain
  · exact hchain

theorem ne_joiner_of_isSpace {c : Char} (h : Text.isSpace c = true) : c ≠ joiner := by
  rintro rfl
  exact absurd h (by decide)

theorem dropBlankEnd_isPrefix (line : Line) : dropBlankEnd line <+: line := by
  rw [dropBlankEnd, ← List.reverse_suffix, List.reverse_reverse]
  exact List.dropWhile_suffix _

theorem dropBlankEnd_of_end (h : ∀ c ∈ line.getLast?, Text.isSpace c = false) :
    dropBlankEnd line = line := by
  cases hrev : line.reverse with
  | nil =>
    rw [List.reverse_eq_nil_iff] at hrev
    subst hrev
    rfl
  | cons c r =>
    have hlast : line.getLast? = some c := by rw [← List.head?_reverse, hrev]; rfl
    rw [dropBlankEnd, hrev, List.dropWhile_cons_of_neg (Bool.eq_false_iff.1 (h c hlast)), ← hrev,
      List.reverse_reverse]

theorem dropBlankEnd_append_spaces (line : Line) (n : Nat) :
    dropBlankEnd (line ++ spaces n) = dropBlankEnd line := by
  have hblank : ∀ c ∈ spaces n, Text.isSpace c = true := by
    intro c hc
    rw [List.eq_of_mem_replicate hc]
    decide
  rw [dropBlankEnd, dropBlankEnd, List.reverse_append,
    List.dropWhile_append_of_pos fun c hc => hblank c (List.mem_reverse.1 hc)]

/-- Words that fit are put on the begun line. -/
theorem place_of_fits {overflow : Overflow} {ws : List Line}
    (hchain : ws.IsChain fun a _ => ∃ c ∈ a.getLast?, Text.isSpace c = true) {used : Nat}
    (hfits : used + width ws.flatten ≤ limit) :
    place overflow limit line used ws = [line ++ ws.flatten] := by
  induction ws generalizing line used with
  | nil => rw [place, List.flatten_nil, List.append_nil]
  | cons w ws ih =>
    have hwidth : width w + width ws.flatten ≤ width (w :: ws).flatten := by
      cases ws with
      | nil => rw [List.flatten_cons, List.flatten_nil, List.append_nil]; exact Nat.le_refl _
      | cons v vs =>
        obtain ⟨c, hc, hspace⟩ := (List.isChain_cons_cons.1 hchain).1
        rw [List.flatten_cons]
        apply width_add_le
        rw [Option.mem_def.1 hc]
        exact fun h => ne_joiner_of_isSpace hspace (Option.some.inj h)
    have hword : width (dropBlankEnd w) ≤ width w := width_prefix_le (dropBlankEnd_isPrefix w)
    rw [place, if_pos (by omega), ih hchain.tail (by omega), List.flatten_cons, List.append_assoc]

theorem expandTabs_of_not_mem (h : '\t' ∉ line) : expandTabs line = line := by
  rw [expandTabs, Text.parts_of_not_mem h]
  rfl

theorem dropExcess_of_end (h : ∀ c ∈ line.getLast?, Text.isSpace c = false) :
    dropExcess limit line = line := by
  have hblanks : line.reverse.takeWhile Text.isSpace = [] := by
    cases hrev : line.reverse with
    | nil => rfl
    | cons c r =>
      have hlast : line.getLast? = some c := by rw [← List.head?_reverse, hrev]; rfl
      rw [List.takeWhile_cons_of_neg (Bool.eq_false_iff.1 (h c hlast))]
  rw [dropExcess, hblanks, List.length_nil, Nat.zero_min, Nat.sub_zero, List.take_length]

theorem dropExcess_of_length (h : line.length ≤ limit) : dropExcess limit line = line := by
  rw [dropExcess, Nat.sub_eq_zero_of_le h, Nat.min_zero, Nat.sub_zero, List.take_length]

theorem truncate_of_fits {overflow : Overflow} (h : width line ≤ limit) :
    truncate overflow limit line = line := if_pos h

end Line

/-- A text that stands in one line of its own width: without line breaks and tabs, and without white
space at the end where characters take no column. -/
structure IsOneLine (text : List Char) : Prop where
  unbroken : '\n' ∉ text
  tabless : '\t' ∉ text
  ending : text.length ≤ width text ∨ ∀ c ∈ text.getLast?, Text.isSpace c = false

/-- A text that fits is one line. -/
theorem wrap_of_fits {text : List Char} (h : IsOneLine text) {limit : Nat}
    (hfits : width text ≤ limit) (justify : Justify) (overflow : Overflow) :
    wrap justify overflow limit text = [Line.justify justify overflow limit text] := by
  have hwords : Line.place overflow limit [] 0 (Line.words text) = [text] := by
    rw [Line.place_of_fits (Line.isChain_words text), Line.flatten_words, List.nil_append]
    rwa [Line.flatten_words, Nat.zero_add]
  have hkept : Line.dropExcess limit text = text := by
    rcases h.ending with hlength | hend
    · exact Line.dropExcess_of_length (Nat.le_trans hlength hfits)
    · exact Line.dropExcess_of_end hend
  rw [wrap, Text.parts_of_not_mem h.unbroken, List.flatMap_singleton,
    Line.expandTabs_of_not_mem h.tabless, hwords, List.map_singleton, hkept]

theorem wrap_ragged_of_fits {text : List Char} (h : IsOneLine text) {limit : Nat}
    (hfits : width text ≤ limit) (overflow : Overflow) :
    wrap .ragged overflow limit text = [text] := by
  rw [wrap_of_fits h hfits, Line.justify, Line.truncate_of_fits hfits]

end LeasePlan.Console
