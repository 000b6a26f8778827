import Mathlib
import LeasePlan.Proofs.GroupEmoji
import LeasePlan.Proofs.LineFitting
import LeasePlan.Proofs.MarkupText

namespace LeasePlan.Console

open Emoji (IsGroups)
open Markup (IsPlain IsStyle inStyle)
open Piece (scan_of_tagless tagless_none)

/-- A character that takes its place in a line and changes nothing else on a console. -/
def isInline (c : Char) : Bool := !Markup.isControl c && c ≠ '\n' && c ≠ '\t'

theorem isInline_of_le {c : Char} (h : 32 ≤ c.toNat) : isInline c = true := by
  have hcontrol : Markup.isControl c = false := by
    simp only [Markup.isControl, List.mem_cons, List.not_mem_nil, or_false, decide_eq_false_iff_not]
    omega
  have hbreak : c ≠ '\n' := by
    rintro rfl
    exact absurd h (by decide)
  have htab : c ≠ '\t' := by
    rintro rfl
    exact absurd h (by decide)
  rw [isInline, hcontrol, decide_eq_true hbreak, decide_eq_true htab]
  rfl

section Inline

variable {cs : List Char}

theorem inline_of_printable (h : ∀ c ∈ cs, isPrintableAscii c = true) :
    ∀ c ∈ cs, isInline c = true := by
  intro c hc
  have hprintable := h c hc
  rw [isPrintableAscii, Bool.and_eq_true, decide_eq_true_eq] at hprintable
  exact isInline_of_le hprintable.1

theorem isOneLine_of_inline (h : ∀ c ∈ cs, isInline c = true)
    (hend : ∀ c ∈ cs.getLast?, Text.isSpace c = false) : IsOneLine cs where
  unbroken hmem := absurd (h _ hmem) (by decide)
  tabless hmem := absurd (h _ hmem) (by decide)
  ending := .inr hend

theorem not_isControl_of_inline (h : ∀ c ∈ cs, isInline c = true) :
    ∀ c ∈ cs, Markup.isControl c = false := by
  intro c hc
  have hinline := h c hc
  rw [isInline, Bool.and_eq_true, Bool.and_eq_true, Bool.not_eq_true'] at hinline
  exact hinline.1.1

theorem filter_not_isControl (h : ∀ c ∈ cs, Markup.isControl c = false) :
    cs.filter (fun c => !Markup.isControl c) = cs := by
  rw [List.filter_eq_self]
  intro c hc
  rw [h c hc]
  rfl

end Inline

variable {console : Console}

theorem print_eq_ok {markup : String} {text : List Char}
    (h : Markup.render console markup = .ok text) (hline : IsOneLine text)
    (hfits : width text ≤ console.columns) : console.print markup = .ok [text] := by
  rw [print, h]
  exact congrArg Except.ok (wrap_ragged_of_fits hline hfits .fold)

theorem unescaped_of_bracketless {cs : List Char} (h : '[' ∉ cs) :
    cs.IsChain fun c d => c = '\\' → d ≠ '[' := by
  apply List.Pairwise.isChain
  apply List.pairwise_of_forall_mem_list
  rintro c - d hd - rfl
  exact h hd

/-- A text without brackets holds no tags, but emoji. -/
theorem render_of_bracketless {s : String} (h : '[' ∉ s.toList) :
    Markup.render console s = .ok (Markup.shown s.toList) := by
  rw [Markup.render, scan_of_tagless (tagless_none (hasTag_of_not_mem h)), Piece.sinceTag,
    List.reverse_nil, List.nil_append, Markup.renderPieces_plain,
    Markup.unescape_eq_self (unescaped_of_bracketless h)]
  exact congrArg Except.ok (List.append_nil _)

theorem print_of_bracketless {s : String} {text : List Char} (h : '[' ∉ s.toList)
    (htext : Emoji.replace s.toList = text) (hinline : ∀ c ∈ text, isInline c = true)
    (hend : ∀ c ∈ text.getLast?, Text.isSpace c = false) (hfits : width text ≤ console.columns) :
    console.print s = .ok [text] := by
  apply print_eq_ok _ (isOneLine_of_inline hinline hend) hfits
  rw [render_of_bracketless h, Markup.shown, htext,
    filter_not_isControl (not_isControl_of_inline hinline)]

variable (console) in
/-- A text without closing tags can be printed. -/
theorem exists_print {s : String} (h : hasTag isSlash s.toList = false) :
    ∃ ls, console.print s = .ok ls := by
  obtain ⟨text, htext⟩ := Markup.exists_render console h
  rw [print, htext]
  exact ⟨_, rfl⟩

section Styled

variable {name cs : List Char}

theorem print_inStyle_of_isPlain (hname : IsStyle name) (h : IsPlain cs) (hline : IsOneLine cs)
    (hend : cs.getLast? ≠ some '\\') (hfits : width cs ≤ console.columns) :
    console.print (String.ofList (inStyle name cs)) = .ok [cs] :=
  print_eq_ok (Markup.render_inStyle_of_isPlain hname h hend) hline hfits

variable (console) in
theorem exists_print_inStyle (hname : IsStyle name) (h : hasTag isSlash cs = false)
    (hend : cs.getLast? ≠ some '\\') :
    ∃ ls, console.print (String.ofList (inStyle name cs)) = .ok ls := by
  have hnil : hasTag isSlash [] = false := rfl
  obtain ⟨text, htext⟩ := Markup.exists_render_inStyle console hname h hend hnil
  rw [List.append_nil] at htext
  rw [print, htext]
  exact ⟨_, rfl⟩

end Styled

/-- A text that is shown as it is, also with other texts around it and white space between them. -/
structure IsInert (cs : List Char) : Prop where
  bracketless : '[' ∉ cs
  nameless : ∀ n ∈ Emoji.candidates cs, Emoji.isKnown n = false
  inline : ∀ c ∈ cs, isInline c = true

section Inert

variable {a b cs : List Char}

theorem isInert_of_not_mem (hbracket : '[' ∉ cs) (hcolon : ':' ∉ cs)
    (hinline : ∀ c ∈ cs, isInline c = true) : IsInert cs where
  bracketless := hbracket
  nameless := by
    rw [Emoji.candidates_of_colon_not_mem hcolon]
    exact List.forall_mem_nil _
  inline := hinline

theorem IsInert.append_space (ha : IsInert a) (hb : IsInert b) : IsInert (a ++ ' ' :: b) where
  bracketless := by
    rw [List.mem_append, List.mem_cons, not_or, not_or]
    exact ⟨ha.bracketless, by decide, hb.bracketless⟩
  nameless := Emoji.nameless_append_space ha.nameless hb.nameless
  inline := by
    rw [List.forall_mem_append, List.forall_mem_cons]
    exact ⟨ha.inline, by decide, hb.inline⟩

theorem IsInert.replace_eq (h : IsInert cs) : Emoji.replace cs = cs :=
  Emoji.replace_eq_self h.nameless

theorem unescaped_append_space (ha : a.IsChain fun c d => c = '\\' → d ≠ '[')
    (hb : b.IsChain fun c d => c = '\\' → d ≠ '[') :
    (a ++ ' ' :: b).IsChain fun c d => c = '\\' → d ≠ '[' := by
  rw [List.isChain_append, List.isChain_cons]
  refine ⟨ha, ⟨?_, hb⟩, ?_⟩
  · rintro d - ⟨⟩
  · rintro c - d ⟨⟩ -
    decide

theorem Markup.IsPlain.behind_space (ha : IsInert a) (hb : IsPlain b) :
    IsPlain (a ++ ' ' :: b) where
  tagless := by
    have hspace : '[' ∉ a ++ [' '] := by
      rw [List.mem_append, not_or]
      exact ⟨ha.bracketless, by decide⟩
    rw [List.append_cons, hasTag_append_of_not_mem hspace, hb.tagless]
  unescaped := unescaped_append_space (unescaped_of_bracketless ha.bracketless) hb.unescaped
  nameless := Emoji.nameless_append_space ha.nameless hb.nameless
  uncontrolled := by
    rw [List.forall_mem_append, List.forall_mem_cons]
    exact ⟨not_isControl_of_inline ha.inline, by decide, hb.uncontrolled⟩

theorem Markup.IsPlain.before_space (ha : IsPlain a) (hb : IsInert b) (hclose : ']' ∉ b) :
    IsPlain (a ++ ' ' :: b) where
  tagless := by
    have hbrackets : ∀ c ∈ ' ' :: b, isBracket c = false := by
      rw [List.forall_mem_cons]
      refine ⟨by decide, ?_⟩
      intro c hc
      exact isBracket_eq_false_iff.2
        ⟨fun h => hb.bracketless (h ▸ hc), fun h => hclose (h ▸ hc)⟩
    rw [hasTag_append_of_tagText hbrackets, ha.tagless]
  unescaped := unescaped_append_space ha.unescaped (unescaped_of_bracketless hb.bracketless)
  nameless := Emoji.nameless_append_space ha.nameless hb.nameless
  uncontrolled := by
    rw [List.forall_mem_append, List.forall_mem_cons]
    exact ⟨ha.uncontrolled, by decide, not_isControl_of_inline hb.inline⟩

theorem IsInert.isPlain (h : IsInert cs) : IsPlain cs where
  tagless := hasTag_of_not_mem h.bracketless
  unescaped := unescaped_of_bracketless h.bracketless
  nameless := h.nameless
  uncontrolled := not_isControl_of_inline h.inline

end Inert

section Groups

variable {cs : List Char}

/-- What is shown of a text of groups stays in its line and holds no white space. -/
theorem inline_replace_of_groups (h : IsGroups cs) {c : Char} (hc : c ∈ Emoji.replace cs) :
    isInline c = true ∧ Text.isSpace c = false := by
  rcases (Emoji.replace_of_groups h).2 c hc with hmem | hemoji
  · refine ⟨isInline_of_le ?_, h.isSpace hmem⟩
    rcases h c hmem with rfl | hgroup
    · decide
    · have hrange := Emoji.toNat_of_groupChar hgroup
      omega
  · have hall : ∀ c ∈ Emoji.groupEmoji.map Prod.snd,
        isInline c = true ∧ Text.isSpace c = false := by
      simp only [Emoji.groupEmoji, List.map_cons, List.map_nil, List.forall_mem_cons,
        List.not_mem_nil, IsEmpty.forall_iff, implies_true, and_true]
      decide
    exact hall c hemoji

theorem printable_of_groups (h : IsGroups cs) : ∀ c ∈ cs, isPrintableAscii c = true := by
  intro c hc
  rcases h c hc with rfl | hgroup
  · decide
  · have hrange := Emoji.toNat_of_groupChar hgroup
    rw [isPrintableAscii, Bool.and_eq_true, decide_eq_true_eq, decide_eq_true_eq]
    omega

theorem getLast?_append_cons {g : List Char} (hg : g ≠ []) (c : Char) (a : List Char) :
    (a ++ c :: g).getLast? = g.getLast? := by
  rw [List.append_cons, List.getLast?_append_of_ne_nil _ hg]

variable {s : String} {label tail : List Char}

theorem bracket_not_mem_of_groups (h : IsGroups cs) : '[' ∉ cs :=
  fun hmem => absurd (h '[' hmem) (by decide)

theorem isInert_of_groups (h : IsGroups cs) (hnames : Emoji.IsNameless cs) : IsInert cs where
  bracketless := bracket_not_mem_of_groups h
  nameless := by
    rw [Emoji.candidates_of_groups h]
    exact (Emoji.forall_namesIn_iff h).2 hnames
  inline := inline_of_printable (printable_of_groups h)

/-- Behind a label a text of groups is shown with its emoji. -/
theorem print_behind_label (hs : s.toList = label ++ ' ' :: cs) (hlabel : IsInert label)
    (h : IsGroups cs) (hne : cs ≠ [])
    (hfits : 2 * (label.length + cs.length + 1) ≤ console.columns) :
    console.print s = .ok [label ++ ' ' :: Emoji.replace cs] := by
  apply print_of_bracketless
  · rw [hs, List.mem_append, List.mem_cons, not_or, not_or]
    exact ⟨hlabel.bracketless, by decide, bracket_not_mem_of_groups h⟩
  · rw [hs, Emoji.replace_append_space (by decide), hlabel.replace_eq]
  · rw [List.forall_mem_append, List.forall_mem_cons]
    exact ⟨hlabel.inline, by decide, fun c hc => (inline_replace_of_groups h hc).1⟩
  · rw [getLast?_append_cons (Emoji.replace_ne_nil hne)]
    exact fun c hc => (inline_replace_of_groups h (List.mem_of_getLast? hc)).2
  · refine Nat.le_trans (width_le_two_mul _) ?_
    have hlength := (Emoji.replace_of_groups h).1
    rw [List.length_append, List.length_cons]
    omega

theorem print_between_labels (hs : s.toList = label ++ ' ' :: (cs ++ ' ' :: tail))
    (hlabel : IsInert label) (h : IsGroups cs) (htail : IsInert tail) (hne : tail ≠ [])
    (hend : ∀ c ∈ tail.getLast?, Text.isSpace c = false)
    (hfits : 2 * (label.length + cs.length + tail.length + 2) ≤ console.columns) :
    console.print s = .ok [label ++ ' ' :: (Emoji.replace cs ++ ' ' :: tail)] := by
  apply print_of_bracketless
  · simp only [hs, List.mem_append, List.mem_cons, not_or]
    exact ⟨hlabel.bracketless, by decide, bracket_not_mem_of_groups h, by decide,
      htail.bracketless⟩
  · rw [hs, Emoji.replace_append_space (by decide), Emoji.replace_append_space (by decide),
      hlabel.replace_eq, htail.replace_eq]
  · simp only [List.forall_mem_append, List.forall_mem_cons]
    exact ⟨hlabel.inline, by decide, fun c hc => (inline_replace_of_groups h hc).1, by decide,
      htail.inline⟩
  · rwa [← List.cons_append, ← List.append_assoc, getLast?_append_cons hne]
  · refine Nat.le_trans (width_le_two_mul _) ?_
    have hlength := (Emoji.replace_of_groups h).1
    simp only [List.length_append, List.length_cons]
    omega

end Groups

end LeasePlan.Console
