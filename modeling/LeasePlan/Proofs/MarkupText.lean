import Mathlib
import LeasePlan.Console.Print
import LeasePlan.Proofs.EmojiText
import LeasePlan.Proofs.Outcome

namespace LeasePlan.Console

def isBracket (c : Char) : Bool := c = '[' || c = ']'

theorem isBracket_eq_false_iff {c : Char} : isBracket c = false ↔ c ≠ '[' ∧ c ≠ ']' := by
  rw [isBracket, Bool.or_eq_false_iff, decide_eq_false_iff_not, decide_eq_false_iff_not]

theorem find?_isBracket {q : List Char} (h : ∀ c ∈ q, isBracket c = false) :
    q.find? isBracket = none :=
  List.find?_eq_none.2 fun c hc => Bool.eq_false_iff.1 (h c hc)

/-- A text behind a bracket goes on as a tag: the next bracket closes it. -/
def startsTag (opening : Char → Bool) (cs : List Char) : Bool :=
  cs.head?.any opening && cs.find? isBracket = some ']'

/-- Somewhere a bracket opens a tag with such a first character. -/
def hasTag (opening : Char → Bool) : List Char → Bool
  | [] => false
  | c :: r => (c = '[' && startsTag opening r) || hasTag opening r

def isSlash (c : Char) : Bool := c = '/'

section Tags

variable {opening : Char → Bool}

theorem hasTag_append_of_not_mem {p : List Char} (h : '[' ∉ p) (cs : List Char) :
    hasTag opening (p ++ cs) = hasTag opening cs := by
  induction p with
  | nil => rfl
  | cons c p ih =>
    rw [List.mem_cons, not_or] at h
    rw [List.cons_append, hasTag, decide_eq_false (Ne.symm h.1), Bool.false_and, Bool.false_or,
      ih h.2]

theorem hasTag_of_not_mem {cs : List Char} (h : '[' ∉ cs) : hasTag opening cs = false := by
  rw [← List.append_nil cs, hasTag_append_of_not_mem h]
  rfl

/-- A bracket that is open at the end of a text is not closed by a text without brackets. -/
theorem hasTag_append_of_tagText {q : List Char} (h : ∀ c ∈ q, isBracket c = false)
    (cs : List Char) : hasTag opening (cs ++ q) = hasTag opening cs := by
  have hq : '[' ∉ q := fun hmem => Bool.false_ne_true (h '[' hmem).symm
  induction cs with
  | nil => exact hasTag_of_not_mem hq
  | cons c r ih =>
    have hstarts : startsTag opening (r ++ q) = startsTag opening r := by
      rw [startsTag, startsTag, List.find?_append, find?_isBracket h, Option.or_none]
      cases r with
      | nil =>
        rw [List.find?_nil, decide_eq_false nofun, Bool.and_false, Bool.and_false]
      | cons d r => rfl
    rw [List.cons_append, hasTag, hasTag, hstarts, ih]

theorem hasTag_of_opening {cs : List Char} (h : ∀ c ∈ cs, opening c = false) :
    hasTag opening cs = false := by
  induction cs with
  | nil => rfl
  | cons c r ih =>
    rw [List.forall_mem_cons] at h
    have hhead : r.head?.any opening = false := by
      cases r with
      | nil => rfl
      | cons d r => exact h.2 d List.mem_cons_self
    rw [hasTag, startsTag, hhead, Bool.false_and, Bool.and_false, Bool.false_or, ih h.2]

theorem hasTag_of_slash_not_mem {cs : List Char} (h : '/' ∉ cs) : hasTag isSlash cs = false := by
  apply hasTag_of_opening
  intro c hc
  rw [isSlash, decide_eq_false_iff_not]
  rintro rfl
  exact h hc

theorem hasTag_mono {other : Char → Bool} (hsub : ∀ c, other c = true → opening c = true)
    {cs : List Char} (h : hasTag opening cs = false) : hasTag other cs = false := by
  induction cs with
  | nil => rfl
  | cons c r ih =>
    rw [hasTag, Bool.or_eq_false_iff, Bool.and_eq_false_iff] at h ⊢
    refine ⟨h.1.imp_right fun hstarts => ?_, ih h.2⟩
    rw [startsTag, Bool.and_eq_false_iff] at hstarts ⊢
    refine hstarts.imp_left fun hhead => ?_
    cases r with
    | nil => rfl
    | cons d r =>
      exact eq_false_of_ne_true fun hd => Bool.false_ne_true (hhead.symm.trans (hsub d hd))

section Marked

variable {α : Type} {f g : α → Char}

/-- Characters in the same place of two texts are the same, or they neither begin nor end tags. -/
def AgreeOnTags (opening : Char → Bool) (f g : α → Char) : Prop :=
  ∀ a, f a = g a ∨ (isBracket (f a) = false ∧ opening (f a) = false) ∧
    isBracket (g a) = false ∧ opening (g a) = false

theorem AgreeOnTags.startsTag_eq (h : AgreeOnTags opening f g) (as : List α) :
    startsTag opening (as.map f) = startsTag opening (as.map g) := by
  have hfind : (as.map f).find? isBracket = (as.map g).find? isBracket := by
    induction as with
    | nil => rfl
    | cons a as ih =>
      rw [List.map_cons, List.map_cons]
      rcases h a with heq | ⟨⟨hf, -⟩, hg, -⟩
      · rw [heq, List.find?_cons, List.find?_cons, ih]
      · rw [List.find?_cons_of_neg (Bool.eq_false_iff.1 hf),
          List.find?_cons_of_neg (Bool.eq_false_iff.1 hg), ih]
  have hhead : (as.map f).head?.any opening = (as.map g).head?.any opening := by
    cases as with
    | nil => rfl
    | cons a as =>
      rcases h a with heq | ⟨⟨-, hf⟩, -, hg⟩
      · exact congrArg opening heq
      · exact hf.trans hg.symm
  rw [startsTag, startsTag, hfind, hhead]

theorem AgreeOnTags.hasTag_eq (h : AgreeOnTags opening f g) (as : List α) :
    hasTag opening (as.map f) = hasTag opening (as.map g) := by
  have hopen (a : α) : decide (f a = '[') = decide (g a = '[') := by
    rcases h a with heq | ⟨⟨hf, -⟩, hg, -⟩
    · rw [heq]
    · rw [decide_eq_false (isBracket_eq_false_iff.1 hf).1,
        decide_eq_false (isBracket_eq_false_iff.1 hg).1]
  induction as with
  | nil => rfl
  | cons a as ih => rw [List.map_cons, List.map_cons, hasTag, hasTag, hopen, h.startsTag_eq, ih]

end Marked

end Tags

namespace Piece

variable {opening : Char → Bool}

def IsTagText (p : List Char) : Prop := ∀ c ∈ p, isBracket c = false

instance (p : List Char) : Decidable (IsTagText p) :=
  List.decidableBAll (fun c => isBracket c = false) p

theorem startsTag_close {p : List Char} (hp : IsTagText p) (r : List Char) :
    startsTag opening (p ++ ']' :: r) = (p ++ [']']).head?.any opening := by
  have hfind : (p ++ ']' :: r).find? isBracket = some ']' := by
    rw [List.find?_append, find?_isBracket hp]
    rfl
  have hhead : (p ++ ']' :: r).head? = (p ++ [']']).head? := by
    rw [List.head?_append, List.head?_append]
    rfl
  rw [startsTag, hfind, hhead, Bool.and_eq_left_iff_imp]
  exact fun _ => by decide

theorem isTag_eq {p : List Char} : isTag p = (p ++ [']']).head?.any opensTag := by
  cases p with
  | nil => decide
  | cons c p => rfl

/-- The text since the last tag, its last character first. -/
def sinceTag (before : List Char) : Option (Nat × List Char) → List Char
  | none => before
  | some (_, body) => body ++ '[' :: before

/-- Neither an open bracket nor one in the rest opens such a tag. -/
structure Tagless (opening : Char → Bool) (bracket : Option (Nat × List Char))
    (cs : List Char) : Prop where
  body : ∀ b ∈ bracket, IsTagText b.2 ∧ startsTag opening (b.2.reverse ++ cs) = false
  rest : hasTag opening cs = false

theorem tagless_none {cs : List Char} (h : hasTag opening cs = false) :
    Tagless opening none cs := ⟨nofun, h⟩

theorem Tagless.open {bracket : Option (Nat × List Char)} {r : List Char}
    (h : Tagless opening bracket ('[' :: r)) (position : Nat) :
    Tagless opening (some (position, [])) r := by
  have hrest := h.rest
  rw [hasTag, decide_eq_true rfl, Bool.true_and, Bool.or_eq_false_iff] at hrest
  refine ⟨?_, hrest.2⟩
  rintro b ⟨⟩
  exact ⟨nofun, hrest.1⟩

theorem Tagless.tail {c : Char} {bracket : Option (Nat × List Char)} {r : List Char}
    (h : Tagless opening bracket (c :: r)) : hasTag opening r = false := by
  have hrest := h.rest
  rw [hasTag, Bool.or_eq_false_iff] at hrest
  exact hrest.2

theorem Tagless.step {c : Char} {start : Nat} {body r : List Char}
    (h : Tagless opening (some (start, body)) (c :: r)) (hc : isBracket c = false) :
    Tagless opening (some (start, c :: body)) r := by
  refine ⟨?_, h.tail⟩
  rintro b ⟨⟩
  obtain ⟨hbody, hstarts⟩ := h.body _ rfl
  refine ⟨List.forall_mem_cons.2 ⟨hc, hbody⟩, ?_⟩
  rwa [List.reverse_cons, List.append_assoc, List.singleton_append]

theorem IsTagText.reverse {p : List Char} (h : IsTagText p) : IsTagText p.reverse :=
  fun c hc => h c (List.mem_reverse.1 hc)

theorem reverse_sinceTag_append (before body : List Char) (start position : Nat) (r : List Char) :
    (sinceTag (body ++ '[' :: before) (some (position, []))).reverse ++ r =
      (sinceTag before (some (start, body))).reverse ++ '[' :: r := by
  rw [sinceTag, sinceTag, List.nil_append, List.reverse_cons, List.append_assoc]
  rfl

/-- Without tags a text is one piece. -/
theorem scan_of_tagless {position : Nat} {before : List Char}
    {bracket : Option (Nat × List Char)} {cs : List Char} (h : Tagless opensTag bracket cs) :
    scan position before bracket cs = [plain ((sinceTag before bracket).reverse ++ cs)] := by
  fun_induction scan position before bracket cs with
  | case1 position before => rw [List.append_nil]; rfl
  | case2 position before start body => rw [List.append_nil]; rfl
  | case3 position before r ih =>
    rw [ih (h.open position), sinceTag, sinceTag, List.nil_append, List.reverse_cons,
      List.append_assoc, List.singleton_append]
  | case4 position before c r hc ih =>
    rw [ih (tagless_none h.tail), sinceTag, sinceTag, List.reverse_cons, List.append_assoc,
      List.singleton_append]
  | case5 position before r start body ih =>
    rw [ih (h.open position), reverse_sinceTag_append]
  | case6 position before r start body htag hne ih =>
    obtain ⟨hbody, hstarts⟩ := h.body _ rfl
    rw [startsTag_close hbody.reverse, ← isTag_eq] at hstarts
    exact absurd (htag.symm.trans hstarts) (by decide)
  | case7 position before r start body htag hne ih =>
    rw [ih (tagless_none h.tail), sinceTag, sinceTag, List.reverse_cons, List.append_assoc,
      List.singleton_append]
  | case8 position before c r start body hopen hclose ih =>
    rw [ih (h.step (isBracket_eq_false_iff.2 ⟨hopen, hclose⟩)), sinceTag, sinceTag,
      List.cons_append, List.reverse_cons, List.append_assoc, List.singleton_append]

/-- A tag that closes a style. -/
def closes : Piece → Bool
  | tag _ ('/' :: _) _ => true
  | _ => false

theorem closes_tag {start : Nat} {name : List Char} (h : name.head? ≠ some '/')
    (parameters : Option (List Char)) : closes (tag start name parameters) = false := by
  rw [closes.eq_def]
  split
  next heq =>
    cases heq
    exact absurd rfl h
  · rfl

theorem closes_ofBody {start : Nat} {body : List Char} (h : body.head? ≠ some '/') :
    closes (ofBody start body) = false := by
  apply closes_tag
  cases body with
  | nil => exact h
  | cons c body =>
    rw [Text.cut]
    split_ifs
    · exact Ne.symm (Option.some_ne_none '/')
    · exact h

theorem closes_upToTag {before body : List Char} {start : Nat} (h : body.head? ≠ some '/') :
    ∀ p ∈ upToTag before start body, closes p = false := by
  rw [upToTag]
  simp only [List.forall_mem_cons]
  refine ⟨rfl, rfl, ?_, List.forall_mem_nil _⟩
  split
  · rfl
  · exact closes_ofBody h

/-- Where no bracket is followed by a slash, no tag closes a style. -/
theorem not_closes_of_tagless {position : Nat} {before : List Char}
    {bracket : Option (Nat × List Char)} {cs : List Char} (h : Tagless isSlash bracket cs) :
    ∀ p ∈ scan position before bracket cs, closes p = false := by
  fun_induction scan position before bracket cs with
  | case1 => exact List.forall_mem_singleton.2 rfl
  | case2 => exact List.forall_mem_singleton.2 rfl
  | case3 position before r ih => exact ih (h.open position)
  | case4 position before c r hc ih => exact ih (tagless_none h.tail)
  | case5 position before r start body ih => exact ih (h.open position)
  | case6 position before r start body htag hne ih =>
    obtain ⟨hbody, hstarts⟩ := h.body _ rfl
    have hhead : body.reverse.head? ≠ some '/' := by
      intro hslash
      rw [startsTag_close hbody.reverse, List.head?_append, hslash] at hstarts
      exact absurd hstarts (by decide)
    exact List.forall_mem_append.2 ⟨closes_upToTag hhead, ih (tagless_none h.tail)⟩
  | case7 position before r start body htag hne ih => exact ih (tagless_none h.tail)
  | case8 position before c r start body hopen hclose ih =>
    exact ih (h.step (isBracket_eq_false_iff.2 ⟨hopen, hclose⟩))

theorem scan_body {body : List Char} (hbody : IsTagText body) (position start : Nat)
    (before acc : List Char) (rest : List Char) (htag : isTag (acc.reverse ++ body) = true) :
    scan position before (some (start, acc)) (body ++ ']' :: rest) =
      upToTag before start (acc.reverse ++ body) ++
        scan (position + body.length + 1) [] none rest := by
  induction body generalizing position acc with
  | nil =>
    rw [List.append_nil] at htag ⊢
    rw [List.nil_append, scan, if_neg (by decide), if_pos rfl, if_pos htag]
    rfl
  | cons c body ih =>
    obtain ⟨hc, hbody⟩ := List.forall_mem_cons.1 hbody
    rw [isBracket_eq_false_iff] at hc
    have hacc : acc.reverse ++ c :: body = (c :: acc).reverse ++ body := by
      rw [List.reverse_cons, List.append_assoc, List.singleton_append]
    rw [hacc] at htag ⊢
    rw [List.cons_append, scan, if_neg hc.1, if_neg hc.2, ih hbody _ _ htag, List.length_cons,
      Nat.add_right_comm position 1, Nat.add_assoc position]

/-- The scan of a text ends with a stretch that a tag behind the text would be attached to. -/
structure EndsWith (position : Nat) (before : List Char) (bracket : Option (Nat × List Char))
    (cs : List Char) (ps : List Piece) (last : List Char) : Prop where
  scan_eq : scan position before bracket cs = ps ++ [plain last.reverse]
  isPrefix : last <+: cs.reverse ++ sinceTag before bracket
  scan_tag : ∀ body rest, IsTagText body → isTag body = true →
    scan position before bracket (cs ++ '[' :: (body ++ ']' :: rest)) =
      ps ++ (upToTag last (position + cs.length) body ++
        scan (position + cs.length + body.length + 2) [] none rest)

theorem scan_open_tag {position : Nat} {before body rest : List Char} (hbody : IsTagText body)
    (htag : isTag body = true) :
    scan (position + 1) before (some (position, [])) (body ++ ']' :: rest) =
      upToTag before position body ++ scan (position + body.length + 2) [] none rest := by
  have hscan := scan_body hbody (position + 1) position before [] rest htag
  rwa [Nat.add_right_comm position 1, Nat.add_assoc _ 1] at hscan

section Steps

variable {position : Nat} {before before' : List Char} {bracket bracket' : Option (Nat × List Char)}
  {c : Char} {r last : List Char} {ps qs : List Piece}

/-- One more character in front, which may end a tag and leave its pieces behind. -/
theorem EndsWith.step
    (hstep : ∀ r, scan position before bracket (c :: r) =
      qs ++ scan (position + 1) before' bracket' r)
    (hsince : sinceTag before' bracket' <+: c :: sinceTag before bracket)
    (h : EndsWith (position + 1) before' bracket' r ps last) :
    EndsWith position before bracket (c :: r) (qs ++ ps) last := by
  refine ⟨?_, ?_, ?_⟩
  · rw [hstep, h.scan_eq, List.append_assoc]
  · rw [List.reverse_cons, List.append_assoc]
    exact h.isPrefix.trans ((List.prefix_append_right_inj _).2 hsince)
  · intro body rest hbody htag
    rw [List.cons_append, hstep, h.scan_tag body rest hbody htag, List.append_assoc,
      List.length_cons, Nat.add_assoc position 1, Nat.add_comm 1]

end Steps

theorem exists_endsWith (position : Nat) (before : List Char) (bracket : Option (Nat × List Char))
    (cs : List Char) : ∃ ps last, EndsWith position before bracket cs ps last := by
  fun_induction scan position before bracket cs with
  | case1 position before =>
    refine ⟨[], before, rfl, List.prefix_rfl, ?_⟩
    intro body rest hbody htag
    exact scan_open_tag hbody htag
  | case2 position before start body =>
    refine ⟨[], body ++ '[' :: before, rfl, List.prefix_rfl, ?_⟩
    intro body rest hbody htag
    exact scan_open_tag hbody htag
  | case3 position before r ih =>
    obtain ⟨ps, last, h⟩ := ih
    exact ⟨[] ++ ps, last, h.step (fun _ => rfl) List.prefix_rfl⟩
  | case4 position before c r hc ih =>
    obtain ⟨ps, last, h⟩ := ih
    refine ⟨[] ++ ps, last, h.step (fun r => ?_) List.prefix_rfl⟩
    rw [scan, if_neg hc]
    rfl
  | case5 position before r start body ih =>
    obtain ⟨ps, last, h⟩ := ih
    exact ⟨[] ++ ps, last, h.step (fun _ => rfl) List.prefix_rfl⟩
  | case6 position before r start body htag hne ih =>
    obtain ⟨ps, last, h⟩ := ih
    have hsince : sinceTag [] none <+: ']' :: sinceTag before (some (start, body)) :=
      List.nil_prefix
    refine ⟨upToTag before start body.reverse ++ ps, last, h.step (fun r => ?_) hsince⟩
    rw [scan, if_neg hne, if_pos rfl, if_pos htag]
  | case7 position before r start body htag hne ih =>
    obtain ⟨ps, last, h⟩ := ih
    refine ⟨[] ++ ps, last, h.step (fun r => ?_) List.prefix_rfl⟩
    rw [scan, if_neg hne, if_pos rfl, if_neg htag]
    rfl
  | case8 position before c r start body hopen hclose ih =>
    obtain ⟨ps, last, h⟩ := ih
    refine ⟨[] ++ ps, last, h.step (fun r => ?_) List.prefix_rfl⟩
    rw [scan, if_neg hopen, if_neg hclose]
    rfl

end Piece

namespace Markup

open Piece

/-- A text that a console without colours shows as it is: no bracket opens a tag or stands behind a
backslash, no text between colons is the name of an emoji, and there are no control characters. -/
structure IsPlain (cs : List Char) : Prop where
  tagless : hasTag opensTag cs = false
  unescaped : cs.IsChain fun c d => c = '\\' → d ≠ '['
  nameless : ∀ n ∈ Emoji.candidates cs, Emoji.isKnown n = false
  uncontrolled : ∀ c ∈ cs, isControl c = false

theorem unescape_eq_self {cs : List Char} (h : cs.IsChain fun c d => c = '\\' → d ≠ '[') :
    unescape cs = cs := by
  fun_induction unescape cs with
  | case1 => rfl
  | case2 r ih => exact absurd rfl ((List.isChain_cons_cons.1 h).1 rfl)
  | case3 c r hne ih => rw [ih h.tail]

theorem IsPlain.shown_eq {cs : List Char} (h : IsPlain cs) : shown (unescape cs) = cs := by
  rw [unescape_eq_self h.unescaped, shown, Emoji.replace_eq_self h.nameless, List.filter_eq_self]
  intro c hc
  rw [h.uncontrolled c hc]
  rfl

section Rendered

variable {console : Console}

theorem renderPieces_plain (tags : List OpenTag) (text : List Char) (ps : List Piece) :
    renderPieces console tags (.plain text :: ps) =
      (renderPieces console tags ps).map (shown (unescape text) ++ ·) := rfl

theorem IsPlain.renderPieces_eq {cs : List Char} (h : IsPlain cs) (tags : List OpenTag) :
    renderPieces console tags [.plain cs] = .ok cs := by
  rw [renderPieces_plain, h.shown_eq]
  exact congrArg Except.ok (List.append_nil cs)

/-- A plain text is rendered as it is. -/
theorem render_of_isPlain {s : String} (h : IsPlain s.toList) :
    render console s = .ok s.toList := by
  rw [render, scan_of_tagless (tagless_none h.tagless)]
  exact h.renderPieces_eq []

theorem head?_of_not_closes {position : Nat} {name : List Char} {parameters : Option (List Char)}
    (h : closes (.tag position name parameters) = false) : name.head? ≠ some '/' := by
  intro hslash
  obtain ⟨closed, rfl⟩ := List.head?_eq_some_iff.1 hslash
  cases h

theorem renderPieces_opening {name : List Char} (h : name.head? ≠ some '/') (tags : List OpenTag)
    (position : Nat) (parameters : Option (List Char)) (ps : List Piece) :
    renderPieces console tags (.tag position name parameters :: ps) =
      renderPieces console (⟨Style.canonical name, parameters⟩ :: tags) ps := by
  rw [renderPieces]
  rintro closed rfl
  exact h rfl

variable (console) in
/-- Without closing tags the pieces open tags, and what is behind them goes on with these. -/
theorem exists_renderPieces_append {ps : List Piece} (h : ∀ p ∈ ps, closes p = false)
    (tags : List OpenTag) : ∃ text opened, tags ⊆ opened ∧ ∀ qs,
      renderPieces console tags (ps ++ qs) =
        (renderPieces console opened qs).map (text ++ ·) := by
  induction ps generalizing tags with
  | nil =>
    refine ⟨[], tags, List.Subset.refl _, ?_⟩
    intro qs
    rw [List.nil_append]
    cases renderPieces console tags qs with
    | error e => rfl
    | ok cs => rfl
  | cons p ps ih =>
    obtain ⟨hp, hps⟩ := List.forall_mem_cons.1 h
    cases p with
    | plain text =>
      obtain ⟨rest, opened, hsub, hrender⟩ := ih hps tags
      refine ⟨shown (unescape text) ++ rest, opened, hsub, ?_⟩
      intro qs
      rw [List.cons_append, renderPieces_plain, hrender]
      cases renderPieces console opened qs with
      | error e => rfl
      | ok cs => exact congrArg Except.ok (List.append_assoc _ _ _).symm
    | tag position name parameters =>
      obtain ⟨rest, opened, hsub, hrender⟩ := ih hps (⟨Style.canonical name, parameters⟩ :: tags)
      refine ⟨rest, opened, List.Subset.trans (List.subset_cons_self _ _) hsub, ?_⟩
      intro qs
      rw [List.cons_append, renderPieces_opening (head?_of_not_closes hp), hrender]

variable (console) in
/-- A text without closing tags can be rendered. -/
theorem exists_render {s : String} (h : hasTag isSlash s.toList = false) :
    ∃ cs, render console s = .ok cs := by
  obtain ⟨text, opened, -, hrender⟩ :=
    exists_renderPieces_append console (not_closes_of_tagless (tagless_none h)) []
  have hok := hrender []
  rw [List.append_nil] at hok
  exact ⟨_, hok⟩

end Rendered

/-- A word in a tag that is the canonical name of a style, and calls no handler. -/
structure IsStyle (name : List Char) : Prop where
  isTag : isTag name = true
  tagText : IsTagText name
  uncut : Text.cut '=' name = (name, none)
  trimmed : Text.trim Text.isSpace name = name
  canonical : Style.canonical name = String.ofList name
  unslashed : name.head? ≠ some '/'
  uncalled : name.head? ≠ some '@'

theorem isStyle_red : IsStyle ['r', 'e', 'd'] :=
  ⟨by decide, by decide, by decide, by decide, by decide +kernel, by decide, by decide⟩

/-- A text between the tags of a style. -/
def inStyle (name cs : List Char) : List Char :=
  '[' :: (name ++ ']' :: (cs ++ '[' :: ('/' :: name ++ [']'])))

section Styled

variable {console : Console} {name cs rest : List Char}

theorem close_of_style (h : IsStyle name) {t : OpenTag} (ht : t.name = String.ofList name) :
    close console t = .ok () := by
  have hhandler : t.isHandler = false := by
    rw [OpenTag.isHandler, ht, String.toList_ofList, decide_eq_false h.uncalled]
  rw [close, hhandler, Bool.false_and]
  exact if_neg Bool.false_ne_true

variable (console) in
/-- A tag closes the style that it names if that is open. -/
theorem exists_renderPieces_close (h : IsStyle name) {tags : List OpenTag} {t : OpenTag}
    (ht : t ∈ tags) (hname : t.name = String.ofList name) (position : Nat) (ps : List Piece) :
    ∃ left, renderPieces console tags (.tag position ('/' :: name) none :: ps) =
      renderPieces console left ps := by
  have hfull : name.isEmpty = false := by
    cases name with
    | nil => exact absurd h.isTag Bool.false_ne_true
    | cons c name => rfl
  obtain ⟨u, hu⟩ : ∃ u, tags.find? (fun t => t.name = String.ofList name) = some u := by
    rw [← Option.isSome_iff_exists, List.find?_isSome]
    exact ⟨t, ht, decide_eq_true hname⟩
  have hfound := List.find?_some hu
  have hclose : close console u = .ok () := close_of_style h (of_decide_eq_true hfound)
  refine ⟨tags.eraseP fun t => t.name = String.ofList name, ?_⟩
  rw [renderPieces.eq_def]
  simp only [h.trimmed, hfull, Bool.false_eq_true, if_false, h.canonical, hu, hclose]
  rfl

theorem upToTag_of_head {last body : List Char} (h : last.head? ≠ some '\\') (start : Nat) :
    upToTag last start body = [.plain last.reverse, .plain [], ofBody start body] := by
  have hslashes : last.takeWhile (· = '\\') = [] := by
    cases last with
    | nil => rfl
    | cons c last =>
      have hc : c ≠ '\\' := fun hc => h (congrArg some hc)
      rw [List.takeWhile_cons_of_neg (by rwa [decide_eq_true_eq])]
  rw [upToTag, hslashes]
  rfl

theorem ofBody_of_style (h : IsStyle name) (start : Nat) :
    ofBody start name = .tag start name none := by
  rw [ofBody, h.uncut]

theorem ofBody_closing (h : IsStyle name) (start : Nat) :
    ofBody start ('/' :: name) = .tag start ('/' :: name) none := by
  have hcut : Text.cut '=' ('/' :: name) = ('/' :: name, none) := by
    rw [Text.cut, if_neg (by decide), h.uncut]
  rw [ofBody, hcut]

/-- The opening tag of a styled text is rendered first. -/
theorem renderPieces_open (h : IsStyle name) (cs : List Char) :
    renderPieces console [] (scan 0 [] none ('[' :: (name ++ ']' :: cs))) =
      renderPieces console [⟨String.ofList name, none⟩] (scan (name.length + 2) [] none cs) := by
  have hscan : scan 0 [] none ('[' :: (name ++ ']' :: cs)) =
      .plain [] :: .plain [] :: .tag 0 name none :: scan (name.length + 2) [] none cs := by
    have hopen : scan 1 [] (some (0, [])) (name ++ ']' :: cs) =
        upToTag [] 0 name ++ scan (0 + name.length + 2) [] none cs :=
      scan_open_tag h.tagText h.isTag
    have hnone : ([] : List Char).head? ≠ some '\\' := nofun
    rw [upToTag_of_head hnone, ofBody_of_style h] at hopen
    rw [scan, if_pos rfl, hopen, Nat.zero_add]
    rfl
  rw [hscan, renderPieces_plain, renderPieces_plain, renderPieces_opening h.unslashed, h.canonical]
  cases renderPieces console [⟨String.ofList name, none⟩] (scan (name.length + 2) [] none cs) with
  | error e => rfl
  | ok text => rfl

variable (console) in
/-- The closing tag of a styled text stands behind the last piece of the text. -/
theorem exists_renderPieces_inStyle (h : IsStyle name) (hend : cs.getLast? ≠ some '\\')
    (rest : List Char) : ∃ start ps last position after, scan start [] none cs =
        ps ++ [.plain last] ∧
      renderPieces console [] (scan 0 [] none (inStyle name cs ++ rest)) =
        renderPieces console [⟨String.ofList name, none⟩] (ps ++
          .plain last :: .plain [] :: .tag position ('/' :: name) none ::
            scan after [] none rest) := by
  obtain ⟨ps, last, hends⟩ := exists_endsWith (name.length + 2) [] none cs
  have hbody : IsTagText ('/' :: name) := List.forall_mem_cons.2 ⟨rfl, h.tagText⟩
  have hhead : last.head? ≠ some '\\' := by
    intro hlast
    obtain ⟨front, hfront⟩ := hends.isPrefix
    rw [sinceTag, List.append_nil] at hfront
    apply hend
    rw [← List.head?_reverse, ← hfront, List.head?_append, hlast]
    rfl
  have htag := hends.scan_tag ('/' :: name) rest hbody rfl
  rw [upToTag_of_head hhead, ofBody_closing h] at htag
  have htext : inStyle name cs ++ rest =
      '[' :: (name ++ ']' :: (cs ++ '[' :: ('/' :: name ++ ']' :: rest))) := by
    simp only [inStyle, List.cons_append, List.append_assoc, List.nil_append]
  refine ⟨name.length + 2, ps, last.reverse, name.length + 2 + cs.length,
    name.length + 2 + cs.length + ('/' :: name).length + 2, hends.scan_eq, ?_⟩
  rw [htext, renderPieces_open h, htag]
  rfl

/-- A plain text in a style is shown as it is. -/
theorem render_inStyle_of_isPlain (h : IsStyle name) (hplain : IsPlain cs)
    (hend : cs.getLast? ≠ some '\\') :
    render console (String.ofList (inStyle name cs)) = .ok cs := by
  obtain ⟨start, ps, last, position, after, hscan, hrender⟩ :=
    exists_renderPieces_inStyle console h hend []
  rw [scan_of_tagless (tagless_none hplain.tagless)] at hscan
  have hone : [] ++ [.plain cs] = ps ++ [.plain last] := hscan
  obtain ⟨rfl, hlast⟩ := List.append_inj' hone rfl
  cases hlast
  rw [List.append_nil, List.nil_append, renderPieces_plain, renderPieces_plain] at hrender
  obtain ⟨left, hclose⟩ := exists_renderPieces_close console h
    (List.mem_singleton_self ⟨String.ofList name, none⟩) rfl position (scan after [] none [])
  rw [hclose] at hrender
  rw [render, String.toList_ofList, hrender, hplain.shown_eq]
  exact congrArg Except.ok (List.append_nil cs)

variable (console) in
/-- A text without closing tags can be rendered in a style, with another such text behind it. -/
theorem exists_render_inStyle (h : IsStyle name) (htags : hasTag isSlash cs = false)
    (hend : cs.getLast? ≠ some '\\') (hrest : hasTag isSlash rest = false) :
    ∃ text, render console (String.ofList (inStyle name cs ++ rest)) = .ok text := by
  obtain ⟨start, ps, last, position, after, hscan, hrender⟩ :=
    exists_renderPieces_inStyle console h hend rest
  have hcloses : ∀ p ∈ ps ++ [.plain last], closes p = false :=
    hscan ▸ not_closes_of_tagless (tagless_none htags)
  obtain ⟨text, opened, hsub, happend⟩ := exists_renderPieces_append console
    (List.forall_mem_append.1 hcloses).1 [⟨String.ofList name, none⟩]
  obtain ⟨left, hclose⟩ := exists_renderPieces_close console h
    (hsub (List.mem_singleton_self _)) rfl position (scan after [] none rest)
  obtain ⟨tail, opened', -, hafter⟩ := exists_renderPieces_append console
    (not_closes_of_tagless (tagless_none hrest)) left
  have hok := hafter []
  rw [List.append_nil] at hok
  rw [render, String.toList_ofList, hrender, happend, renderPieces_plain, renderPieces_plain,
    hclose, hok]
  exact ⟨_, rfl⟩

end Styled

end Markup

end LeasePlan.Console
