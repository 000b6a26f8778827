import Mathlib
import LeasePlan.Proofs.Numerals
import LeasePlan.Proofs.PortableJson

namespace LeasePlan.Yaml

/-- Spaces and plain line breaks. -/
def Blanks (b : List Char) : Prop := ∀ c ∈ b, c = ' ' ∨ c = '\n'

/-- What can stand behind blanks and is no comment: a character that is read, or the end. -/
def Stops (r : List Char) : Prop := ∀ c ∈ r.head?, c ≠ ' ' ∧ c ≠ '#' ∧ isBreak c = false

theorem map_ofNat_codesOf (cs : List Char) : (codesOf cs).map Char.ofNat = cs := by
  have hid : Char.ofNat ∘ Char.toNat = id := funext fun c => Char.ofNat_toNat c
  rw [codesOf, List.map_map, hid, List.map_id]

namespace Cursor

variable (c : Cursor) {x : Char} {cs r : List Char}

theorem peek_of_rest {c : Cursor} (h : c.rest = x :: r) : c.peek = x := by
  rw [peek, h]
  rfl

theorem rest_next (c : Cursor) : c.next.rest = c.rest.tail := by
  rw [next]
  cases hr : c.rest with
  | nil => exact hr
  | cons x xs =>
    dsimp only
    split
    · rfl
    · split <;> rfl

theorem rest_skip (n : Nat) : (c.skip n).rest = c.rest.drop n := by
  induction n generalizing c with
  | zero => rfl
  | succ n ih => rw [skip, ih, rest_next, List.drop_tail]

theorem rest_skip_append {c : Cursor} (h : c.rest = cs ++ r) : (c.skip cs.length).rest = r := by
  rw [rest_skip, h, List.drop_left]

/-- The place that follows characters on one line. -/
theorem line_skip {c : Cursor} (h : c.rest = cs ++ r) (hb : ∀ x ∈ cs, isBreak x = false) :
    (c.skip cs.length).line = c.line := by
  induction cs generalizing c with
  | nil => rfl
  | cons x cs ih =>
    rw [List.forall_mem_cons] at hb
    have hnext : c.next.rest = cs ++ r := by rw [rest_next, h]; rfl
    rw [List.length_cons, skip, ih hnext hb.2, next, h]
    dsimp only [List.cons_append]
    rw [if_neg (by rw [hb.1]; exact Bool.false_ne_true)]
    split <;> rfl

theorem index_skip {c : Cursor} (h : c.rest = cs ++ r) :
    (c.skip cs.length).index = c.index + cs.length := by
  induction cs generalizing c with
  | nil => rfl
  | cons x cs ih =>
    have hnext : c.next.rest = cs ++ r := by rw [rest_next, h]; rfl
    have hindex : c.next.index = c.index + 1 := by
      rw [next, h]
      dsimp only [List.cons_append]
      split
      · rfl
      · split <;> rfl
    rw [List.length_cons, skip, ih hnext, hindex]
    omega

theorem skip_skip (m n : Nat) : (c.skip m).skip n = c.skip (m + n) := by
  induction m generalizing c with
  | zero => rw [Nat.zero_add]; rfl
  | succ m ih => rw [Nat.succ_add, skip, skip, ih]

theorem takeWhile_append {p : Char → Bool} {c : Cursor} (h : c.rest = cs ++ r)
    (hcs : ∀ x ∈ cs, p x = true) (hr : ∀ x ∈ r.head?, p x = false) :
    c.takeWhile p = (cs, c.skip cs.length) := by
  have htake : c.rest.takeWhile p = cs := by
    rw [h, List.takeWhile_append_of_pos hcs]
    cases r with
    | nil => exact List.append_nil cs
    | cons x r =>
      have hx : p x = false := hr x rfl
      rw [List.takeWhile_cons_of_neg (by rw [hx]; exact Bool.false_ne_true), List.append_nil]
  rw [takeWhile, htake]

theorem takeWhile_spaces {c : Cursor} (h : c.rest = cs ++ r) (hcs : ∀ x ∈ cs, x = ' ')
    (hr : ' ' ∉ r.head?) : c.takeWhile (fun x => decide (x = ' ')) = (cs, c.skip cs.length) := by
  apply takeWhile_append h
  · intro x hx
    exact decide_eq_true (hcs x hx)
  · intro x hx
    rw [decide_eq_false_iff_not]
    rintro rfl
    exact hr hx

theorem skipSpaces_eq {c : Cursor} (h : c.rest = cs ++ r) (hcs : ∀ x ∈ cs, x = ' ')
    (hr : ' ' ∉ r.head?) : c.skipSpaces = c.skip cs.length := by
  rw [skipSpaces, skipWhile, takeWhile_spaces h hcs hr]

theorem skipComment_eq {c : Cursor} (h : '#' ∉ c.rest.head?) : c.skipComment = c := by
  rw [skipComment, if_neg]
  intro hp
  rw [peek] at hp
  cases hr : c.rest with
  | nil =>
    rw [hr] at hp
    exact absurd hp (by decide)
  | cons x xs =>
    rw [hr] at hp h
    exact h (congrArg some hp)

theorem lineBreak_newline {c : Cursor} (h : c.rest = '\n' :: r) :
    c.lineBreak = (['\n'], c.next) := by
  rw [lineBreak, peek_of_rest h]
  rfl

end Cursor

section Strings

open Json (Piece body codes arePortable)

variable {r : List Char}

theorem escapes_lookup {mark value : Char} (h : Json.escape? mark = some value) :
    escapes.lookup mark = some value.toNat := by
  unfold Json.escape? at h
  split at h <;> cases h <;> rfl

theorem escape_of_escape? {mark value : Char} (h : Json.escape? mark = some value) {c : Cursor}
    (hc : c.rest = mark :: r) : c.escape = .ok ([value.toNat], c.next) := by
  simp only [Cursor.escape, Cursor.peek_of_rest hc, escapes_lookup h]

theorem escape_unit {a b d e : Char} {code : Nat}
    (h : Numeral.hexadecimal? [a, b, d, e] = some code) {c : Cursor}
    (hc : c.rest = 'u' :: a :: b :: d :: e :: r) : c.escape = .ok ([code], c.skip 5) := by
  obtain ⟨ns, hns, hcode⟩ := Option.map_eq_some_iff.1 h
  have hdigits := map_eq_of_mapM hns
  have hlength : ns.length = 4 := by
    have hl := congrArg List.length hdigits
    rw [List.length_map, List.length_map] at hl
    exact hl.symm
  have hlt : code < 0x110000 := by
    have hdigit : ∀ n ∈ ns, n < 16 := by
      intro n hn
      have hmem : some n ∈ [a, b, d, e].map Numeral.hexDigit? := by
        rw [hdigits]
        exact List.mem_map_of_mem hn
      obtain ⟨x, -, hx⟩ := List.mem_map.1 hmem
      exact Numeral.hexDigit?_lt hx
    have hpow := Numeral.ofDigits_lt hdigit
    rw [hcode, hlength] at hpow
    omega
  have htake : c.next.rest.take 4 = [a, b, d, e] := by
    rw [Cursor.rest_next, hc]
    rfl
  have hall : (ns.map some).all Option.isSome = true := by
    rw [List.all_map]
    exact List.all_eq_true.2 fun _ _ => rfl
  have hvalues : (ns.map some).filterMap id = ns := by
    rw [List.filterMap_map]
    exact List.filterMap_some
  have hlookup : escapes.lookup 'u' = none := rfl
  have hcount : escapeDigits? 'u' = some 4 := rfl
  simp only [Cursor.escape, Cursor.peek_of_rest hc, hlookup, hcount, htake, hdigits,
    List.length_map, hlength, hall, hvalues, hcode, decide_true, Bool.and_self, if_true, if_pos hlt]
  rfl

/-- What stands at the start of what is left of a string ends no line and is no tab. -/
theorem head_body {ps : List Piece} (hp : ∀ p ∈ ps, p.isPortable = true) :
    ∃ x t, body ps = x :: t ∧ x ≠ '\t' ∧ x ≠ ending ∧ isBreak x = false := by
  cases ps with
  | nil => exact ⟨'"', [], rfl, by decide, by decide, rfl⟩
  | cons p ps =>
    have hportable := hp p List.mem_cons_self
    cases p with
    | raw c h =>
      rw [Piece.isPortable, Bool.and_eq_true, Bool.not_eq_true'] at hportable
      refine ⟨c, body ps, rfl, ?_, ?_, hportable.2⟩
      · rintro rfl
        exact absurd h.1 (by decide)
      · rintro rfl
        exact absurd h.1 (by decide)
    | escape mark value h => exact ⟨'\\', mark :: body ps, rfl, by decide, by decide, rfl⟩
    | unit a b d e code h => exact ⟨'\\', _, rfl, by decide, by decide, rfl⟩

/-- The spaces at the start of what is left of a string, and what is left behind them. -/
theorem exists_spaces (ps : List Piece) :
    ∃ s qs, body ps = s ++ body qs ∧ codes ps = codesOf s ++ codes qs ∧ (∀ x ∈ s, x = ' ') ∧
      (∀ q ∈ qs, q ∈ ps) ∧ ' ' ∉ (body qs).head? := by
  induction ps with
  | nil => exact ⟨[], [], rfl, rfl, List.forall_mem_nil _, fun _ => id, by decide⟩
  | cons p ps ih =>
    by_cases hspace : ' ' ∈ (body (p :: ps)).head?
    · obtain ⟨s, qs, hbody, hcodes, hs, hsub, hhead⟩ := ih
      cases p with
      | raw c h =>
        cases hspace
        refine ⟨' ' :: s, qs, ?_, ?_, List.forall_mem_cons.2 ⟨rfl, hs⟩, ?_, hhead⟩
        · exact congrArg (List.cons ' ') hbody
        · exact congrArg (List.cons 32) hcodes
        · exact fun q hq => List.mem_cons_of_mem _ (hsub q hq)
      | escape mark value h => cases hspace
      | unit a b d e code h => cases hspace
    · exact ⟨[], p :: ps, rfl, rfl, List.forall_mem_nil _, fun _ => id, hspace⟩

theorem portable_of_mem {ps : List Piece} (h : arePortable ps = true) :
    ∀ p ∈ ps, p.isPortable = true := by
  rw [arePortable, Bool.and_eq_true] at h
  exact List.all_eq_true.1 h.1

/-- Characters that may stand in a document and end no line. -/
def IsInline (c : Char) : Prop := isAllowed c = true ∧ isBreak c = false

theorem inline_of_toNat {c : Char} (hl : 32 ≤ c.toNat) (hu : c.toNat ≤ 126) : IsInline c := by
  have hne {x : Char} (hx : x.toNat < 32 ∨ 126 < x.toNat) : c ≠ x := by
    rintro rfl
    omega
  have hbreak : isBreak c = false := by
    simp only [isBreak, hne (x := '\n') (.inl (by decide)), hne (x := '\x85') (.inr (by decide)),
      hne (x := '\u2028') (.inr (by decide)), hne (x := '\u2029') (.inr (by decide)), decide_false,
      Bool.or_self]
  refine ⟨?_, hbreak⟩
  simp only [isAllowed, hl, hu, decide_true, Bool.and_self, Bool.or_true, Bool.true_or]

theorem inline_escape {mark value : Char} (h : Json.escape? mark = some value) : IsInline mark := by
  unfold Json.escape? at h
  split at h <;> cases h <;> exact ⟨rfl, rfl⟩

theorem inline_hexDigit {c : Char} {n : Nat} (h : Numeral.hexDigit? c = some n) : IsInline c := by
  have hrange (m k : Char) (hc : m ≤ c ∧ c ≤ k) (hm : 32 ≤ m.toNat) (hk : k.toNat ≤ 126) :
      IsInline c := by
    have hl : m.toNat ≤ c.toNat := hc.1
    have hu : c.toNat ≤ k.toNat := hc.2
    exact inline_of_toNat (hm.trans hl) (hu.trans hk)
  unfold Numeral.hexDigit? at h
  split at h
  · next hc => exact hrange '0' '9' hc (by decide) (by decide)
  · split at h
    · next hc => exact hrange 'a' 'f' hc (by decide) (by decide)
    · split at h
      · next hc => exact hrange 'A' 'F' hc (by decide) (by decide)
      · cases h

theorem inline_quote {ps : List Piece} (hp : arePortable ps = true) :
    ∀ x ∈ Json.quote ps, IsInline x := by
  have hpieces : ∀ p ∈ ps, ∀ x ∈ p.chars, IsInline x := by
    intro p hmem x hx
    have hportable := portable_of_mem hp p hmem
    cases p with
    | raw c h =>
      cases List.mem_singleton.1 hx
      rw [Piece.isPortable, Bool.and_eq_true, Bool.not_eq_true'] at hportable
      exact hportable
    | escape mark value h =>
      rcases List.mem_pair.1 hx with rfl | rfl
      · exact ⟨rfl, rfl⟩
      · exact inline_escape h
    | unit a b d e code h =>
      obtain ⟨ns, hns, -⟩ := Option.map_eq_some_iff.1 h
      have hdigits := map_eq_of_mapM hns
      have hdigit : ∀ y ∈ [a, b, d, e], IsInline y := by
        intro y hy
        have hmem : Numeral.hexDigit? y ∈ ns.map some := by
          rw [← hdigits]
          exact List.mem_map_of_mem hy
        obtain ⟨n, -, hn⟩ := List.mem_map.1 hmem
        exact inline_hexDigit hn.symm
      rw [Piece.chars, List.mem_cons, List.mem_cons] at hx
      rcases hx with rfl | rfl | hx
      · exact ⟨rfl, rfl⟩
      · exact ⟨rfl, rfl⟩
      · exact hdigit x hx
  intro x hx
  rw [Json.quote, body, List.mem_cons, List.mem_append, List.mem_flatMap] at hx
  rcases hx with rfl | ⟨p, hmem, hx⟩ | hx
  · exact ⟨rfl, rfl⟩
  · exact hpieces p hmem x hx
  · cases List.mem_singleton.1 hx
    exact ⟨rfl, rfl⟩

section Steps

variable {c d : Cursor} {s t : List Char} {ms : List Nat} {fuel : Nat}

theorem doubleQuoted_close (hc : c.rest = '"' :: t) :
    c.doubleQuoted (fuel + 1) = .ok ([], c.next) := by
  simp only [Cursor.doubleQuoted, Cursor.peek_of_rest hc, if_true]

theorem doubleQuoted_escape {ns : List Nat} {e : Cursor} (hc : c.rest = '\\' :: t)
    (he : c.next.escape = .ok (ns, d)) (hd : d.doubleQuoted fuel = .ok (ms, e)) :
    c.doubleQuoted (fuel + 1) = .ok (ns ++ ms, e) := by
  have hquote : ¬ '\\' = '"' := by decide
  simp only [Cursor.doubleQuoted, Cursor.peek_of_rest hc, if_neg hquote, if_true, he]
  simp only [Bind.bind, Except.bind, hd]

theorem doubleQuoted_char {x : Char} (hc : c.rest = x :: t) (hq : x ≠ '"') (hs : x ≠ '\\')
    (hb : isBlankOrEnd x = false) (hd : c.next.doubleQuoted fuel = .ok (ms, d)) :
    c.doubleQuoted (fuel + 1) = .ok (x.toNat :: ms, d) := by
  simp only [Cursor.doubleQuoted, Cursor.peek_of_rest hc, if_neg hq, if_neg hs, hb,
    Bool.false_eq_true, if_false]
  simp only [Bind.bind, Except.bind, hd]

theorem doubleQuoted_spaces (hc : c.rest = ' ' :: s ++ t) (hs : ∀ x ∈ s, x = ' ')
    (ht : ∃ x u, t = x :: u ∧ x ≠ '\t' ∧ x ≠ ending ∧ isBreak x = false) (hspace : ' ' ∉ t.head?)
    (hd : (c.skip (s.length + 1)).doubleQuoted fuel = .ok (ms, d)) :
    c.doubleQuoted (fuel + 1) = .ok (codesOf (' ' :: s) ++ ms, d) := by
  obtain ⟨x, u, rfl, htab, hend, hbreak⟩ := ht
  have hblank : ∀ y ∈ ' ' :: s, (decide (y = ' ') || decide (y = '\t')) = true := by
    intro y hy
    have hall : ∀ y ∈ ' ' :: s, y = ' ' := List.forall_mem_cons.2 ⟨rfl, hs⟩
    rw [hall y hy]
    rfl
  have hstop : ∀ y ∈ (x :: u).head?, (decide (y = ' ') || decide (y = '\t')) = false := by
    intro y hy
    cases hy
    have hne : x ≠ ' ' := fun h => hspace (congrArg some h)
    rw [decide_eq_false hne, decide_eq_false htab]
    rfl
  have htake := Cursor.takeWhile_append (p := fun x => decide (x = ' ') || decide (x = '\t')) hc
    hblank hstop
  have hpeek : (c.skip (' ' :: s).length).peek = x :=
    Cursor.peek_of_rest (Cursor.rest_skip_append hc)
  have hblanks : c.quotedBlanks = .ok (' ' :: s, c.skip (' ' :: s).length) := by
    simp only [Cursor.quotedBlanks, htake, hpeek, if_neg hend, hbreak, Bool.false_eq_true, if_false]
  have hquote : ¬ ' ' = '"' := by decide
  have hslash : ¬ ' ' = '\\' := by decide
  have hspace' : isBlankOrEnd ' ' = true := rfl
  simp only [Cursor.doubleQuoted, Cursor.peek_of_rest hc, if_neg hquote, if_neg hslash, hspace',
    if_true, hblanks]
  simp only [Bind.bind, Except.bind, List.length_cons, hd]

end Steps

theorem one_le_length_body (ps : List Piece) : 1 ≤ (body ps).length := by
  rw [body, List.length_append]
  exact Nat.le_add_left 1 _

/-- What is left of a string is read up to its closing quote. -/
theorem doubleQuoted_body (fuel : Nat) (ps : List Piece) (hp : ∀ p ∈ ps, p.isPortable = true)
    (c : Cursor) (hc : c.rest = body ps ++ r) (hf : (body ps).length ≤ fuel) :
    c.doubleQuoted fuel = .ok (codes ps, c.skip (body ps).length) := by
  induction fuel generalizing ps c with
  | zero => exact absurd (one_le_length_body ps) (by omega)
  | succ fuel ih =>
    obtain ⟨s, qs, hbody, hcodes, hs, hsub, hhead⟩ := exists_spaces ps
    cases s with
    | cons x s =>
      obtain ⟨rfl, hspaces⟩ := List.forall_mem_cons.1 hs
      have hqs : ∀ q ∈ qs, q.isPortable = true := fun q hq => hp q (hsub q hq)
      rw [hbody, List.append_assoc] at hc
      rw [hbody, List.length_append] at hf ⊢
      have hrest : (c.skip (' ' :: s).length).rest = body qs ++ r := Cursor.rest_skip_append hc
      have hlater := ih qs hqs _ hrest (by rw [List.length_cons] at hf; omega)
      rw [hcodes, ← Cursor.skip_skip]
      obtain ⟨x, t, hx, htab, hend, hbreak⟩ := head_body hqs
      have hfront : body qs ++ r = x :: (t ++ r) := by rw [hx, List.cons_append]
      have hspace : ' ' ∉ (body qs ++ r).head? := by
        rw [hx] at hhead
        rwa [hfront]
      exact doubleQuoted_spaces hc hspaces ⟨x, _, hfront, htab, hend, hbreak⟩ hspace hlater
    | nil =>
      cases ps with
      | nil => exact doubleQuoted_close hc
      | cons p ps =>
        obtain ⟨hportable, hps⟩ := List.forall_mem_cons.1 hp
        cases p with
        | raw x h =>
          have hnext : c.next.rest = body ps ++ r := by rw [Cursor.rest_next, hc]; rfl
          have hlater := ih ps hps _ hnext (Nat.le_of_succ_le_succ hf)
          have hblank : isBlankOrEnd x = false := by
            obtain ⟨y, t, hy, htab, hend, hbreak⟩ := head_body hp
            cases hy
            have hspace : x ≠ ' ' := by
              rintro rfl
              rw [List.nil_append] at hbody
              exact hhead (hbody ▸ rfl)
            simp only [isBlankOrEnd, isSpaceOrEnd, isBreakOrEnd, htab, hspace, hbreak, hend,
              decide_false, Bool.or_self]
          exact doubleQuoted_char hc h.2.1 h.2.2 hblank hlater
        | escape mark value h =>
          have hnext : c.next.rest = mark :: (body ps ++ r) := by rw [Cursor.rest_next, hc]; rfl
          have hrest : c.next.next.rest = body ps ++ r := by rw [Cursor.rest_next, hnext]; rfl
          have hlater := ih ps hps _ hrest (by
            have hlen : (body (.escape mark value h :: ps)).length = (body ps).length + 2 := rfl
            omega)
          exact doubleQuoted_escape hc (escape_of_escape? h hnext) hlater
        | unit a b d e code h =>
          have hnext : c.next.rest = 'u' :: a :: b :: d :: e :: (body ps ++ r) := by
            rw [Cursor.rest_next, hc]
            rfl
          have hrest : (c.next.skip 5).rest = body ps ++ r := by rw [Cursor.rest_skip, hnext]; rfl
          have hlater := ih ps hps _ hrest (by
            have hlen : (body (.unit a b d e code h :: ps)).length = (body ps).length + 6 := rfl
            omega)
          rw [Cursor.skip_skip, Nat.add_comm] at hlater
          exact doubleQuoted_escape hc (escape_unit h hnext) hlater

end Strings

namespace Blanks

variable {b r : List Char}

/-- Blanks are spaces and then nothing, or a line break and more blanks. -/
theorem exists_split (hb : Blanks b) :
    ∃ s t, b = s ++ t ∧ (∀ x ∈ s, x = ' ') ∧ (t = [] ∨ ∃ u, t = '\n' :: u ∧ Blanks u) := by
  induction b with
  | nil => exact ⟨[], [], rfl, List.forall_mem_nil _, .inl rfl⟩
  | cons x b ih =>
    obtain ⟨hx, hrest⟩ := List.forall_mem_cons.1 hb
    rcases hx with rfl | rfl
    · obtain ⟨s, t, rfl, hs, ht⟩ := ih hrest
      exact ⟨' ' :: s, t, rfl, List.forall_mem_cons.2 ⟨rfl, hs⟩, ht⟩
    · exact ⟨[], '\n' :: b, rfl, List.forall_mem_nil _, .inr ⟨b, rfl, hrest⟩⟩

end Blanks

/-- The characters of numbers and of the words for truth values and null. -/
def isPlainChar (c : Char) : Bool := isAlphanumeric c || c = '-' || c = '+' || c = '.'

/-- The marks that end a value within brackets. -/
def IsMark (x : Char) : Prop := x = ',' ∨ x = ']' ∨ x = '\x7d'

section Plain

variable {b r cs : List Char} {x : Char}

theorem ne_of_isPlainChar (hx : isPlainChar x = true) {y : Char} (hy : isPlainChar y = false) :
    x ≠ y := by
  rintro rfl
  rw [hx] at hy
  cases hy

theorem isBreak_eq_false (hn : x ≠ '\n') (hx : x ≠ '\x85') (hl : x ≠ '\u2028') (hp : x ≠ '\u2029') :
    isBreak x = false := by
  simp only [isBreak, hn, hx, hl, hp, decide_false, Bool.or_self]

theorem isBlankOrEnd_of_plain (hx : isPlainChar x = true) : isBlankOrEnd x = false := by
  have hne {y : Char} (hy : isPlainChar y = false) : x ≠ y := ne_of_isPlainChar hx hy
  have htab : x ≠ '\t' := hne rfl
  have hspace : x ≠ ' ' := hne rfl
  have hend : x ≠ ending := hne rfl
  have hbreak : isBreak x = false := isBreak_eq_false (hne rfl) (hne rfl) (hne rfl) (hne rfl)
  simp only [isBlankOrEnd, isSpaceOrEnd, isBreakOrEnd, htab, hspace, hbreak, hend, decide_false,
    Bool.or_self]

theorem isFlowMark_of_plain (hx : isPlainChar x = true) : Cursor.isFlowMark x = false := by
  have hne {y : Char} (hy : isPlainChar y = false) : x ≠ y := ne_of_isPlainChar hx hy
  have hc : x ≠ ',' := hne rfl
  have hl : x ≠ '[' := hne rfl
  have hr : x ≠ ']' := hne rfl
  have ho : x ≠ '\x7b' := hne rfl
  have he : x ≠ '\x7d' := hne rfl
  simp only [Cursor.isFlowMark, hc, hl, hr, ho, he, decide_false, Bool.or_self]

namespace Cursor

theorem plainLength_append (hcs : ∀ x ∈ cs, isPlainChar x = true)
    (hr : plainLength true r = 0) : plainLength true (cs ++ r) = cs.length := by
  induction cs with
  | nil => exact hr
  | cons x cs ih =>
    obtain ⟨hx, hcs⟩ := List.forall_mem_cons.1 hcs
    have hcolon : x ≠ ':' := ne_of_isPlainChar hx rfl
    have hquestion : x ≠ '?' := ne_of_isPlainChar hx rfl
    rw [List.cons_append, plainLength, ih hcs]
    simp only [isBlankOrEnd_of_plain hx, isFlowMark_of_plain hx, hcolon, hquestion, decide_false,
      Bool.false_and, Bool.and_false, Bool.or_self, Bool.false_eq_true, if_false, List.length_cons]

theorem plainLength_mark (hx : IsMark x) (r : List Char) : plainLength true (x :: r) = 0 := by
  rcases hx with rfl | rfl | rfl <;> simp [plainLength, isFlowMark]

theorem plainLength_blank (hx : x = ' ' ∨ x = '\n') (r : List Char) :
    plainLength true (x :: r) = 0 := by
  rcases hx with rfl | rfl <;> rfl

theorem atAnySeparator_eq_false {c : Cursor} (hd : c.peek ≠ '-') (hp : c.peek ≠ '.') :
    c.atAnySeparator = false := by
  simp only [atAnySeparator, atSeparator, hd, hp, decide_false, Bool.false_and, Bool.or_self]

/-- Between a blank and a mark no separator of documents begins. -/
theorem no_separator (hb : Blanks b) (hx : IsMark x) {c : Cursor} (hc : c.rest = b ++ x :: r) :
    c.atAnySeparator = false := by
  cases b with
  | nil =>
    have hpeek : c.peek = x := peek_of_rest hc
    apply atAnySeparator_eq_false
    all_goals
      rw [hpeek]
      rcases hx with rfl | rfl | rfl <;> decide
  | cons y b =>
    have hpeek : c.peek = y := peek_of_rest hc
    apply atAnySeparator_eq_false
    all_goals
      rw [hpeek]
      rcases hb y List.mem_cons_self with rfl | rfl <;> decide

theorem isBreak_of_mark (hx : IsMark x) : isBreak x = false := by
  rcases hx with rfl | rfl | rfl <;> rfl

theorem not_space_of_mark (hx : IsMark x) : ' ' ∉ (x :: r).head? := by
  intro h
  cases h
  rcases hx with h | h | h <;> cases h

theorem rest_plainBreaks (hb : Blanks b) (hx : IsMark x) (fuel : Nat) (c : Cursor)
    (hc : c.rest = b ++ x :: r) (hf : b.length < fuel) : (c.plainBreaks fuel).2.rest = x :: r := by
  induction fuel generalizing b c with
  | zero => exact absurd hf (Nat.not_lt_zero _)
  | succ fuel ih =>
    obtain ⟨s, t, rfl, hs, rfl | ⟨u, rfl, hu⟩⟩ := hb.exists_split
    · rw [List.append_nil] at hc
      have hskip := skipSpaces_eq hc hs (not_space_of_mark hx)
      have hrest : (c.skip s.length).rest = x :: r := rest_skip_append hc
      rw [plainBreaks, hskip]
      simp only [peek_of_rest hrest, isBreak_of_mark hx, Bool.false_eq_true, if_false]
      exact hrest
    · rw [List.append_assoc] at hc
      have hskip := skipSpaces_eq hc hs (by simp)
      have hrest : (c.skip s.length).rest = '\n' :: (u ++ x :: r) := rest_skip_append hc
      have hnext : (c.skip s.length).next.rest = u ++ x :: r := by rw [rest_next, hrest]; rfl
      have hbreak : isBreak '\n' = true := rfl
      rw [List.length_append, List.length_cons] at hf
      rw [plainBreaks, hskip]
      simp only [peek_of_rest hrest, hbreak, if_true, lineBreak_newline hrest,
        no_separator hu hx hnext, Bool.false_eq_true, if_false]
      exact ih hu _ hnext (by omega)

/-- What stands behind a plain scalar up to the next mark is passed over with it. -/
theorem rest_plainGap (hb : Blanks b) (hx : IsMark x) {c : Cursor} (hc : c.rest = b ++ x :: r) :
    c.plainGap.2.2.rest = x :: r := by
  obtain ⟨s, t, rfl, hs, rfl | ⟨u, rfl, hu⟩⟩ := hb.exists_split
  · rw [List.append_nil] at hc
    have hrest : (c.skip s.length).rest = x :: r := rest_skip_append hc
    simp only [plainGap, takeWhile_spaces hc hs (not_space_of_mark hx), peek_of_rest hrest,
      isBreak_of_mark hx, Bool.false_eq_true, if_false]
    exact hrest
  · rw [List.append_assoc] at hc
    have hrest : (c.skip s.length).rest = '\n' :: (u ++ x :: r) := rest_skip_append hc
    have hnext : (c.skip s.length).next.rest = u ++ x :: r := by rw [rest_next, hrest]; rfl
    have hbreak : isBreak '\n' = true := rfl
    have hbreaks := rest_plainBreaks hu hx ((c.skip s.length).next.rest.length + 1) _ hnext
      (by rw [hnext, List.length_append]; omega)
    simp only [plainGap, takeWhile_spaces hc hs (by simp), peek_of_rest hrest, hbreak, if_true,
      lineBreak_newline hrest, no_separator hu hx hnext, Bool.false_eq_true, if_false]
    split
    · next d hd =>
      rw [hd] at hbreaks
      exact hbreaks
    · next bs d hd =>
      rw [hd] at hbreaks
      exact hbreaks

theorem plain_mark (hx : IsMark x) (least : Int) (fuel : Nat) {c : Cursor} (hc : c.rest = x :: r) :
    c.plain true least fuel = ([], false, c) := by
  have hcomment : x ≠ '#' := by rcases hx with rfl | rfl | rfl <;> decide
  cases fuel with
  | zero => rfl
  | succ fuel =>
    rw [plain, peek_of_rest hc, if_neg hcomment, hc, plainLength_mark hx, if_pos rfl]

/-- Within brackets a run of such characters before a mark is one scalar. -/
theorem plain_run (hcs : ∀ x ∈ cs, isPlainChar x = true) (hne : cs ≠ []) (hb : Blanks b)
    (hx : IsMark x) (least : Int) (fuel : Nat) {c : Cursor} (hc : c.rest = cs ++ (b ++ x :: r)) :
    ∃ broken d, c.plain true least (fuel + 1) = (cs, broken, d) ∧ d.rest = x :: r := by
  have hend : plainLength true (b ++ x :: r) = 0 := by
    cases b with
    | nil => exact plainLength_mark hx r
    | cons y b => exact plainLength_blank (hb y List.mem_cons_self) _
  have hsize : plainLength true c.rest = cs.length := by
    rw [hc, plainLength_append hcs hend]
  have hcomment : c.peek ≠ '#' := by
    cases cs with
    | nil => exact absurd rfl hne
    | cons y cs =>
      rw [peek_of_rest hc]
      exact ne_of_isPlainChar (hcs y List.mem_cons_self) rfl
  have hzero : ¬ cs.length = 0 := fun h => hne (List.eq_nil_of_length_eq_zero h)
  have htext : c.rest.take cs.length = cs := by rw [hc, List.take_left]
  have hgap : (c.skip cs.length).plainGap.2.2.rest = x :: r :=
    rest_plainGap hb hx (rest_skip_append hc)
  rw [plain, if_neg hcomment]
  simp only [hsize, if_neg hzero, htext, plain_mark hx least fuel hgap, List.isEmpty_nil, if_true]
  split
  · exact ⟨_, _, rfl, hgap⟩
  · exact ⟨_, _, rfl, hgap⟩

end Cursor

end Plain

end LeasePlan.Yaml
