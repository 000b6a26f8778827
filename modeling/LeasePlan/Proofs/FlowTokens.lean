import Mathlib
import LeasePlan.Proofs.FlowSteps
import LeasePlan.Proofs.JsonReading

namespace LeasePlan.Json

open Yaml (Token codesOf isPlainChar)
open Yaml.Lexer (BeginsPlain)

section PlainText

theorem isAlphanumeric_of_isDigit {c : Char} (h : Numeral.isDigit c = true) :
    Yaml.isAlphanumeric c = true := by
  have hrange : '0' ≤ c ∧ c ≤ '9' := by
    by_contra hout
    rw [Numeral.isDigit, Numeral.digit?, if_neg hout] at h
    cases h
  simp only [Yaml.isAlphanumeric, hrange, decide_true, Bool.and_self, Bool.true_or]

theorem isPlainChar_of_isDigit {c : Char} (h : Numeral.isDigit c = true) :
    isPlainChar c = true := by
  rw [isPlainChar, isAlphanumeric_of_isDigit h]
  rfl

theorem Digits.isPlainChar (ds : Digits) : ∀ c ∈ ds.chars, isPlainChar c = true :=
  fun c hc => isPlainChar_of_isDigit (ds.isDigit c hc)

theorem Exponent.isPlainChar (e : Exponent) : ∀ c ∈ e.chars, Yaml.isPlainChar c = true := by
  have hsign : ∀ c ∈ e.sign.chars, Yaml.isPlainChar c = true := by
    intro c hc
    cases he : e.sign <;> rw [he] at hc
    · cases hc
    · cases List.mem_singleton.1 hc
      rfl
    · cases List.mem_singleton.1 hc
      rfl
  intro c hc
  rw [chars, List.mem_cons, List.mem_append] at hc
  rcases hc with rfl | hc | hc
  · rcases e.isMark with h | h
    · rw [h]
      rfl
    · rw [h]
      rfl
  · exact hsign c hc
  · exact e.digits.isPlainChar c hc

theorem Number.isPlainChar_magnitude (n : Number) :
    ∀ c ∈ n.magnitude, Yaml.isPlainChar c = true := by
  intro c hc
  rw [magnitude, List.mem_append, List.mem_append] at hc
  rcases hc with hc | hc | hc
  · exact n.whole.isPlainChar c hc
  · rw [fraction] at hc
    cases hp : n.places with
    | none =>
      rw [hp] at hc
      cases hc
    | some ds =>
      rw [hp, Option.elim_some, List.mem_cons] at hc
      rcases hc with rfl | hc
      · rfl
      · exact ds.isPlainChar c hc
  · rw [power] at hc
    cases he : n.exponent with
    | none =>
      rw [he] at hc
      cases hc
    | some e =>
      rw [he, Option.elim_some] at hc
      exact e.isPlainChar c hc

theorem Number.isPlainChar (n : Number) : ∀ c ∈ n.chars, Yaml.isPlainChar c = true := by
  intro c hc
  rw [chars] at hc
  split at hc
  · rcases List.mem_cons.1 hc with rfl | hc
    · rfl
    · exact n.isPlainChar_magnitude c hc
  · exact n.isPlainChar_magnitude c hc

theorem Number.beginsPlain (n : Number) : BeginsPlain n.chars := by
  obtain ⟨y, t, hy⟩ := List.exists_cons_of_ne_nil n.whole.ne_nil
  have hdigit : Numeral.isDigit y = true := n.whole.isDigit y (hy ▸ List.mem_cons_self)
  have hmagnitude : n.magnitude = y :: (t ++ (n.fraction ++ n.power)) := by
    rw [magnitude, hy, List.cons_append]
  rw [chars]
  split
  · rw [hmagnitude]
    refine ⟨'-', _, rfl, .inr ⟨rfl, y, _, rfl, isPlainChar_of_isDigit hdigit, ?_⟩⟩
    exact isDigit_ne hdigit rfl
  · exact ⟨y, _, hmagnitude, .inl (isAlphanumeric_of_isDigit hdigit)⟩

theorem Word.isPlainChar (w : Word) : ∀ c ∈ w.chars, Yaml.isPlainChar c = true := by
  apply List.all_eq_true.1
  rcases w with _ | _ | _ <;> rfl

theorem Word.beginsPlain (w : Word) : BeginsPlain w.chars := by
  rcases w with _ | _ | _ <;> exact ⟨_, _, rfl, .inl rfl⟩

end PlainText

theorem Value.ne_newline (v : Value) (r : List Char) : '\n' ∉ (v.chars ++ r).head? := by
  obtain ⟨c, cs, hv, hc, -⟩ := v.exists_cons
  rw [hv]
  intro h
  cases h
  cases hc

/-- The tokens of the name of an entry with its colon. -/
def Key.tokens (k : Key) : List Token := [.key, .scalar ⟨codes k.pieces, false⟩, .value]

/-- Whether a value stands in brackets of its own. -/
def Value.isClosed : Value → Bool
  | .word _ => false
  | .number _ => false
  | .string _ => false
  | .emptyList _ => true
  | .list _ => true
  | .emptyObject _ => true
  | .object _ => true

mutual

def Value.tokens : Value → List Token
  | .word w => [.scalar ⟨codesOf w.chars, true⟩]
  | .number n => [.scalar ⟨codesOf n.chars, true⟩]
  | .string ps => [.scalar ⟨codes ps, false⟩]
  | .emptyList _ => [.flowSequenceStart, .flowSequenceEnd]
  | .list items => .flowSequenceStart :: (items.tokens ++ [.flowSequenceEnd])
  | .emptyObject _ => [.flowMappingStart, .flowMappingEnd]
  | .object entries => .flowMappingStart :: (entries.tokens ++ [.flowMappingEnd])

def Slot.tokens : Slot → List Token
  | .mk _ value _ => value.tokens

def Items.tokens : Items → List Token
  | .last item => item.tokens
  | .more item rest => item.tokens ++ .flowEntry :: rest.tokens

def Entries.tokens : Entries → List Token
  | .last key value => key.tokens ++ value.tokens
  | .more key value rest => key.tokens ++ (value.tokens ++ .flowEntry :: rest.tokens)

end

end LeasePlan.Json

namespace LeasePlan.Yaml

open Json (Gap Piece Key Value Slot Items Entries codes arePortable)

section Breaks

variable {a b : List Char}

theorem normalBreaks_append_of_not_mem (h : '\r' ∉ a) (b : List Char) :
    normalBreaks (a ++ b) = a ++ normalBreaks b := by
  induction a with
  | nil => rfl
  | cons c a ih =>
    rw [List.mem_cons, not_or] at h
    rw [List.cons_append, normalBreaks_cons (Ne.symm h.1), ih h.2, List.cons_append]

theorem blanks_normalBreaks (h : ∀ c ∈ a, c = ' ' ∨ c = '\n' ∨ c = '\r') :
    Blanks (normalBreaks a) := by
  fun_induction normalBreaks a with
  | case1 r ih =>
    have hr := (List.forall_mem_cons.1 (List.forall_mem_cons.1 h).2).2
    exact List.forall_mem_cons.2 ⟨.inr rfl, ih hr⟩
  | case2 r hr ih => exact List.forall_mem_cons.2 ⟨.inr rfl, ih (List.forall_mem_cons.1 h).2⟩
  | case3 c r hc hr ih =>
    obtain ⟨hfirst, hrest⟩ := List.forall_mem_cons.1 h
    refine List.forall_mem_cons.2 ⟨?_, ih hrest⟩
    rcases hfirst with hc | hc | hc
    · exact .inl hc
    · exact .inr hc
    · exact absurd hc hr
  | case4 => exact List.forall_mem_nil _

/-- White space without tabs becomes blanks. -/
theorem exists_blanks {g : Gap} (hg : g.isPortable = true) (hb : '\n' ∉ b.head?) :
    ∃ s, Blanks s ∧ normalBreaks (g.chars ++ b) = s ++ normalBreaks b := by
  refine ⟨normalBreaks g.chars, blanks_normalBreaks ?_, normalBreaks_append hb⟩
  intro c hc
  have htab : c ≠ '\t' := by
    rintro rfl
    rw [Gap.isPortable, List.contains_iff_mem.2 hc] at hg
    cases hg
  have hblank := g.blank c hc
  simp only [Json.isBlank, Bool.or_eq_true, decide_eq_true_eq, htab, or_false] at hblank
  rw [← or_assoc]
  exact hblank

end Breaks

theorem IsMark.ne_newline {x : Char} (hx : IsMark x) (s : List Char) : '\n' ∉ (x :: s).head? := by
  rintro h
  cases h
  rcases hx with h | h | h <;> cases h

namespace Lexer

/-- Blanks and then this text are left, the latter with its line breaks put right. -/
def Before (l : Lexer) (d : Nat) (s : List Char) (ts : List Token) : Prop :=
  ∃ b, Blanks b ∧ At l d (b ++ normalBreaks s) ts

section Trees

variable {l : Lexer} {d : Nat} {s : List Char} {ts : List Token}

theorem At.before (h : At l d (normalBreaks s) ts) : Before l d s ts :=
  ⟨[], List.forall_mem_nil _, h⟩

namespace Before

/-- White space makes no token. -/
theorem gap {g : Gap} (hg : g.isPortable = true) (hs : '\n' ∉ s.head?)
    (h : Before l d (g.chars ++ s) ts) : Before l d s ts := by
  obtain ⟨b, hb, hat⟩ := h
  obtain ⟨a, ha, hbreaks⟩ := exists_blanks hg hs
  refine ⟨b ++ a, List.forall_mem_append.2 ⟨hb, ha⟩, ?_⟩
  rw [List.append_assoc, ← hbreaks]
  exact hat

theorem openSequence (h : Before l d ('[' :: s) ts) :
    ∃ n, Passes l n ∧ Before n (d + 1) s (.flowSequenceStart :: ts) := by
  obtain ⟨b, hb, hat⟩ := h
  obtain ⟨n, hn, hat', -⟩ := hat.openSequence hb
  exact ⟨n, hn, hat'.before⟩

theorem openMapping (h : Before l d ('\x7b' :: s) ts) :
    ∃ n, Passes l n ∧ Before n (d + 1) s (.flowMappingStart :: ts) ∧ n.keyAllowed = true := by
  obtain ⟨b, hb, hat⟩ := h
  obtain ⟨n, hn, hat', hallowed⟩ := hat.openMapping hb
  exact ⟨n, hn, hat'.before, hallowed⟩

theorem closeSequence (h : Before l (d + 1) (']' :: s) ts) :
    ∃ n, Passes l n ∧ Before n d s (.flowSequenceEnd :: ts) := by
  obtain ⟨b, hb, hat⟩ := h
  obtain ⟨n, hn, hat'⟩ := hat.closeSequence hb
  exact ⟨n, hn, hat'.before⟩

theorem closeMapping (h : Before l (d + 1) ('\x7d' :: s) ts) :
    ∃ n, Passes l n ∧ Before n d s (.flowMappingEnd :: ts) := by
  obtain ⟨b, hb, hat⟩ := h
  obtain ⟨n, hn, hat'⟩ := hat.closeMapping hb
  exact ⟨n, hn, hat'.before⟩

theorem comma (h : Before l d (',' :: s) ts) :
    ∃ n, Passes l n ∧ Before n d s (.flowEntry :: ts) ∧ n.keyAllowed = true := by
  obtain ⟨b, hb, hat⟩ := h
  obtain ⟨n, hn, hat', hallowed⟩ := hat.comma hb
  exact ⟨n, hn, hat'.before, hallowed⟩

end Before

theorem not_mem_quote {ps : List Piece} (hp : arePortable ps = true) : '\r' ∉ Json.quote ps := by
  intro h
  exact absurd (inline_quote hp _ h).1 (by decide)

theorem Before.string {ps : List Piece} (hp : arePortable ps = true)
    (h : Before l d (Json.quote ps ++ s) ts) :
    ∃ n, Passes l n ∧ Before n d s (.scalar ⟨codes ps, false⟩ :: ts) := by
  obtain ⟨b, hb, hat⟩ := h
  rw [normalBreaks_append_of_not_mem (not_mem_quote hp)] at hat
  obtain ⟨n, hn, hat'⟩ := hat.string hb hp
  exact ⟨n, hn, hat'.before⟩

/-- A number or a word up to the mark that ends it. -/
theorem Before.plain {cs : List Char} {g : Gap} {x : Char} (hcs : ∀ y ∈ cs, isPlainChar y = true)
    (hbegin : BeginsPlain cs) (hg : g.isPortable = true) (hx : IsMark x)
    (h : Before l (d + 1) (cs ++ (g.chars ++ x :: s)) ts) :
    ∃ n, Passes l n ∧ Before n (d + 1) (x :: s) (.scalar ⟨codesOf cs, true⟩ :: ts) := by
  obtain ⟨b, hb, hat⟩ := h
  obtain ⟨a, ha, hbreaks⟩ := exists_blanks hg (hx.ne_newline s)
  have hreturn : '\r' ∉ cs := fun hmem => ne_of_isPlainChar (hcs _ hmem) rfl rfl
  have hmark : x ≠ '\r' := by rcases hx with rfl | rfl | rfl <;> decide
  rw [normalBreaks_append_of_not_mem hreturn, hbreaks, normalBreaks_cons hmark] at hat
  obtain ⟨n, hn, hat'⟩ := hat.plain hb ha hx hcs hbegin
  rw [← normalBreaks_cons hmark] at hat'
  exact ⟨n, hn, hat'.before⟩

/-- A name with the colon behind it. -/
theorem Before.key {k : Key} (hk : k.isPortable = true) (ha : l.keyAllowed = true)
    (h : Before l (d + 1) (k.chars ++ ':' :: s) ts) :
    ∃ n, Passes l n ∧ Before n (d + 1) s (k.tokens.reverse ++ ts) := by
  rw [Key.isPortable, Bool.and_eq_true, Bool.and_eq_true, Bool.and_eq_true] at hk
  obtain ⟨⟨⟨hbefore, hp⟩, hafter⟩, hlength⟩ := hk
  have hspaces : ∀ x ∈ k.after.chars, x = ' ' := by
    intro x hx
    exact of_decide_eq_true (List.all_eq_true.1 hafter x hx)
  have hreturn : '\r' ∉ Json.quote k.pieces ++ k.after.chars := by
    intro hmem
    rcases List.mem_append.1 hmem with hmem | hmem
    · exact not_mem_quote hp hmem
    · cases hspaces _ hmem
  have hchars : k.chars ++ ':' :: s =
      k.before.chars ++ ((Json.quote k.pieces ++ k.after.chars) ++ ':' :: s) := by
    rw [Key.chars, List.append_assoc]
  rw [hchars] at h
  obtain ⟨b, hb, hat⟩ := h.gap hbefore (by rw [Json.quote]; simp)
  rw [normalBreaks_append_of_not_mem hreturn, normalBreaks_cons (by decide),
    List.append_assoc] at hat
  obtain ⟨n, hn, hat'⟩ := hat.key hb hp hspaces (of_decide_eq_true hlength) ha
  exact ⟨n, hn, hat'.before⟩

theorem Before.emptyList {g : Gap} (hg : g.isPortable = true)
    (h : Before l d ((Value.emptyList g).chars ++ s) ts) :
    ∃ n, Passes l n ∧ Before n d s ((Value.emptyList g).tokens.reverse ++ ts) := by
  rw [Value.chars, List.cons_append, List.append_assoc] at h
  obtain ⟨m, hm, hbefore⟩ := h.openSequence
  obtain ⟨n, hn, hbefore⟩ := (hbefore.gap hg (by simp)).closeSequence
  exact ⟨n, hm.trans hn, hbefore⟩

theorem Before.emptyObject {g : Gap} (hg : g.isPortable = true)
    (h : Before l d ((Value.emptyObject g).chars ++ s) ts) :
    ∃ n, Passes l n ∧ Before n d s ((Value.emptyObject g).tokens.reverse ++ ts) := by
  rw [Value.chars, List.cons_append, List.append_assoc] at h
  obtain ⟨m, hm, hbefore, -⟩ := h.openMapping
  obtain ⟨n, hn, hbefore⟩ := (hbefore.gap hg (by simp)).closeMapping
  exact ⟨n, hm.trans hn, hbefore⟩

/-- A list whose items are read as they should be. -/
theorem Before.list {items : Items}
    (hitems : ∀ m, Before m (d + 1) (items.chars ++ ']' :: s) (.flowSequenceStart :: ts) →
      ∃ n, Passes m n ∧
        Before n (d + 1) (']' :: s) (items.tokens.reverse ++ .flowSequenceStart :: ts))
    (h : Before l d ((Value.list items).chars ++ s) ts) :
    ∃ n, Passes l n ∧ Before n d s ((Value.list items).tokens.reverse ++ ts) := by
  rw [Value.chars, List.cons_append, List.append_assoc] at h
  obtain ⟨n₁, h₁, hbefore⟩ := h.openSequence
  obtain ⟨n₂, h₂, hbefore⟩ := hitems n₁ hbefore
  obtain ⟨n₃, h₃, hbefore⟩ := hbefore.closeSequence
  refine ⟨n₃, (h₁.trans h₂).trans h₃, ?_⟩
  simpa only [Value.tokens, List.reverse_cons, List.reverse_append, List.reverse_nil,
    List.nil_append, List.append_assoc, List.cons_append] using hbefore

theorem Before.object {entries : Entries}
    (hentries : ∀ m, m.keyAllowed = true →
      Before m (d + 1) (entries.chars ++ '\x7d' :: s) (.flowMappingStart :: ts) →
      ∃ n, Passes m n ∧
        Before n (d + 1) ('\x7d' :: s) (entries.tokens.reverse ++ .flowMappingStart :: ts))
    (h : Before l d ((Value.object entries).chars ++ s) ts) :
    ∃ n, Passes l n ∧ Before n d s ((Value.object entries).tokens.reverse ++ ts) := by
  rw [Value.chars, List.cons_append, List.append_assoc] at h
  obtain ⟨n₁, h₁, hbefore, hallowed⟩ := h.openMapping
  obtain ⟨n₂, h₂, hbefore⟩ := hentries n₁ hallowed hbefore
  obtain ⟨n₃, h₃, hbefore⟩ := hbefore.closeMapping
  refine ⟨n₃, (h₁.trans h₂).trans h₃, ?_⟩
  simpa only [Value.tokens, List.reverse_cons, List.reverse_append, List.reverse_nil,
    List.nil_append, List.append_assoc, List.cons_append] using hbefore

end Trees

mutual

/-- A value with the white space behind it is read up to the mark that follows. -/
theorem before_value {l : Lexer} {d : Nat} {s : List Char} {ts : List Token}
    {v : Value} {g : Gap} {x : Char} (hv : v.isPortable = true) (hg : g.isPortable = true)
    (hx : IsMark x) (h : Before l (d + 1) (v.chars ++ (g.chars ++ x :: s)) ts) :
    ∃ n, Passes l n ∧ Before n (d + 1) (x :: s) (v.tokens.reverse ++ ts) := by
  have hend {n : Lexer} {us : List Token} (hn : Before n (d + 1) (g.chars ++ x :: s) us) :
      Before n (d + 1) (x :: s) us := hn.gap hg (hx.ne_newline s)
  cases v with
  | word w => exact h.plain w.isPlainChar w.beginsPlain hg hx
  | number m => exact h.plain m.isPlainChar m.beginsPlain hg hx
  | string ps =>
    obtain ⟨n, hn, hbefore⟩ := h.string hv
    exact ⟨n, hn, hend hbefore⟩
  | emptyList gap =>
    obtain ⟨n, hn, hbefore⟩ := Before.emptyList hv h
    exact ⟨n, hn, hend hbefore⟩
  | list items =>
    obtain ⟨n, hn, hbefore⟩ := Before.list (fun m hm => before_items hv hm) h
    exact ⟨n, hn, hend hbefore⟩
  | emptyObject gap =>
    obtain ⟨n, hn, hbefore⟩ := Before.emptyObject hv h
    exact ⟨n, hn, hend hbefore⟩
  | object entries =>
    obtain ⟨n, hn, hbefore⟩ := Before.object (fun m ha hm => before_entries hv ha hm) h
    exact ⟨n, hn, hend hbefore⟩

theorem before_slot {l : Lexer} {d : Nat} {s : List Char} {ts : List Token}
    {t : Slot} {x : Char} (ht : t.isPortable = true) (hx : IsMark x)
    (h : Before l (d + 1) (t.chars ++ x :: s) ts) :
    ∃ n, Passes l n ∧ Before n (d + 1) (x :: s) (t.tokens.reverse ++ ts) := by
  cases t with
  | mk before v after =>
    rw [Slot.isPortable, Bool.and_eq_true, Bool.and_eq_true] at ht
    rw [Slot.chars, List.append_assoc, List.append_assoc] at h
    exact before_value ht.1.2 ht.2 hx (h.gap ht.1.1 (v.ne_newline _))

theorem before_items {l : Lexer} {d : Nat} {s : List Char} {ts : List Token}
    {items : Items} (hi : items.isPortable = true)
    (h : Before l (d + 1) (items.chars ++ ']' :: s) ts) :
    ∃ n, Passes l n ∧ Before n (d + 1) (']' :: s) (items.tokens.reverse ++ ts) := by
  cases items with
  | last item => exact before_slot hi (.inr (.inl rfl)) h
  | more item rest =>
    rw [Items.isPortable, Bool.and_eq_true] at hi
    rw [Items.chars, List.append_assoc, List.cons_append] at h
    obtain ⟨n₁, h₁, hbefore⟩ := before_slot hi.1 (.inl rfl) h
    obtain ⟨n₂, h₂, hbefore, -⟩ := hbefore.comma
    obtain ⟨n₃, h₃, hbefore⟩ := before_items hi.2 hbefore
    refine ⟨n₃, (h₁.trans h₂).trans h₃, ?_⟩
    simpa only [Items.tokens, List.reverse_append, List.reverse_cons, List.append_assoc,
      List.cons_append, List.nil_append] using hbefore

theorem before_entries {l : Lexer} {d : Nat} {s : List Char} {ts : List Token}
    {entries : Entries} (he : entries.isPortable = true)
    (ha : l.keyAllowed = true) (h : Before l (d + 1) (entries.chars ++ '\x7d' :: s) ts) :
    ∃ n, Passes l n ∧ Before n (d + 1) ('\x7d' :: s) (entries.tokens.reverse ++ ts) := by
  cases entries with
  | last key value =>
    rw [Entries.isPortable, Bool.and_eq_true] at he
    rw [Entries.chars, List.append_assoc, List.cons_append] at h
    obtain ⟨n₁, h₁, hbefore⟩ := h.key he.1 ha
    obtain ⟨n₂, h₂, hbefore⟩ := before_slot he.2 (.inr (.inr rfl)) hbefore
    refine ⟨n₂, h₁.trans h₂, ?_⟩
    simpa only [Entries.tokens, List.reverse_append, List.append_assoc] using hbefore
  | more key value rest =>
    rw [Entries.isPortable, Bool.and_eq_true, Bool.and_eq_true] at he
    rw [Entries.chars, List.append_assoc, List.cons_append, List.append_assoc,
      List.cons_append] at h
    obtain ⟨n₁, h₁, hbefore⟩ := h.key he.1.1 ha
    obtain ⟨n₂, h₂, hbefore⟩ := before_slot he.1.2 (.inl rfl) hbefore
    obtain ⟨n₃, h₃, hbefore, hallowed⟩ := hbefore.comma
    obtain ⟨n₄, h₄, hbefore⟩ := before_entries he.2 hallowed hbefore
    refine ⟨n₄, ((h₁.trans h₂).trans h₃).trans h₄, ?_⟩
    simpa only [Entries.tokens, List.reverse_append, List.reverse_cons, List.append_assoc,
      List.cons_append, List.nil_append] using hbefore

end

/-- A value with brackets of its own is read up to the last of them. -/
theorem before_closed {l : Lexer} {d : Nat} {s : List Char} {ts : List Token} {v : Value}
    (hv : v.isPortable = true) (hc : v.isClosed = true) (h : Before l d (v.chars ++ s) ts) :
    ∃ n, Passes l n ∧ Before n d s (v.tokens.reverse ++ ts) := by
  cases v with
  | word w => cases hc
  | number m => cases hc
  | string ps => cases hc
  | emptyList gap => exact Before.emptyList hv h
  | list items => exact Before.list (fun m hm => before_items hv hm) h
  | emptyObject gap => exact Before.emptyObject hv h
  | object entries => exact Before.object (fun m ha hm => before_entries hv ha hm) h

/-- Behind the last token there are only blanks. -/
theorem At.finish {l : Lexer} {b : List Char} {ts : List Token} (hb : Blanks b) (h : At l 0 b ts)
    (fuel : Nat) : tokens? (fuel + 1) l = (.streamEnd :: ts).reverse := by
  have hstops : Stops [] := by
    intro x hx
    cases hx
  rw [← List.append_nil b] at h
  obtain ⟨m, hready, hm, -⟩ := h.exists_ready hb hstops
  obtain ⟨ks, hdrop, -, -⟩ := hm.exists_dropKey
  have hpeek : m.cursor.peek = ending := by
    rw [Cursor.peek, hm.rest]
    rfl
  rw [tokens?_add_one, hready]
  simp only [Bind.bind, Except.bind, hm.unwind, hpeek, if_true, endAll, hdrop, hm.tokens]

theorem At.start (cs : List Char) : At (start cs) 0 cs [] :=
  ⟨rfl, rfl, rfl, rfl, List.forall_mem_singleton.2 rfl⟩

end Lexer

/-- In brackets a text does not begin with a byte order mark. -/
theorem Lexer.Before.peek_ne {l : Lexer} {v : Value} {r : List Char} {ts : List Token} {d : Nat}
    (hc : v.isClosed = true) (h : Before l d (v.chars ++ r) ts) : l.cursor.peek ≠ orderMark := by
  obtain ⟨b, hb, hat⟩ := h
  have hrest := hat.rest
  cases b with
  | cons x b =>
    rw [Cursor.peek_of_rest hrest]
    rcases hb x List.mem_cons_self with rfl | rfl <;> decide
  | nil =>
    have hfront : ∃ x t, normalBreaks (v.chars ++ r) = x :: t ∧ x ≠ orderMark := by
      cases v with
      | word w => cases hc
      | number m => cases hc
      | string ps => cases hc
      | emptyList gap => exact ⟨'[', _, rfl, by decide⟩
      | list items => exact ⟨'[', _, rfl, by decide⟩
      | emptyObject gap => exact ⟨'\x7b', _, rfl, by decide⟩
      | object entries => exact ⟨'\x7b', _, rfl, by decide⟩
    obtain ⟨x, t, hxt, hx⟩ := hfront
    rw [List.nil_append, hxt] at hrest
    rw [Cursor.peek_of_rest hrest]
    exact hx

/-- A portable text in brackets has the tokens of its tree. -/
theorem tokens_of_portable {t : Slot} (ht : t.isPortable = true) (hc : t.value.isClosed = true) :
    Token.ofChars (normalBreaks t.chars) = t.tokens ++ [.streamEnd] := by
  cases t with
  | mk before v after =>
    rw [Slot.isPortable, Bool.and_eq_true, Bool.and_eq_true] at ht
    obtain ⟨⟨hbefore, hv⟩, hafter⟩ := ht
    generalize hcs : normalBreaks (Slot.mk before v after).chars = cs
    have hchars : (Slot.mk before v after).chars =
        before.chars ++ (v.chars ++ (after.chars ++ [])) := by
      rw [List.append_nil, Slot.chars]
    have hstart : Lexer.Before (Lexer.start cs) 0 (v.chars ++ (after.chars ++ [])) [] := by
      have hat := Lexer.At.start cs
      rw [← hcs, hchars] at hat
      rw [← hcs, hchars]
      exact hat.before.gap hbefore (v.ne_newline _)
    have hmark := hstart.peek_ne hc
    obtain ⟨n, ⟨i, hi, htokens⟩, hend⟩ := Lexer.before_closed hv hc hstart
    obtain ⟨b, hb, hat⟩ := hend.gap hafter (by simp)
    have hfuel : ∃ fuel, cs.length + 2 = i + (fuel + 1) := by
      have hlength : i + n.cursor.rest.length ≤ cs.length := hi
      exact ⟨cs.length + 1 - i, by omega⟩
    obtain ⟨fuel, hfuel⟩ := hfuel
    have hblank : b ++ normalBreaks [] = b := List.append_nil b
    rw [hblank] at hat
    rw [Token.ofChars]
    simp only [if_neg hmark]
    rw [hfuel, htokens, hat.finish hb, List.reverse_cons, List.append_nil, List.reverse_reverse]
    rfl

end LeasePlan.Yaml
