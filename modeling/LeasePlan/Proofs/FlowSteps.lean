import Mathlib
import LeasePlan.Proofs.FlowScalars

namespace LeasePlan.Yaml

namespace Lexer

variable {b r : List Char}

/-- Where a step begins: behind the spaces of the line. -/
theorem skipBlank_spaces (hb : ∀ x ∈ b, x = ' ') (hr : Stops r) (fuel : Nat) (l : Lexer)
    (hl : l.cursor.rest = b ++ r) :
    skipBlank (fuel + 1) l = { l with cursor := l.cursor.skip b.length } := by
  have hspace : ' ' ∉ r.head? := fun h => (hr _ h).1 rfl
  have hrest : (l.cursor.skip b.length).rest = r := Cursor.rest_skip_append hl
  have hcomment : '#' ∉ (l.cursor.skip b.length).rest.head? := by
    rw [hrest]
    exact fun h => (hr _ h).2.1 rfl
  have hbreak : ¬ isBreak (l.cursor.skip b.length).peek = true := by
    rw [Cursor.peek, hrest]
    cases r with
    | nil => decide
    | cons x r =>
      have hx : isBreak x = false := (hr x rfl).2.2
      rw [List.headD_cons, hx]
      exact Bool.false_ne_true
  rw [skipBlank, Cursor.skipSpaces_eq hl hb hspace, Cursor.skipComment_eq hcomment]
  exact if_neg hbreak

theorem exists_skipBlank (hb : Blanks b) (hr : Stops r) (fuel : Nat) (l : Lexer)
    (hl : l.cursor.rest = b ++ r) (hf : b.length < fuel) :
    ∃ c a, skipBlank fuel l = { l with cursor := c, keyAllowed := a } ∧ c.rest = r ∧
      (l.keyAllowed = true → a = true) := by
  induction fuel generalizing b l with
  | zero => exact absurd hf (Nat.not_lt_zero _)
  | succ fuel ih =>
    obtain ⟨s, t, rfl, hs, rfl | ⟨u, rfl, hu⟩⟩ := hb.exists_split
    · rw [List.append_nil] at hl
      exact ⟨_, _, skipBlank_spaces hs hr fuel l hl, Cursor.rest_skip_append hl, id⟩
    · rw [List.append_assoc] at hl
      have hrest : (l.cursor.skip s.length).rest = '\n' :: (u ++ r) := Cursor.rest_skip_append hl
      have hcomment : '#' ∉ (l.cursor.skip s.length).rest.head? := by
        rw [hrest]
        simp
      have hnext : (l.cursor.skip s.length).next.rest = u ++ r := by
        rw [Cursor.rest_next, hrest]
        rfl
      rw [List.length_append, List.length_cons] at hf
      obtain ⟨c, a, hc, hcr, ha⟩ := ih hu { l with
        cursor := (l.cursor.skip s.length).next, keyAllowed := l.keyAllowed || !l.inFlow }
        hnext (by omega)
      refine ⟨c, a, ?_, hcr, ?_⟩
      · rw [skipBlank, Cursor.skipSpaces_eq hl hs (by simp), Cursor.skipComment_eq hcomment]
        rw [if_pos, Cursor.lineBreak_newline hrest, hc]
        rw [Cursor.peek_of_rest hrest]
        rfl
      · intro h
        exact ha (by rw [h, Bool.true_or])

/-- Outside of blocks and within so many brackets, with this left of the text and these tokens so
far, the last one first. No place where a key could have begun must be one. -/
structure At (l : Lexer) (depth : Nat) (r : List Char) (ts : List Token) : Prop where
  rest : l.cursor.rest = r
  tokens : l.tokens = ts
  blocks : l.blocks = []
  length_keys : l.keys.length = depth + 1
  loose : ∀ k ∈ l.keys, k.any KeyStart.required = false

theorem tokens?_add_one (fuel : Nat) (l : Lexer) : tokens? (fuel + 1) l =
    match (do
      let l ← (skipBlank (l.cursor.rest.length + 1) l).dropStale
      .ok (l.unwind l.cursor.column) : Except Flaw Lexer) with
    | .error f => (.broken f :: l.tokens).reverse
    | .ok l =>
      if l.cursor.peek = ending then
        match l.endAll with
        | .error f => (.broken f :: l.tokens).reverse
        | .ok l => (.streamEnd :: l.tokens).reverse
      else
        match l.token with
        | .error f => (.broken f :: l.tokens).reverse
        | .ok l => tokens? fuel l := by
  cases fuel <;> rfl

/-- One lexer comes from another in so many steps as characters were read at most. -/
def Passes (l m : Lexer) : Prop :=
  ∃ n, n + m.cursor.rest.length ≤ l.cursor.rest.length ∧
    ∀ fuel, tokens? (n + fuel) l = tokens? fuel m

namespace Passes

variable {l m n : Lexer}

theorem trans (hlm : Passes l m) (hmn : Passes m n) : Passes l n := by
  obtain ⟨i, hi, htokens⟩ := hlm
  obtain ⟨j, hj, htokens'⟩ := hmn
  refine ⟨i + j, by omega, ?_⟩
  intro fuel
  rw [Nat.add_assoc, htokens, htokens']

end Passes

namespace At

variable {l : Lexer} {d : Nat} {ts : List Token}

theorem inFlow (h : At l d r ts) : l.inFlow = decide (0 < d) := by
  rw [Lexer.inFlow, h.length_keys]
  exact decide_eq_decide.2 (by omega)

theorem unwind (h : At l d r ts) (column : Int) : l.unwind column = l := by
  rw [Lexer.unwind, h.blocks]
  split
  · rfl
  · cases l
    cases h.blocks
    rfl

theorem exists_dropStale (h : At l d r ts) :
    ∃ ks, l.dropStale = .ok { l with keys := ks } ∧ ks.length = d + 1 ∧
      (∀ k ∈ ks, k.any KeyStart.required = false) ∧
      ∀ k, some k ∈ l.keys.head? → isStale l.cursor k = false → some k ∈ ks.head? := by
  have hnone :
      (l.keys.any fun k => k.any (isStale l.cursor) && k.any KeyStart.required) = false := by
    rw [List.any_eq_false]
    intro k hk
    rw [h.loose k hk, Bool.and_false]
    exact Bool.false_ne_true
  refine ⟨_, if_neg (by rw [hnone]; exact Bool.false_ne_true), ?_, ?_, ?_⟩
  · rw [List.length_map, h.length_keys]
  · intro k hk
    obtain ⟨k', hk', rfl⟩ := List.mem_map.1 hk
    dsimp only
    split
    · rfl
    · exact h.loose k' hk'
  · intro k hk hstale
    rw [List.head?_map, Option.mem_def.1 hk, Option.map_some]
    simp only [Option.any_some, hstale, Bool.false_eq_true, if_false]
    rfl

theorem exists_dropKey (h : At l d r ts) :
    ∃ ks, l.dropKey = .ok { l with keys := none :: ks } ∧ ks.length = d ∧
      ∀ k ∈ ks, k.any KeyStart.required = false := by
  rw [Lexer.dropKey]
  have hlength := h.length_keys
  have hloose := h.loose
  cases hk : l.keys with
  | nil =>
    rw [hk] at hlength
    cases hlength
  | cons k ks =>
    rw [hk] at hlength hloose
    obtain ⟨hfirst, hrest⟩ := List.forall_mem_cons.1 hloose
    refine ⟨ks, ?_, Nat.succ.inj hlength, hrest⟩
    simp only [hfirst, Bool.false_eq_true, if_false]

/-- The place where a key can begin here. -/
def keyHere (l : Lexer) : KeyStart :=
  ⟨l.tokens.length, false, l.cursor.index, l.cursor.line, l.cursor.column⟩

theorem exists_markKey_of_allowed (h : At l d r ts) (ha : l.keyAllowed = true) :
    ∃ ks, l.markKey = .ok { l with keys := some (keyHere l) :: ks } ∧ ks.length = d ∧
      ∀ k ∈ ks, k.any KeyStart.required = false := by
  obtain ⟨ks, hdrop, hlength, hloose⟩ := h.exists_dropKey
  refine ⟨ks, ?_, hlength, hloose⟩
  have hcolumn : decide ((-1 : Int) = l.cursor.column) = false :=
    decide_eq_false (by omega)
  rw [markKey, if_pos ha, hdrop]
  simp only [Bind.bind, Except.bind, indent, h.blocks, hcolumn, Bool.and_false, List.tail_cons]
  rfl

theorem exists_markKey (h : At l d r ts) :
    ∃ ks, l.markKey = .ok { l with keys := ks } ∧ ks.length = d + 1 ∧
      ∀ k ∈ ks, k.any KeyStart.required = false := by
  by_cases ha : l.keyAllowed = true
  · obtain ⟨ks, hks, hlength, hloose⟩ := h.exists_markKey_of_allowed ha
    refine ⟨some (keyHere l) :: ks, hks, ?_, List.forall_mem_cons.2 ⟨rfl, hloose⟩⟩
    rw [List.length_cons, hlength]
  · exact ⟨l.keys, if_neg ha, h.length_keys, h.loose⟩

theorem exists_ready (hb : Blanks b) (hr : Stops r) (h : At l d (b ++ r) ts) :
    ∃ m, (skipBlank (l.cursor.rest.length + 1) l).dropStale = .ok m ∧ At m d r ts ∧
      (l.keyAllowed = true → m.keyAllowed = true) := by
  have hlength : b.length < l.cursor.rest.length + 1 := by
    rw [h.rest, List.length_append]
    omega
  obtain ⟨c, a, hskip, hrest, ha⟩ := exists_skipBlank hb hr _ l h.rest hlength
  have hat : At { l with cursor := c, keyAllowed := a } d r ts :=
    ⟨hrest, h.tokens, h.blocks, h.length_keys, h.loose⟩
  obtain ⟨ks, hdrop, hks, hloose, -⟩ := hat.exists_dropStale
  rw [hskip]
  exact ⟨_, hdrop, ⟨hrest, h.tokens, h.blocks, hks, hloose⟩, ha⟩

/-- Behind spaces the latest place for a key is kept unless it is too far back. -/
theorem exists_ready_spaces {k : KeyStart} (hb : ∀ x ∈ b, x = ' ') (hr : Stops r)
    (h : At l d (b ++ r) ts) (hk : l.keys.head? = some (some k))
    (hfresh : isStale (l.cursor.skip b.length) k = false) :
    ∃ m, (skipBlank (l.cursor.rest.length + 1) l).dropStale = .ok m ∧ At m d r ts ∧
      m.keys.head? = some (some k) := by
  have hrest : (l.cursor.skip b.length).rest = r := Cursor.rest_skip_append h.rest
  have hat : At { l with cursor := l.cursor.skip b.length } d r ts :=
    ⟨hrest, h.tokens, h.blocks, h.length_keys, h.loose⟩
  obtain ⟨ks, hdrop, hks, hloose, hkept⟩ := hat.exists_dropStale
  rw [skipBlank_spaces hb hr _ l h.rest]
  exact ⟨_, hdrop, ⟨hrest, h.tokens, h.blocks, hks, hloose⟩, hkept k hk hfresh⟩

theorem tokens?_succ {m n : Lexer}
    (hready : (skipBlank (l.cursor.rest.length + 1) l).dropStale = .ok m) (hm : At m d r ts)
    (hpeek : m.cursor.peek ≠ ending) (htoken : m.token = .ok n) (fuel : Nat) :
    tokens? (fuel + 1) l = tokens? fuel n := by
  rw [tokens?_add_one, hready]
  simp only [Bind.bind, Except.bind, hm.unwind, if_neg hpeek, htoken]

/-- One step reads blanks and the token behind them. -/
theorem exists_pass {P : Lexer → Prop} {x : Char} (hb : Blanks b) (h : At l d (b ++ x :: r) ts)
    (hs : Stops (x :: r)) (hx : x ≠ ending)
    (ht : ∀ m, At m d (x :: r) ts → (l.keyAllowed = true → m.keyAllowed = true) →
      ∃ n, m.token = .ok n ∧ n.cursor.rest.length ≤ r.length ∧ P n) :
    ∃ n, Passes l n ∧ P n := by
  obtain ⟨m, hready, hm, hallowed⟩ := h.exists_ready hb hs
  obtain ⟨n, htoken, hlength, hP⟩ := ht m hm hallowed
  have hpeek : m.cursor.peek ≠ ending := by
    rw [Cursor.peek_of_rest hm.rest]
    exact hx
  refine ⟨n, ⟨1, ?_, ?_⟩, hP⟩
  · rw [h.rest, List.length_append, List.length_cons]
    omega
  · intro fuel
    rw [Nat.add_comm]
    exact tokens?_succ hready hm hpeek htoken fuel

end At

section Marks

variable {l : Lexer} {d : Nat} {ts : List Token}

theorem token_openSequence (h : l.cursor.peek = '[') : l.token = l.openFlow .flowSequenceStart := by
  simp [token, Cursor.atSeparator, h]

theorem token_openMapping (h : l.cursor.peek = '\x7b') :
    l.token = l.openFlow .flowMappingStart := by
  simp [token, Cursor.atSeparator, h]

theorem token_closeSequence (h : l.cursor.peek = ']') : l.token = l.closeFlow .flowSequenceEnd := by
  simp [token, Cursor.atSeparator, h]

theorem token_closeMapping (h : l.cursor.peek = '\x7d') :
    l.token = l.closeFlow .flowMappingEnd := by
  simp [token, Cursor.atSeparator, h]

theorem token_entry (h : l.cursor.peek = ',') : l.token = l.flowEntry := by
  simp [token, Cursor.atSeparator, h]

theorem token_colon (h : l.cursor.peek = ':') (hf : l.inFlow = true) : l.token = l.colon := by
  simp [token, Cursor.atSeparator, h, hf]

variable {x : Char}

theorem At.openFlow (h : At l d (x :: r) ts) (t : Token) :
    ∃ n, l.openFlow t = .ok n ∧ n.cursor.rest.length ≤ r.length ∧ At n (d + 1) r (t :: ts) ∧
      n.keyAllowed = true := by
  obtain ⟨ks, hmark, hlength, hloose⟩ := h.exists_markKey
  have hrest : l.cursor.next.rest = r := by rw [Cursor.rest_next, h.rest]; rfl
  refine ⟨{ l.mark t with keys := none :: ks, keyAllowed := true }, ?_, hrest ▸ le_rfl, ?_, rfl⟩
  · simp only [Lexer.openFlow, hmark, Bind.bind, Except.bind]
    rfl
  · refine ⟨hrest, congrArg (List.cons t) h.tokens, h.blocks, ?_, ?_⟩
    · rw [List.length_cons, hlength]
    · exact List.forall_mem_cons.2 ⟨rfl, hloose⟩

theorem At.closeFlow (h : At l (d + 1) (x :: r) ts) (t : Token) :
    ∃ n, l.closeFlow t = .ok n ∧ n.cursor.rest.length ≤ r.length ∧ At n d r (t :: ts) := by
  obtain ⟨ks, hdrop, hlength, hloose⟩ := h.exists_dropKey
  have hrest : l.cursor.next.rest = r := by rw [Cursor.rest_next, h.rest]; rfl
  have hflow : Lexer.inFlow { l with keys := none :: ks } = true := by
    rw [Lexer.inFlow, List.length_cons, hlength]
    exact decide_eq_true (by omega)
  refine ⟨{ l.mark t with keys := ks, keyAllowed := false }, ?_, hrest ▸ le_rfl, ?_⟩
  · simp only [Lexer.closeFlow, hdrop, Bind.bind, Except.bind, hflow, if_true]
    rfl
  · exact ⟨hrest, congrArg (List.cons t) h.tokens, h.blocks, hlength, hloose⟩

theorem At.flowEntry (h : At l d (x :: r) ts) :
    ∃ n, l.flowEntry = .ok n ∧ n.cursor.rest.length ≤ r.length ∧ At n d r (.flowEntry :: ts) ∧
      n.keyAllowed = true := by
  obtain ⟨ks, hdrop, hlength, hloose⟩ := h.exists_dropKey
  have hrest : l.cursor.next.rest = r := by rw [Cursor.rest_next, h.rest]; rfl
  refine ⟨{ l.mark .flowEntry with keys := none :: ks, keyAllowed := true }, ?_, hrest ▸ le_rfl, ?_,
    rfl⟩
  · simp only [Lexer.flowEntry, hdrop, Bind.bind, Except.bind]
    rfl
  · refine ⟨hrest, congrArg (List.cons Token.flowEntry) h.tokens, h.blocks, ?_, ?_⟩
    · rw [List.length_cons, hlength]
    · exact List.forall_mem_cons.2 ⟨rfl, hloose⟩

/-- Where a key can begin its place is kept. -/
theorem At.item_of_allowed (h : At l d r ts) (ha : l.keyAllowed = true) (t : Token) {c : Cursor}
    {s : List Char} (hc : c.rest = s) :
    ∃ n, l.item t c = .ok n ∧ At n d s (t :: ts) ∧ n.cursor = c ∧
      n.keys.head? = some (keyHere l) := by
  obtain ⟨ks, hmark, hlength, hloose⟩ := h.exists_markKey_of_allowed ha
  refine ⟨{ l.push t with cursor := c, keys := some (keyHere l) :: ks, keyAllowed := false },
    ?_, ?_, rfl, rfl⟩
  · simp only [Lexer.item, hmark, Bind.bind, Except.bind]
    rfl
  · refine ⟨hc, congrArg (List.cons t) h.tokens, h.blocks, ?_, ?_⟩
    · rw [List.length_cons, hlength]
    · exact List.forall_mem_cons.2 ⟨rfl, hloose⟩

/-- The colon behind a token at whose place a key could begin. -/
theorem At.colon {k : KeyStart} {t : Token} (h : At l (d + 1) (x :: r) (t :: ts))
    (hk : l.keys.head? = some (some k)) (hbefore : k.before = ts.length) :
    ∃ n, l.colon = .ok n ∧ n.cursor.rest.length ≤ r.length ∧
      At n (d + 1) r (.value :: t :: .key :: ts) := by
  obtain ⟨ks, hkeys⟩ := List.head?_eq_some_iff.1 hk
  have hlength : ks.length = d + 1 := by
    have hall := h.length_keys
    rw [hkeys] at hall
    exact Nat.succ.inj hall
  have hloose : ∀ k ∈ none :: ks, k.any KeyStart.required = false := by
    have hall := h.loose
    rw [hkeys] at hall
    exact List.forall_mem_cons.2 ⟨rfl, (List.forall_mem_cons.1 hall).2⟩
  have hflow : Lexer.inFlow { l with keys := none :: ks } = true := by
    rw [Lexer.inFlow, List.length_cons, hlength]
    exact decide_eq_true (by omega)
  have hrest : l.cursor.next.rest = r := by rw [Cursor.rest_next, h.rest]; rfl
  have hsplit : l.tokens.splitAt (l.tokens.length - k.before) = ([t], ts) := by
    have hone : (t :: ts).length - ts.length = 1 := by
      rw [List.length_cons]
      omega
    rw [h.tokens, hbefore, hone, List.splitAt_eq]
    rfl
  refine ⟨{ l with
    cursor := l.cursor.next, tokens := .value :: t :: .key :: ts, keys := none :: ks,
    keyAllowed := false }, ?_, hrest ▸ le_rfl, hrest, rfl, h.blocks, ?_, hloose⟩
  · simp only [Lexer.colon, hkeys, hflow, Bool.not_true, Bool.false_and, Bool.false_eq_true,
      if_false,
      Lexer.pushAt, hsplit]
    rfl
  · rw [List.length_cons, hlength]

theorem At.item (h : At l d r ts) (t : Token) {c : Cursor} {s : List Char} (hc : c.rest = s) :
    ∃ ks, l.item t c = .ok { l.push t with cursor := c, keys := ks, keyAllowed := false } ∧
      At { l.push t with cursor := c, keys := ks, keyAllowed := false } d s (t :: ts) := by
  obtain ⟨ks, hmark, hlength, hloose⟩ := h.exists_markKey
  refine ⟨ks, ?_, hc, congrArg (List.cons t) h.tokens, h.blocks, hlength, hloose⟩
  simp only [Lexer.item, hmark, Bind.bind, Except.bind]
  rfl

end Marks

section Steps

open Json (Piece body codes arePortable)

variable {l : Lexer} {d : Nat} {ts : List Token}

theorem stops_cons {x : Char} (hs : x ≠ ' ') (hc : x ≠ '#') (hb : isBreak x = false)
    (r : List Char) : Stops (x :: r) := by
  intro y hy
  cases hy
  exact ⟨hs, hc, hb⟩

/-- An opening bracket. -/
theorem At.openSequence (hb : Blanks b) (h : At l d (b ++ '[' :: r) ts) :
    ∃ n, Passes l n ∧ At n (d + 1) r (.flowSequenceStart :: ts) ∧ n.keyAllowed = true := by
  apply h.exists_pass hb (stops_cons (by decide) (by decide) rfl r) (by decide)
  intro m hm _
  rw [token_openSequence (Cursor.peek_of_rest hm.rest)]
  exact hm.openFlow _

theorem At.openMapping (hb : Blanks b) (h : At l d (b ++ '\x7b' :: r) ts) :
    ∃ n, Passes l n ∧ At n (d + 1) r (.flowMappingStart :: ts) ∧ n.keyAllowed = true := by
  apply h.exists_pass hb (stops_cons (by decide) (by decide) rfl r) (by decide)
  intro m hm _
  rw [token_openMapping (Cursor.peek_of_rest hm.rest)]
  exact hm.openFlow _

theorem At.closeSequence (hb : Blanks b) (h : At l (d + 1) (b ++ ']' :: r) ts) :
    ∃ n, Passes l n ∧ At n d r (.flowSequenceEnd :: ts) := by
  apply h.exists_pass hb (stops_cons (by decide) (by decide) rfl r) (by decide)
  intro m hm _
  rw [token_closeSequence (Cursor.peek_of_rest hm.rest)]
  exact hm.closeFlow _

theorem At.closeMapping (hb : Blanks b) (h : At l (d + 1) (b ++ '\x7d' :: r) ts) :
    ∃ n, Passes l n ∧ At n d r (.flowMappingEnd :: ts) := by
  apply h.exists_pass hb (stops_cons (by decide) (by decide) rfl r) (by decide)
  intro m hm _
  rw [token_closeMapping (Cursor.peek_of_rest hm.rest)]
  exact hm.closeFlow _

theorem At.comma (hb : Blanks b) (h : At l d (b ++ ',' :: r) ts) :
    ∃ n, Passes l n ∧ At n d r (.flowEntry :: ts) ∧ n.keyAllowed = true := by
  apply h.exists_pass hb (stops_cons (by decide) (by decide) rfl r) (by decide)
  intro m hm _
  rw [token_entry (Cursor.peek_of_rest hm.rest)]
  exact hm.flowEntry

theorem token_quote (h : l.cursor.rest = '"' :: r) :
    l.token = (l.cursor.next.doubleQuoted (l.cursor.rest.length + 1)).bind fun p =>
      l.item (.scalar ⟨p.1, false⟩) p.2 := by
  have hpeek := Cursor.peek_of_rest h
  have happ : ('"' : Char) ≠ Literal.apostrophe := by decide
  simp [token, Cursor.atSeparator, hpeek, happ]
  rfl

/-- What a plain scalar begins with: a letter, a digit or a minus before more of it. -/
def BeginsPlain (r : List Char) : Prop :=
  ∃ x s, r = x :: s ∧ (isAlphanumeric x = true ∨
    x = '-' ∧ ∃ y t, s = y :: t ∧ isPlainChar y = true ∧ y ≠ '-')

theorem token_plain (h : BeginsPlain l.cursor.rest) : l.token = l.plainScalar := by
  obtain ⟨x, s, hrest, hx | ⟨rfl, y, t, rfl, hy, hminus⟩⟩ := h
  · have hpeek := Cursor.peek_of_rest hrest
    have hne (y : Char) (hy : isAlphanumeric y = false) : x ≠ y := by
      rintro rfl
      rw [hx] at hy
      cases hy
    have hplain : isPlainChar x = true := by rw [isPlainChar, hx, Bool.true_or, Bool.true_or,
      Bool.true_or]
    have hblank := isBlankOrEnd_of_plain hplain
    simp [token, atPlain, Cursor.atSeparator, hpeek, hblank, hne '%' rfl, hne '-' rfl, hne '.' rfl,
      hne '[' rfl, hne ']' rfl, hne '\x7b' rfl, hne '\x7d' rfl, hne ',' rfl, hne '?' rfl,
      hne ':' rfl, hne '*' rfl, hne '&' rfl, hne '!' rfl, hne '|' rfl, hne '>' rfl, hne '"' rfl,
      hne '#' rfl, hne '@' rfl, hne '\x60' rfl, hne (Char.ofNat 39) rfl, hne Literal.apostrophe rfl]
  · have hpeek := Cursor.peek_of_rest hrest
    have hsecond : l.cursor.peekAt 1 = y := by
      rw [Cursor.peekAt, hrest]
      rfl
    have hclosed := isBlankOrEnd_of_plain hy
    have happ : ('-' : Char) ≠ Literal.apostrophe := by decide
    have hblank : isBlankOrEnd '-' = false := rfl
    simp [token, atPlain, Cursor.atSeparator, hpeek, hsecond, hclosed, hminus, happ, hblank]

theorem doubleQuoted_quote {ps : List Piece} (hp : arePortable ps = true) {c : Cursor}
    (hc : c.rest = Json.quote ps ++ r) :
    c.next.doubleQuoted (c.rest.length + 1) = .ok (codes ps, c.skip (Json.quote ps).length) := by
  have hnext : c.next.rest = body ps ++ r := by
    rw [Cursor.rest_next, hc]
    rfl
  refine doubleQuoted_body _ ps (portable_of_mem hp) _ hnext ?_
  rw [hc, List.length_append, Json.quote, List.length_cons]
  omega

theorem At.string {ps : List Piece} (hb : Blanks b) (hp : arePortable ps = true)
    (h : At l d (b ++ (Json.quote ps ++ r)) ts) :
    ∃ n, Passes l n ∧ At n d r (.scalar ⟨codes ps, false⟩ :: ts) := by
  apply h.exists_pass hb (stops_cons (by decide) (by decide) rfl _) (by decide)
  intro m hm _
  have hrest : (m.cursor.skip (Json.quote ps).length).rest = r := Cursor.rest_skip_append hm.rest
  obtain ⟨ks, hitem, hat⟩ := hm.item (.scalar ⟨codes ps, false⟩) hrest
  refine ⟨_, ?_, ?_, hat⟩
  · rw [token_quote hm.rest, doubleQuoted_quote hp hm.rest]
    exact hitem
  · have hlength : r.length ≤ (body ps ++ r).length := by
      rw [List.length_append]
      omega
    rw [hat.rest]
    exact hlength

/-- A string at a place where a key can begin. -/
theorem At.keyText {ps : List Piece} (hb : Blanks b) (hp : arePortable ps = true)
    (ha : l.keyAllowed = true) (h : At l d (b ++ (Json.quote ps ++ r)) ts) :
    ∃ n, Passes l n ∧ At n d r (.scalar ⟨codes ps, false⟩ :: ts) ∧
      ∃ k, n.keys.head? = some (some k) ∧ k.before = ts.length ∧ k.line = n.cursor.line ∧
        n.cursor.index = k.index + (Json.quote ps).length := by
  apply h.exists_pass hb (stops_cons (by decide) (by decide) rfl _) (by decide)
  intro m hm hallowed
  have hrest : (m.cursor.skip (Json.quote ps).length).rest = r := Cursor.rest_skip_append hm.rest
  obtain ⟨n, hitem, hat, hcursor, hkeys⟩ :=
    hm.item_of_allowed (hallowed ha) (.scalar ⟨codes ps, false⟩) hrest
  refine ⟨n, ?_, ?_, hat, keyHere m, hkeys, ?_, ?_, ?_⟩
  · rw [token_quote hm.rest, doubleQuoted_quote hp hm.rest]
    exact hitem
  · have hlength : r.length ≤ (body ps ++ r).length := by
      rw [List.length_append]
      omega
    rw [hat.rest]
    exact hlength
  · exact congrArg List.length hm.tokens
  · rw [hcursor]
    exact (Cursor.line_skip hm.rest fun x hx => (inline_quote hp x hx).2).symm
  · rw [hcursor]
    exact Cursor.index_skip hm.rest

/-- The name of an entry with the colon behind it. -/
theorem At.key {ps : List Piece} {s : List Char} (hb : Blanks b) (hp : arePortable ps = true)
    (hs : ∀ x ∈ s, x = ' ') (hlength : (Json.quote ps).length + s.length ≤ 1024)
    (ha : l.keyAllowed = true) (h : At l (d + 1) (b ++ (Json.quote ps ++ (s ++ ':' :: r))) ts) :
    ∃ n, Passes l n ∧
      At n (d + 1) r (.value :: .scalar ⟨codes ps, false⟩ :: .key :: ts) := by
  obtain ⟨m, hpass, hm, k, hk, hbefore, hline, hindex⟩ := h.keyText hb hp ha
  have hspace : ∀ x ∈ s, isBreak x = false := by
    intro x hx
    rw [hs x hx]
    rfl
  have hfresh : isStale (m.cursor.skip s.length) k = false := by
    have hsame : (m.cursor.skip s.length).line = k.line := by
      rw [Cursor.line_skip hm.rest hspace, hline]
    have hfar : (m.cursor.skip s.length).index = k.index + ((Json.quote ps).length + s.length) := by
      rw [Cursor.index_skip hm.rest, hindex, Nat.add_assoc]
    have hnear : decide (1024 < (m.cursor.skip s.length).index - k.index) = false := by
      rw [hfar, Nat.add_sub_cancel_left]
      exact decide_eq_false (by omega)
    rw [isStale, hsame, hnear]
    simp
  obtain ⟨m', hready, hm', hk'⟩ :=
    hm.exists_ready_spaces hs (stops_cons (by decide) (by decide) rfl r) hk hfresh
  obtain ⟨n, hcolon, hle, hn⟩ := hm'.colon hk' hbefore
  refine ⟨n, hpass.trans ⟨1, ?_, ?_⟩, hn⟩
  · rw [hm.rest, List.length_append, List.length_cons]
    omega
  · intro fuel
    have hpeek := Cursor.peek_of_rest hm'.rest
    have hflow : m'.inFlow = true := by
      rw [hm'.inFlow]
      exact decide_eq_true (Nat.succ_pos d)
    have htoken : m'.token = .ok n := by
      rw [token_colon hpeek hflow]
      exact hcolon
    have hmark : m'.cursor.peek ≠ ending := by
      rw [hpeek]
      decide
    rw [Nat.add_comm]
    exact At.tokens?_succ hready hm' hmark htoken fuel

theorem BeginsPlain.append {cs : List Char} (h : BeginsPlain cs) (r : List Char) :
    BeginsPlain (cs ++ r) := by
  obtain ⟨x, s, rfl, hx | ⟨rfl, y, t, rfl, hy⟩⟩ := h
  · exact ⟨x, s ++ r, rfl, .inl hx⟩
  · exact ⟨'-', y :: (t ++ r), rfl, .inr ⟨rfl, y, t ++ r, rfl, hy⟩⟩

theorem At.plainScalar {cs : List Char} {x : Char} (hb : Blanks b) (hx : IsMark x)
    (hcs : ∀ y ∈ cs, isPlainChar y = true) (hne : cs ≠ [])
    (h : At l (d + 1) (cs ++ (b ++ x :: r)) ts) :
    ∃ n, l.plainScalar = .ok n ∧ At n (d + 1) (x :: r) (.scalar ⟨codesOf cs, true⟩ :: ts) := by
  obtain ⟨ks, hmark, hlength, hloose⟩ := h.exists_markKey
  have hflow : Lexer.inFlow { l with keys := ks } = true := by
    rw [Lexer.inFlow, hlength]
    exact decide_eq_true (by omega)
  obtain ⟨broken, c, hplain, hrest⟩ :=
    Cursor.plain_run hcs hne hb hx (l.indent + 1) l.cursor.rest.length h.rest
  refine ⟨{ l.push (.scalar ⟨codesOf cs, true⟩) with
    cursor := c, keys := ks, keyAllowed := broken }, ?_, ?_⟩
  · have hindent : Lexer.indent { l with keys := ks } = l.indent := rfl
    simp only [Lexer.plainScalar, hmark, Bind.bind, Except.bind, hflow, hindent, hplain]
    rfl
  · exact ⟨hrest, congrArg (List.cons _) h.tokens, h.blocks, hlength, hloose⟩

theorem At.plain {cs b' : List Char} {x : Char} (hb : Blanks b) (hb' : Blanks b') (hx : IsMark x)
    (hcs : ∀ y ∈ cs, isPlainChar y = true) (hbegin : BeginsPlain cs)
    (h : At l (d + 1) (b ++ (cs ++ (b' ++ x :: r))) ts) :
    ∃ n, Passes l n ∧ At n (d + 1) (x :: r) (.scalar ⟨codesOf cs, true⟩ :: ts) := by
  obtain ⟨y, s, rfl, -⟩ := id hbegin
  have hy : isPlainChar y = true := hcs y List.mem_cons_self
  have hstops : Stops (y :: (s ++ (b' ++ x :: r))) :=
    stops_cons (ne_of_isPlainChar hy rfl) (ne_of_isPlainChar hy rfl)
      (isBreak_eq_false (ne_of_isPlainChar hy rfl) (ne_of_isPlainChar hy rfl)
        (ne_of_isPlainChar hy rfl) (ne_of_isPlainChar hy rfl)) _
  apply h.exists_pass hb hstops (ne_of_isPlainChar hy rfl)
  intro m hm _
  obtain ⟨n, hscalar, hat⟩ := hm.plainScalar hb' hx hcs (List.cons_ne_nil y s)
  refine ⟨n, ?_, ?_, hat⟩
  · rw [token_plain, hscalar]
    rw [hm.rest]
    exact hbegin.append _
  · have hlength : (x :: r).length ≤ (s ++ (b' ++ x :: r)).length := by
      rw [List.length_append, List.length_append]
      omega
    rw [hat.rest]
    exact hlength

end Steps

end Lexer

end LeasePlan.Yaml
