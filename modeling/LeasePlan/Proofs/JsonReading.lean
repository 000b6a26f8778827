import Mathlib
import LeasePlan.Proofs.JsonScalars

namespace LeasePlan.Json

section Skipping

theorem skip_skip (cs : List Char) : skip (skip cs) = skip cs := List.dropWhile_idempotent _ _

theorem value?_skip (fuel : Nat) (cs : List Char) : value? fuel (skip cs) = value? fuel cs := by
  cases fuel with
  | zero => rfl
  | succ fuel => rw [value?, value?, skip_skip]

theorem items?_skip (fuel : Nat) (cs : List Char) : items? fuel (skip cs) = items? fuel cs := by
  cases fuel with
  | zero => rfl
  | succ fuel => rw [items?, items?, value?_skip]

theorem entries?_skip (fuel : Nat) (seen : List (Data × Data)) (cs : List Char) :
    entries? fuel seen (skip cs) = entries? fuel seen cs := by
  cases fuel with
  | zero => rfl
  | succ fuel => rw [entries?, entries?, skip_skip]

end Skipping

section Fronts

variable {c : Char} {cs r : List Char}

/-- Whether a number can begin with a character. -/
def IsFront (c : Char) : Prop := c = '-' ∨ Numeral.isDigit c = true

theorem IsFront.ne {x : Char} (hc : IsFront c) (hm : x ≠ '-') (hx : Numeral.isDigit x = false) :
    c ≠ x := by
  rcases hc with rfl | hc
  · exact hm.symm
  · exact isDigit_ne hc hx

theorem isBlank_eq_false (h : c ≠ ' ' ∧ c ≠ '\n' ∧ c ≠ '\r' ∧ c ≠ '\t') : isBlank c = false := by
  simp only [isBlank, h, decide_false, Bool.or_false]

theorem IsFront.not_blank (hc : IsFront c) : isBlank c = false :=
  isBlank_eq_false ⟨hc.ne (by decide) rfl, hc.ne (by decide) rfl, hc.ne (by decide) rfl,
    hc.ne (by decide) rfl⟩

theorem Number.exists_cons (n : Number) : ∃ c cs, n.chars = c :: cs ∧ IsFront c := by
  rw [chars]
  cases n.negative with
  | true => exact ⟨_, _, if_pos rfl, .inl rfl⟩
  | false =>
    rw [if_neg Bool.false_ne_true, magnitude]
    cases hw : n.whole.chars with
    | nil => exact absurd hw n.whole.ne_nil
    | cons c cs =>
      exact ⟨c, _, rfl, .inr (n.whole.isDigit c (hw ▸ List.mem_cons_self))⟩

theorem Word.exists_cons (w : Word) :
    ∃ c cs, w.chars = c :: cs ∧ (c = 'n' ∨ c = 't' ∨ c = 'f') := by
  cases w with
  | null => exact ⟨_, _, rfl, .inl rfl⟩
  | bool b =>
    cases b with
    | true => exact ⟨_, _, rfl, .inr (.inl rfl)⟩
    | false => exact ⟨_, _, rfl, .inr (.inr rfl)⟩

/-- A value begins with no white space and closes no list. -/
theorem Value.exists_cons (v : Value) :
    ∃ c cs, v.chars = c :: cs ∧ isBlank c = false ∧ c ≠ ']' := by
  cases v with
  | word w =>
    obtain ⟨c, cs, h, hc⟩ := w.exists_cons
    refine ⟨c, cs, h, ?_⟩
    rcases hc with rfl | rfl | rfl <;> exact ⟨rfl, by decide⟩
  | number n =>
    obtain ⟨c, cs, h, hc⟩ := n.exists_cons
    exact ⟨c, cs, h, hc.not_blank, hc.ne (by decide) rfl⟩
  | string ps => exact ⟨_, _, rfl, rfl, by decide⟩
  | emptyList gap => exact ⟨_, _, rfl, rfl, by decide⟩
  | list items => exact ⟨_, _, rfl, rfl, by decide⟩
  | emptyObject gap => exact ⟨_, _, rfl, rfl, by decide⟩
  | object entries => exact ⟨_, _, rfl, rfl, by decide⟩

theorem skip_value (g : Gap) (v : Value) (r : List Char) :
    skip (g.chars ++ (v.chars ++ r)) = v.chars ++ r := by
  obtain ⟨c, cs, hv, hc, -⟩ := v.exists_cons
  rw [g.skip_append, hv]
  exact skip_of_not_blank hc _

theorem word?_eq_none (hn : c ≠ 'n') (ht : c ≠ 't') (hf : c ≠ 'f') (r : List Char) :
    word? (c :: r) = none := by
  have hne {x : Char} (h : c ≠ x) (xs : List Char) : ¬ (x :: xs).isPrefixOf (c :: r) = true := by
    rw [List.isPrefixOf_cons_cons, beq_eq_false_iff_ne.2 h.symm, Bool.false_and]
    exact Bool.false_ne_true
  unfold word?
  exact (if_neg (hne hn ['u', 'l', 'l'])).trans
    ((if_neg (hne ht ['r', 'u', 'e'])).trans (if_neg (hne hf ['a', 'l', 's', 'e'])))

theorem value?_list (fuel : Nat) (h : skip cs = '[' :: r) (hr : ∀ s, skip r ≠ ']' :: s) :
    value? (fuel + 1) cs = (items? fuel r).map fun p => (.list p.1, p.2) := by
  simp only [value?, h]
  rw [items?_skip]

theorem value?_object (fuel : Nat) (h : skip cs = '\x7b' :: r) (hr : ∀ s, skip r ≠ '\x7d' :: s) :
    value? (fuel + 1) cs = (entries? fuel [] r).map fun p => (.mapping p.1, p.2) := by
  simp only [value?, h]
  rw [entries?_skip]

theorem value?_emptyList {s : List Char} (fuel : Nat) (h : skip cs = '[' :: r)
    (hr : skip r = ']' :: s) : value? (fuel + 1) cs = some (.list [], s) := by
  simp only [value?, h, hr]

theorem value?_emptyObject {s : List Char} (fuel : Nat) (h : skip cs = '\x7b' :: r)
    (hr : skip r = '\x7d' :: s) : value? (fuel + 1) cs = some (.mapping [], s) := by
  simp only [value?, h, hr]

theorem items?_last {s : List Char} {fuel : Nat} {v : Data} (hv : value? fuel cs = some (v, r))
    (hr : skip r = ']' :: s) : items? (fuel + 1) cs = some ([v], s) := by
  simp only [items?, hv, hr, Option.bind_eq_bind, Option.bind_some]

theorem items?_more {s : List Char} {fuel : Nat} {v : Data} (hv : value? fuel cs = some (v, r))
    (hr : skip r = ',' :: s) :
    items? (fuel + 1) cs = (items? fuel s).bind fun p => some (v :: p.1, p.2) := by
  simp only [items?, hv, hr, Option.bind_eq_bind, Option.bind_some]

section Entry

variable {s t u : List Char} {fuel : Nat} {k v : Data} (seen : List (Data × Data))

theorem entries?_last (hk : string? (skip cs) = some (k, r)) (hr : skip r = ':' :: s)
    (hv : value? fuel s = some (v, t)) (ht : skip t = '\x7d' :: u) :
    entries? (fuel + 1) seen cs = some (Data.insert k v seen, u) := by
  simp only [entries?, hk, hr, hv, ht, Option.bind_eq_bind, Option.bind_some]

theorem entries?_more (hk : string? (skip cs) = some (k, r)) (hr : skip r = ':' :: s)
    (hv : value? fuel s = some (v, t)) (ht : skip t = ',' :: u) :
    entries? (fuel + 1) seen cs = entries? fuel (Data.insert k v seen) u := by
  simp only [entries?, hk, hr, hv, ht, Option.bind_eq_bind, Option.bind_some]

end Entry

theorem value?_other (fuel : Nat) (h : skip cs = c :: r) (hl : c ≠ '[') (ho : c ≠ '\x7b')
    (hq : c ≠ '"') : value? (fuel + 1) cs = (word? (c :: r) <|> number? (c :: r)) := by
  rw [value?, h]
  split
  · next hs => exact absurd (List.head_eq_of_cons_eq hs) hl
  · next hs => exact absurd (List.head_eq_of_cons_eq hs) ho
  · next hs => exact absurd (List.head_eq_of_cons_eq hs) hq
  · rfl

end Fronts

section Trees

theorem ends_mark {c : Char} (h : c = ',' ∨ c = ']' ∨ c = '\x7d') (r : List Char) :
    Ends (c :: r) := by
  rintro x hx
  cases hx
  exact .inr h

theorem Gap.ends_append (g : Gap) {r : List Char} (hr : Ends r) : Ends (g.chars ++ r) := by
  intro c hc
  cases hg : g.chars with
  | nil =>
    rw [hg] at hc
    exact hr c hc
  | cons x xs =>
    rw [hg] at hc
    cases hc
    exact .inl (g.blank c (hg ▸ List.mem_cons_self))

theorem exists_fuel {n fuel : Nat} (h : n + 1 ≤ fuel) : ∃ m, fuel = m + 1 ∧ n ≤ m :=
  ⟨fuel - 1, by omega, by omega⟩

theorem Items.skip_ne (items : Items) (r s : List Char) : skip (items.chars ++ r) ≠ ']' :: s := by
  have hslot (item : Slot) (t : List Char) : skip (item.chars ++ t) ≠ ']' :: s := by
    cases item with
    | mk before v after =>
      obtain ⟨c, cs, hv, -, hc⟩ := v.exists_cons
      rw [Slot.chars, List.append_assoc, List.append_assoc, skip_value, hv]
      exact fun h => hc (List.head_eq_of_cons_eq h)
  cases items with
  | last item => exact hslot item r
  | more item rest =>
    rw [chars, List.append_assoc]
    exact hslot item _

theorem Key.skip_chars (k : Key) (r : List Char) :
    skip (k.chars ++ r) = quote k.pieces ++ (k.after.chars ++ r) := by
  rw [chars, List.append_assoc, List.append_assoc, k.before.skip_append]
  exact skip_of_not_blank rfl _

theorem Key.string?_skip (k : Key) (r : List Char) :
    string? (skip (k.chars ++ r)) = some (text k.pieces, k.after.chars ++ r) := by
  rw [k.skip_chars, string?_quote]

theorem Entries.skip_ne (es : Entries) (r s : List Char) : skip (es.chars ++ r) ≠ '\x7d' :: s := by
  have hkey (key : Key) (t : List Char) : skip (key.chars ++ t) ≠ '\x7d' :: s := by
    rw [key.skip_chars]
    exact fun h => absurd (List.head_eq_of_cons_eq h) (by decide)
  cases es with
  | last key value =>
    rw [chars, List.append_assoc]
    exact hkey key _
  | more key value rest =>
    rw [chars, List.append_assoc]
    exact hkey key _

mutual

theorem value?_chars : (v : Value) → (fuel : Nat) → (g : Gap) → (r : List Char) →
    v.chars.length ≤ fuel → Ends r → value? fuel (g.chars ++ (v.chars ++ r)) = some (v.data, r)
  | .word w, fuel, g, r, hf, hr => by
    have hskip := skip_value g (.word w) r
    obtain ⟨c, cs, hc, hmem⟩ := w.exists_cons
    have hfront : c :: (cs ++ r) = w.chars ++ r := by rw [hc, List.cons_append]
    obtain ⟨hl, ho, hq⟩ : c ≠ '[' ∧ c ≠ '\x7b' ∧ c ≠ '"' := by
      rcases hmem with rfl | rfl | rfl <;> decide
    rw [Value.chars, hc] at hf
    obtain ⟨fuel, rfl, -⟩ := exists_fuel hf
    rw [Value.chars] at hskip ⊢
    rw [value?_other fuel (hskip.trans hfront.symm) hl ho hq, hfront, word?_chars]
    rfl
  | .number n, fuel, g, r, hf, hr => by
    have hskip := skip_value g (.number n) r
    obtain ⟨c, cs, hc, hfront⟩ := n.exists_cons
    have hfront' : c :: (cs ++ r) = n.chars ++ r := by rw [hc, List.cons_append]
    rw [Value.chars, hc] at hf
    obtain ⟨fuel, rfl, -⟩ := exists_fuel hf
    rw [Value.chars] at hskip ⊢
    rw [value?_other fuel (hskip.trans hfront'.symm) (hfront.ne (by decide) rfl)
      (hfront.ne (by decide) rfl) (hfront.ne (by decide) rfl),
      word?_eq_none (hfront.ne (by decide) rfl) (hfront.ne (by decide) rfl)
        (hfront.ne (by decide) rfl), hfront', n.number?_chars hr]
    rfl
  | .string ps, fuel, g, r, hf, _ => by
    have hskip := skip_value g (.string ps) r
    obtain ⟨fuel, rfl, -⟩ := exists_fuel hf
    rw [Value.chars, quote, List.cons_append] at hskip
    rw [value?, Value.chars, quote, List.cons_append, hskip]
    exact string?_quote ps r
  | .emptyList gap, fuel, g, r, hf, _ => by
    have hskip := skip_value g (.emptyList gap) r
    obtain ⟨fuel, rfl, -⟩ := exists_fuel hf
    rw [Value.chars, List.cons_append, List.append_assoc] at hskip ⊢
    exact value?_emptyList fuel hskip (gap.skip_append _)
  | .list items, fuel, g, r, hf, _ => by
    have hskip := skip_value g (.list items) r
    have hlen : (Value.list items).chars.length = items.chars.length + 1 + 1 := by
      rw [Value.chars, List.length_cons, List.length_append, List.length_singleton]
    rw [hlen] at hf
    obtain ⟨fuel, rfl, hfuel⟩ := exists_fuel hf
    rw [Value.chars, List.cons_append, List.append_assoc] at hskip ⊢
    rw [value?_list fuel hskip (items.skip_ne _), List.singleton_append,
      items?_chars items fuel r hfuel]
    rfl
  | .emptyObject gap, fuel, g, r, hf, _ => by
    have hskip := skip_value g (.emptyObject gap) r
    obtain ⟨fuel, rfl, -⟩ := exists_fuel hf
    rw [Value.chars, List.cons_append, List.append_assoc] at hskip ⊢
    exact value?_emptyObject fuel hskip (gap.skip_append _)
  | .object es, fuel, g, r, hf, _ => by
    have hskip := skip_value g (.object es) r
    have hlen : (Value.object es).chars.length = es.chars.length + 1 + 1 := by
      rw [Value.chars, List.length_cons, List.length_append, List.length_singleton]
    rw [hlen] at hf
    obtain ⟨fuel, rfl, hfuel⟩ := exists_fuel hf
    rw [Value.chars, List.cons_append, List.append_assoc] at hskip ⊢
    rw [value?_object fuel hskip (es.skip_ne _), List.singleton_append,
      entries?_chars es fuel [] r hfuel]
    rfl

theorem slot?_chars : (s : Slot) → (fuel : Nat) → (r : List Char) → s.chars.length ≤ fuel →
    Ends r → value? fuel (s.chars ++ r) = some (s.data, s.after.chars ++ r)
  | .mk before v after, fuel, r, hf, hr => by
    rw [Slot.chars, List.length_append, List.length_append] at hf
    rw [Slot.chars, List.append_assoc, List.append_assoc]
    exact value?_chars v fuel before _ (by omega) (after.ends_append hr)

theorem items?_chars : (items : Items) → (fuel : Nat) → (r : List Char) →
    items.chars.length + 1 ≤ fuel → items? fuel (items.chars ++ ']' :: r) = some (items.data, r)
  | .last item, fuel, r, hf => by
    obtain ⟨fuel, rfl, hfuel⟩ := exists_fuel hf
    rw [Items.chars] at hfuel ⊢
    have hvalue := slot?_chars item fuel (']' :: r) hfuel (ends_mark (by decide) r)
    exact items?_last hvalue (item.after.skip_append _)
  | .more item rest, fuel, r, hf => by
    obtain ⟨fuel, rfl, hfuel⟩ := exists_fuel hf
    rw [Items.chars, List.length_append, List.length_cons] at hfuel
    rw [Items.chars, List.append_assoc, List.cons_append]
    have hvalue := slot?_chars item fuel (',' :: (rest.chars ++ ']' :: r)) (by omega)
      (ends_mark (by decide) _)
    rw [items?_more hvalue (item.after.skip_append _), items?_chars rest fuel r (by omega)]
    rfl

theorem entries?_chars : (es : Entries) → (fuel : Nat) → (seen : List (Data × Data)) →
    (r : List Char) → es.chars.length + 1 ≤ fuel →
    entries? fuel seen (es.chars ++ '\x7d' :: r) = some (es.dataOver seen, r)
  | .last key value, fuel, seen, r, hf => by
    obtain ⟨fuel, rfl, hfuel⟩ := exists_fuel hf
    rw [Entries.chars, List.length_append, List.length_cons] at hfuel
    rw [Entries.chars, List.append_assoc, List.cons_append]
    have hvalue := slot?_chars value fuel ('\x7d' :: r) (by omega) (ends_mark (by decide) r)
    exact entries?_last seen (key.string?_skip _) (key.after.skip_append _) hvalue
      (value.after.skip_append _)
  | .more key value rest, fuel, seen, r, hf => by
    obtain ⟨fuel, rfl, hfuel⟩ := exists_fuel hf
    rw [Entries.chars, List.length_append, List.length_cons, List.length_append,
      List.length_cons] at hfuel
    rw [Entries.chars, List.append_assoc, List.cons_append, List.append_assoc, List.cons_append]
    have hvalue := slot?_chars value fuel (',' :: (rest.chars ++ '\x7d' :: r)) (by omega)
      (ends_mark (by decide) _)
    rw [entries?_more seen (key.string?_skip _) (key.after.skip_append _) hvalue
      (value.after.skip_append _), entries?_chars rest fuel _ r (by omega)]
    rfl

end

/-- What was read of a text is the value of a tree that spells what was read. -/
structure Spelled (fuel : Nat) : Prop where
  value {cs rest : List Char} {d : Data} (h : value? fuel cs = some (d, rest)) :
    ∃ (g : Gap) (v : Value), g.chars ++ (v.chars ++ rest) = cs ∧ v.data = d
  items {cs rest : List Char} {ds : List Data} (h : items? fuel cs = some (ds, rest)) :
    ∃ items : Items, items.chars ++ ']' :: rest = cs ∧ items.data = ds
  entries {seen : List (Data × Data)} {cs rest : List Char} {es : List (Data × Data)}
    (h : entries? fuel seen cs = some (es, rest)) :
    ∃ entries : Entries, entries.chars ++ '\x7d' :: rest = cs ∧ entries.dataOver seen = es

theorem spelled_zero : Spelled 0 where
  value h := by cases h
  items h := by cases h
  entries h := by cases h

namespace Spelled

variable {fuel : Nat} {cs rest : List Char}

theorem value_succ (ih : Spelled fuel) {d : Data} (h : value? (fuel + 1) cs = some (d, rest)) :
    ∃ (g : Gap) (v : Value), g.chars ++ (v.chars ++ rest) = cs ∧ v.data = d := by
  have hfront := Gap.front_append_skip cs
  unfold value? at h
  split at h
  · next r hs =>
    rw [hs] at hfront
    split at h
    · next hr =>
      cases h
      have hgap := Gap.front_append_skip r
      rw [hr] at hgap
      refine ⟨.front cs, .emptyList (.front r), ?_, rfl⟩
      rw [Value.chars, List.cons_append, List.append_assoc, List.singleton_append, hgap, hfront]
    · rw [items?_skip] at h
      obtain ⟨⟨ds, s⟩, hitems, h⟩ := Option.map_eq_some_iff.1 h
      cases h
      obtain ⟨items, hr, rfl⟩ := ih.items hitems
      refine ⟨.front cs, .list items, ?_, rfl⟩
      rw [Value.chars, List.cons_append, List.append_assoc, List.singleton_append, hr, hfront]
  · next r hs =>
    rw [hs] at hfront
    split at h
    · next hr =>
      cases h
      have hgap := Gap.front_append_skip r
      rw [hr] at hgap
      refine ⟨.front cs, .emptyObject (.front r), ?_, rfl⟩
      rw [Value.chars, List.cons_append, List.append_assoc, List.singleton_append, hgap, hfront]
    · rw [entries?_skip] at h
      obtain ⟨⟨es, s⟩, hentries, h⟩ := Option.map_eq_some_iff.1 h
      cases h
      obtain ⟨entries, hr, rfl⟩ := ih.entries hentries
      refine ⟨.front cs, .object entries, ?_, rfl⟩
      rw [Value.chars, List.cons_append, List.append_assoc, List.singleton_append, hr, hfront]
  · next r hs =>
    rw [hs] at hfront
    obtain ⟨ps, hps, hd⟩ := exists_quote h
    exact ⟨.front cs, .string ps, by rw [Value.chars, hps, hfront], hd⟩
  · cases hw : word? (skip cs) with
    | some p =>
      rw [hw] at h
      cases h
      obtain ⟨w, hcs, hd⟩ := exists_word hw
      exact ⟨.front cs, .word w, by rw [Value.chars, hcs, hfront], hd⟩
    | none =>
      rw [hw] at h
      obtain ⟨n, hcs, hd⟩ := exists_number h
      exact ⟨.front cs, .number n, by rw [Value.chars, hcs, hfront], hd⟩

theorem items_succ (ih : Spelled fuel) {ds : List Data}
    (h : items? (fuel + 1) cs = some (ds, rest)) :
    ∃ items : Items, items.chars ++ ']' :: rest = cs ∧ items.data = ds := by
  unfold items? at h
  obtain ⟨⟨v, r⟩, hvalue, h⟩ := Option.bind_eq_some_iff.1 h
  obtain ⟨g, v, hcs, rfl⟩ := ih.value hvalue
  have hgap := Gap.front_append_skip r
  dsimp only at h
  split at h
  · next s hs =>
    obtain ⟨⟨ds, t⟩, hitems, h⟩ := Option.bind_eq_some_iff.1 h
    cases h
    obtain ⟨items, hr, rfl⟩ := ih.items hitems
    refine ⟨.more (.mk g v (.front r)) items, ?_, rfl⟩
    rw [hs] at hgap
    simp only [Items.chars, Slot.chars, List.append_assoc, List.cons_append, hr, hgap, hcs]
  · next s hs =>
    cases h
    refine ⟨.last (.mk g v (.front r)), ?_, rfl⟩
    rw [hs] at hgap
    simp only [Items.chars, Slot.chars, List.append_assoc, hgap, hcs]
  · cases h

theorem entries_succ (ih : Spelled fuel) {seen es : List (Data × Data)}
    (h : entries? (fuel + 1) seen cs = some (es, rest)) :
    ∃ entries : Entries, entries.chars ++ '\x7d' :: rest = cs ∧ entries.dataOver seen = es := by
  unfold entries? at h
  obtain ⟨⟨k, r⟩, hkey, h⟩ := Option.bind_eq_some_iff.1 h
  obtain ⟨ps, hps, rfl⟩ := exists_quote hkey
  have hfront := Gap.front_append_skip cs
  have hgap := Gap.front_append_skip r
  dsimp only at h
  split at h
  · next s hs =>
    rw [hs] at hgap
    obtain ⟨⟨v, t⟩, hvalue, h⟩ := Option.bind_eq_some_iff.1 h
    obtain ⟨g, v, hcs, rfl⟩ := ih.value hvalue
    have hafter := Gap.front_append_skip t
    dsimp only at h
    split at h
    · next u hu =>
      obtain ⟨entries, hr, rfl⟩ := ih.entries h
      refine ⟨.more ⟨.front cs, ps, .front r⟩ (.mk g v (.front t)) entries, ?_, rfl⟩
      rw [hu] at hafter
      simp only [Entries.chars, Key.chars, Slot.chars, List.append_assoc, List.cons_append, hr,
        hafter, hcs, hgap, hps, hfront]
    · next u hu =>
      cases h
      refine ⟨.last ⟨.front cs, ps, .front r⟩ (.mk g v (.front t)), ?_, rfl⟩
      rw [hu] at hafter
      simp only [Entries.chars, Key.chars, Slot.chars, List.append_assoc, List.cons_append, hafter,
        hcs, hgap, hps, hfront]
    · cases h
  · cases h

end Spelled

theorem spelled (fuel : Nat) : Spelled fuel := by
  induction fuel with
  | zero => exact spelled_zero
  | succ fuel ih => exact ⟨ih.value_succ, ih.items_succ, ih.entries_succ⟩

end Trees

/-- What a text is read as is what the trees that spell it stand for, and there is one. -/
theorem read?_eq_some_iff {s : String} {d : Data} :
    read? s = some d ↔ ∃ t : Slot, t.chars = s.toList ∧ t.data = d := by
  unfold read?
  constructor
  · intro h
    dsimp only at h
    split at h
    · next v rest hvalue =>
      split at h
      · next hempty =>
        cases h
        obtain ⟨g, v, hcs, rfl⟩ := (spelled _).value hvalue
        have hgap := Gap.front_append_skip rest
        rw [List.isEmpty_iff.1 hempty, List.append_nil] at hgap
        exact ⟨.mk g v (.front rest), by rw [Slot.chars, hgap, hcs], rfl⟩
      · cases h
    · cases h
  · rintro ⟨t, ht, rfl⟩
    have hnil : Ends [] := by
      intro c hc
      cases hc
    have hvalue := slot?_chars t (s.toList.length + 1) [] (by rw [ht]; exact Nat.le_succ _) hnil
    rw [List.append_nil, List.append_nil, ht] at hvalue
    dsimp only
    rw [hvalue]
    dsimp only
    rw [t.after.skip_chars]
    rfl

end LeasePlan.Json
