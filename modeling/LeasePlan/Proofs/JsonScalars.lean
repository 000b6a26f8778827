import Mathlib
import LeasePlan.Proofs.JsonSyntax

namespace LeasePlan.Json

/-- What can follow a value: white space, a mark behind a value, or the end. -/
def Ends (r : List Char) : Prop :=
  ∀ c ∈ r.head?, isBlank c = true ∨ c = ',' ∨ c = ']' ∨ c = '\x7d'

theorem skip_of_not_blank {c : Char} (h : isBlank c = false) (r : List Char) :
    skip (c :: r) = c :: r :=
  List.dropWhile_cons_of_neg (by rw [h]; exact Bool.false_ne_true)

namespace Gap

theorem skip_append (g : Gap) (r : List Char) : skip (g.chars ++ r) = skip r :=
  List.dropWhile_append_of_pos g.blank

theorem skip_chars (g : Gap) : skip g.chars = [] :=
  List.dropWhile_eq_nil_iff.2 g.blank

/-- The white space at the front of a text. -/
def front (cs : List Char) : Gap where
  chars := cs.takeWhile isBlank
  blank := fun _ h => List.mem_takeWhile_imp h

theorem front_append_skip (cs : List Char) : (front cs).chars ++ skip cs = cs :=
  List.takeWhile_append_dropWhile

end Gap

section Strings

theorem escape?_ne {mark value : Char} (h : escape? mark = some value) : mark ≠ 'u' := by
  rintro rfl
  cases h

theorem stringBody_raw {c : Char} (h : 32 ≤ c.toNat ∧ c ≠ '"' ∧ c ≠ '\\') (r : List Char) :
    stringBody (c :: r) = (stringBody r).bind fun p => some (c.toNat :: p.1, p.2) := by
  rw [stringBody]
  · rw [if_neg (Nat.not_lt.2 h.1)]
    rfl
  · exact h.2.1
  · intro _ _ _ _ _ hc
    exact absurd hc h.2.2
  · intro _ _ hc
    exact absurd hc h.2.2

theorem stringBody_escape {mark value : Char} (h : escape? mark = some value) (r : List Char) :
    stringBody ('\\' :: mark :: r) =
      (stringBody r).bind fun p => some (value.toNat :: p.1, p.2) := by
  rw [stringBody]
  · rw [h]
    rfl
  · intro _ _ _ _ _ hu
    exact absurd hu (escape?_ne h)

theorem stringBody_unit {a b c d : Char} {code : Nat}
    (h : Numeral.hexadecimal? [a, b, c, d] = some code) (r : List Char) :
    stringBody ('\\' :: 'u' :: a :: b :: c :: d :: r) =
      (stringBody r).bind fun p => some (code :: p.1, p.2) := by
  rw [stringBody, h]
  rfl

theorem stringBody_piece (p : Piece) (r : List Char) :
    stringBody (p.chars ++ r) = (stringBody r).bind fun q => some (p.code :: q.1, q.2) := by
  cases p with
  | raw c h => exact stringBody_raw h r
  | escape mark value h => exact stringBody_escape h r
  | unit a b c d code h => exact stringBody_unit h r

theorem stringBody_body (ps : List Piece) (r : List Char) :
    stringBody (body ps ++ r) = some (codes ps, r) := by
  induction ps with
  | nil => rfl
  | cons p ps ih =>
    have hbody : body (p :: ps) ++ r = p.chars ++ (body ps ++ r) := by
      rw [body, List.flatMap_cons, body, List.append_assoc, List.append_assoc, List.append_assoc]
    rw [hbody, stringBody_piece, ih]
    rfl

theorem exists_body {cs rest : List Char} {ns : List Nat} (h : stringBody cs = some (ns, rest)) :
    ∃ ps, body ps ++ rest = cs ∧ codes ps = ns := by
  fun_induction stringBody cs generalizing ns rest with
  | case1 => cases h
  | case2 r =>
    cases h
    exact ⟨[], rfl, rfl⟩
  | case3 a b c d r ih =>
    obtain ⟨n, hn, h⟩ := Option.bind_eq_some_iff.1 h
    obtain ⟨⟨ms, s⟩, hr, h⟩ := Option.bind_eq_some_iff.1 h
    cases h
    obtain ⟨ps, hps, hcodes⟩ := ih hr
    exact ⟨.unit a b c d n hn :: ps, by rw [← hps]; rfl, by rw [← hcodes]; rfl⟩
  | case4 c r hu ih =>
    obtain ⟨e, he, h⟩ := Option.bind_eq_some_iff.1 h
    obtain ⟨⟨ms, s⟩, hr, h⟩ := Option.bind_eq_some_iff.1 h
    cases h
    obtain ⟨ps, hps, hcodes⟩ := ih hr
    exact ⟨.escape c e he :: ps, by rw [← hps]; rfl, by rw [← hcodes]; rfl⟩
  | case5 c r hq hu hb hlt => cases h
  | case6 c r hq hu hb hle ih =>
    obtain ⟨⟨ms, s⟩, hr, h⟩ := Option.bind_eq_some_iff.1 h
    cases h
    obtain ⟨ps, hps, hcodes⟩ := ih hr
    have hslash : c ≠ '\\' := by
      intro hc
      cases r with
      | nil => cases hr
      | cons d r => exact hb d r hc rfl
    have hraw : 32 ≤ c.toNat ∧ c ≠ '"' ∧ c ≠ '\\' := ⟨Nat.not_lt.1 hle, hq, hslash⟩
    exact ⟨.raw c hraw :: ps, by rw [← hps]; rfl, by rw [← hcodes]; rfl⟩

theorem string?_quote (ps : List Piece) (r : List Char) :
    string? (quote ps ++ r) = some (text ps, r) := by
  rw [quote, List.cons_append, string?, stringBody_body]
  rfl

theorem exists_quote {cs rest : List Char} {d : Data} (h : string? cs = some (d, rest)) :
    ∃ ps, quote ps ++ rest = cs ∧ text ps = d := by
  unfold string? at h
  split at h
  · obtain ⟨⟨ns, s⟩, hr, h⟩ := Option.map_eq_some_iff.1 h
    cases h
    obtain ⟨ps, hps, hcodes⟩ := exists_body hr
    exact ⟨ps, by rw [← hps]; rfl, by rw [← hcodes]; rfl⟩
  · cases h

end Strings

section Numbers

theorem isDigit_ne {c x : Char} (hc : Numeral.isDigit c = true) (hx : Numeral.isDigit x = false) :
    c ≠ x := by
  rintro rfl
  rw [hc] at hx
  cases hx

/-- Nothing here is a digit. -/
def NoDigit (r : List Char) : Prop := ∀ c ∈ r.head?, Numeral.isDigit c = false

theorem takeWhile_digits {ds r : List Char} (h : ∀ c ∈ ds, Numeral.isDigit c = true)
    (hr : NoDigit r) : (ds ++ r).takeWhile Numeral.isDigit = ds := by
  rw [List.takeWhile_append_of_pos h]
  cases r with
  | nil => exact List.append_nil ds
  | cons c r =>
    have hc : Numeral.isDigit c = false := hr c rfl
    rw [List.takeWhile_cons_of_neg (by rw [hc]; exact Bool.false_ne_true), List.append_nil]

theorem noDigit_of_ends {r : List Char} (h : Ends r) : NoDigit r := by
  intro c hc
  rcases h c hc with hb | rfl | rfl | rfl
  · cases hd : Numeral.isDigit c with
    | false => rfl
    | true =>
      simp only [isBlank, Bool.or_eq_true, decide_eq_true_eq] at hb
      rcases hb with ((rfl | rfl) | rfl) | rfl <;> cases hd
  · rfl
  · rfl
  · rfl

theorem Digits.append_ne_cons (ds : Digits) {c : Char} (hc : Numeral.isDigit c = false)
    (r s : List Char) : ds.chars ++ r ≠ c :: s := by
  intro h
  cases hd : ds.chars with
  | nil => exact ds.ne_nil hd
  | cons d cs =>
    have hdigit := ds.isDigit d (hd ▸ List.mem_cons_self)
    rw [hd] at h
    exact isDigit_ne hdigit hc (List.head_eq_of_cons_eq h)

theorem wholePart_chars (ds : Digits) (h : ds.chars.head? = some '0' → ds.chars = ['0'])
    {r : List Char} (hr : NoDigit r) : wholePart (ds.chars ++ r) = some (ds.chars, r) := by
  by_cases hz : ds.chars = ['0']
  · rw [hz]
    rfl
  · have htake := takeWhile_digits ds.isDigit hr
    have hne : ds.chars.isEmpty = false := List.isEmpty_eq_false_iff.2 ds.ne_nil
    rw [wholePart]
    · simp only [htake, hne, Bool.false_eq_true, if_false, List.drop_left]
    · intro s hs
      cases hc : ds.chars with
      | nil => exact ds.ne_nil hc
      | cons c cs =>
        rw [hc, List.cons_append] at hs
        injection hs with hs
        rw [hc, hs] at h
        exact hz (hc.trans (hs ▸ h rfl))

theorem fractionPart_chars (ds : Digits) {r : List Char} (hr : NoDigit r) :
    fractionPart ('.' :: (ds.chars ++ r)) = some (ds.chars, r) := by
  have hne : ds.chars.isEmpty = false := List.isEmpty_eq_false_iff.2 ds.ne_nil
  simp only [fractionPart, takeWhile_digits ds.isDigit hr, hne, Bool.false_eq_true, if_false,
    List.drop_left]

theorem fractionPart_of_ne {r : List Char} (hr : '.' ∉ r.head?) :
    fractionPart r = some ([], r) := by
  rw [fractionPart]
  rintro s rfl
  exact hr rfl

theorem exponentPart_chars (e : Exponent) {r : List Char} (hr : NoDigit r) :
    exponentPart (e.chars ++ r) = some (some e.value, r) := by
  have htake := takeWhile_digits e.digits.isDigit hr
  have hne : e.digits.chars.isEmpty = false := List.isEmpty_eq_false_iff.2 e.digits.ne_nil
  have hmark : (decide (e.mark = 'e') || decide (e.mark = 'E')) = true := by
    rw [Bool.or_eq_true, decide_eq_true_eq, decide_eq_true_eq]
    exact e.isMark
  rw [Exponent.chars, List.cons_append, List.append_assoc, Exponent.value]
  cases e.sign with
  | none =>
    rw [Sign.chars, List.nil_append, exponentPart]
    · simp only [hmark, if_true, htake, hne, Bool.false_eq_true, if_false, List.drop_left,
        reduceCtorEq]
      rfl
    · intro s
      exact e.digits.append_ne_cons rfl r s
    · intro s
      exact e.digits.append_ne_cons rfl r s
  | plus =>
    simp only [exponentPart, hmark, if_true, Sign.chars, List.cons_append, List.nil_append, htake,
      hne, Bool.false_eq_true, if_false, List.drop_left, reduceCtorEq]
    rfl
  | minus =>
    simp only [exponentPart, hmark, Sign.chars, List.cons_append, List.nil_append, htake, hne,
      Bool.false_eq_true, if_false, List.drop_left, if_true]
    rfl

theorem exponentPart_of_ne {r : List Char} (hr : 'e' ∉ r.head?) (hr' : 'E' ∉ r.head?) :
    exponentPart r = some (none, r) := by
  cases r with
  | nil => rfl
  | cons c r =>
    have hmark : ¬ (decide (c = 'e') || decide (c = 'E')) = true := by
      rw [Bool.or_eq_true, decide_eq_true_eq, decide_eq_true_eq]
      rintro (rfl | rfl)
      · exact hr rfl
      · exact hr' rfl
    simp only [exponentPart, hmark, Bool.false_eq_true, if_false]

/-- None of the characters that can follow a value continues a number. -/
theorem Ends.not_mem {r : List Char} (h : Ends r) {c : Char} (hb : isBlank c = false)
    (hm : c ≠ ',' ∧ c ≠ ']' ∧ c ≠ '\x7d') : c ∉ r.head? := by
  intro hc
  rcases h c hc with hb' | rfl | rfl | rfl
  · rw [hb] at hb'
    cases hb'
  · exact hm.1 rfl
  · exact hm.2.1 rfl
  · exact hm.2.2 rfl

namespace Number

variable (n : Number) {r : List Char}

theorem exponentPart_power (hr : Ends r) :
    exponentPart (n.power ++ r) = some (n.exponent.map Exponent.value, r) := by
  rw [power]
  cases n.exponent with
  | none => exact exponentPart_of_ne (hr.not_mem rfl (by decide)) (hr.not_mem rfl (by decide))
  | some e => exact exponentPart_chars e (noDigit_of_ends hr)

/-- Behind the digits of a number stands its exponent, or what follows the number. -/
theorem head?_power {c : Char} (hc : c ∈ (n.power ++ r).head?) :
    c = 'e' ∨ c = 'E' ∨ c ∈ r.head? := by
  rw [power] at hc
  cases he : n.exponent with
  | none =>
    rw [he] at hc
    exact .inr (.inr hc)
  | some e =>
    rw [he] at hc
    cases hc
    rcases e.isMark with h | h
    · exact .inl h
    · exact .inr (.inl h)

theorem noDigit_power (hr : Ends r) : NoDigit (n.power ++ r) := by
  intro c hc
  rcases n.head?_power hc with rfl | rfl | hc
  · rfl
  · rfl
  · exact noDigit_of_ends hr c hc

theorem noDigit_fraction (hr : Ends r) : NoDigit (n.fraction ++ (n.power ++ r)) := by
  intro c hc
  rw [fraction] at hc
  cases hp : n.places with
  | none =>
    rw [hp] at hc
    exact n.noDigit_power hr c hc
  | some ds =>
    rw [hp] at hc
    cases hc
    rfl

theorem fractionPart_fraction (hr : Ends r) :
    fractionPart (n.fraction ++ (n.power ++ r)) = some (n.placeDigits, n.power ++ r) := by
  rw [fraction, placeDigits]
  cases n.places with
  | none =>
    refine fractionPart_of_ne ?_
    intro hc
    rcases n.head?_power hc with h | h | h
    · cases h
    · cases h
    · exact hr.not_mem rfl (by decide) h
  | some ds => exact fractionPart_chars ds (n.noDigit_power hr)

end Number

theorem some_numberOf (negative : Bool) (whole places : List Char) (exponent : Option Int)
    (r : List Char) :
    (if (places.isEmpty && exponent.isNone) = true then
      some (Data.int (if negative = true then -(valueOf (whole ++ places) : Int)
        else valueOf (whole ++ places)), r)
    else some (Data.float (Binary64.ofDecimal negative (valueOf (whole ++ places))
      (exponent.getD 0 - places.length)), r)) =
    some (numberOf negative whole places exponent, r) := by
  unfold numberOf
  cases places.isEmpty && exponent.isNone with
  | true => rw [if_pos rfl, if_pos rfl]
  | false => rw [if_neg Bool.false_ne_true, if_neg Bool.false_ne_true]

/-- Reads a number behind its sign. -/
def unsigned? (negative : Bool) (cs : List Char) : Option (Data × List Char) :=
  (wholePart cs).bind fun w => (fractionPart w.2).bind fun f =>
    (exponentPart f.2).bind fun e => some (numberOf negative w.1 f.1 e.1, e.2)

theorem number?_minus (cs : List Char) : number? ('-' :: cs) = unsigned? true cs := by
  unfold number?
  split
  next negative digits h =>
    have hsign : (true, cs) = (negative, digits) := h
    cases hsign
    simp only [unsigned?, ← some_numberOf]
    rfl

theorem number?_of_ne {cs : List Char} (hne : ∀ s, cs ≠ '-' :: s) :
    number? cs = unsigned? false cs := by
  unfold number?
  split
  next negative digits h =>
    split at h
    · exact absurd rfl (hne _)
    · cases h
      simp only [unsigned?, ← some_numberOf]
      rfl

namespace Number

variable (n : Number) {r : List Char}

theorem number?_chars (hr : Ends r) : number? (n.chars ++ r) = some (n.data, r) := by
  have hmagnitude (negative : Bool) : unsigned? negative (n.magnitude ++ r) =
      some (numberOf negative n.whole.chars n.placeDigits (n.exponent.map Exponent.value), r) := by
    rw [magnitude, List.append_assoc, List.append_assoc, unsigned?,
      wholePart_chars n.whole n.head (n.noDigit_fraction hr), Option.bind_some,
      n.fractionPart_fraction hr, Option.bind_some, n.exponentPart_power hr, Option.bind_some]
  rw [chars, data]
  cases n.negative with
  | true =>
    rw [if_pos rfl, List.cons_append, number?_minus, hmagnitude]
  | false =>
    have hne (s : List Char) : n.magnitude ++ r ≠ '-' :: s := by
      rw [magnitude, List.append_assoc]
      exact n.whole.append_ne_cons rfl _ s
    rw [if_neg Bool.false_ne_true, number?_of_ne hne, hmagnitude]

end Number

/-- The digits at the front of a text, if there are any. -/
theorem exists_run {cs : List Char} (h : (cs.takeWhile Numeral.isDigit).isEmpty = false) :
    ∃ ds : Digits, ds.chars = cs.takeWhile Numeral.isDigit ∧
      ds.chars ++ cs.drop (cs.takeWhile Numeral.isDigit).length = cs :=
  ⟨⟨_, List.isEmpty_eq_false_iff.1 h, fun _ hc => List.mem_takeWhile_imp hc⟩, rfl,
    List.prefix_iff_eq_append.1 (List.takeWhile_prefix _)⟩

theorem exists_whole {cs w rest : List Char} (h : wholePart cs = some (w, rest)) :
    ∃ ds : Digits, (ds.chars.head? = some '0' → ds.chars = ['0']) ∧ ds.chars = w ∧
      ds.chars ++ rest = cs := by
  unfold wholePart at h
  split at h
  · cases h
    have hdigit : ∀ c ∈ ['0'], Numeral.isDigit c = true := by
      intro c hc
      rw [List.mem_singleton.1 hc]
      rfl
    exact ⟨⟨['0'], List.cons_ne_nil _ _, hdigit⟩, fun _ => rfl, rfl, rfl⟩
  · next hzero =>
    dsimp only at h
    split at h
    · cases h
    · next hrun =>
      cases h
      obtain ⟨ds, hds, hcs⟩ := exists_run (Bool.eq_false_iff.2 hrun)
      refine ⟨ds, ?_, hds, hcs⟩
      intro hhead
      cases hc : ds.chars with
      | nil => exact absurd hc ds.ne_nil
      | cons c r =>
        rw [hc] at hhead hcs
        cases hhead
        exact absurd hcs.symm (hzero _)

theorem exists_fraction {cs places rest : List Char} (h : fractionPart cs = some (places, rest)) :
    ∃ ds : Option Digits, ds.elim [] Digits.chars = places ∧
      (ds.elim [] fun ds => '.' :: ds.chars) ++ rest = cs := by
  unfold fractionPart at h
  split at h
  · dsimp only at h
    split at h
    · cases h
    · next hrun =>
      cases h
      obtain ⟨ds, hds, hcs⟩ := exists_run (Bool.eq_false_iff.2 hrun)
      exact ⟨some ds, hds, congrArg (List.cons '.') hcs⟩
  · cases h
    exact ⟨none, rfl, rfl⟩

theorem exists_sign (r : List Char) :
    ∃ s : Sign, ∃ digits, s.chars ++ digits = r ∧
      (match r with
        | '-' :: s => (true, s)
        | '+' :: s => (false, s)
        | s => (false, s)) = (decide (s = .minus), digits) := by
  split
  · exact ⟨.minus, _, rfl, rfl⟩
  · exact ⟨.plus, _, rfl, rfl⟩
  · exact ⟨.none, _, rfl, rfl⟩

theorem exists_exponent {cs rest : List Char} {e : Option Int}
    (h : exponentPart cs = some (e, rest)) :
    ∃ x : Option Exponent, x.map Exponent.value = e ∧ x.elim [] Exponent.chars ++ rest = cs := by
  unfold exponentPart at h
  split at h
  · next c r =>
    split at h
    · next hmark =>
      obtain ⟨s, digits, hs, hsign⟩ := exists_sign r
      split at h
      next hsplit =>
      cases hsplit.symm.trans hsign
      dsimp only at h
      split at h
      · cases h
      · next hrun =>
        cases h
        obtain ⟨ds, hds, hcs⟩ := exists_run (Bool.eq_false_iff.2 hrun)
        rw [Bool.or_eq_true, decide_eq_true_eq, decide_eq_true_eq] at hmark
        refine ⟨some ⟨c, s, ds, hmark⟩, ?_, ?_⟩
        · rw [Option.map_some, Exponent.value, hds]
          simp only [decide_eq_true_eq]
          rfl
        · rw [Option.elim_some, Exponent.chars, List.cons_append, List.append_assoc, hcs, hs]
    · cases h
      exact ⟨none, rfl, rfl⟩
  · cases h
    exact ⟨none, rfl, rfl⟩

theorem exists_magnitude {negative : Bool} {cs rest : List Char} {d : Data}
    (h : unsigned? negative cs = some (d, rest)) :
    ∃ n : Number, n.negative = negative ∧ n.magnitude ++ rest = cs ∧ n.data = d := by
  obtain ⟨⟨w, r⟩, hw, h⟩ := Option.bind_eq_some_iff.1 h
  obtain ⟨⟨p, s⟩, hp, h⟩ := Option.bind_eq_some_iff.1 h
  obtain ⟨⟨e, t⟩, he, h⟩ := Option.bind_eq_some_iff.1 h
  dsimp only at hp he h
  cases h
  obtain ⟨whole, hhead, rfl, rfl⟩ := exists_whole hw
  obtain ⟨places, rfl, hplaces⟩ := exists_fraction hp
  obtain ⟨exponent, rfl, hexponent⟩ := exists_exponent he
  refine ⟨⟨negative, whole, places, exponent, hhead⟩, rfl, ?_, rfl⟩
  rw [← hplaces, ← hexponent]
  simp only [Number.magnitude, Number.fraction, Number.power, List.append_assoc]

theorem exists_number {cs rest : List Char} {d : Data} (h : number? cs = some (d, rest)) :
    ∃ n : Number, n.chars ++ rest = cs ∧ n.data = d := by
  by_cases hminus : ∃ s, cs = '-' :: s
  · obtain ⟨s, rfl⟩ := hminus
    rw [number?_minus] at h
    obtain ⟨n, hn, hs, hd⟩ := exists_magnitude h
    refine ⟨n, ?_, hd⟩
    rw [Number.chars, hn, if_pos rfl, List.cons_append, hs]
  · rw [number?_of_ne fun s hs => hminus ⟨s, hs⟩] at h
    obtain ⟨n, hn, hs, hd⟩ := exists_magnitude h
    refine ⟨n, ?_, hd⟩
    rw [Number.chars, hn, if_neg Bool.false_ne_true, hs]

end Numbers

theorem word?_chars (w : Word) (r : List Char) : word? (w.chars ++ r) = some (w.data, r) := by
  cases w with
  | null => rfl
  | bool b => cases b <;> rfl

theorem exists_word {cs rest : List Char} {d : Data} (h : word? cs = some (d, rest)) :
    ∃ w : Word, w.chars ++ rest = cs ∧ w.data = d := by
  unfold word? at h
  split at h
  · next hp =>
    cases h
    exact ⟨.null, List.prefix_iff_eq_append.1 (List.isPrefixOf_iff_prefix.1 hp), rfl⟩
  · split at h
    · next hp =>
      cases h
      exact ⟨.bool true, List.prefix_iff_eq_append.1 (List.isPrefixOf_iff_prefix.1 hp), rfl⟩
    · split at h
      · next hp =>
        cases h
        exact ⟨.bool false, List.prefix_iff_eq_append.1 (List.isPrefixOf_iff_prefix.1 hp), rfl⟩
      · cases h

end LeasePlan.Json
