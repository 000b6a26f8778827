import Mathlib
import LeasePlan.Proofs.Numerals
import LeasePlan.Duration.Units

namespace LeasePlan.Duration

inductive TimeUnit
  | hour
  | minute
  | second
  | milli
  | micro
deriving DecidableEq

namespace TimeUnit

def micros : TimeUnit → Nat
  | hour => 3600000000
  | minute => 60000000
  | second => 1000000
  | milli => 1000
  | micro => 1

def chars : TimeUnit → List Char
  | hour => ['h']
  | minute => ['m']
  | second => ['s']
  | milli => ['m', 's']
  | micro => ['µ', 's']

/-- The unit at the front of a text, and the rest of the text. -/
def read? : List Char → Option (TimeUnit × List Char)
  | 'h' :: r => some (hour, r)
  | 'm' :: 's' :: r => some (milli, r)
  | 'm' :: r => some (minute, r)
  | 's' :: r => some (second, r)
  | 'µ' :: 's' :: r => some (micro, r)
  | _ => none

theorem length_lt_of_read? {u : TimeUnit} {cs r : List Char} (h : read? cs = some (u, r)) :
    r.length < cs.length := by
  unfold read? at h
  split at h
  all_goals
    cases h <;> simp only [List.length_cons] <;> omega

/-- A minute is told from a thousandth of a second by what stands behind its letter. -/
theorem read?_chars {u : TimeUnit} {rest : List Char}
    (h : u = minute → rest.head? ≠ some 's') : read? (u.chars ++ rest) = some (u, rest) := by
  cases u with
  | hour => rfl
  | minute =>
    cases rest with
    | nil => rfl
    | cons c rest =>
      have hc : c ≠ 's' := fun hc => h rfl (congrArg some hc)
      rw [chars, List.singleton_append, read?]
      exact fun r hr => hc (List.cons.inj hr).1
  | second => rfl
  | milli => rfl
  | micro => rfl

theorem exists_chars_eq (u : TimeUnit) :
    ∃ c r, u.chars = c :: r ∧ Numeral.digit? c = none ∧ c ≠ '.' := by
  cases u <;> exact ⟨_, _, rfl, rfl, by decide⟩

end TimeUnit

/-- The digits at the front of a text, by their values, and the rest of the text. -/
def digits (cs : List Char) : List Nat × List Char :=
  let run := cs.takeWhile Numeral.isDigit
  (run.filterMap Numeral.digit?, cs.drop run.length)

theorem digits_append {ds : List Nat} {c : Char} (h : ∀ d ∈ ds, d < 10)
    (hc : Numeral.digit? c = none) (rest : List Char) :
    digits (ds.map Nat.digitChar ++ c :: rest) = (ds, c :: rest) := by
  rw [digits, Numeral.takeWhile_isDigit h hc]
  simp only [Numeral.filterMap_digit? h, List.drop_left]

theorem length_digits_le (cs : List Char) : (digits cs).2.length ≤ cs.length := by
  rw [digits, List.length_drop]
  exact Nat.sub_le _ _

/-- The digits behind a point at the front of a text, if there is one, and the rest of the text. -/
def places : List Char → Option (List Nat) × List Char
  | [] => (none, [])
  | c :: r => if c = '.' then (some (digits r).1, (digits r).2) else (none, c :: r)

theorem length_places_le (cs : List Char) : (places cs).2.length ≤ cs.length := by
  cases cs with
  | nil => exact Nat.le_refl 0
  | cons c r =>
    rw [places]
    split
    · exact (length_digits_le r).trans (Nat.le_succ _)
    · exact Nat.le_refl _

def pointChars : Option (List Nat) → List Char
  | none => []
  | some ds => '.' :: ds.map Nat.digitChar

theorem places_pointChars {ps : Option (List Nat)} {c : Char} (h : ∀ d ∈ ps.getD [], d < 10)
    (hc : Numeral.digit? c = none) (hpoint : c ≠ '.') (rest : List Char) :
    places (pointChars ps ++ c :: rest) = (ps, c :: rest) := by
  cases ps with
  | none => rw [pointChars, List.nil_append, places, if_neg hpoint]
  | some ds =>
    have hds : ∀ d ∈ ds, d < 10 := h
    rw [pointChars, List.cons_append, places, if_pos rfl, digits_append hds hc]

theorem exists_pointChars_eq (u : TimeUnit) (ps : Option (List Nat)) (rest : List Char) :
    ∃ c r, pointChars ps ++ (u.chars ++ rest) = c :: r ∧ Numeral.digit? c = none := by
  cases ps with
  | none =>
    obtain ⟨c, r, hchars, hc, -⟩ := u.exists_chars_eq
    exact ⟨c, r ++ rest, by rw [hchars]; rfl, hc⟩
  | some ds => exact ⟨'.', _, rfl, rfl⟩

/-- A decimal number with a unit: its digits before and, if it has one, behind the point. -/
structure Amount where
  whole : List Nat
  places : Option (List Nat)
  unit : TimeUnit

namespace Amount

def size (a : Amount) : ℚ :=
  Numeral.ofDigits 10 a.whole +
    Numeral.ofDigits 10 (a.places.getD []) / 10 ^ (a.places.getD []).length

/-- How many microseconds an amount stands for. -/
def value (a : Amount) : ℚ := a.size * a.unit.micros

/-- The amount at the front of a text, and the rest of the text. -/
def read? (cs : List Char) : Option (Amount × List Char) :=
  let (whole, r) := digits cs
  let (ps, r) := Duration.places r
  if whole.isEmpty then none
  else (TimeUnit.read? r).map fun p => (⟨whole, ps, p.1⟩, p.2)

theorem length_lt_of_read? {a : Amount} {cs rest : List Char} (h : read? cs = some (a, rest)) :
    rest.length < cs.length := by
  have hwhole := length_digits_le cs
  have hplaces := length_places_le (digits cs).2
  unfold read? at h
  dsimp only at h
  split at h
  · cases h
  · obtain ⟨p, hp, hrest⟩ := Option.map_eq_some_iff.1 h
    have hunit := TimeUnit.length_lt_of_read? hp
    cases hrest
    omega

def chars (a : Amount) : List Char :=
  a.whole.map Nat.digitChar ++ (pointChars a.places ++ a.unit.chars)

structure WellFormed (a : Amount) : Prop where
  whole_ne_nil : a.whole ≠ []
  whole_lt : ∀ d ∈ a.whole, d < 10
  places_lt : ∀ d ∈ a.places.getD [], d < 10

theorem read?_chars {a : Amount} {rest : List Char} (ha : a.WellFormed)
    (h : a.unit = .minute → rest.head? ≠ some 's') : read? (a.chars ++ rest) = some (a, rest) := by
  obtain ⟨c, r, hrest, hc⟩ := exists_pointChars_eq a.unit a.places rest
  obtain ⟨d, s, hchars, hd, hpoint⟩ := a.unit.exists_chars_eq
  have hwhole := digits_append ha.whole_lt hc r
  have hplaces := places_pointChars ha.places_lt hd hpoint (s ++ rest)
  have hunit := TimeUnit.read?_chars h
  rw [← hrest] at hwhole
  rw [← List.cons_append, ← hchars] at hplaces
  simp only [chars, List.append_assoc, read?, hwhole, hplaces, hunit, Option.map_some,
    List.isEmpty_eq_false_iff.2 ha.whole_ne_nil, Bool.false_eq_true, ↓reduceIte]

/-- A well formed amount begins with a digit. -/
theorem WellFormed.exists_chars_eq {a : Amount} (ha : a.WellFormed) :
    ∃ c r, a.chars = c :: r ∧ Numeral.isDigit c = true := by
  cases hw : a.whole with
  | nil => exact absurd hw ha.whole_ne_nil
  | cons d ds =>
    refine ⟨d.digitChar, _, by rw [chars, hw]; rfl, ?_⟩
    have hlt : d < 10 := ha.whole_lt d (hw ▸ List.mem_cons_self)
    rw [Numeral.isDigit, Numeral.digit?_digitChar d hlt]
    rfl

end Amount

/-- The amounts that a text consists of. -/
def amounts? (cs : List Char) : Option (List Amount) :=
  if cs.isEmpty then some []
  else match _hread : Amount.read? cs with
    | none => none
    | some (a, rest) => (amounts? rest).map (a :: ·)
termination_by cs.length
decreasing_by exact Amount.length_lt_of_read? _hread

theorem amounts?_of_read? {cs rest : List Char} {a : Amount}
    (h : Amount.read? cs = some (a, rest)) : amounts? cs = (amounts? rest).map (a :: ·) := by
  have hne : ¬ cs.isEmpty = true := by
    intro hnil
    have hlt := Amount.length_lt_of_read? h
    rw [List.isEmpty_iff.1 hnil] at hlt
    cases hlt
  rw [amounts?, if_neg hne]
  split
  next hnone => cases h.symm.trans hnone
  next b s hsome =>
    cases h.symm.trans hsome
    rfl

theorem exists_flatMap_chars_eq {as : List Amount} (hne : as ≠ []) (h : ∀ a ∈ as, a.WellFormed) :
    ∃ c r, as.flatMap Amount.chars = c :: r ∧ Numeral.isDigit c = true := by
  cases as with
  | nil => exact absurd rfl hne
  | cons a as =>
    obtain ⟨c, r, hchars, hc⟩ := (h a List.mem_cons_self).exists_chars_eq
    refine ⟨c, r ++ as.flatMap Amount.chars, ?_, hc⟩
    rw [List.flatMap_cons, hchars, List.cons_append]

/-- What stands behind an amount does not make a thousandth of a second of its minutes. -/
theorem head?_flatMap_chars {as : List Amount} (h : ∀ a ∈ as, a.WellFormed) :
    (as.flatMap Amount.chars).head? ≠ some 's' := by
  by_cases hne : as = []
  · rw [hne]
    exact nofun
  · obtain ⟨c, r, hchars, hc⟩ := exists_flatMap_chars_eq hne h
    rw [hchars, List.head?_cons]
    intro hs
    rw [Option.some.inj hs] at hc
    cases hc

/-- Amounts written one behind the other are read one by one. -/
theorem amounts?_flatMap_chars {as : List Amount} (h : ∀ a ∈ as, a.WellFormed) :
    amounts? (as.flatMap Amount.chars) = some as := by
  induction as with
  | nil => rw [List.flatMap_nil, amounts?, if_pos List.isEmpty_nil]
  | cons a as ih =>
    obtain ⟨ha, has⟩ := List.forall_mem_cons.1 h
    have hread := Amount.read?_chars ha fun _ => head?_flatMap_chars has
    rw [List.flatMap_cons, amounts?_of_read? hread, ih has, Option.map_some]

/-- A sum of amounts, of which the whole may be negative. -/
structure UnitSum where
  negative : Bool
  amounts : List Amount

namespace UnitSum

def value (s : UnitSum) : ℚ :=
  let total := (s.amounts.map Amount.value).sum
  if s.negative then -total else total

def read? : List Char → Option UnitSum
  | [] => none
  | c :: r => if c = '-' then (amounts? r).map (mk true) else (amounts? (c :: r)).map (mk false)

theorem read?_minusIf {as : List Amount} (hne : as ≠ []) (h : ∀ a ∈ as, a.WellFormed)
    (negative : Bool) :
    read? (minusIf negative (as.flatMap Amount.chars)) = some ⟨negative, as⟩ := by
  have hread := amounts?_flatMap_chars h
  cases negative with
  | true =>
    rw [minusIf, if_pos rfl, read?, if_pos rfl, hread]
    rfl
  | false =>
    obtain ⟨c, r, hchars, hc⟩ := exists_flatMap_chars_eq hne h
    have hminus : c ≠ '-' := by
      rintro rfl
      cases hc
    rw [hchars] at hread ⊢
    rw [minusIf, if_neg Bool.false_ne_true, read?, if_neg hminus, hread]
    rfl

end UnitSum

/-- No zero ends the digits behind the point, and there are some if there is a point. -/
def Amount.Trimmed (a : Amount) : Prop :=
  ∀ ds, a.places = some ds → ∃ es d, ds = es ++ [d] ∧ d ≠ 0

/-- An amount and how it is written. -/
structure Amount.Writes (a : Amount) (number : List Char) (size : ℚ) (unit : TimeUnit) : Prop where
  chars_eq : a.chars = number ++ unit.chars
  unit_eq : a.unit = unit
  size_eq : a.size = size
  wellFormed : a.WellFormed
  trimmed : a.Trimmed

theorem exists_writes (places n : Nat) (unit : TimeUnit) :
    ∃ a : Amount, a.Writes (Numeral.fraction places n) (n / 10 ^ places) unit := by
  obtain ⟨ws, hws, hwhole, hdecimal⟩ :=
    Numeral.exists_digits (by decide : 1 < 10) (n / 10 ^ places)
  obtain ⟨ds, hds, hlen, hof, htrim⟩ := Numeral.exists_trimZeros_padded places (n % 10 ^ places)
  have hne : ws ≠ [] := by
    rintro rfl
    exact Nat.toDigits_ne_nil hdecimal
  have hparts : (n : ℚ) = (n / 10 ^ places : Nat) * 10 ^ places + (n % 10 ^ places : Nat) := by
    exact_mod_cast (Nat.div_add_mod' n (10 ^ places)).symm
  have hsize : (n : ℚ) / 10 ^ places =
      Numeral.ofDigits 10 ws + Numeral.ofDigits 10 ds / 10 ^ ds.length := by
    rw [Numeral.div_pow_eq _ hlen, hof, hwhole, Nat.mod_mod]
    conv_lhs => rw [hparts]
    field_simp
  cases ds with
  | nil =>
    refine ⟨⟨ws, none, unit⟩, ?_, rfl, hsize.symm, ⟨hne, hws, List.forall_mem_nil _⟩, nofun⟩
    rw [Numeral.fraction_eq_decimal htrim, Numeral.decimal, hdecimal]
    rfl
  | cons d ds =>
    refine ⟨⟨ws, some (d :: ds), unit⟩, ?_, rfl, hsize.symm, ⟨hne, hws, hds⟩, ?_⟩
    · rw [Numeral.fraction_eq_append htrim, Numeral.decimal, hdecimal]
      exact (List.append_assoc _ _ _).symm
    · intro ps hps
      obtain rfl := Option.some.inj hps
      obtain hnil | ⟨es, e, hes⟩ := List.eq_nil_or_concat' (d :: ds)
      · cases hnil
      · refine ⟨es, e, hes, ?_⟩
        rintro rfl
        have hlast := Numeral.getLast?_trimZeros (Numeral.padded places (n % 10 ^ places))
        rw [htrim, hes, List.map_append, List.map_singleton, List.getLast?_concat] at hlast
        exact hlast rfl

/-- How many of a unit are too many, as the next larger one is used for them. -/
def TimeUnit.limit? : TimeUnit → Option Nat
  | hour => none
  | minute => some 60
  | second => some 60
  | milli => some 1000
  | micro => some 1000

def Amount.WithinLimit (a : Amount) : Prop := ∀ m ∈ a.unit.limit?, a.size < m

/-- Amounts in some units one behind the other, as a text spells them. -/
structure Spells (us : List TimeUnit) (cs : List Char) (total : ℚ) (as : List Amount) : Prop where
  units_eq : as.map Amount.unit = us
  chars_eq : as.flatMap Amount.chars = cs
  total_eq : (as.map Amount.value).sum = total
  wellFormed : ∀ a ∈ as, a.WellFormed
  withinLimit : ∀ a ∈ as, a.WithinLimit
  trimmed : ∀ a ∈ as, a.Trimmed

namespace Spells

theorem nil : Spells [] [] 0 [] :=
  ⟨rfl, rfl, rfl, List.forall_mem_nil _, List.forall_mem_nil _, List.forall_mem_nil _⟩

/-- One more amount in front. -/
theorem cons {us : List TimeUnit} {cs : List Char} {total : ℚ} {as : List Amount}
    (u : TimeUnit) (places n : Nat) (hlimit : ∀ m ∈ u.limit?, n < m * 10 ^ places)
    (h : Spells us cs total as) :
    ∃ a, Spells (u :: us) (Numeral.fraction places n ++ (u.chars ++ cs))
      (n / 10 ^ places * u.micros + total) (a :: as) := by
  obtain ⟨a, ha⟩ := exists_writes places n u
  refine ⟨a, ?_, ?_, ?_, ?_, ?_, ?_⟩
  · rw [List.map_cons, ha.unit_eq, h.units_eq]
  · rw [List.flatMap_cons, ha.chars_eq, h.chars_eq, List.append_assoc]
  · rw [List.map_cons, List.sum_cons, Amount.value, ha.size_eq, ha.unit_eq, h.total_eq]
  · exact List.forall_mem_cons.2 ⟨ha.wellFormed, h.wellFormed⟩
  · refine List.forall_mem_cons.2 ⟨?_, h.withinLimit⟩
    intro m hm
    rw [ha.unit_eq] at hm
    rw [ha.size_eq, div_lt_iff₀ (by positivity)]
    exact_mod_cast hlimit m hm
  · exact List.forall_mem_cons.2 ⟨ha.trimmed, h.trimmed⟩

theorem congr {us : List TimeUnit} {cs cs' : List Char} {total total' : ℚ} {as : List Amount}
    (h : Spells us cs total as) (hcs : cs' = cs) (htotal : total = total') :
    Spells us cs' total' as := by
  subst hcs htotal
  exact h

end Spells

theorem decimal_eq_fraction (n : Nat) : Numeral.decimal n = Numeral.fraction 0 n := by
  have h : Numeral.fraction 0 n = Numeral.decimal (n / 10 ^ 0) := Numeral.fraction_eq_decimal rfl
  rw [h, pow_zero, Nat.div_one]

section Forms

variable {n : Nat}

theorem exists_spells_zero : ∃ as, Spells [.second] (unitChars 0) (0 : Nat) as := by
  obtain ⟨a, ha⟩ := Spells.cons .second 0 0 (by rintro m ⟨⟩; decide) .nil
  exact ⟨[a], ha.congr rfl (by push_cast; ring)⟩

theorem exists_spells_micro (hpos : n ≠ 0) (hlt : n < 1000) :
    ∃ as, Spells [.micro] (unitChars n) n as := by
  obtain ⟨a, ha⟩ := Spells.cons .micro 0 n (by rintro m ⟨⟩; omega) .nil
  refine ⟨[a], ha.congr ?_ ?_⟩
  · rw [unitChars, if_neg hpos, if_pos hlt, decimal_eq_fraction]
    rfl
  · simp only [TimeUnit.micros]
    push_cast
    ring

theorem exists_spells_milli (hle : 1000 ≤ n) (hlt : n < 1000000) :
    ∃ as, Spells [.milli] (unitChars n) n as := by
  obtain ⟨a, ha⟩ := Spells.cons .milli 3 n (by rintro m ⟨⟩; omega) .nil
  refine ⟨[a], ha.congr ?_ ?_⟩
  · rw [unitChars, if_neg (by omega), if_neg (by omega), if_pos hlt]
    rfl
  · simp only [TimeUnit.micros]
    push_cast
    ring

/-- The seconds behind full minutes. -/
theorem exists_spells_second (n : Nat) : ∃ a, Spells [.second]
    (Numeral.fraction 6 (n % 60000000) ++ ['s']) (n % 60000000 : Nat) [a] := by
  obtain ⟨a, ha⟩ := Spells.cons .second 6 (n % 60000000) (by rintro m ⟨⟩; omega) .nil
  refine ⟨a, ha.congr rfl ?_⟩
  simp only [TimeUnit.micros]
  push_cast
  ring

/-- The minutes behind full hours, and the seconds behind them. -/
theorem exists_spells_minute (n : Nat) : ∃ a b, Spells [.minute, .second]
    (Numeral.decimal (n % 3600000000 / 60000000) ++
      'm' :: (Numeral.fraction 6 (n % 60000000) ++ ['s'])) (n % 3600000000 : Nat) [a, b] := by
  obtain ⟨b, hb⟩ := exists_spells_second n
  obtain ⟨a, ha⟩ := Spells.cons .minute 0 (n % 3600000000 / 60000000)
    (by rintro m ⟨⟩; omega) hb
  have hsum : (n % 3600000000 / 60000000 : Nat) * (60000000 : ℚ) + (n % 60000000 : Nat) =
      (n % 3600000000 : Nat) := by
    have h : n % 3600000000 / 60000000 * 60000000 + n % 60000000 = n % 3600000000 := by omega
    exact_mod_cast h
  refine ⟨a, b, ha.congr ?_ ?_⟩
  · rw [decimal_eq_fraction]
    rfl
  · rw [← hsum]
    simp only [TimeUnit.micros]
    push_cast
    ring

theorem exists_spells_hour (n : Nat) : ∃ as, Spells [.hour, .minute, .second]
    (Numeral.decimal (n / 3600000000) ++
      'h' :: (Numeral.decimal (n % 3600000000 / 60000000) ++
        'm' :: (Numeral.fraction 6 (n % 60000000) ++ ['s']))) n as := by
  obtain ⟨b, c, h⟩ := exists_spells_minute n
  obtain ⟨a, ha⟩ := Spells.cons .hour 0 (n / 3600000000) (by rintro m ⟨⟩) h
  have hsum : (n / 3600000000 : Nat) * (3600000000 : ℚ) + (n % 3600000000 : Nat) = n := by
    exact_mod_cast Nat.div_add_mod' n 3600000000
  refine ⟨[a, b, c], ha.congr ?_ ?_⟩
  · rw [decimal_eq_fraction (n / 3600000000)]
    rfl
  · rw [← hsum]
    simp only [TimeUnit.micros]
    push_cast
    ring

/-- The units that stand together in a text. -/
def forms : List (List TimeUnit) :=
  [[.micro], [.milli], [.second], [.minute, .second], [.hour, .minute, .second]]

theorem exists_spells (n : Nat) : ∃ us ∈ forms, ∃ as, Spells us (unitChars n) n as := by
  by_cases hzero : n = 0
  · rw [hzero]
    exact ⟨[.second], by decide, exists_spells_zero⟩
  by_cases hmicro : n < 1000
  · exact ⟨[.micro], by decide, exists_spells_micro hzero hmicro⟩
  by_cases hmilli : n < 1000000
  · exact ⟨[.milli], by decide, exists_spells_milli (Nat.le_of_not_lt hmicro) hmilli⟩
  rw [unitChars, if_neg hzero, if_neg hmicro, if_neg hmilli]
  dsimp only
  split
  next hhour => exact ⟨[.hour, .minute, .second], by decide, exists_spells_hour n⟩
  next hhour =>
    split
    next hminute =>
      obtain ⟨a, b, h⟩ := exists_spells_minute n
      exact ⟨[.minute, .second], by decide, [a, b], h.congr rfl (by congr 1; omega)⟩
    next hminute =>
      obtain ⟨a, h⟩ := exists_spells_second n
      exact ⟨[.second], by decide, [a], h.congr rfl (by congr 1; omega)⟩

end Forms

/-- The units of a sum are few and fall in order, minutes and seconds stay below sixty and the
smaller units below a thousand, and no zero ends a fraction. -/
structure UnitSum.IsTidy (s : UnitSum) : Prop where
  units : s.amounts.map Amount.unit ∈ forms
  withinLimit : ∀ a ∈ s.amounts, a.WithinLimit
  trimmed : ∀ a ∈ s.amounts, a.Trimmed

theorem exists_read?_unitText (micros : Int) : ∃ s,
    UnitSum.read? (unitText micros).toList = some s ∧ s.value = micros ∧ s.IsTidy := by
  obtain ⟨us, hus, as, h⟩ := exists_spells micros.natAbs
  have hne : as ≠ [] := by
    rintro rfl
    rw [← h.units_eq] at hus
    exact absurd hus (by decide)
  refine ⟨⟨micros < 0, as⟩, ?_, ?_, h.units_eq ▸ hus, h.withinLimit, h.trimmed⟩
  · rw [unitText, String.toList_ofList, ← h.chars_eq]
    exact UnitSum.read?_minusIf hne h.wellFormed _
  · simp only [UnitSum.value, h.total_eq, decide_eq_true_eq]
    split
    next hneg => rw [← Int.cast_natCast, Int.ofNat_natAbs_of_nonpos hneg.le, Int.cast_neg, neg_neg]
    next hpos => rw [← Int.cast_natCast, Int.natAbs_of_nonneg (not_lt.1 hpos)]

/-- A count of days, of which alone there may be less than none, with the seconds of the day and the
microseconds of the second. -/
@[ext] structure DayTime where
  days : Int
  seconds : Nat
  micros : Nat
  le_days : -999999999 ≤ days
  days_le : days ≤ 999999999
  seconds_lt : seconds < 86400
  micros_lt : micros < 1000000

namespace DayTime

def duration (t : DayTime) : Duration where
  micros := (t.days * 86400 + t.seconds) * microsPerSecond + t.micros
  min_le := by
    have hdays := t.le_days
    simp only [minMicros, microsPerDay, microsPerSecond]
    omega
  le_max := by
    have hdays := t.days_le
    have hseconds := t.seconds_lt
    have hmicros := t.micros_lt
    simp only [maxMicros, microsPerDay, microsPerSecond]
    omega

theorem micros_duration (t : DayTime) :
    t.duration.micros = (t.days * 86400 + t.seconds) * 1000000 + t.micros := rfl

theorem bijective_duration : Function.Bijective duration := by
  constructor
  · intro t u h
    have hmicros := congrArg Duration.micros h
    rw [micros_duration, micros_duration] at hmicros
    have ht := t.seconds_lt
    have ht' := t.micros_lt
    have hu := u.seconds_lt
    have hu' := u.micros_lt
    apply DayTime.ext
    · omega
    · omega
    · omega
  · intro d
    have hlo := d.min_le
    have hhi := d.le_max
    simp only [minMicros, maxMicros, microsPerDay, microsPerSecond] at hlo hhi
    refine ⟨⟨d.micros / 86400000000, (d.micros % 86400000000 / 1000000).toNat,
      (d.micros % 1000000).toNat, by omega, by omega, by omega, by omega⟩, ?_⟩
    apply Duration.ext
    rw [micros_duration]
    dsimp only
    omega

end DayTime

/-- The text of a duration, read as a sum of units, is the duration to the microsecond, so no two
durations share a text; and every duration is one count of days and time of day. -/
theorem unitText_lossless :
    (∀ d : Duration, ∃ s, UnitSum.read? (unitText d.micros).toList = some s ∧
      s.value = d.micros ∧ s.IsTidy) ∧
    (∀ d e : Duration, unitText d.micros = unitText e.micros ↔ d = e) ∧
    Function.Bijective DayTime.duration := by
  refine ⟨fun d => exists_read?_unitText d.micros, ?_, DayTime.bijective_duration⟩
  intro d e
  constructor
  · intro h
    obtain ⟨s, hs, hd, -⟩ := exists_read?_unitText d.micros
    obtain ⟨t, ht, he, -⟩ := exists_read?_unitText e.micros
    rw [h, ht] at hs
    cases hs
    apply Duration.ext
    exact_mod_cast hd.symm.trans he
  · rintro rfl
    rfl

end LeasePlan.Duration
