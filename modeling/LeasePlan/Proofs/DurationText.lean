import Mathlib
import LeasePlan.Config.Dump
import LeasePlan.Document.Scalar
import LeasePlan.Proofs.Numerals
import LeasePlan.Proofs.Outcome
import LeasePlan.Proofs.Rounding

namespace LeasePlan.Duration

section Fraction

open Binary64

/-- Counting the digits of a fraction loses nothing, as the counts are whole numbers. -/
theorem denotes_counts {ds : List Nat} (h : ∀ d ∈ ds, d < 10) (hlen : ds.length ≤ 15) :
    let p := ds.foldl (fun (p : Binary64 × Binary64) (d : Nat) =>
      ((p.1.mul (ofInt 10)).add (ofInt d), p.2.mul (ofInt 10))) (Binary64.zero, ofInt 1)
    p.1.Denotes (Numeral.ofDigits 10 ds : Nat) ∧ p.2.Denotes (10 ^ ds.length : Nat) := by
  induction ds using List.reverseRecOn with
  | nil => exact ⟨denotes_zero, denotes_ofInt (n := 1) (by norm_num)⟩
  | append_singleton ds d ih =>
    rw [List.forall_mem_append] at h
    rw [List.length_append, List.length_singleton] at hlen
    have hd := h.2 d (List.mem_singleton_self d)
    obtain ⟨hnum, hden⟩ := ih h.1 (by omega)
    have hbound : 10 ^ (ds.length + 1) ≤ 10 ^ 15 := Nat.pow_le_pow_right (by decide) hlen
    have hlt := Numeral.ofDigits_lt h.1
    rw [pow_succ] at hbound
    have hten : (ofInt 10).Denotes (10 : Nat) := denotes_ofInt (n := 10) (by norm_num)
    have hshift := hnum.mul hten
    have hpower := hden.mul hten
    rw [← Nat.cast_mul] at hshift hpower
    have hsum := (hshift.denotes (by omega)).add (denotes_ofInt (n := d) (by omega))
    rw [← Nat.cast_add, ← Numeral.ofDigits_concat] at hsum
    simp only [List.foldl_append, List.foldl_cons, List.foldl_nil, List.length_append,
      List.length_singleton, pow_succ]
    refine ⟨hsum.denotes ?_, hpower.denotes (by omega)⟩
    rw [Numeral.ofDigits_concat]
    omega

theorem rounds_fractionOf {ds : List Nat} (h : ∀ d ∈ ds, d < 10) (hlen : ds.length ≤ 15) :
    (fractionOf ds).Rounds ((Numeral.ofDigits 10 ds : Nat) / (10 ^ ds.length : Nat)) := by
  obtain ⟨hnum, hden⟩ := denotes_counts h hlen
  exact hnum.div hden (Nat.cast_ne_zero.2 (pow_ne_zero _ (by decide)))

/-- A fraction within a small distance of a count of microseconds is read as that count. -/
theorem microsOf_eq {x : Binary64} {v : ℚ} {n : Nat} (hx : x.Denotes v) (hn : n < 1000000)
    (h : |v - n / 1000000| ≤ 2 ^ (-50 : ℤ)) : microsOf x = n := by
  obtain ⟨hlo, hhi⟩ := abs_le.1 h
  have hcast : (n : ℚ) ≤ 999999 := by exact_mod_cast Nat.le_of_lt_succ hn
  have hmillion : (ofInt 1000000).Denotes (1000000 : Nat) :=
    denotes_ofInt (n := 1000000) (by norm_num)
  norm_num at hlo hhi
  obtain ⟨w, hw, herr⟩ := (hx.mul hmillion).near (k := 20) (by norm_num; linarith) (by decide)
  obtain ⟨hlo', hhi'⟩ := abs_le.1 herr
  norm_num at hlo' hhi'
  rw [microsOf, hw.roundHalfUp, Nat.floor_eq_iff (by linarith)]
  constructor <;> linarith

theorem places_lt {ds : List Nat} (h : ∀ d ∈ ds, d < 10) (hlen : ds.length ≤ 6) :
    Numeral.ofDigits 10 ds * 10 ^ (6 - ds.length) < 1000000 :=
  calc Numeral.ofDigits 10 ds * 10 ^ (6 - ds.length)
    _ < 10 ^ ds.length * 10 ^ (6 - ds.length) :=
      Nat.mul_lt_mul_of_pos_right (Numeral.ofDigits_lt h) (pow_pos (by decide) _)
    _ = 10 ^ 6 := by rw [← pow_add, Nat.add_sub_cancel' hlen]

/-- The fraction that decimal places stand for, in millionths. -/
theorem places_quotient {ds : List Nat} (hlen : ds.length ≤ 6) :
    ((Numeral.ofDigits 10 ds : Nat) : ℚ) / (10 ^ ds.length : Nat) =
      (Numeral.ofDigits 10 ds * 10 ^ (6 - ds.length) : Nat) / 1000000 := by
  have h := Numeral.div_pow_eq (Numeral.ofDigits 10 ds) hlen
  norm_num at h ⊢
  exact h

/-- Up to six decimal places of a second are read to the microsecond. -/
theorem addTime_fraction (p : Parts) (n : Nat) {ds : List Nat} (h : ∀ d ∈ ds, d < 10)
    (hlen : ds.length ≤ 6) : p.addTime n 1 (some (fractionOf ds)) =
      ⟨p.days, p.seconds + n, p.micros + Numeral.ofDigits 10 ds * 10 ^ (6 - ds.length)⟩ := by
  have hlt := places_lt h hlen
  have hquotient := places_quotient hlen
  set micros := Numeral.ofDigits 10 ds * 10 ^ (6 - ds.length)
  have hcast : (micros : ℚ) ≤ 999999 := by exact_mod_cast Nat.le_of_lt_succ hlt
  have hone : (ofInt 1).Denotes (1 : Nat) := denotes_ofInt (n := 1) (by norm_num)
  obtain ⟨u, hu, hu'⟩ := (rounds_fractionOf h (by omega)).near (k := 0)
    (by rw [hquotient, pow_zero]; linarith) (by decide)
  rw [hquotient] at hu'
  obtain ⟨hulo, huhi⟩ := abs_le.1 hu'
  norm_num at hulo huhi
  obtain ⟨v, hv, hv'⟩ := (hu.mul hone).near (k := 0) (by norm_num; linarith) (by decide)
  rw [Nat.cast_one, mul_one] at hv'
  obtain ⟨hvlo, hvhi⟩ := abs_le.1 hv'
  norm_num at hvlo hvhi
  have hvone : v < 1 := by linarith
  obtain ⟨w, hw, hw'⟩ := (hv.fractionPart hvone).near (k := 0) (by norm_num; linarith) (by decide)
  obtain ⟨hwlo, hwhi⟩ := abs_le.1 hw'
  norm_num at hwlo hwhi
  have hwhole : ((fractionOf ds).mul (ofInt 1)).wholePart = 0 := by
    rw [hv.wholePart, Nat.floor_eq_zero]
    exact hvone
  have hread : microsOf ((fractionOf ds).mul (ofInt 1)).fractionPart = micros := by
    refine microsOf_eq hw hlt (abs_le.2 ⟨?_, ?_⟩) <;> norm_num <;> linarith
  simp only [Parts.addTime, Nat.cast_one, Nat.mul_one, hwhole, Nat.add_zero, hread]

end Fraction

section Units

variable {ds : List Nat} {c : Char} {n : Nat}

theorem number_digits (hne : ds ≠ []) (h : ∀ d ∈ ds, d < 10)
    (hmax : Numeral.ofDigits 10 ds ≤ 4294967295) (hc : Numeral.digit? c = none)
    (rest : List Char) :
    number (ds.map Nat.digitChar ++ c :: rest) = .ok (Numeral.ofDigits 10 ds, c :: rest) := by
  have hfull : (ds.map Nat.digitChar).isEmpty = false := by
    rw [List.isEmpty_eq_false_iff]
    exact mt List.map_eq_nil_iff.1 hne
  rw [number, Numeral.takeWhile_isDigit h hc]
  simp only [hfull, Bool.false_eq_true, ↓reduceIte, Numeral.filterMap_digit? h,
    if_neg (Nat.not_lt.2 hmax), List.drop_left]

theorem number_decimal (hmax : n ≤ 4294967295) (hc : Numeral.digit? c = none)
    (rest : List Char) : number (Numeral.decimal n ++ c :: rest) = .ok (n, c :: rest) := by
  obtain ⟨ds, hds, hof, hto⟩ := Numeral.exists_digits (by decide : 1 < 10) n
  have hne : ds ≠ [] := by
    rintro rfl
    exact Nat.toDigits_ne_nil hto
  rw [Numeral.decimal, hto, number_digits hne hds (hof ▸ hmax) hc, hof]

theorem numberWithFraction_decimal (hmax : n ≤ 4294967295) (hc : Numeral.digit? c = none)
    (hpoint : c ≠ '.') (hcomma : c ≠ ',') (rest : List Char) :
    numberWithFraction (Numeral.decimal n ++ c :: rest) = .ok (n, none, c :: rest) := by
  rw [numberWithFraction, number_decimal hmax hc]
  simp only [bind, Except.bind, hpoint, hcomma, decide_false, Bool.or_self, Bool.false_eq_true,
    ↓reduceIte]

theorem numberWithFraction_point (hmax : n ≤ 4294967295) (h : ∀ d ∈ ds, d < 10)
    (hc : Numeral.digit? c = none) (rest : List Char) :
    numberWithFraction (Numeral.decimal n ++ '.' :: (ds.map Nat.digitChar ++ c :: rest)) =
      .ok (n, some (fractionOf ds), c :: rest) := by
  rw [numberWithFraction, number_decimal hmax rfl]
  simp only [bind, Except.bind, decide_true, Bool.true_or, ↓reduceIte,
    Numeral.takeWhile_isDigit h hc, Numeral.filterMap_digit? h, List.drop_left]

/-- The seconds or days of so many units of time or date. -/
def unit? (inTime : Bool) : Char → Option Nat := if inTime then timeUnit? else dateUnit?

def Parts.plus (p : Parts) (inTime : Bool) (amount : Nat) : Parts :=
  if inTime then { p with seconds := p.seconds + amount } else { p with days := p.days + amount }

structure Parts.Fits (p : Parts) : Prop where
  days : p.days ≤ 4294967295
  seconds : p.seconds ≤ 4294967295

theorem Parts.check_eq {p : Parts} (h : p.Fits) : p.check = .ok p := by
  rw [Parts.check, decide_eq_false (Nat.not_lt.2 h.days), decide_eq_false (Nat.not_lt.2 h.seconds)]
  rfl

/-- With as much fuel as there are characters, the units of a text take some parts to others. -/
def Adds (inTime : Bool) (p : Parts) (cs : List Char) (q : Parts) : Prop :=
  ∀ fuel, cs.length ≤ fuel → isoUnits fuel inTime false p cs = .ok q

theorem unit?_letter {inTime : Bool} {unit : Nat} (h : unit? inTime c = some unit) :
    Numeral.digit? c = none ∧ c ≠ '.' ∧ c ≠ ',' := by
  cases inTime with
  | true =>
    simp only [unit?, ↓reduceIte] at h
    unfold timeUnit? at h
    split at h <;> first | decide | cases h
  | false =>
    simp only [unit?, Bool.false_eq_true, ↓reduceIte] at h
    unfold dateUnit? at h
    split at h <;> first | decide | cases h

theorem head_decimal_ne (hc : Numeral.digit? c = none) (n : Nat) :
    ∃ d ds, Numeral.decimal n = d :: ds ∧ d ≠ c := by
  cases hn : Numeral.decimal n with
  | nil => exact absurd hn Nat.toDigits_ne_nil
  | cons d ds =>
    refine ⟨d, ds, rfl, ?_⟩
    rintro rfl
    exact Numeral.not_mem_decimal hc n (hn ▸ List.mem_cons_self)

namespace Adds

variable {p q : Parts} {inTime : Bool} {rest : List Char}

theorem nil (inTime : Bool) (p : Parts) : Adds inTime p [] p := by
  intro fuel _
  cases fuel <;> rfl

theorem mark (h : Adds true p rest q) : Adds false p ('T' :: rest) q := by
  intro fuel hfuel
  cases fuel with
  | zero => cases hfuel
  | succ fuel => exact h fuel (Nat.le_of_succ_le_succ hfuel)

/-- One count with its unit, if it is written at all. -/
theorem part {unit : Nat} (hunit : unit? inTime c = some unit) (hmax : n ≤ 4294967295)
    (hfits : (p.plus inTime (n * unit)).Fits) (h : Adds inTime (p.plus inTime (n * unit)) rest q) :
    Adds inTime p (Duration.part n c ++ rest) q := by
  by_cases hn : n = 0
  · rw [Duration.part, if_pos hn, List.nil_append]
    have hsame : p.plus inTime (n * unit) = p := by
      rw [hn, Nat.zero_mul]
      cases inTime <;> rfl
    rwa [hsame] at h
  · rw [Duration.part, if_neg hn, List.append_assoc, List.singleton_append]
    obtain ⟨hc, hpoint, hcomma⟩ := unit?_letter hunit
    obtain ⟨d, ds, hdec, hd⟩ := head_decimal_ne (c := 'T') rfl n
    have hread := numberWithFraction_decimal hmax hc hpoint hcomma rest
    intro fuel hfuel
    rw [hdec] at hread hfuel ⊢
    simp only [List.cons_append, List.length_cons, List.length_append] at hfuel
    cases fuel with
    | zero => cases hfuel
    | succ fuel =>
      have htail := h fuel (by omega)
      rw [List.cons_append] at hread ⊢
      cases inTime with
      | true =>
        simp only [unit?, ↓reduceIte] at hunit
        simp only [Parts.plus, ↓reduceIte] at hfits htail
        simp only [isoUnits, hd, hread, bind, Except.bind, hunit, Parts.addTime,
          Parts.check_eq hfits, Option.isSome_none, htail, Bool.false_eq_true, ↓reduceIte]
      | false =>
        simp only [unit?, Bool.false_eq_true, ↓reduceIte] at hunit
        simp only [Parts.plus, Bool.false_eq_true, ↓reduceIte] at hfits htail
        simp only [isoUnits, hd, hread, bind, Except.bind, hunit, Parts.addDate,
          Parts.check_eq hfits, Option.isSome_none, htail, Bool.false_eq_true, ↓reduceIte]

theorem date {days u : Nat} (hunit : dateUnit? c = some u) (hmax : n ≤ 4294967295)
    (hfits : days + n * u ≤ 4294967295) (h : Adds false ⟨days + n * u, 0, 0⟩ rest q) :
    Adds false ⟨days, 0, 0⟩ (Duration.part n c ++ rest) q :=
  part hunit hmax ⟨hfits, Nat.zero_le _⟩ h

theorem time {days s u : Nat} (hunit : timeUnit? c = some u) (hmax : n ≤ 4294967295)
    (hdays : days ≤ 4294967295) (hfits : s + n * u ≤ 4294967295)
    (h : Adds true ⟨days, s + n * u, 0⟩ rest q) :
    Adds true ⟨days, s, 0⟩ (Duration.part n c ++ rest) q :=
  part hunit hmax ⟨hdays, hfits⟩ h

/-- Seconds with decimal places are the last unit. -/
theorem fraction {days s : Nat} (h : ∀ d ∈ ds, d < 10) (hlen : ds.length ≤ 6)
    (hdays : days ≤ 4294967295) (hfits : s + n ≤ 4294967295) :
    Adds true ⟨days, s, 0⟩ (Numeral.decimal n ++ '.' :: (ds.map Nat.digitChar ++ ['S']))
      ⟨days, s + n, Numeral.ofDigits 10 ds * 10 ^ (6 - ds.length)⟩ := by
  obtain ⟨d, es, hdec, hd⟩ := head_decimal_ne (c := 'T') rfl n
  have hmax : n ≤ 4294967295 := (Nat.le_add_left n s).trans hfits
  have hread := numberWithFraction_point (c := 'S') hmax h rfl []
  have hadd := addTime_fraction ⟨days, s, 0⟩ n h hlen
  rw [Nat.zero_add] at hadd
  have hcheck := Parts.check_eq (p := ⟨days, s + n, Numeral.ofDigits 10 ds * 10 ^ (6 - ds.length)⟩)
    ⟨hdays, hfits⟩
  intro fuel hfuel
  rw [hdec] at hread hfuel ⊢
  cases fuel with
  | zero => cases hfuel
  | succ fuel =>
    rw [List.cons_append] at hread ⊢
    simp only [isoUnits, hd, hread, bind, Except.bind, timeUnit?, hadd, hcheck, Bool.false_eq_true,
      ↓reduceIte]

theorem seconds {days s m : Nat} (hdays : days ≤ 4294967295)
    (hfits : s + m / 1000000 ≤ 4294967295) :
    Adds true ⟨days, s, 0⟩ (if m = 0 then [] else Numeral.fraction 6 m ++ ['S'])
      ⟨days, s + m / 1000000, m % 1000000⟩ := by
  by_cases hm : m = 0
  · rw [if_pos hm, hm]
    exact nil true _
  · obtain ⟨ds, hds, hlen, hof, htrim⟩ := Numeral.exists_trimZeros_padded 6 (m % 1000000)
    change Numeral.trimZeros (Numeral.padded 6 (m % Nat.pow 10 6)) = _ at htrim
    rw [if_neg hm, Numeral.fraction, htrim]
    norm_num at hof
    cases ds with
    | nil =>
      have hzero : m % 1000000 = 0 := hof.symm
      have hwhole : Adds true ⟨days, s, 0⟩ (Duration.part (m / 1000000) 'S' ++ [])
          ⟨days, s + m / 1000000 * 1, 0⟩ :=
        time rfl (by omega) hdays (by omega) (nil true _)
      rw [Duration.part, if_neg (by omega), List.append_nil, Nat.mul_one] at hwhole
      rw [hzero]
      exact hwhole
    | cons d ds =>
      have hplaces := fraction hds hlen hdays hfits
      rw [hof] at hplaces
      simpa only [List.map_cons, List.cons_append, List.append_assoc] using hplaces

end Adds

end Units

section Text

theorem isoChars_zero : isoChars 0 = ['P', 'T', '0', 'S'] := rfl

/-- The units of a time of day, which stand behind the mark `T`. -/
def timeUnits (rest : Nat) : List Char :=
  part (rest / 3600000000) 'H' ++ (part (rest % 3600000000 / 60000000) 'M' ++
    if rest % 60000000 = 0 then [] else Numeral.fraction 6 (rest % 60000000) ++ ['S'])

/-- The units of a magnitude, which stand behind the mark `P`. -/
def units (n : Nat) : List Char :=
  part (n / 86400000000 / 365) 'Y' ++ (part (n / 86400000000 % 365) 'D' ++
    if n % 86400000000 = 0 then [] else 'T' :: timeUnits (n % 86400000000))

theorem isoChars_eq {n : Nat} (h : n ≠ 0) : isoChars n = 'P' :: units n := by
  rw [isoChars, units, timeUnits]
  simp only [h, ↓reduceIte, List.append_assoc]

theorem adds_timeUnits {days rest : Nat} (hdays : days ≤ 4294967295)
    (hlt : rest < 86400000000) :
    Adds true ⟨days, 0, 0⟩ (timeUnits rest) ⟨days, rest / 1000000, rest % 1000000⟩ := by
  set hours := rest / 3600000000
  set minutes := rest % 3600000000 / 60000000
  have hsum : 0 + hours * 3600 + minutes * 60 + rest % 60000000 / 1000000 = rest / 1000000 := by
    omega
  have hmicros : rest % 60000000 % 1000000 = rest % 1000000 := by omega
  have hseconds := Adds.seconds (s := 0 + hours * 3600 + minutes * 60) (m := rest % 60000000)
    hdays (by omega)
  rw [hsum, hmicros] at hseconds
  apply Adds.time (u := 3600) rfl (by omega) hdays (by omega)
  apply Adds.time (u := 60) rfl (by omega) hdays (by omega)
  exact hseconds

/-- The units that are written for a magnitude are read as its days, seconds and microseconds. -/
theorem adds_units {n : Nat} (h : n / 86400000000 ≤ 999999999) :
    Adds false ⟨0, 0, 0⟩ (units n)
      ⟨n / 86400000000, n % 86400000000 / 1000000, n % 86400000000 % 1000000⟩ := by
  set days := n / 86400000000
  have hrest : n % 86400000000 < 86400000000 := Nat.mod_lt n (by decide)
  have hsum : 0 + days / 365 * 365 + days % 365 * 1 = days := by omega
  apply Adds.date (u := 365) rfl (by omega) (by omega)
  apply Adds.date (u := 1) rfl (by omega) (by omega)
  rw [hsum]
  split
  next hzero =>
    rw [hzero]
    exact Adds.nil false _
  next => exact (adds_timeUnits (h.trans (by decide)) hrest).mark

theorem length_part (n : Nat) (c : Char) : n = 0 ∨ 2 ≤ (part n c).length := by
  by_cases h : n = 0
  · exact .inl h
  · have hpos : 0 < (Numeral.decimal n).length := List.length_pos_of_ne_nil Nat.toDigits_ne_nil
    right
    rw [part, if_neg h, List.length_append, List.length_singleton]
    omega

theorem three_le_length_isoChars (n : Nat) : 3 ≤ (isoChars n).length := by
  by_cases hn : n = 0
  · rw [hn]
    decide
  · have hyears := length_part (n / 86400000000 / 365) 'Y'
    have hdays := length_part (n / 86400000000 % 365) 'D'
    have hhours := length_part (n % 86400000000 / 3600000000) 'H'
    have hminutes := length_part (n % 86400000000 % 3600000000 / 60000000) 'M'
    rw [isoChars_eq hn, units]
    simp only [List.length_cons, List.length_append]
    split
    next hrest => omega
    next hrest =>
      simp only [timeUnits, List.length_cons, List.length_append]
      split
      next hseconds => omega
      next hseconds =>
        rw [List.length_append, List.length_singleton]
        omega

theorem Parts.settle_eq {p : Parts} {n : Nat} (hp : p.total = n)
    (h : n / 86400000000 ≤ 999999999) : p.settle = .ok n := by
  rw [settle, hp, if_neg (Nat.not_lt.2 h)]

theorem exists_adds {n : Nat} (h : n / 86400000000 ≤ 999999999) : ∃ us p,
    isoChars n = 'P' :: us ∧ Adds false ⟨0, 0, 0⟩ us p ∧ p.settle = .ok n := by
  by_cases hn : n = 0
  · have hzero : Adds true ⟨0, 0, 0⟩ ['0', 'S'] ⟨0, 0, 0⟩ := by
      intro fuel hfuel
      match fuel, hfuel with
      | fuel + 2, _ => rfl
    rw [hn]
    exact ⟨_, _, rfl, hzero.mark, rfl⟩
  · refine ⟨_, _, isoChars_eq hn, adds_units h, Parts.settle_eq ?_ h⟩
    change (n / 86400000000 * 86400 + n % 86400000000 / 1000000) * 1000000 +
      n % 86400000000 % 1000000 = n
    omega

theorem readMicros_of_adds {us cs : List Char} {p : Parts} {n : Nat} {negative : Bool}
    (hcs : cs = minusIf negative ('P' :: us)) (hlen : 3 ≤ ('P' :: us).length)
    (hadds : Adds false ⟨0, 0, 0⟩ us p) (hsettle : p.settle = .ok n) :
    readMicros cs = .ok (if negative then -(n : Int) else n) := by
  have hread := hadds (us.length + 1) (Nat.le_succ _)
  have hlong : ¬ cs.length < 3 := by
    have hle : ('P' :: us).length ≤ cs.length := by
      rw [hcs]
      cases negative with
      | false => exact Nat.le_refl _
      | true => exact Nat.le_succ _
    omega
  have hsteps : ∀ f : Nat → Int, (do
      let p ← isoUnits (us.length + 1) false false ⟨0, 0, 0⟩ us
      let p ← .ok p
      let n ← p.settle
      .ok (f n)) = Except.ok (f n) := fun _ =>
    bind_eq_ok.2 ⟨p, hread, bind_eq_ok.2 ⟨p, rfl, bind_eq_ok.2 ⟨n, hsettle, rfl⟩⟩⟩
  unfold readMicros
  split
  next sign r hsign =>
    have hsigned : (negative, 'P' :: us) = (sign, r) := by
      rw [← hsign, hcs]
      cases negative <;> rfl
    obtain ⟨rfl, rfl⟩ := Prod.mk.inj hsigned
    split <;> split
    next rest hrest =>
      obtain rfl := List.tail_eq_of_cons_eq hrest
      exact hsteps fun n => -(n : Int)
    next h => exact absurd rfl (h us)
    next rest hrest =>
      obtain rfl := List.tail_eq_of_cons_eq hrest
      exact hsteps fun n => (n : Int)
    next h => exact absurd rfl (h us)

/-- What is written for a magnitude is read as that magnitude. -/
theorem readMicros_isoChars {n : Nat} (negative : Bool) (h : n / 86400000000 ≤ 999999999) :
    readMicros (minusIf negative (isoChars n)) = .ok (if negative then -(n : Int) else n) := by
  obtain ⟨us, p, hchars, hadds, hsettle⟩ := exists_adds h
  have hlen := three_le_length_isoChars n
  rw [hchars] at hlen ⊢
  exact readMicros_of_adds rfl hlen hadds hsettle

end Text

section Ascii

/-- A text of which every character is one byte. -/
def IsAscii (cs : List Char) : Prop := ∀ c ∈ cs, c.toNat < 128

namespace IsAscii

variable {c : Char} {cs a b : List Char}

theorem nil : IsAscii [] := List.forall_mem_nil _

theorem cons (hc : c.toNat < 128) (h : IsAscii cs) : IsAscii (c :: cs) :=
  List.forall_mem_cons.2 ⟨hc, h⟩

theorem append (ha : IsAscii a) (hb : IsAscii b) : IsAscii (a ++ b) :=
  List.forall_mem_append.2 ⟨ha, hb⟩

theorem asciiBytes_eq (h : IsAscii cs) : asciiBytes cs = cs := by
  induction cs with
  | nil => rfl
  | cons c cs ih =>
    obtain ⟨hc, hcs⟩ := List.forall_mem_cons.1 h
    rw [asciiBytes, List.flatMap_cons, if_pos hc]
    exact congrArg (c :: ·) (ih hcs)

theorem digits {ds : List Nat} (h : ∀ d ∈ ds, d < 10) : IsAscii (ds.map Nat.digitChar) := by
  have hdigit : ∀ d < 10, d.digitChar.toNat < 128 := by decide
  intro c hc
  obtain ⟨d, hd, rfl⟩ := List.mem_map.1 hc
  exact hdigit d (h d hd)

theorem decimal (n : Nat) : IsAscii (Numeral.decimal n) := by
  obtain ⟨ds, hds, -, hto⟩ := Numeral.exists_digits (by decide : 1 < 10) n
  rw [Numeral.decimal, hto]
  exact digits hds

theorem part (n : Nat) (hc : c.toNat < 128) : IsAscii (Duration.part n c) := by
  rw [Duration.part]
  split
  next => exact nil
  next => exact (decimal n).append (cons hc nil)

theorem fraction (places n : Nat) : IsAscii (Numeral.fraction places n) := by
  obtain ⟨ds, hds, -, -, htrim⟩ :=
    Numeral.exists_trimZeros_padded places (n % Nat.pow 10 places)
  rw [Numeral.fraction, htrim]
  cases ds with
  | nil => exact decimal _
  | cons d ds => exact (decimal _).append (cons (by decide) (digits hds))

theorem timeUnits (rest : Nat) : IsAscii (timeUnits rest) := by
  apply append (part _ (by decide))
  apply append (part _ (by decide))
  split
  next => exact nil
  next => exact (fraction 6 _).append (cons (by decide) nil)

theorem units (n : Nat) : IsAscii (units n) := by
  apply append (part _ (by decide))
  apply append (part _ (by decide))
  split
  next => exact nil
  next => exact cons (by decide) (timeUnits _)

theorem isoChars (n : Nat) : IsAscii (isoChars n) := by
  by_cases hn : n = 0
  · rw [hn, isoChars_zero]
    exact cons (by decide) (cons (by decide) (cons (by decide) (cons (by decide) nil)))
  · rw [isoChars_eq hn]
    exact cons (by decide) (units n)

theorem minusIf (negative : Bool) (h : IsAscii cs) : IsAscii (minusIf negative cs) := by
  cases negative with
  | false => exact h
  | true => exact cons (by decide) h

end IsAscii

end Ascii

theorem natAbs_days_le (d : Duration) : d.micros.natAbs / 86400000000 ≤ 999999999 := by
  have hlo := d.min_le
  have hhi := d.le_max
  simp only [minMicros, maxMicros, microsPerDay, microsPerSecond] at hlo hhi
  omega

theorem signed_natAbs (d : Duration) :
    (if d.isNegative then -(d.micros.natAbs : Int) else d.micros.natAbs) = d.micros := by
  rw [isNegative]
  by_cases h : d.micros < 0
  · rw [decide_eq_true h, if_pos rfl]
    omega
  · rw [decide_eq_false h, if_neg Bool.false_ne_true]
    omega

theorem readMicros_isoText (d : Duration) :
    readMicros (asciiBytes d.isoText.toList) = .ok d.micros := by
  have hascii := (IsAscii.isoChars d.micros.natAbs).minusIf d.isNegative
  rw [isoText, String.toList_ofList, hascii.asciiBytes_eq,
    readMicros_isoChars d.isNegative (natAbs_days_le d), signed_natAbs]

end LeasePlan.Duration

namespace LeasePlan.Data

/-- The text that is written for a duration stands for it. -/
theorem readDuration_ofDuration (d : Duration) : (ofDuration d).readDuration = .ok d := by
  rw [ofDuration, readDuration, Duration.readMicros_isoText, durationOf]
  simp only [Duration.ofMicros?, dif_pos (And.intro d.min_le d.le_max)]

end LeasePlan.Data
