import Mathlib
import LeasePlan.Yaml.Document
import LeasePlan.Proofs.AddressText
import LeasePlan.Proofs.FlowTokens

namespace LeasePlan

namespace Binary64

theorem ofRatio_true (num den : Nat) : ofRatio true num den = (ofRatio false num den).negate := by
  unfold ofRatio
  split
  · rfl
  · dsimp only
    split
    · split <;> rfl
    · split <;> rfl

/-- Rounding does not depend on the sign. -/
theorem ofDecimal_true (digits : Nat) (exponent : Int) :
    ofDecimal true digits exponent = (ofDecimal false digits exponent).negate := by
  unfold ofDecimal
  split
  · rfl
  · dsimp only
    split
    · rfl
    · split
      · rfl
      · exact ofRatio_true _ _

end Binary64

namespace Json

namespace Digits

variable (ds : Digits)

theorem not_mem {c : Char} (hc : Numeral.isDigit c = false) : c ∉ ds.chars := by
  intro h
  rw [ds.isDigit c h] at hc
  cases hc

theorem exists_cons : ∃ c r, ds.chars = c :: r ∧ Numeral.isDigit c = true := by
  obtain ⟨c, r, h⟩ := List.exists_cons_of_ne_nil ds.ne_nil
  exact ⟨c, r, h, ds.isDigit c (h ▸ List.mem_cons_self)⟩

end Digits

/-- Digits are read one by one. -/
theorem mapM_digits {read : Char → Option Nat} {cs : List Char}
    (h : ∀ c ∈ cs, Numeral.isDigit c = true)
    (hr : ∀ c, Numeral.isDigit c = true → read c = Numeral.digit? c) :
    cs.mapM read = some (cs.filterMap Numeral.digit?) := by
  induction cs with
  | nil => rfl
  | cons c cs ih =>
    obtain ⟨hc, hcs⟩ := List.forall_mem_cons.1 h
    obtain ⟨n, hn⟩ := Option.isSome_iff_exists.1 hc
    rw [List.mapM_cons, hr c hc, hn, ih hcs, List.filterMap_cons_some hn]
    rfl

theorem decimal?_digits {cs : List Char} (hne : cs ≠ [])
    (h : ∀ c ∈ cs, Numeral.isDigit c = true) : Numeral.decimal? cs = some (valueOf cs) := by
  rw [Numeral.decimal?, List.isEmpty_eq_false_iff.2 hne, mapM_digits h fun _ _ => rfl]
  rfl

theorem toNat_of_isDigit {c : Char} (h : Numeral.isDigit c = true) :
    48 ≤ c.toNat ∧ c.toNat ≤ 57 := by
  by_contra hout
  have hrange : ¬ ('0' ≤ c ∧ c ≤ '9') := hout
  rw [Numeral.isDigit, Numeral.digit?, if_neg hrange] at h
  cases h

/-- The same number with a small letter before its exponent. -/
def Exponent.lower (e : Exponent) : Exponent := { e with mark := 'e', isMark := .inl rfl }

def Number.lower (n : Number) : Number := { n with exponent := n.exponent.map Exponent.lower }

section Lower

theorem toLower_of_toNat {c : Char} (h : c.toNat < 65) : c.toLower = c := by
  have hno : ¬ (c.val ≥ 'A'.val ∧ c.val ≤ 'Z'.val) := by
    rintro ⟨hlow, -⟩
    have hle : 65 ≤ c.toNat := hlow
    omega
  rw [Char.toLower, dif_neg hno]

theorem Digits.map_toLower (ds : Digits) : ds.chars.map Char.toLower = ds.chars := by
  have hsame : ds.chars.map Char.toLower = ds.chars.map id := by
    apply List.map_congr_left
    intro c hc
    have hrange := toNat_of_isDigit (ds.isDigit c hc)
    exact toLower_of_toNat (by omega)
  rw [hsame, List.map_id]

theorem Exponent.map_toLower (e : Exponent) : e.chars.map Char.toLower = e.lower.chars := by
  have hmark : e.mark.toLower = 'e' := by
    rcases e.isMark with h | h
    · rw [h]
      rfl
    · rw [h]
      rfl
  have hsign : e.sign.chars.map Char.toLower = e.sign.chars := by
    cases e.sign <;> rfl
  rw [chars, List.map_cons, List.map_append, hmark, hsign, e.digits.map_toLower]
  rfl

theorem Number.map_toLower (n : Number) : n.chars.map Char.toLower = n.lower.chars := by
  have hfraction : n.fraction.map Char.toLower = n.fraction := by
    rw [fraction]
    cases n.places with
    | none => rfl
    | some ds => exact congrArg (List.cons '.') ds.map_toLower
  have hpower : n.power.map Char.toLower = n.lower.power := by
    rw [power, power, lower]
    cases n.exponent with
    | none => rfl
    | some e => exact e.map_toLower
  have hmagnitude : n.magnitude.map Char.toLower = n.lower.magnitude := by
    rw [magnitude, List.map_append, List.map_append, n.whole.map_toLower, hfraction, hpower]
    rfl
  have hnegative : n.lower.negative = n.negative := rfl
  rw [chars, chars, hnegative, ← hmagnitude]
  split <;> rfl

end Lower

end Json

namespace Yaml

open Json (Digits Number Word IsFront valueOf)

section Front

theorem toNat_of_isPlainChar {c : Char} (h : isPlainChar c = true) :
    43 ≤ c.toNat ∧ c.toNat ≤ 122 := by
  simp only [isPlainChar, isAlphanumeric, Bool.or_eq_true, Bool.and_eq_true, decide_eq_true_eq] at h
  rcases h with (((((hd | hl) | hu) | rfl) | rfl) | rfl)
  · have hrange : 48 ≤ c.toNat ∧ c.toNat ≤ 57 := hd
    omega
  · have hrange : 97 ≤ c.toNat ∧ c.toNat ≤ 122 := hl
    omega
  · have hrange : 65 ≤ c.toNat ∧ c.toNat ≤ 90 := hu
    omega
  · decide
  · decide
  · decide

theorem isBlank_of_plain {c : Char} (h : isPlainChar c = true) : Text.isBlank c = false := by
  have hrange := toNat_of_isPlainChar h
  rw [Bool.eq_false_iff]
  simp only [Text.isBlank, ne_eq, Bool.or_eq_true, Bool.and_eq_true, decide_eq_true_eq]
  omega

variable {c : Char} {cs r : List Char}

/-- Whether no word of a list begins like a number. -/
def avoidFront (words : List String) : Bool :=
  words.all fun w => w.toList.head?.all fun c => c ≠ '-' && !Numeral.isDigit c

theorem not_contains_of_front {words : List String} (hw : avoidFront words = true) (hc : IsFront c)
    (h : cs = c :: r) : words.contains (String.ofList cs) = false := by
  rw [Bool.eq_false_iff]
  intro hmem
  have hword := List.all_eq_true.1 hw _ (List.contains_iff_mem.1 hmem)
  rw [String.toList_ofList, h, List.head?_cons, Option.all_some, Bool.and_eq_true,
    decide_eq_true_eq, Bool.not_eq_true'] at hword
  rcases hc with rfl | hc
  · exact hword.1 rfl
  · rw [hc] at hword
    exact Bool.true_eq_false_eq_False hword.2

theorem trim_eq_self {isBlank : Char → Bool} (h : ∀ c ∈ cs, isBlank c = false) :
    Text.trim isBlank cs = cs := by
  have hdrop {ds : List Char} (hds : ∀ c ∈ ds, isBlank c = false) : ds.dropWhile isBlank = ds := by
    cases ds with
    | nil => rfl
    | cons d ds =>
      exact List.dropWhile_cons_of_neg (by rw [hds d List.mem_cons_self]; exact Bool.false_ne_true)
  rw [Text.trim, hdrop h, hdrop fun c hc => h c (List.mem_reverse.1 hc), List.reverse_reverse]

theorem filter_eq_self_of_not_mem (h : c ∉ cs) : cs.filter (fun x => decide (x ≠ c)) = cs := by
  rw [List.filter_eq_self]
  rintro x hx
  rw [decide_eq_true_eq]
  rintro rfl
  exact h hx

end Front

section Numbers

variable (n : Number)

theorem chomp_chars : Tag.chomp n.chars = n.chars := by
  have hnot : '\n' ∉ n.chars := fun h => ne_of_isPlainChar (n.isPlainChar _ h) rfl rfl
  rw [Tag.chomp, if_neg]
  exact fun h => hnot (List.mem_of_getLast? h)

/-- No lines stand between the digits. -/
theorem filter_chars : n.chars.filter (fun x => decide (x ≠ '_')) = n.chars :=
  filter_eq_self_of_not_mem fun h => ne_of_isPlainChar (n.isPlainChar _ h) rfl rfl

theorem exists_magnitude : ∃ c r, n.magnitude = c :: r ∧ Numeral.isDigit c = true := by
  obtain ⟨c, r, h, hc⟩ := n.whole.exists_cons
  rw [Number.magnitude, h]
  exact ⟨c, _, rfl, hc⟩

theorem not_signed {c : Char} (hc : Numeral.isDigit c = true) : c ≠ '-' ∧ c ≠ '+' :=
  ⟨Json.isDigit_ne hc rfl, Json.isDigit_ne hc rfl⟩

theorem unsigned_chars : Tag.unsigned n.chars = n.magnitude := by
  obtain ⟨c, r, h, hc⟩ := exists_magnitude n
  rw [Number.chars]
  split
  · rfl
  · rw [h]
    unfold Tag.unsigned
    split
    · next heq => exact absurd (List.head_eq_of_cons_eq heq) (not_signed hc).1
    · next heq => exact absurd (List.head_eq_of_cons_eq heq) (not_signed hc).2
    · rfl

theorem signed_of_digit {c : Char} (hc : Numeral.isDigit c = true) (r : List Char) :
    Value.signed (c :: r) = (false, c :: r) := by
  unfold Value.signed
  split
  · next heq => exact absurd (List.head_eq_of_cons_eq heq) (not_signed hc).1
  · next heq => exact absurd (List.head_eq_of_cons_eq heq) (not_signed hc).2
  · rfl

theorem signed_chars : Value.signed n.chars = (n.negative, n.magnitude) := by
  obtain ⟨c, r, h, hc⟩ := exists_magnitude n
  rw [Number.chars]
  split
  · next hn => rw [hn]; rfl
  · next hn =>
    rw [Bool.not_eq_true] at hn
    rw [hn, h]
    exact signed_of_digit hc r

theorem boolWords_chars : Tag.boolWords.contains (String.ofList n.chars) = false := by
  obtain ⟨c, r, h, hc⟩ := n.exists_cons
  exact not_contains_of_front (by decide +kernel) hc h

end Numbers

section Whole

variable {n : Number}

theorem magnitude_whole (hp : n.places = none) (he : n.exponent = none) :
    n.magnitude = n.whole.chars := by
  rw [Number.magnitude, Number.fraction, hp, Number.power, he]
  exact List.append_nil _

theorem isFloat_whole (hm : n.magnitude = n.whole.chars) : Tag.isFloat n.chars = false := by
  obtain ⟨c, r, h, hc⟩ := n.whole.exists_cons
  obtain ⟨c', r', h', hc'⟩ := n.exists_cons
  have hinf : [".inf", ".Inf", ".INF"].contains (String.ofList n.whole.chars) = false :=
    not_contains_of_front (by decide +kernel) (.inr hc) h
  have hnan : [".nan", ".NaN", ".NAN"].contains (String.ofList n.chars) = false :=
    not_contains_of_front (by decide +kernel) hc' h'
  have hcut : Text.cut '.' n.whole.chars = (n.whole.chars, none) :=
    Text.cut_of_not_mem (n.whole.not_mem rfl)
  simp only [Tag.isFloat, unsigned_chars, hm, hinf, hnan, hcut, Bool.false_eq_true, if_false]
  rw [h]

theorem isDigits_whole (ds : Digits) : Tag.isDigits ds.chars = true := by
  obtain ⟨c, r, h, hc⟩ := ds.exists_cons
  have hall : ∀ x ∈ r, Tag.isDigitOrLine x = true := by
    intro x hx
    rw [Tag.isDigitOrLine, ds.isDigit x (h ▸ List.mem_cons_of_mem c hx), Bool.true_or]
  rw [h, Tag.isDigits, hc, Bool.true_and]
  exact List.all_eq_true.2 hall

theorem isInt_whole (hm : n.magnitude = n.whole.chars) : Tag.isInt n.chars = true := by
  have hparts : Text.parts ':' n.whole.chars = [n.whole.chars] :=
    Text.parts_of_not_mem (n.whole.not_mem rfl)
  by_cases hz : n.whole.chars = ['0']
  · simp only [Tag.isInt, unsigned_chars, hm, hz]
    rfl
  · obtain ⟨c, r, h, hc⟩ := n.whole.exists_cons
    have hne : c ≠ '0' := by
      rintro rfl
      exact hz (n.head (by rw [h]; rfl))
    have hzero (s : List Char) : n.whole.chars ≠ '0' :: s := by
      rw [h]
      exact fun heq => hne (List.head_eq_of_cons_eq heq)
    rw [Tag.isInt, unsigned_chars, hm]
    split
    · next heq => exact absurd heq (hzero _)
    · next heq => exact absurd heq (hzero _)
    · next heq => exact absurd heq (hzero _)
    · rw [hparts]
      exact (Bool.and_true _).trans (isDigits_whole n.whole)

theorem ofText_whole (hm : n.magnitude = n.whole.chars) : Tag.ofText n.chars = .int := by
  simp only [Tag.ofText, chomp_chars, boolWords_chars, isFloat_whole hm, isInt_whole hm,
    Bool.false_eq_true, if_false, if_true]

theorem dropBaseMark_ten (cs : List Char) : Value.dropBaseMark 10 cs = cs := by
  unfold Value.dropBaseMark
  split
  · rfl
  · rfl

theorem digitBelow?_ten {c : Char} (hc : Numeral.isDigit c = true) :
    Value.digitBelow? 10 c = Numeral.digit? c := by
  have hrange := Json.toNat_of_isDigit hc
  have hdigit : '0' ≤ c ∧ c ≤ '9' := hrange
  rw [Value.digitBelow?, Numeral.hexDigit?, if_pos hdigit, Numeral.digit?, if_pos hdigit,
    Option.filter_some, if_pos]
  exact decide_eq_true (by omega)

/-- A run of digits without a sign and not too long. -/
theorem integer_digits (ds : Digits) (hlength : ds.chars.length ≤ 4300) :
    Value.integer 10 ds.chars = .ok (valueOf ds.chars) := by
  obtain ⟨c, r, h, hc⟩ := ds.exists_cons
  have htrim : Text.trim Text.isBlank ds.chars = ds.chars :=
    trim_eq_self fun x hx => isBlank_of_plain (ds.isPlainChar x hx)
  have hsigned : Value.signed ds.chars = (false, ds.chars) := by
    rw [h]
    exact signed_of_digit hc r
  have hread : ds.chars.mapM (Value.digitBelow? 10) = some (ds.chars.filterMap Numeral.digit?) :=
    Json.mapM_digits ds.isDigit fun _ hx => digitBelow?_ten hx
  have hcount : (ds.chars.filterMap Numeral.digit?).length = ds.chars.length := by
    have hsize := congrArg List.length (map_eq_of_mapM hread)
    rw [List.length_map, List.length_map] at hsize
    exact hsize.symm
  have hne : (ds.chars.filterMap Numeral.digit?).isEmpty = false := by
    rw [List.isEmpty_eq_false_iff, ← List.length_pos_iff, hcount, h]
    exact Nat.succ_pos _
  have hshort : ¬ 4300 < (ds.chars.filterMap Numeral.digit?).length := by omega
  simp only [Value.integer, htrim, hsigned, dropBaseMark_ten, hread, hne, hshort, decide_false,
    Bool.and_false, Bool.false_eq_true, if_false]
  rfl

theorem int_whole (hm : n.magnitude = n.whole.chars) (hlength : n.whole.chars.length ≤ 4300) :
    Value.int n.chars =
      .ok (.int (if n.negative then -(valueOf n.whole.chars : Int)
        else valueOf n.whole.chars)) := by
  have hcolon : n.whole.chars.contains ':' = false := by
    rw [Bool.eq_false_iff]
    exact fun h => n.whole.not_mem rfl (List.contains_iff_mem.1 h)
  have hinteger := integer_digits n.whole hlength
  have hzero (s : List Char) (hs : s ≠ []) : n.whole.chars ≠ '0' :: s := by
    intro h
    have hsole := n.head (by rw [h]; rfl)
    rw [h] at hsole
    exact hs (List.tail_eq_of_cons_eq hsole)
  rw [Value.int, filter_chars, signed_chars, hm]
  dsimp only
  split
  · next heq => exact absurd heq n.whole.ne_nil
  · next heq =>
    rw [heq]
    cases n.negative <;> rfl
  · next heq => exact absurd heq (hzero _ (List.cons_ne_nil _ _))
  · next heq => exact absurd heq (hzero _ (List.cons_ne_nil _ _))
  · next hne _ _ heq =>
    refine absurd heq (hzero _ ?_)
    rintro rfl
    exact hne rfl
  · rw [hcolon, hinteger]
    rfl

end Whole

section Fraction

variable {n : Number} {ps : Digits}

theorem magnitude_fraction (hp : n.places = some ps) :
    n.magnitude = n.whole.chars ++ '.' :: (ps.chars ++ n.power) := by
  rw [Number.magnitude, Number.fraction, hp]
  rfl

/-- The power of a portable number can be read as one: its sign is written. -/
theorem isPlaces_power (h : ∀ e ∈ n.exponent, e.sign ≠ .none) :
    Tag.isPlaces (ps.chars ++ n.power) = true := by
  have hdigit : ∀ c ∈ ps.chars, Tag.isDigitOrLine c = true := by
    intro c hc
    rw [Tag.isDigitOrLine, ps.isDigit c hc, Bool.true_or]
  rw [Tag.isPlaces, List.dropWhile_append_of_pos hdigit, Number.power]
  cases he : n.exponent with
  | none => rfl
  | some e =>
    have hmark : Tag.isDigitOrLine e.mark = false := by
      rcases e.isMark with h | h
      · rw [h]
        rfl
      · rw [h]
        rfl
    have hdrop : e.chars.dropWhile Tag.isDigitOrLine = e.chars :=
      List.dropWhile_cons_of_neg (by rw [hmark]; exact Bool.false_ne_true)
    have hletter : (decide (e.mark = 'e') || decide (e.mark = 'E')) = true := by
      rcases e.isMark with h | h
      · rw [h]
        rfl
      · rw [h]
        rfl
    have hempty : e.digits.chars.isEmpty = false := List.isEmpty_eq_false_iff.2 e.digits.ne_nil
    have hall : e.digits.chars.all Numeral.isDigit = true := List.all_eq_true.2 e.digits.isDigit
    have hexponent : Tag.isExponent e.chars = true := by
      rw [Json.Exponent.chars]
      cases hs : e.sign with
      | none => exact absurd hs (h e (he ▸ rfl))
      | plus =>
        simp only [Json.Sign.chars, List.cons_append, List.nil_append, Tag.isExponent, hletter,
          hempty, hall]
        rfl
      | minus =>
        simp only [Json.Sign.chars, List.cons_append, List.nil_append, Tag.isExponent, hletter,
          hempty, hall]
        rfl
    rw [Option.elim_some, hdrop, hexponent, Bool.or_true]

theorem isFloat_fraction (hp : n.places = some ps) (h : ∀ e ∈ n.exponent, e.sign ≠ .none) :
    Tag.isFloat n.chars = true := by
  obtain ⟨c, r, hr, hc⟩ := n.whole.exists_cons
  obtain ⟨c', r', h', hc'⟩ := n.exists_cons
  obtain ⟨c'', r'', h'', hc''⟩ := exists_magnitude n
  have hinf : [".inf", ".Inf", ".INF"].contains (String.ofList n.magnitude) = false :=
    not_contains_of_front (by decide +kernel) (.inr hc'') h''
  have hnan : [".nan", ".NaN", ".NAN"].contains (String.ofList n.chars) = false :=
    not_contains_of_front (by decide +kernel) hc' h'
  have hcut : Text.cut '.' n.magnitude = (n.whole.chars, some (ps.chars ++ n.power)) := by
    rw [magnitude_fraction hp]
    exact Text.cut_append (n.whole.not_mem rfl) _
  have hparts : Text.parts ':' n.whole.chars = [n.whole.chars] :=
    Text.parts_of_not_mem (n.whole.not_mem rfl)
  simp only [Tag.isFloat, unsigned_chars, hinf, hnan, hcut, Bool.false_eq_true, if_false]
  split
  · next heq => cases n.whole.ne_nil (congrArg Prod.fst heq)
  · next heq =>
    cases heq
    rw [hparts]
    exact congrArg₂ (· && ·) (isDigits_whole n.whole) (isPlaces_power h)
  · next hno => exact absurd rfl (hno _ _)

theorem ofText_fraction (hp : n.places = some ps) (h : ∀ e ∈ n.exponent, e.sign ≠ .none) :
    Tag.ofText n.chars = .float := by
  simp only [Tag.ofText, chomp_chars, boolWords_chars, isFloat_fraction hp h, Bool.false_eq_true,
    if_false, if_true]

theorem signed_power (e : Json.Exponent) :
    Value.signed (e.sign.chars ++ e.digits.chars) =
      (decide (e.sign = .minus), e.digits.chars) := by
  cases e.sign with
  | none =>
    obtain ⟨c, r, h, hc⟩ := e.digits.exists_cons
    rw [h]
    exact signed_of_digit hc r
  | plus => rfl
  | minus => rfl

/-- The letter of the power is the only one in a number. -/
theorem cut_power (hp : n.places = some ps) :
    Text.cut 'e' n.lower.magnitude = (n.whole.chars ++ '.' :: ps.chars,
      n.exponent.map fun e => e.sign.chars ++ e.digits.chars) := by
  have hmagnitude : n.lower.magnitude = n.whole.chars ++ '.' :: (ps.chars ++ n.lower.power) :=
    magnitude_fraction (n := n.lower) hp
  have hletter : 'e' ∉ n.whole.chars ++ '.' :: ps.chars := by
    rw [List.mem_append, List.mem_cons]
    rintro (hmem | hmem | hmem)
    · exact n.whole.not_mem rfl hmem
    · cases hmem
    · exact ps.not_mem rfl hmem
  cases he : n.exponent with
  | none =>
    have hnone : n.lower.power = [] := by
      rw [Number.power, Number.lower, he]
      rfl
    rw [hmagnitude, hnone, List.append_nil]
    exact Text.cut_of_not_mem hletter
  | some e =>
    have hsome : n.lower.power = 'e' :: (e.sign.chars ++ e.digits.chars) := by
      rw [Number.power, Number.lower, he]
      rfl
    rw [hmagnitude, hsome, ← List.cons_append, ← List.append_assoc]
    exact Text.cut_append hletter _

/-- The digits before and behind the point and the power, as one decimal number. -/
theorem decimal?_fraction (hp : n.places = some ps) :
    Value.decimal? n.lower.magnitude = some (Binary64.ofDecimal false
      (valueOf (n.whole.chars ++ ps.chars))
      ((n.exponent.map Json.Exponent.value).getD 0 - ps.chars.length)) := by
  obtain ⟨c, r, h, hc⟩ := exists_magnitude n.lower
  have hsigned : Value.signed n.lower.magnitude = (false, n.lower.magnitude) := by
    rw [h]
    exact signed_of_digit hc r
  have hinf : Value.infinityWords.contains (String.ofList n.lower.magnitude) = false :=
    not_contains_of_front (by decide +kernel) (.inr hc) h
  have hnan : ¬ String.ofList n.lower.magnitude = "nan" := by
    intro hname
    have hchars := congrArg String.toList hname
    rw [String.toList_ofList, h] at hchars
    exact Json.isDigit_ne hc rfl (List.head_eq_of_cons_eq hchars)
  have hcut : Text.cut '.' (n.whole.chars ++ '.' :: ps.chars) = (n.whole.chars, some ps.chars) :=
    Text.cut_append (n.whole.not_mem rfl) _
  have hdigits : Numeral.decimal? (n.whole.chars ++ ps.chars) =
      some (valueOf (n.whole.chars ++ ps.chars)) := by
    apply Json.decimal?_digits
    · exact List.append_ne_nil_of_left_ne_nil n.whole.ne_nil _
    · exact List.forall_mem_append.2 ⟨n.whole.isDigit, ps.isDigit⟩
  simp only [Value.decimal?, hsigned, hinf, hnan, cut_power hp, hcut, Option.getD_some, hdigits,
    Bool.false_eq_true, if_false, Option.bind_eq_bind, Option.bind_some]
  cases n.exponent with
  | none => rfl
  | some e =>
    have hexponent : Numeral.decimal? e.digits.chars = some (valueOf e.digits.chars) :=
      Json.decimal?_digits e.digits.ne_nil e.digits.isDigit
    simp only [Option.map_some, signed_power, hexponent, Option.bind_some, Json.Exponent.value,
      Value.negateIf, decide_eq_true_eq]
    rfl

/-- A number with a point has the same value as in JSON. -/
theorem float_fraction (hp : n.places = some ps) : Value.float n.chars = .ok n.data := by
  obtain ⟨c, r, h, hc⟩ := exists_magnitude n.lower
  have hempty : n.lower.chars.isEmpty = false := by
    obtain ⟨x, u, hx, -⟩ := n.lower.exists_cons
    rw [hx]
    rfl
  have hpoint {s : List Char} : ¬ n.lower.magnitude = '.' :: s := by
    rw [h]
    exact fun heq => Json.isDigit_ne hc rfl (List.head_eq_of_cons_eq heq)
  have hcolon : n.lower.magnitude.contains ':' = false := by
    rw [Bool.eq_false_iff]
    intro hmem
    exact ne_of_isPlainChar (n.lower.isPlainChar_magnitude _ (List.contains_iff_mem.1 hmem)) rfl rfl
  have htrim : Text.trim Text.isBlank n.lower.magnitude = n.lower.magnitude :=
    trim_eq_self fun x hx => isBlank_of_plain (n.lower.isPlainChar_magnitude x hx)
  have hinf : ¬ n.lower.magnitude = ".inf".toList := hpoint
  have hnan : ¬ n.lower.magnitude = ".nan".toList := hpoint
  have hnegative : n.lower.negative = n.negative := rfl
  rw [Value.float, filter_chars, n.map_toLower, signed_chars, hnegative]
  simp only [hempty, hinf, hnan, hcolon, Value.real, htrim, decimal?_fraction hp,
    Bool.false_eq_true, if_false]
  have hplaces : n.placeDigits = ps.chars := by
    rw [Number.placeDigits, hp]
    rfl
  have hsome : ps.chars.isEmpty = false := List.isEmpty_eq_false_iff.2 ps.ne_nil
  simp only [Number.data, hplaces, Json.numberOf, hsome, Bool.false_and, Bool.false_eq_true,
    if_false, Bind.bind, Except.bind]
  cases n.negative with
  | false => rw [if_neg Bool.false_ne_true]
  | true => rw [if_pos rfl, Binary64.ofDecimal_true]

/-- A portable number is of a kind and has a value of it, the one that it has in JSON. -/
theorem ofScalar_number (h : n.isPortable = true) :
    Graph.isScalarTag (Tag.ofText n.chars) = true ∧
      Value.ofScalar (Tag.ofText n.chars) (codesOf n.chars) = .ok n.data := by
  cases hp : n.places with
  | none =>
    cases he : n.exponent with
    | none =>
      have hm := magnitude_whole hp he
      have hlength : n.whole.chars.length ≤ 4300 := by
        rw [Number.isPortable, hp, he] at h
        exact of_decide_eq_true h
      rw [ofText_whole hm]
      refine ⟨rfl, ?_⟩
      rw [Value.ofScalar, map_ofNat_codesOf, int_whole hm hlength, Number.data,
        Number.placeDigits, hp, he, Json.numberOf]
      exact congrArg (fun cs => Except.ok (Data.int (if n.negative then -(valueOf cs : Int)
        else valueOf cs))) (List.append_nil _).symm
    | some e =>
      rw [Number.isPortable, hp, he] at h
      cases h
  | some ps =>
    have hsign : ∀ e ∈ n.exponent, e.sign ≠ .none := by
      intro e he
      rw [Number.isPortable, hp, Option.mem_def.1 he] at h
      exact of_decide_eq_true h
    rw [ofText_fraction hp hsign]
    refine ⟨rfl, ?_⟩
    rw [Value.ofScalar, map_ofNat_codesOf]
    exact float_fraction hp

theorem ofScalar_word (w : Word) :
    Graph.isScalarTag (Tag.ofText w.chars) = true ∧
      Value.ofScalar (Tag.ofText w.chars) (codesOf w.chars) = .ok w.data := by
  rcases w with _ | _ | _
  · exact ⟨by decide +kernel, rfl⟩
  · exact ⟨by decide +kernel, rfl⟩
  · exact ⟨by decide +kernel, rfl⟩

end Fraction

end Yaml

end LeasePlan
