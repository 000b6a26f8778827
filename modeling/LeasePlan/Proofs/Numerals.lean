import Mathlib
import LeasePlan.Text.Numeral

namespace LeasePlan

/-- Reading element by element what was written element by element. -/
theorem mapM_map_eq_some {α β : Type} {write : α → β} {read : β → Option α} {xs : List α}
    (h : ∀ x ∈ xs, read (write x) = some x) : (xs.map write).mapM read = some xs := by
  induction xs with
  | nil => rfl
  | cons x xs ih =>
    rw [List.forall_mem_cons] at h
    rw [List.map_cons, List.mapM_cons, h.1, ih h.2]
    rfl

theorem map_eq_of_mapM {α β : Type} {read : α → Option β} {xs : List α} {ys : List β}
    (h : xs.mapM read = some ys) : xs.map read = ys.map some := by
  induction xs generalizing ys with
  | nil =>
    cases h
    rfl
  | cons x xs ih =>
    rw [List.mapM_cons] at h
    obtain ⟨y, hy, h⟩ := Option.bind_eq_some_iff.1 h
    obtain ⟨zs, hzs, h⟩ := Option.bind_eq_some_iff.1 h
    cases h
    rw [List.map_cons, hy, ih hzs, List.map_cons]

theorem mapM_eq_none {α β : Type} {read : α → Option β} {x : α} {xs : List α} (hx : x ∈ xs)
    (h : read x = none) : xs.mapM read = none := by
  induction xs with
  | nil => cases hx
  | cons y ys ih =>
    rw [List.mapM_cons]
    rcases List.mem_cons.1 hx with rfl | hx
    · rw [h]
      rfl
    · rw [ih hx]
      cases read y <;> rfl

namespace Numeral

theorem digit?_digitChar : ∀ d < 10, digit? d.digitChar = some d := by decide

theorem hexDigit?_digitChar : ∀ d < 16, hexDigit? d.digitChar = some d := by decide

theorem hexDigit?_lt {c : Char} {n : Nat} (h : hexDigit? c = some n) : n < 16 := by
  unfold hexDigit? at h
  split at h
  · next hc =>
    cases h
    have hle : c.toNat ≤ 57 := hc.2
    omega
  · split at h
    · next hc =>
      cases h
      have hle : c.toNat ≤ 102 := hc.2
      omega
    · split at h
      · next hc =>
        cases h
        have hle : c.toNat ≤ 70 := hc.2
        omega
      · cases h

theorem ofDigits_concat (base : Nat) (ds : List Nat) (d : Nat) :
    ofDigits base (ds ++ [d]) = ofDigits base ds * base + d := by
  rw [ofDigits, List.foldl_append]
  rfl

theorem ofDigits_lt {base : Nat} {ds : List Nat} (h : ∀ d ∈ ds, d < base) :
    ofDigits base ds < base ^ ds.length := by
  induction ds using List.reverseRecOn with
  | nil => exact Nat.one_pos
  | append_singleton ds d ih =>
    rw [List.forall_mem_append] at h
    have hd := h.2 d (List.mem_singleton_self d)
    rw [ofDigits_concat, List.length_append, List.length_singleton, pow_succ]
    calc ofDigits base ds * base + d
      _ < ofDigits base ds * base + base := Nat.add_lt_add_left hd _
      _ = (ofDigits base ds + 1) * base := (Nat.succ_mul _ _).symm
      _ ≤ base ^ ds.length * base := Nat.mul_le_mul_right _ (ih h.1)

section Digits

variable {base : Nat} {read : Char → Option Nat}

/-- The digits of a number in a base, by their values. -/
theorem exists_digits (hb : 1 < base) (n : Nat) : ∃ ds : List Nat, (∀ d ∈ ds, d < base) ∧
    ofDigits base ds = n ∧ Nat.toDigits base n = ds.map Nat.digitChar := by
  induction n using Nat.strong_induction_on with
  | h n ih =>
    by_cases hn : n < base
    · refine ⟨[n], by simpa only [List.mem_singleton, forall_eq] using hn, ?_,
        Nat.toDigits_of_lt_base hn⟩
      exact (ofDigits_concat base [] n).trans (by rw [ofDigits, List.foldl_nil, zero_mul, zero_add])
    · have hle : base ≤ n := Nat.le_of_not_lt hn
      have hlt : n / base < n := Nat.div_lt_self (by omega) hb
      obtain ⟨ds, hds, hof, hto⟩ := ih _ hlt
      refine ⟨ds ++ [n % base], ?_, ?_, ?_⟩
      · intro d hd
        rcases List.mem_append.1 hd with hd | hd
        · exact hds d hd
        · rw [List.mem_singleton.1 hd]
          exact Nat.mod_lt n (by omega)
      · rw [ofDigits_concat, hof, Nat.div_add_mod']
      · rw [Nat.toDigits_of_base_le hb hle, hto, List.map_append, List.map_singleton]

theorem mapM_toDigits (hb : 1 < base) (hr : ∀ d < base, read d.digitChar = some d) (n : Nat) :
    ((Nat.toDigits base n).mapM read).map (ofDigits base) = some n := by
  obtain ⟨ds, hds, hof, hto⟩ := exists_digits hb n
  rw [hto, mapM_map_eq_some fun d hd => hr d (hds d hd), Option.map_some, hof]

theorem not_mem_toDigits (hb : 1 < base) (hr : ∀ d < base, read d.digitChar = some d) (n : Nat)
    {c : Char} (hc : read c = none) : c ∉ Nat.toDigits base n := by
  obtain ⟨ds, hds, -, hto⟩ := exists_digits hb n
  rw [hto]
  intro h
  obtain ⟨d, hd, rfl⟩ := List.mem_map.1 h
  rw [hr d (hds d hd)] at hc
  cases hc

end Digits

theorem decimal?_decimal (n : Nat) : decimal? (decimal n) = some n := by
  rw [decimal?, decimal, List.isEmpty_eq_false_iff.2 Nat.toDigits_ne_nil]
  exact mapM_toDigits (by decide) digit?_digitChar n

theorem hexadecimal?_hexadecimal (n : Nat) : hexadecimal? (hexadecimal n) = some n := by
  rw [hexadecimal?, hexadecimal, List.isEmpty_eq_false_iff.2 Nat.toDigits_ne_nil]
  exact mapM_toDigits (by decide) hexDigit?_digitChar n

theorem not_mem_decimal {c : Char} (h : digit? c = none) (n : Nat) : c ∉ decimal n :=
  not_mem_toDigits (by decide) digit?_digitChar n h

theorem not_mem_hexadecimal {c : Char} (h : hexDigit? c = none) (n : Nat) : c ∉ hexadecimal n :=
  not_mem_toDigits (by decide) hexDigit?_digitChar n h

theorem decimal?_eq_none {c : Char} {cs : List Char} (hc : c ∈ cs) (h : digit? c = none) :
    decimal? cs = none := by
  rw [decimal?, mapM_eq_none hc h]
  split <;> rfl

/-- Only zero itself begins with a zero. -/
theorem head?_decimal {n : Nat} (hn : n ≠ 0) : (decimal n).head? ≠ some '0' := by
  induction n using Nat.strong_induction_on with
  | h n ih =>
    by_cases hlt : n < 10
    · have hdigit : ∀ d < 10, d ≠ 0 → d.digitChar ≠ '0' := by decide
      rw [decimal, Nat.toDigits_of_lt_base hlt, List.head?_cons]
      exact fun h => hdigit n hlt hn (Option.some.inj h)
    · rw [decimal, Nat.toDigits_of_base_le (by decide) (by omega),
        List.head?_append_of_ne_nil _ Nat.toDigits_ne_nil]
      exact ih (n / 10) (by omega) (by omega)

section Runs

variable {ds : List Nat} {c : Char}

theorem isDigit_of_mem_map (h : ∀ d ∈ ds, d < 10) (hc : c ∈ ds.map Nat.digitChar) :
    isDigit c = true := by
  obtain ⟨d, hd, rfl⟩ := List.mem_map.1 hc
  rw [isDigit, digit?_digitChar d (h d hd)]
  rfl

theorem filterMap_digit? (h : ∀ d ∈ ds, d < 10) :
    (ds.map Nat.digitChar).filterMap digit? = ds := by
  induction ds with
  | nil => rfl
  | cons d ds ih =>
    rw [List.forall_mem_cons] at h
    rw [List.map_cons, List.filterMap_cons_some (digit?_digitChar d h.1), ih h.2]

/-- A run of digits ends at the first character that is none. -/
theorem takeWhile_isDigit (h : ∀ d ∈ ds, d < 10) (hc : digit? c = none) (rest : List Char) :
    (ds.map Nat.digitChar ++ c :: rest).takeWhile isDigit = ds.map Nat.digitChar := by
  have hstop : ¬ isDigit c = true := by
    rw [isDigit, hc]
    exact Bool.false_ne_true
  rw [List.takeWhile_append_of_pos fun _ hmem => isDigit_of_mem_map h hmem,
    List.takeWhile_cons_of_neg hstop, List.append_nil]

end Runs

/-- The lowest digits of a number, by their values. -/
theorem exists_padded (width n : Nat) : ∃ ds : List Nat, (∀ d ∈ ds, d < 10) ∧
    ds.length = width ∧ ofDigits 10 ds = n % 10 ^ width ∧
      padded width n = ds.map Nat.digitChar := by
  induction width generalizing n with
  | zero => exact ⟨[], List.forall_mem_nil _, rfl, by rw [pow_zero, Nat.mod_one]; rfl, rfl⟩
  | succ width ih =>
    obtain ⟨ds, hds, hlen, hof, hpad⟩ := ih (n / 10)
    refine ⟨ds ++ [n % 10], ?_, ?_, ?_, ?_⟩
    · intro d hd
      rcases List.mem_append.1 hd with hd | hd
      · exact hds d hd
      · rw [List.mem_singleton.1 hd]
        exact Nat.mod_lt n (by decide)
    · rw [List.length_append, hlen, List.length_singleton]
    · rw [ofDigits_concat, hof, pow_succ', Nat.mod_mul, Nat.add_comm, Nat.mul_comm]
    · rw [padded, hpad, List.map_append, List.map_singleton]

/-- Without its last zeros a fraction has the same value. -/
theorem exists_trimZeros_padded (width n : Nat) : ∃ ds : List Nat, (∀ d ∈ ds, d < 10) ∧
    ds.length ≤ width ∧ ofDigits 10 ds * 10 ^ (width - ds.length) = n % 10 ^ width ∧
      trimZeros (padded width n) = ds.map Nat.digitChar := by
  induction width generalizing n with
  | zero =>
    exact ⟨[], List.forall_mem_nil _, Nat.le_refl 0, by rw [pow_zero, Nat.mod_one]; rfl, rfl⟩
  | succ width ih =>
    have hlast : (n % 10).digitChar = '0' ↔ n % 10 = 0 := by
      have hdigit : ∀ d < 10, (d.digitChar = '0' ↔ d = 0) := by decide
      exact hdigit _ (Nat.mod_lt n (by decide))
    by_cases hzero : n % 10 = 0
    · obtain ⟨ds, hds, hlen, hof, htrim⟩ := ih (n / 10)
      refine ⟨ds, hds, Nat.le_succ_of_le hlen, ?_, ?_⟩
      · rw [Nat.succ_sub hlen, pow_succ', pow_succ', Nat.mod_mul, hzero, Nat.zero_add, ← hof,
          Nat.mul_left_comm]
      · rw [padded, ← htrim]
        exact List.rdropWhile_concat_pos _ _ _ (decide_eq_true (hlast.2 hzero))
    · obtain ⟨ds, hds, hlen, hof, hpad⟩ := exists_padded (width + 1) n
      refine ⟨ds, hds, hlen.le, ?_, ?_⟩
      · rw [hlen, Nat.sub_self, pow_zero, Nat.mul_one, hof]
      · rw [← hpad, padded]
        refine List.rdropWhile_concat_neg _ _ _ ?_
        rw [decide_eq_true_eq, hlast]
        exact hzero

theorem getLast?_trimZeros (cs : List Char) : (trimZeros cs).getLast? ≠ some '0' := by
  have h := List.head?_dropWhile_not (fun c => decide (c = '0')) cs.reverse
  rw [trimZeros, List.getLast?_reverse]
  intro hzero
  rw [hzero] at h
  exact absurd h (by decide)

theorem fraction_eq_decimal {places n : Nat}
    (h : trimZeros (padded places (n % 10 ^ places)) = []) :
    fraction places n = decimal (n / 10 ^ places) := by
  have hpow : trimZeros (padded places (n % Nat.pow 10 places)) = [] := h
  rw [fraction, hpow]
  rfl

theorem fraction_eq_append {places n : Nat} {c : Char} {cs : List Char}
    (h : trimZeros (padded places (n % 10 ^ places)) = c :: cs) :
    fraction places n = decimal (n / 10 ^ places) ++ '.' :: c :: cs := by
  have hpow : trimZeros (padded places (n % Nat.pow 10 places)) = c :: cs := h
  rw [fraction, hpow]
  rfl

theorem not_mem_fraction {c : Char} (hdot : c ≠ '.') (h : digit? c = none) (places n : Nat) :
    c ∉ fraction places n := by
  obtain ⟨ds, hds, -, -, htrim⟩ := exists_trimZeros_padded places (n % 10 ^ places)
  cases ds with
  | nil =>
    rw [fraction_eq_decimal htrim]
    exact not_mem_decimal h _
  | cons d ds =>
    have hdigits : c ∉ (d :: ds).map Nat.digitChar := by
      intro hc
      have hdigit := isDigit_of_mem_map hds hc
      rw [isDigit, h] at hdigit
      cases hdigit
    rw [fraction_eq_append htrim, List.mem_append, List.mem_cons, not_or, not_or]
    exact ⟨not_mem_decimal h _, hdot, hdigits⟩

/-- A decimal fraction with more places. -/
theorem div_pow_eq {k places : Nat} (n : Nat) (h : k ≤ places) :
    (n : ℚ) / 10 ^ k = (n * 10 ^ (places - k) : Nat) / 10 ^ places := by
  have hpow : (10 : ℚ) ^ places = 10 ^ k * 10 ^ (places - k) := by
    rw [← pow_add, Nat.add_sub_cancel' h]
  rw [hpow]
  push_cast
  field_simp

end Numeral

end LeasePlan
