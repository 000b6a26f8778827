import Mathlib
import LeasePlan.Text.Utf8

namespace LeasePlan.Utf8

section Bytes

theorem toNat_toUInt8 {n : Nat} (h : n < 256) : n.toUInt8.toNat = n := Nat.mod_eq_of_lt h

theorem shape?_one : ∀ n < 128, shape? n.toUInt8 = some (1, 0x80, 0xBF) := by decide +kernel

theorem shape?_two : ∀ n < 32, 2 ≤ n → shape? (0xC0 + n).toUInt8 = some (2, 0x80, 0xBF) := by
  decide

theorem shape?_three : ∀ n < 16, shape? (0xE0 + n).toUInt8 =
    some (3, if n = 0 then 0xA0 else 0x80, if n = 13 then 0x9F else 0xBF) := by
  decide

theorem shape?_four : ∀ n < 5, shape? (0xF0 + n).toUInt8 =
    some (4, if n = 0 then 0x90 else 0x80, if n = 4 then 0x8F else 0xBF) := by
  decide

/-- A continuation byte with six bits. -/
def tail (n : Nat) : UInt8 := (0x80 + n).toUInt8

variable {n : Nat} {ns : List Nat} {bs : List UInt8}

theorem rest_tail {low high : UInt8} (hn : n < 64) (hl : low.toNat ≤ 0x80 + n)
    (hh : 0x80 + n ≤ high.toNat) (good more : Nat) :
    rest low high good (more + 1) (tail n :: bs) =
      (rest 0x80 0xBF (good + 1) more bs).bind fun bits => .ok (n :: bits) := by
  have htail : (tail n).toNat = 0x80 + n := toNat_toUInt8 (by omega)
  have hlow : low ≤ tail n := by
    rw [UInt8.le_iff_toNat_le, htail]
    exact hl
  have hhigh : tail n ≤ high := by
    rw [UInt8.le_iff_toNat_le, htail]
    exact hh
  have hbits : (0x80 + n) % 64 = n := by omega
  simp only [rest, hlow, hhigh, decide_true, Bool.and_self, if_true, htail, hbits]
  rfl

theorem rest_tails (h : ∀ n ∈ ns, n < 64) (good : Nat) :
    rest 0x80 0xBF good ns.length (ns.map tail ++ bs) = .ok ns := by
  induction ns generalizing good with
  | nil => rfl
  | cons n ns ih =>
    obtain ⟨hn, hns⟩ := List.forall_mem_cons.1 h
    have hhigh : (0xBF : UInt8).toNat = 0xBF := rfl
    rw [List.length_cons, List.map_cons, List.cons_append,
      rest_tail hn (Nat.le_add_right _ _) (by omega), ih hns]
    rfl

/-- A first byte with its continuation bytes, of which the first has bounds of its own. -/
theorem first_tails (ns : List Nat) (bs : List UInt8) {b low high : UInt8}
    (hb : shape? b = some (ns.length + 2, low, high)) (hn : n < 64)
    (hl : low.toNat ≤ 0x80 + n) (hh : 0x80 + n ≤ high.toNat)
    (hns : ∀ n ∈ ns, n < 64) :
    first b (tail n :: (ns.map tail ++ bs)) =
      .ok (Char.ofNat (ns.foldl (fun m d => m * 64 + d) (leading (ns.length + 2) b * 64 + n)),
        ns.length + 2) := by
  have hrest : rest low high 1 (ns.length + 1) (tail n :: (ns.map tail ++ bs)) = .ok (n :: ns) := by
    rw [rest_tail hn hl hh, rest_tails hns]
    rfl
  simp only [first, hb]
  change ((rest low high 1 (ns.length + 1) (tail n :: (ns.map tail ++ bs))).bind _) = _
  rw [hrest]
  rfl

end Bytes

section Characters

variable {n : Nat} (bs : List UInt8)

theorem first_one (h : n < 0x80) : first n.toUInt8 bs = .ok (Char.ofNat n, 1) := by
  have hb : n.toUInt8.toNat = n := toNat_toUInt8 (by omega)
  simp only [first, shape?_one n h]
  change Except.ok (Char.ofNat n.toUInt8.toNat, 1) = _
  rw [hb]

theorem first_two (hl : 0x80 ≤ n) (hu : n < 0x800) :
    first (0xC0 + n / 64).toUInt8 (tail (n % 64) :: bs) = .ok (Char.ofNat n, 2) := by
  have hlead : leading 2 (0xC0 + n / 64).toUInt8 = n / 64 := by
    change (0xC0 + n / 64).toUInt8.toNat % 32 = n / 64
    rw [toNat_toUInt8 (by omega)]
    omega
  have hhigh : (0xBF : UInt8).toNat = 0xBF := rfl
  have hfirst := first_tails [] bs (shape?_two (n / 64) (by omega) (by omega))
    (Nat.mod_lt n (by decide : 0 < 64)) (Nat.le_add_right _ _) (by omega) (List.forall_mem_nil _)
  refine hfirst.trans ?_
  rw [List.length_nil, hlead, List.foldl_nil, Nat.div_add_mod']

theorem first_three (hl : 0x800 ≤ n) (hu : n < 0x10000) (hvalid : n < 0xD800 ∨ 0xDFFF < n) :
    first (0xE0 + n / 4096).toUInt8 (tail (n / 64 % 64) :: tail (n % 64) :: bs) =
      .ok (Char.ofNat n, 3) := by
  have hlead : leading 3 (0xE0 + n / 4096).toUInt8 = n / 4096 := by
    change (0xE0 + n / 4096).toUInt8.toNat % 16 = n / 4096
    rw [toNat_toUInt8 (by omega)]
    omega
  have hlow : (if n / 4096 = 0 then 0xA0 else 0x80 : UInt8).toNat ≤ 0x80 + n / 64 % 64 := by
    split
    · change 0xA0 ≤ _
      omega
    · exact Nat.le_add_right _ _
  have hhigh : 0x80 + n / 64 % 64 ≤ (if n / 4096 = 13 then 0x9F else 0xBF : UInt8).toNat := by
    split
    · change _ ≤ 0x9F
      omega
    · change _ ≤ 0xBF
      omega
  have hfirst := first_tails [n % 64] bs (shape?_three (n / 4096) (by omega))
    (Nat.mod_lt (n / 64) (by decide : 0 < 64)) hlow hhigh
    (List.forall_mem_singleton.2 (Nat.mod_lt n (by decide)))
  have hvalue : (n / 4096 * 64 + n / 64 % 64) * 64 + n % 64 = n := by omega
  refine hfirst.trans ?_
  rw [List.length_singleton, hlead, List.foldl_cons, List.foldl_nil, hvalue]

theorem first_four (hl : 0x10000 ≤ n) (hu : n < 0x110000) :
    first (0xF0 + n / 262144).toUInt8
        (tail (n / 4096 % 64) :: tail (n / 64 % 64) :: tail (n % 64) :: bs) =
      .ok (Char.ofNat n, 4) := by
  have hlead : leading 4 (0xF0 + n / 262144).toUInt8 = n / 262144 := by
    change (0xF0 + n / 262144).toUInt8.toNat % 8 = n / 262144
    rw [toNat_toUInt8 (by omega)]
    omega
  have hlow : (if n / 262144 = 0 then 0x90 else 0x80 : UInt8).toNat ≤ 0x80 + n / 4096 % 64 := by
    split
    · change 0x90 ≤ _
      omega
    · exact Nat.le_add_right _ _
  have hhigh : 0x80 + n / 4096 % 64 ≤ (if n / 262144 = 4 then 0x8F else 0xBF : UInt8).toNat := by
    split
    · change _ ≤ 0x8F
      omega
    · change _ ≤ 0xBF
      omega
  have hfirst := first_tails [n / 64 % 64, n % 64] bs
    (shape?_four (n / 262144) (by omega)) (Nat.mod_lt (n / 4096) (by decide : 0 < 64)) hlow hhigh
    (List.forall_mem_cons.2 ⟨Nat.mod_lt _ (by decide),
      List.forall_mem_singleton.2 (Nat.mod_lt n (by decide))⟩)
  have hvalue : ((n / 262144 * 64 + n / 4096 % 64) * 64 + n / 64 % 64) * 64 + n % 64 = n := by omega
  refine hfirst.trans ?_
  have hlength : [n / 64 % 64, n % 64].length + 2 = 4 := rfl
  rw [hlength, hlead, List.foldl_cons, List.foldl_cons, List.foldl_nil, hvalue]

/-- A character is read back from its bytes, whatever follows them. -/
theorem first_encodeChar (c : Char) (r : List UInt8) :
    ∃ b bs, encodeChar c = b :: bs ∧ first b (bs ++ r) = .ok (c, bs.length + 1) := by
  have hvalid : c.toNat < 0xD800 ∨ 0xDFFF < c.toNat ∧ c.toNat < 0x110000 := c.valid
  have hchar : Char.ofNat c.toNat = c := Char.ofNat_toNat c
  rw [encodeChar]
  generalize c.toNat = n at *
  rw [← hchar]
  by_cases h1 : n < 0x80
  · rw [if_pos h1]
    exact ⟨_, [], rfl, first_one r h1⟩
  · by_cases h2 : n < 0x800
    · rw [if_neg h1, if_pos h2]
      exact ⟨_, [_], rfl, first_two r (by omega) h2⟩
    · by_cases h3 : n < 0x10000
      · rw [if_neg h1, if_neg h2, if_pos h3]
        exact ⟨_, [_, _], rfl, first_three r (by omega) h3 (by omega)⟩
      · rw [if_neg h1, if_neg h2, if_neg h3]
        exact ⟨_, [_, _, _], rfl, first_four r (by omega) (by omega)⟩

end Characters

theorem decodeFrom_encode {fuel : Nat} (cs : List Char) (position : Nat)
    (hf : (encode cs).length ≤ fuel) : decodeFrom fuel position (encode cs) = .ok cs := by
  induction cs generalizing fuel position with
  | nil => cases fuel <;> rfl
  | cons c cs ih =>
    obtain ⟨b, bs, hc, hfirst⟩ := first_encodeChar c (encode cs)
    have hencode : encode (c :: cs) = b :: (bs ++ encode cs) := by
      rw [encode, List.flatMap_cons, hc]
      rfl
    rw [hencode, List.length_cons, List.length_append] at hf
    cases fuel with
    | zero => exact absurd hf (Nat.not_succ_le_zero _)
    | succ fuel =>
      have hlength : (encode cs).length ≤ fuel := by omega
      have hrest := ih (position + (bs.length + 1)) hlength
      rw [hencode, decodeFrom, hfirst]
      dsimp only
      rw [Nat.add_sub_cancel, List.drop_left, hrest]
      rfl

/-- The bytes of a text are decoded to the text. -/
theorem decode_encode (cs : List Char) : decode (encode cs) = .ok cs :=
  decodeFrom_encode cs 0 le_rfl

end LeasePlan.Utf8
