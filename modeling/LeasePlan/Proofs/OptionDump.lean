import Mathlib
import LeasePlan.Proofs.ConfigDump
import LeasePlan.Proofs.Utf8Text

namespace LeasePlan

namespace Base64

/-- The number that a digit stands for. -/
def number? (c : Char) : Option Nat := (List.range 64).find? fun n => digit n = c

theorem number?_digit : ∀ n < 64, number? (digit n) = some n := by decide

theorem digit_ne_filling : ∀ n < 64, digit n ≠ '=' := by decide

theorem digit_isAscii : ∀ n < 64, (digit n).toNat < 128 := by decide

/-- The number that some digits stand for together. -/
def word? (cs : List Char) : Option Nat := (cs.mapM number?).map (Numeral.ofDigits 64)

/-- The lowest bytes of a number, highest first. -/
def bytes (count n : Nat) : List UInt8 := (Address.fields 256 count n).map Nat.toUInt8

/-- The last group, filled up if it holds two bytes or one. -/
def lastBytes? (a b c : Char) : Option (List UInt8) :=
  if c = '=' then (word? [a, b]).map fun n => bytes 1 (n / 16)
  else (word? [a, b, c]).map fun n => bytes 2 (n / 4)

/-- Reads groups of four digits as three bytes each; only the last group may be filled up. -/
def decode? : List Char → Option (List UInt8)
  | [] => some []
  | a :: b :: c :: d :: r =>
    if d = '=' ∧ r = [] then lastBytes? a b c
    else (word? [a, b, c, d]).bind fun n => (decode? r).map fun bs => bytes 3 n ++ bs
  | _ => none

/-- The number that some bytes stand for together. -/
def word (bs : List UInt8) : Nat := Numeral.ofDigits 256 (bs.map UInt8.toNat)

theorem toNat_lt_of_mem (bs : List UInt8) : ∀ d ∈ bs.map UInt8.toNat, d < 256 := by
  intro d hd
  obtain ⟨b, -, rfl⟩ := List.mem_map.1 hd
  exact b.toNat_lt

theorem bytes_word (bs : List UInt8) : bytes bs.length (word bs) = bs := by
  have hfields := Address.fields_ofDigits (toNat_lt_of_mem bs)
  rw [List.length_map] at hfields
  rw [bytes, word, hfields, List.map_map]
  exact List.map_id'' (fun _ => UInt8.ofNat_toNat) bs

theorem word_lt (bs : List UInt8) : word bs < 256 ^ bs.length := by
  have hlt := Numeral.ofDigits_lt (toNat_lt_of_mem bs)
  rwa [List.length_map] at hlt

theorem lt_of_mem_fields {count n : Nat} : ∀ d ∈ Address.fields 64 count n, d < 64 := by
  intro d hd
  exact Address.lt_of_mem_fields (by decide) hd

theorem word?_fields {count n : Nat} (h : n < 64 ^ count) :
    word? ((Address.fields 64 count n).map digit) = some n := by
  have hread : ∀ d ∈ Address.fields 64 count n, number? (digit d) = some d := fun d hd =>
    number?_digit d (lt_of_mem_fields d hd)
  rw [word?, mapM_map_eq_some hread, Option.map_some, Address.ofDigits_fields, Nat.mod_eq_of_lt h]

/-- Three bytes are the digits of one number in another base. -/
theorem encode_three (a b c : UInt8) (r : List UInt8) : encode (a :: b :: c :: r) =
    (Address.fields 64 4 (word [a, b, c])).map digit ++ encode r := by
  have ha := a.toNat_lt
  have hb := b.toNat_lt
  have hc := c.toNat_lt
  have hword : word [a, b, c] = (a.toNat * 256 + b.toNat) * 256 + c.toNat := by
    change ((0 * 256 + a.toNat) * 256 + b.toNat) * 256 + c.toNat = _
    rw [Nat.zero_mul, Nat.zero_add]
  have hfields (n : Nat) (hn : n < 16777216) : Address.fields 64 4 n =
      [n / 262144, n / 4096 % 64, n / 64 % 64, n % 64] := by
    have hfirst : n / 64 / 64 / 64 % 64 = n / 262144 := by omega
    have hsecond : n / 64 / 64 % 64 = n / 4096 % 64 := by omega
    change [n / 64 / 64 / 64 % 64, n / 64 / 64 % 64, n / 64 % 64, n % 64] = _
    rw [hfirst, hsecond]
  rw [encode, hword, hfields _ (by omega)]
  rfl

theorem encode_two (a b : UInt8) : encode [a, b] =
    (Address.fields 64 3 (word [a, b] * 4)).map digit ++ ['='] := by
  have ha := a.toNat_lt
  have hb := b.toNat_lt
  have hword : word [a, b] = a.toNat * 256 + b.toNat := by
    change (0 * 256 + a.toNat) * 256 + b.toNat = _
    rw [Nat.zero_mul, Nat.zero_add]
  have hfields (n : Nat) (hn : n < 262144) : Address.fields 64 3 n =
      [n / 4096, n / 64 % 64, n % 64] := by
    have hfirst : n / 64 / 64 % 64 = n / 4096 := by omega
    change [n / 64 / 64 % 64, n / 64 % 64, n % 64] = _
    rw [hfirst]
  rw [encode, hword, hfields _ (by omega)]
  rfl

theorem encode_one (a : UInt8) : encode [a] =
    (Address.fields 64 2 (word [a] * 16)).map digit ++ ['=', '='] := by
  have ha := a.toNat_lt
  have hword : word [a] = a.toNat := by
    change 0 * 256 + a.toNat = _
    rw [Nat.zero_mul, Nat.zero_add]
  have hfields (n : Nat) (hn : n < 4096) : Address.fields 64 2 n = [n / 64, n % 64] := by
    change [n / 64 % 64, n % 64] = _
    rw [Nat.mod_eq_of_lt (by omega)]
  rw [encode, hword, hfields _ (by omega)]
  rfl

/-- Digits never look like filling, so a group of them is read before whatever comes behind it. -/
theorem decode?_group {ds : List Nat} (hlen : ds.length = 4) (hds : ∀ d ∈ ds, d < 64)
    (r : List Char) : decode? (ds.map digit ++ r) =
      (word? (ds.map digit)).bind fun n => (decode? r).map fun bs => bytes 3 n ++ bs := by
  match ds, hlen with
  | [w, x, y, z], _ =>
    have hz : z < 64 := hds z (List.mem_of_getLast? rfl)
    simp only [List.map_cons, List.map_nil, List.cons_append, List.nil_append]
    rw [decode?, if_neg fun h => digit_ne_filling z hz h.1]

theorem decode?_three {ds : List Nat} (hlen : ds.length = 3) (hds : ∀ d ∈ ds, d < 64) :
    decode? (ds.map digit ++ ['=']) = (word? (ds.map digit)).map fun n => bytes 2 (n / 4) := by
  match ds, hlen with
  | [w, x, y], _ =>
    have hy : y < 64 := hds y (List.mem_of_getLast? rfl)
    simp only [List.map_cons, List.map_nil, List.cons_append, List.nil_append]
    rw [decode?, if_pos ⟨rfl, rfl⟩, lastBytes?, if_neg (digit_ne_filling y hy)]

theorem decode?_two {ds : List Nat} (hlen : ds.length = 2) :
    decode? (ds.map digit ++ ['=', '=']) =
      (word? (ds.map digit)).map fun n => bytes 1 (n / 16) := by
  match ds, hlen with
  | [w, x], _ =>
    simp only [List.map_cons, List.map_nil, List.cons_append, List.nil_append]
    rw [decode?, if_pos ⟨rfl, rfl⟩, lastBytes?, if_pos rfl]

theorem decode?_encode (bs : List UInt8) : decode? (encode bs) = some bs := by
  induction bs using encode.induct with
  | case1 a b c r ih =>
    have hlt : word [a, b, c] < 64 ^ 4 := (word_lt [a, b, c]).trans_eq (by norm_num)
    have hbytes : bytes 3 (word [a, b, c]) = [a, b, c] := bytes_word [a, b, c]
    rw [encode_three, decode?_group (Address.length_fields 64 4 _) lt_of_mem_fields,
      word?_fields hlt, ih, Option.bind_some, Option.map_some, hbytes]
    rfl
  | case2 a b =>
    have hlt : word [a, b] < 65536 := (word_lt [a, b]).trans_eq (by norm_num)
    have hbytes : bytes 2 (word [a, b]) = [a, b] := bytes_word [a, b]
    rw [encode_two, decode?_three (Address.length_fields 64 3 _) lt_of_mem_fields,
      word?_fields (by omega), Option.map_some, Nat.mul_div_cancel _ (by decide), hbytes]
  | case3 a =>
    have hlt : word [a] < 256 := (word_lt [a]).trans_eq (by norm_num)
    have hbytes : bytes 1 (word [a]) = [a] := bytes_word [a]
    rw [encode_one, decode?_two (Address.length_fields 64 2 _), word?_fields (by omega),
      Option.map_some, Nat.mul_div_cancel _ (by decide), hbytes]
  | case4 => rfl

theorem length_encode (bs : List UInt8) : (encode bs).length = 4 * ((bs.length + 2) / 3) := by
  induction bs using encode.induct with
  | case1 a b c r ih =>
    simp only [encode, List.length_cons, ih]
    omega
  | case2 a b => simp only [encode, List.length_cons, List.length_nil]
  | case3 a => simp only [encode, List.length_cons, List.length_nil]
  | case4 => rfl

theorem isAscii_of_mem_digits {count n : Nat} :
    ∀ c ∈ (Address.fields 64 count n).map digit, c.toNat < 128 := by
  intro c hc
  obtain ⟨d, hd, rfl⟩ := List.mem_map.1 hc
  exact digit_isAscii d (lt_of_mem_fields d hd)

theorem isAscii_of_mem_encode {bs : List UInt8} : ∀ c ∈ encode bs, c.toNat < 128 := by
  have hfilling : '='.toNat < 128 := by decide
  induction bs using encode.induct with
  | case1 a b c r ih =>
    rw [encode_three, List.forall_mem_append]
    exact ⟨isAscii_of_mem_digits, ih⟩
  | case2 a b =>
    rw [encode_two, List.forall_mem_append]
    exact ⟨isAscii_of_mem_digits, List.forall_mem_singleton.2 hfilling⟩
  | case3 a =>
    rw [encode_one, List.forall_mem_append]
    refine ⟨isAscii_of_mem_digits, List.forall_mem_cons.2 ⟨hfilling, ?_⟩⟩
    exact List.forall_mem_singleton.2 hfilling
  | case4 => exact List.forall_mem_nil _

end Base64

theorem Utf8.encode_of_isAscii {cs : List Char} (h : ∀ c ∈ cs, c.toNat < 128) :
    encode cs = cs.map fun c => c.toNat.toUInt8 := by
  induction cs with
  | nil => rfl
  | cons c cs ih =>
    rw [List.forall_mem_cons] at h
    rw [encode, List.flatMap_cons, encodeChar, if_pos h.1, List.map_cons, ← ih h.2]
    rfl

namespace DhcpOption

/-- The text that a dump has for the bytes of an option. -/
def valueText (o : DhcpOption) : List Char := Base64.encode o.value

/-- One option is what another one is read back as: the bytes of the text for its bytes. -/
structure IsReread (o p : DhcpOption) : Prop where
  code_eq : p.code = o.code
  value_eq : p.value = o.valueText.map fun c => c.toNat.toUInt8
  length_eq : p.value.length = 4 * ((o.value.length + 2) / 3)
  decoded : (Utf8.decode p.value).toOption.bind Base64.decode? = some o.value
  eq_iff : p = o ↔ o.value = []

theorem isReread_reread (o : DhcpOption) : o.IsReread o.reread := by
  have hvalue : o.reread.value = o.valueText.map fun c => c.toNat.toUInt8 :=
    Utf8.encode_of_isAscii Base64.isAscii_of_mem_encode
  have hlength : o.reread.value.length = 4 * ((o.value.length + 2) / 3) := by
    rw [hvalue, List.length_map]
    exact Base64.length_encode o.value
  constructor
  · rfl
  · exact hvalue
  · exact hlength
  · rw [reread, Utf8.decode_encode]
    exact Base64.decode?_encode o.value
  · constructor
    · intro h
      rw [h] at hlength
      apply List.eq_nil_of_length_eq_zero
      omega
    · intro h
      obtain ⟨code, value⟩ := o
      obtain rfl : value = [] := h
      rfl

/-- Reading the dump of an option gives its code and, for its bytes, the Base64 text that stands for
them; only an option without bytes comes back as it was. -/
theorem readOption_dump (o : DhcpOption) :
    o.document = .object [("code", .int o.code.val), ("value", .text (String.ofList o.valueText))] ∧
      ∃ p, Data.readOption o.document = .ok p ∧ o.IsReread p :=
  ⟨rfl, o.reread, Data.readOption_document o, o.isReread_reread⟩

/-- An option with one byte. -/
def oneByte : DhcpOption where
  code := ⟨6, by decide⟩
  value := [97]

/-- The one byte of an option is written with four digits and comes back as four bytes. -/
theorem oneByte_not_kept :
    Data.readOption oneByte.document = .ok { oneByte with value := [89, 81, 61, 61] } ∧
      ¬ ∀ o : DhcpOption, Data.readOption o.document = .ok o := by
  have hread : Data.readOption oneByte.document =
      .ok { oneByte with value := [89, 81, 61, 61] } := by
    rw [Data.readOption_document]
    rfl
  constructor
  · exact hread
  · intro h
    have hkept := h oneByte
    rw [hread] at hkept
    cases hkept

end DhcpOption

end LeasePlan
