import Mathlib
import LeasePlan.Proofs.GroupEmoji
import LeasePlan.Proofs.LineFitting
import LeasePlan.Proofs.MarkupText
import LeasePlan.Proofs.RangeText
import LeasePlan.Proofs.WrittenText

namespace LeasePlan

open Emoji (IsGroups isGroupChar)

section Groups

theorem isGroupChar_of_mem_toDigits {base : Nat} (hb : 1 < base) (hle : base ≤ 16) {c : Char}
    {n : Nat} (h : c ∈ Nat.toDigits base n) : isGroupChar c = true := by
  obtain ⟨ds, hds, -, hto⟩ := Numeral.exists_digits hb n
  rw [hto] at h
  obtain ⟨d, hd, rfl⟩ := List.mem_map.1 h
  have hdigits : ∀ d < 16, isGroupChar d.digitChar = true := by decide
  exact hdigits d (Nat.lt_of_lt_of_le (hds d hd) hle)

theorem isGroups_toDigits {base : Nat} (hb : 1 < base) (hle : base ≤ 16) (n : Nat) :
    IsGroups (Nat.toDigits base n) :=
  fun _ hc => .inr (isGroupChar_of_mem_toDigits hb hle hc)

theorem toList_toString (n : Nat) : (toString n).toList = Nat.toDigits 10 n :=
  String.toList_ofList

theorem isGroups_append {a b : List Char} (ha : IsGroups a) (hb : IsGroups b) :
    IsGroups (a ++ b) := List.forall_mem_append.2 ⟨ha, hb⟩

theorem isGroups_cons {c : Char} {b : List Char} (hc : c = ':' ∨ isGroupChar c = true)
    (hb : IsGroups b) : IsGroups (c :: b) := List.forall_mem_cons.2 ⟨hc, hb⟩

theorem isGroups_joined {sep : Char} (hsep : sep = ':' ∨ isGroupChar sep = true)
    {ps : List (List Char)} (h : ∀ p ∈ ps, IsGroups p) : IsGroups (Text.joined sep ps) := by
  intro c hc
  by_contra hno
  refine Text.not_mem_joined ?_ ?_ hc
  · rintro rfl
    exact hno hsep
  · intro p hp hcp
    exact hno (h p hp c hcp)

theorem length_joined_le {sep : Char} {k : Nat} {ps : List (List Char)}
    (h : ∀ p ∈ ps, p.length ≤ k) : (Text.joined sep ps).length ≤ ps.length * (k + 1) := by
  induction ps with
  | nil => exact Nat.zero_le _
  | cons p ps ih =>
    rw [List.forall_mem_cons] at h
    cases ps with
    | nil =>
      rw [Text.joined, List.length_singleton]
      omega
    | cons q qs =>
      have hrest := ih h.2
      rw [Text.joined, List.length_append, List.length_cons, List.length_cons, Nat.succ_mul]
      omega

end Groups

namespace Address

theorem isGroups_dotted (n : Nat) : IsGroups (dotted n) := by
  refine isGroups_joined (.inr (by decide)) fun p hp => ?_
  obtain ⟨d, -, rfl⟩ := List.mem_map.1 hp
  exact isGroups_toDigits (by decide) (by decide) d

theorem isGroups_hexGroups (gs : List Nat) : IsGroups (hexGroups gs) := by
  refine isGroups_joined (.inl rfl) fun p hp => ?_
  obtain ⟨g, -, rfl⟩ := List.mem_map.1 hp
  exact isGroups_toDigits (by decide) (by decide) g

theorem isGroups_colons (n : Nat) : IsGroups (colons n) := by
  unfold colons
  dsimp only
  split
  · exact isGroups_hexGroups _
  · exact isGroups_append (isGroups_hexGroups _)
      (isGroups_cons (.inl rfl) (isGroups_cons (.inl rfl) (isGroups_hexGroups _)))

theorem isGroups_figures (a : Address) : IsGroups a.figures := by
  cases a with
  | v4 n => exact isGroups_dotted n.val
  | v6 n z => exact isGroups_colons n.val

theorem length_dotted_le (n : Nat) : (dotted n).length ≤ 16 := by
  have hlength : ((octets n).map Numeral.decimal).length = 4 := by
    rw [List.length_map, octets, length_fields]
  have hjoined : (dotted n).length ≤ ((octets n).map Numeral.decimal).length * 4 := by
    apply length_joined_le
    intro p hp
    obtain ⟨d, hd, rfl⟩ := List.mem_map.1 hp
    have hlt : d < 256 := lt_of_mem_fields (by decide) hd
    exact (Nat.length_toDigits_le_iff (by decide) (by decide)).2 (by omega)
  rwa [hlength] at hjoined

theorem length_hexGroups_le {gs : List Nat} (h : ∀ g ∈ gs, g < 65536) :
    (hexGroups gs).length ≤ gs.length * 5 := by
  have hjoined : (hexGroups gs).length ≤ (gs.map Numeral.hexadecimal).length * 5 := by
    apply length_joined_le
    intro p hp
    obtain ⟨g, hg, rfl⟩ := List.mem_map.1 hp
    exact (Nat.length_toDigits_le_iff (by decide) (by decide)).2 (h g hg)
  rwa [List.length_map] at hjoined

theorem length_colons_le (n : Nat) : (colons n).length ≤ 40 := by
  have hlt : ∀ g ∈ groups n, g < 65536 := fun g hg => lt_of_mem_fields (by decide) hg
  have hlength : (groups n).length = 8 := length_fields _ _ _
  unfold colons
  dsimp only
  split
  · have hall := length_hexGroups_le hlt
    rwa [hlength] at hall
  next hgap =>
    have hsum := length_longestGap (groups n)
    have hhigh := length_hexGroups_le fun g hg =>
      hlt g (List.mem_of_mem_take (i := (longestGap (groups n)).1) hg)
    have hlow := length_hexGroups_le fun g hg =>
      hlt g (List.mem_of_mem_drop (i := (longestGap (groups n)).1 + (longestGap (groups n)).2) hg)
    rw [List.length_append, List.length_cons, List.length_cons]
    omega

theorem length_figures_le (a : Address) : a.figures.length ≤ 40 := by
  cases a with
  | v4 n => exact Nat.le_trans (length_dotted_le n.val) (by decide)
  | v6 n z => exact length_colons_le n.val

theorem text_of_zone {a : Address} (h : a.zone = none) : a.text = RawText.ofChars a.figures := by
  rw [text, h]
  exact List.append_nil _

/-- A slash stands neither in the numbers of an address nor in its zone. -/
theorem slash_not_mem_text (a : Address) : .char '/' ∉ a.text := by
  have hfigures : '/' ∉ a.figures := a.not_mem_figures (by decide) (by decide) rfl rfl
  rw [text, List.mem_append, not_or]
  refine ⟨mt RawText.mem_ofChars.1 hfigures, ?_⟩
  cases a.zone with
  | none => exact List.not_mem_nil
  | some z =>
    have hvalid := z.valid
    simp only [isZoneText, Bool.and_eq_true, Bool.not_eq_true', List.contains_eq_mem,
      decide_eq_false_iff_not] at hvalid
    rw [zoneText, List.mem_cons, not_or]
    exact ⟨by decide, hvalid.2⟩

theorem zone_of_readV4 {t : RawText} {a : Address} (h : readV4 t = some a) : a.zone = none := by
  obtain ⟨cs, -, h⟩ := Option.bind_eq_some_iff.1 h
  obtain ⟨n, -, h⟩ := Option.bind_eq_some_iff.1 h
  rw [ofNumber?] at h
  split_ifs at h
  cases h
  rfl

/-- A zone is read from the text behind the first percent sign. -/
theorem cut_of_readV6 {t : RawText} {a : Address} (h : readV6 t = some a) :
    (Text.cut (.char '%') t).2 = a.zone.map Zone.text := by
  obtain ⟨cs, -, h⟩ := Option.bind_eq_some_iff.1 h
  obtain ⟨n, -, h⟩ := Option.bind_eq_some_iff.1 h
  split_ifs at h with hn
  cases hcut : (Text.cut (.char '%') t).2 with
  | none =>
    rw [hcut] at h
    cases h
    rfl
  | some z =>
    rw [hcut] at h
    dsimp only at h
    split_ifs at h
    cases h
    rfl

/-- An address has no surrogates in its zone if the text that it is read from has none. -/
theorem isBroken_of_parse? {t : RawText} {a : Address} (ht : t.isBroken = false)
    (h : parse? t = some a) : a.text.isBroken = false := by
  rw [text, RawText.isBroken_append, RawText.isBroken_ofChars, Bool.false_or]
  cases hz : a.zone with
  | none => rfl
  | some z =>
    cases hread : readV4 t with
    | some b =>
      rw [parse?, hread] at h
      cases h
      cases hz.symm.trans (zone_of_readV4 hread)
    | none =>
      rw [parse?, hread] at h
      have hcut := cut_of_readV6 h
      rw [hz] at hcut
      have hzone : z.text.isBroken = false :=
        RawText.isBroken_of_subset (Text.subset_of_cut hcut) ht
      exact hzone

end Address

namespace AddressRange

variable {r : AddressRange}

/-- The text of a range between addresses without zones. -/
def figures (r : AddressRange) : List Char := r.first.figures ++ '-' :: r.last.figures

theorem text_of_zones (hfirst : r.first.zone = none) (hlast : r.last.zone = none) :
    r.text = RawText.ofChars r.figures := by
  rw [text, Address.text_of_zone hfirst, Address.text_of_zone hlast, figures,
    RawText.ofChars_append, RawText.ofChars_cons]

theorem isGroups_figures (r : AddressRange) : IsGroups r.figures :=
  isGroups_append r.first.isGroups_figures
    (isGroups_cons (.inr (by decide)) r.last.isGroups_figures)

theorem length_figures_le (r : AddressRange) : r.figures.length ≤ 81 := by
  have hlow := r.first.length_figures_le
  have hhigh := r.last.length_figures_le
  rw [figures, List.length_append, List.length_cons]
  omega

theorem figures_ne_nil (r : AddressRange) : r.figures ≠ [] :=
  List.append_ne_nil_of_right_ne_nil _ (List.cons_ne_nil _ _)

theorem slash_not_mem_text (r : AddressRange) : .char '/' ∉ r.text := by
  rw [text, List.mem_append, List.mem_cons, not_or, not_or]
  exact ⟨r.first.slash_not_mem_text, by decide, r.last.slash_not_mem_text⟩

theorem isBroken_text (hfirst : r.first.text.isBroken = false)
    (hlast : r.last.text.isBroken = false) : r.text.isBroken = false := by
  rw [text, RawText.isBroken_append, hfirst, Bool.false_or]
  exact hlast

end AddressRange

end LeasePlan
