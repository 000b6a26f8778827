import Mathlib
import LeasePlan.Document.Scalar

namespace LeasePlan

namespace CodePoint

theorem number_surrogate (k : Fin 2048) : (surrogate k).number = 0xD800 + k.val := rfl

/-- No character has the number of a surrogate. -/
theorem number_char_ne (c : Char) (k : Fin 2048) : (char c).number ≠ (surrogate k).number := by
  have hvalid : c.toNat < 0xD800 ∨ 0xDFFF < c.toNat := by
    rcases c.valid with h | h
    · exact .inl h
    · exact .inr h.1
  rw [number_surrogate, number]
  omega

theorem number_injective : Function.Injective number := by
  intro a b h
  cases a with
  | char c =>
    cases b with
    | char d => exact congrArg char (Char.toNat_inj.1 h)
    | surrogate k => exact absurd h (number_char_ne c k)
  | surrogate k =>
    cases b with
    | char d => exact absurd h.symm (number_char_ne d k)
    | surrogate j => exact congrArg surrogate (Fin.ext (Nat.add_left_cancel h))

theorem le_iff {a b : CodePoint} : a ≤ b ↔ a.number ≤ b.number := Iff.rfl

theorem lt_iff {a b : CodePoint} : a < b ↔ a.number < b.number := Iff.rfl

instance : Std.IsLinearOrder CodePoint where
  le_refl _ := Nat.le_refl _
  le_trans _ _ _ := Nat.le_trans
  le_antisymm _ _ h h' := number_injective (Nat.le_antisymm h h')
  le_total _ _ := Nat.le_total _ _

instance : Std.LawfulOrderLT CodePoint where
  lt_iff a b := by
    rw [lt_iff, le_iff, le_iff]
    omega

end CodePoint

namespace RawText

variable {s : String} {cs : List Char} {t u : RawText}

/-- Texts are ordered by the first code point in which they differ. -/
theorem lt_of_le_of_ne (h : t ≤ u) (hne : t ≠ u) : t < u := by
  by_contra hlt
  exact hne (List.le_antisymm h (List.not_lt.1 hlt))

theorem le_of_lt (h : t < u) : t ≤ u := List.le_of_lt h

theorem ne_of_lt (h : t < u) : t ≠ u := by
  rintro rfl
  exact List.lt_irrefl t h

theorem ofChars_injective : Function.Injective ofChars :=
  List.map_injective_iff.2 fun _ _ h => CodePoint.char.inj h

theorem ofChars_append (a b : List Char) : ofChars (a ++ b) = ofChars a ++ ofChars b :=
  List.map_append

theorem ofChars_cons (c : Char) (b : List Char) : ofChars (c :: b) = .char c :: ofChars b := rfl

theorem ofString_append (a b : String) : ofString (a ++ b) = ofString a ++ ofString b := by
  rw [ofString, String.toList_append, ofChars_append, ofString, ofString]

theorem ofString_ofList (cs : List Char) : ofString (String.ofList cs) = ofChars cs := by
  rw [ofString, String.toList_ofList]

theorem mem_ofChars {c : Char} : .char c ∈ ofChars cs ↔ c ∈ cs :=
  List.mem_map_of_injective fun _ _ h => CodePoint.char.inj h

theorem chars?_ofChars (cs : List Char) : chars? (ofChars cs) = some cs := by
  induction cs with
  | nil => rfl
  | cons c cs ih =>
    rw [chars?] at ih
    rw [chars?, ofChars_cons, List.mapM_cons, ih]
    rfl

theorem chars?_eq_some {cs : List Char} (h : chars? t = some cs) : t = ofChars cs := by
  induction t generalizing cs with
  | nil =>
    cases h
    rfl
  | cons c t ih =>
    rw [chars?, List.mapM_cons, Option.bind_eq_bind, Option.bind_eq_some_iff] at h
    obtain ⟨d, hd, h⟩ := h
    obtain ⟨ds, hds, h⟩ := Option.bind_eq_some_iff.1 h
    cases h
    cases c with
    | char e =>
      cases hd
      rw [ih hds]
      rfl
    | surrogate k => cases hd

theorem exists_append_of_chars? {a cs : List Char} (h : chars? (ofChars a ++ t) = some cs) :
    ∃ b, cs = a ++ b := by
  obtain ⟨a', b, rfl, ha, -⟩ := List.append_eq_map_iff.1 (chars?_eq_some h)
  exact ⟨b, by rw [ofChars_injective ha]⟩

theorem isBroken_ofChars (cs : List Char) : isBroken (ofChars cs) = false := by
  rw [isBroken, List.any_eq_false]
  intro c hc
  obtain ⟨d, -, rfl⟩ := List.mem_map.1 hc
  exact Bool.false_ne_true

theorem isBroken_eq_false_iff : t.isBroken = false ↔ ∀ c ∈ t, ∃ d, c = .char d := by
  rw [isBroken, List.any_eq_false]
  refine forall₂_congr fun c _ => ?_
  cases c with
  | char d => exact iff_of_true Bool.false_ne_true ⟨d, rfl⟩
  | surrogate k =>
    refine iff_of_false (fun h => h rfl) ?_
    rintro ⟨d, h⟩
    cases h

theorem isBroken_append : (t ++ u).isBroken = (t.isBroken || u.isBroken) := List.any_append

theorem isBroken_of_subset (h : t ⊆ u) (hu : u.isBroken = false) : t.isBroken = false :=
  isBroken_eq_false_iff.2 fun c hc => isBroken_eq_false_iff.1 hu c (h hc)

/-- A text without surrogates is made of characters. -/
theorem exists_ofString (h : t.isBroken = false) : ∃ s : String, t = s := by
  induction t with
  | nil => exact ⟨"", rfl⟩
  | cons c t ih =>
    rw [isBroken, List.any_cons, Bool.or_eq_false_iff] at h
    obtain ⟨s, rfl⟩ := ih h.2
    cases c with
    | char d =>
      refine ⟨String.ofList (d :: s.toList), ?_⟩
      rw [ofString_ofList]
      rfl
    | surrogate k => exact absurd h.1 Bool.true_eq_false_eq_False

theorem lossy_ofString (s : String) : lossy s = s := by
  have hmap : (ofString s).flatMap CodePoint.lossy = s.toList := by
    rw [ofString, ofChars, List.flatMap_map]
    exact List.flatMap_singleton' s.toList
  rw [lossy, hmap, String.ofList_toList]

theorem ofString_lossy (h : t.isBroken = false) : ofString t.lossy = t := by
  obtain ⟨s, rfl⟩ := exists_ofString h
  rw [lossy_ofString]

theorem marked_ofString (mark : Char) (s : String) : marked mark s = s := by
  have hmap : (ofString s).map (fun c => c.char?.getD mark) = s.toList := by
    rw [ofString, ofChars, List.map_map]
    exact List.map_id s.toList
  rw [marked, hmap, String.ofList_toList]

/-- A text without surrogates needs no mark. -/
theorem marked_of_not_isBroken (h : t.isBroken = false) (mark : Char) :
    t.marked mark = t.lossy := by
  obtain ⟨s, rfl⟩ := exists_ofString h
  rw [marked_ofString, lossy_ofString]

theorem marked_ofChars (mark : Char) (cs : List Char) :
    marked mark (ofChars cs) = String.ofList cs := by
  rw [← ofString_ofList, marked_ofString]

theorem mem_marked {mark c : Char} (h : c ∈ (t.marked mark).toList) : .char c ∈ t ∨ c = mark := by
  rw [marked, String.toList_ofList, List.mem_map] at h
  obtain ⟨d, hd, rfl⟩ := h
  cases d with
  | char e => exact .inl hd
  | surrogate k => exact .inr rfl

end RawText

namespace Data

theorem ofRaw_ofString (s : String) : ofRaw s = .text s := by
  rw [ofRaw, RawText.ofString, RawText.isBroken_ofChars, ← RawText.ofString, RawText.lossy_ofString]
  rfl

theorem ofRaw_ne_null (t : RawText) : ofRaw t ≠ .null := by
  rw [ofRaw]
  split_ifs
  · exact nofun
  · exact nofun

/-- A text is read from what is written for it, whether or not it has surrogates. -/
theorem readText_ofRaw (t : RawText) : (ofRaw t).readText = .ok t := by
  cases h : t.isBroken with
  | false =>
    obtain ⟨s, rfl⟩ := RawText.exists_ofString h
    rw [ofRaw_ofString]
    rfl
  | true =>
    rw [ofRaw, h]
    rfl

end Data

end LeasePlan
