import Mathlib
import LeasePlan.AddressRange.Document
import LeasePlan.Interface.Dump
import LeasePlan.Proofs.AddressText
import LeasePlan.Proofs.InterfaceBuild

namespace LeasePlan

namespace Text

variable {α : Type} [DecidableEq α]

/-- The text before the last separator and the text after it. -/
def cutLast? (sep : α) (cs : List α) : Option (List α × List α) :=
  match cut sep cs.reverse with
  | (_, none) => none
  | (after, some before) => some (before.reverse, after.reverse)

variable {sep : α}

theorem cutLast?_of_not_mem {cs : List α} (h : sep ∉ cs) : cutLast? sep cs = none := by
  rw [cutLast?, cut_of_not_mem (mt List.mem_reverse.1 h)]

theorem cutLast?_append {b : List α} (h : sep ∉ b) (a : List α) :
    cutLast? sep (a ++ sep :: b) = some (a, b) := by
  rw [cutLast?, List.reverse_append, List.reverse_cons, List.append_assoc, List.singleton_append,
    cut_append (mt List.mem_reverse.1 h)]
  simp only [List.reverse_reverse]

end Text

theorem Zone.percent_not_mem (z : Zone) : .char '%' ∉ z.text := by
  have h := z.valid
  simp only [isZoneText, Bool.and_eq_true, Bool.not_eq_true', List.contains_eq_mem,
    decide_eq_false_iff_not] at h
  exact h.1.2

namespace Address

theorem not_mem_dotted {c : Char} (hc : c ≠ '.') (h : Numeral.digit? c = none) (n : Nat) :
    c ∉ dotted n := by
  apply Text.not_mem_joined hc
  intro p hp
  obtain ⟨d, -, rfl⟩ := List.mem_map.1 hp
  exact Numeral.not_mem_decimal h d

theorem not_mem_figures {c : Char} (hdot : c ≠ '.') (hcolon : c ≠ ':')
    (hdigit : Numeral.digit? c = none) (hhex : Numeral.hexDigit? c = none) (a : Address) :
    c ∉ a.figures := by
  cases a with
  | v4 n => exact not_mem_dotted hdot hdigit n.val
  | v6 n z => exact not_mem_colons hcolon hhex n.val

theorem dash_not_mem_figures (a : Address) : '-' ∉ a.figures :=
  a.not_mem_figures (by decide) (by decide) rfl rfl

theorem percent_not_mem_figures (a : Address) : '%' ∉ a.figures :=
  a.not_mem_figures (by decide) (by decide) rfl rfl

/-- A percent sign begins a zone, and none stands in it. -/
theorem parts_zoneText {b : RawText} (h : .char '%' ∉ b) (z : Option Zone) :
    Text.parts (.char '%') (b ++ zoneText z) = b :: z.toList.map Zone.text := by
  cases z with
  | none =>
    rw [zoneText, List.append_nil, Text.parts_of_not_mem h]
    rfl
  | some z =>
    rw [zoneText, Text.parts_append_sep, Text.parts_of_not_mem h,
      Text.parts_of_not_mem z.percent_not_mem]
    rfl

theorem joined_zoneText (b : RawText) (z : Option Zone) :
    Text.joined (.char '%') (b :: z.toList.map Zone.text) = b ++ zoneText z := by
  cases z with
  | none => exact (List.append_nil b).symm
  | some z => rfl

end Address

theorem Data.toAddress_ofRaw (a : Address) : (Data.ofRaw a.text).toAddress = .ok a := by
  have hread : (Data.ofRaw a.text).address? = some a :=
    (address?_ofRaw a.text).trans (Address.parse?_text a)
  rw [toAddress, hread]

namespace AddressRange

theorem ofData_ofRaw (r : AddressRange) :
    ofData (.ofRaw r.first.text) (.ofRaw r.last.text) = .ok r := by
  have hends : ofEnds r.first r.last = .ok r := ofEnds_eq_ok_iff.2 ⟨rfl, rfl⟩
  rw [ofData, Data.toAddress_ofRaw, Data.toAddress_ofRaw]
  exact Requirement.range_eq_ok hends

theorem endsOf_document (first last : Data) :
    endsOf [(.text "start", first), (.text "end", last)] = .ok (first, last) := rfl

/-- A range is read back from its document and from the texts of its ends. -/
theorem read_written (r : AddressRange) :
    ofDocument r.document = .ok r ∧ ofData (.ofRaw r.first.text) (.ofRaw r.last.text) = .ok r := by
  refine ⟨?_, r.ofData_ofRaw⟩
  have hends := endsOf_document (.ofRaw r.first.text) (.ofRaw r.last.text)
  simp only [document, Data.object, List.map_cons, List.map_nil, ofDocument, hends]
  exact mapError_eq_ok.2 r.ofData_ofRaw

/-- The texts of the two ends. Before the first percent sign there is a dash only if the first end
has no zone; if it has one, the dash between the ends is the last one before the next percent sign,
as all dashes further to the left belong to the zone. -/
def splitEnds? (t : RawText) : Option (RawText × RawText) :=
  match Text.parts (.char '%') t with
  | [] => none
  | front :: zones =>
    match Text.cutLast? (.char '-') front with
    | some (first, last) => some (first, Text.joined (.char '%') (last :: zones))
    | none =>
      match zones with
      | [] => none
      | zone :: zones => (Text.cutLast? (.char '-') zone).map fun p =>
        (front ++ .char '%' :: p.1, Text.joined (.char '%') (p.2 :: zones))

example : splitEnds? "fe80::1%a-fe80::2-fe80::3%-" =
    some (RawText.ofString "fe80::1%a-fe80::2", RawText.ofString "fe80::3%-") := by decide

theorem splitEnds?_text (r : AddressRange) :
    splitEnds? r.text = some (r.first.text, r.last.text) := by
  have hfirst := mt RawText.mem_ofChars.1 r.first.percent_not_mem_figures
  have hlast := mt RawText.mem_ofChars.1 r.last.percent_not_mem_figures
  have hdash := mt RawText.mem_ofChars.1 r.last.dash_not_mem_figures
  rw [text, Address.text, Address.text]
  cases hz : r.first.zone with
  | none =>
    have hfront : .char '%' ∉
        RawText.ofChars r.first.figures ++ .char '-' :: RawText.ofChars r.last.figures := by
      rw [List.mem_append, List.mem_cons, not_or, not_or]
      exact ⟨hfirst, by decide, hlast⟩
    have hparts := Address.parts_zoneText hfront r.last.zone
    rw [List.append_assoc, List.cons_append] at hparts
    rw [Address.zoneText, List.append_nil, splitEnds?, hparts]
    dsimp only
    rw [Text.cutLast?_append hdash]
    dsimp only
    rw [Address.joined_zoneText]
  | some z =>
    have hzone : .char '%' ∉ z.text ++ .char '-' :: RawText.ofChars r.last.figures := by
      rw [List.mem_append, List.mem_cons, not_or, not_or]
      exact ⟨z.percent_not_mem, by decide, hlast⟩
    have hparts := Address.parts_zoneText hzone r.last.zone
    rw [List.append_assoc, List.cons_append] at hparts
    rw [Address.zoneText, List.append_assoc, List.cons_append, splitEnds?, Text.parts_append_sep,
      Text.parts_of_not_mem hfirst, hparts]
    dsimp only [List.singleton_append]
    rw [Text.cutLast?_of_not_mem (mt RawText.mem_ofChars.1 r.first.dash_not_mem_figures)]
    dsimp only
    rw [Text.cutLast?_append hdash, Option.map_some, Address.joined_zoneText]

/-- The range that a text stands for, if there is one. -/
def read? (t : RawText) : Option AddressRange := do
  let (first, last) ← splitEnds? t
  let a ← Address.parse? first
  let b ← Address.parse? last
  (ofEnds a b).toOption

theorem read?_text (r : AddressRange) : read? r.text = some r := by
  have hends : ofEnds r.first r.last = .ok r := ofEnds_eq_ok_iff.2 ⟨rfl, rfl⟩
  rw [read?, splitEnds?_text, Option.bind_eq_bind, Option.bind_some]
  dsimp only
  rw [r.first.parse?_text, r.last.parse?_text, Option.bind_eq_bind, Option.bind_some,
    Option.bind_some, hends]
  rfl

/-- Ranges with one text are the same, as the text of a range is read back as that range. -/
theorem text_identifies :
    (∀ r t : AddressRange, r.text = t.text ↔ r = t) ∧ ∀ r, read? r.text = some r := by
  refine ⟨?_, read?_text⟩
  intro r t
  constructor
  · intro h
    have hread : some r = some t := by rw [← read?_text r, h, read?_text]
    exact Option.some.inj hread
  · rintro rfl
    rfl

end AddressRange

end LeasePlan
