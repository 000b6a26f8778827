import Mathlib
import LeasePlan.AddressRange.Document
import LeasePlan.Proofs.RangeText

namespace LeasePlan

theorem Fault.ofRangeFlaw_injective : Function.Injective Fault.ofRangeFlaw := by
  intro f g h
  cases f <;> cases g <;> cases h <;> rfl

theorem Data.toAddress_of_address? {d : Data} {a : Address} (h : d.address? = some a) :
    d.toAddress = .ok a := by
  rw [toAddress, h]

namespace AddressRange

variable {s e : Address}

theorem HasFlaw.unique {f g : RangeFlaw} (hf : HasFlaw s e f) (hg : HasFlaw s e g) : f = g := by
  cases f with
  | familyMismatch =>
    cases g with
    | familyMismatch => rfl
    | notAscending => exact absurd hg.1 hf
    | tooLarge n => exact absurd hg.1 hf
  | notAscending =>
    cases g with
    | familyMismatch => exact absurd hf.1 hg
    | notAscending => rfl
    | tooLarge n => exact absurd hf.2 (Nat.not_le_of_lt hg.2.1)
  | tooLarge m =>
    cases g with
    | familyMismatch => exact absurd hf.1 hg
    | notAscending => exact absurd hg.2 (Nat.not_le_of_lt hf.2.1)
    | tooLarge n => rw [hf.2.2.1, hg.2.2.1]

theorem not_hasFlaw (r : AddressRange) (flaw : RangeFlaw) : ¬ HasFlaw r.first r.last flaw := by
  cases flaw with
  | familyMismatch => exact fun h => h r.family_eq
  | notAscending => exact fun h => Nat.not_le_of_lt r.number_lt h.2
  | tooLarge n =>
    rintro ⟨-, -, rfl, h⟩
    exact Nat.not_le_of_lt h r.length_le

theorem ofEnds_eq_error_iff {flaw : RangeFlaw} :
    ofEnds s e = .error flaw ↔ HasFlaw s e flaw := by
  refine ⟨hasFlaw_of_ofEnds, fun h => ?_⟩
  cases hr : ofEnds s e with
  | ok r =>
    obtain ⟨rfl, rfl⟩ := ofEnds_eq_ok_iff.1 hr
    exact absurd h (r.not_hasFlaw flaw)
  | error f => rw [HasFlaw.unique (hasFlaw_of_ofEnds hr) h]

/-- The only addresses without a flaw are those with a range between them. -/
theorem exists_ofEnds_iff : (∃ r, ofEnds s e = .ok r) ↔
    s.family = e.family ∧ s.number < e.number ∧ e.number - s.number + 1 ≤ maxLength := by
  constructor
  · rintro ⟨r, hr⟩
    obtain ⟨rfl, rfl⟩ := ofEnds_eq_ok_iff.1 hr
    exact ⟨r.family_eq, r.number_lt, r.length_le⟩
  · rintro ⟨hf, hn, hl⟩
    exact ⟨⟨s, e, hf, hn, hl⟩, ofEnds_eq_ok_iff.2 ⟨rfl, rfl⟩⟩

variable {x y : Data}

theorem ofData_eq (hx : x.address? = some s) (hy : y.address? = some e) :
    ofData x y = Requirement.range s e := by
  rw [ofData, Data.toAddress_of_address? hx, Data.toAddress_of_address? hy]
  rfl

theorem ofData_eq_ok_iff (hx : x.address? = some s) (hy : y.address? = some e)
    {r : AddressRange} : ofData x y = .ok r ↔ ofEnds s e = .ok r := by
  rw [ofData_eq hx hy, Requirement.range]
  cases ofEnds s e with
  | ok q => simp only [Except.ok.injEq]
  | error f => simp only [reduceCtorEq]

theorem ofData_eq_error_iff (hx : x.address? = some s) (hy : y.address? = some e)
    {flaw : RangeFlaw} :
    ofData x y = .error (.fault (.ofRangeFlaw flaw)) ↔ HasFlaw s e flaw := by
  rw [ofData_eq hx hy, Requirement.range, ← ofEnds_eq_error_iff]
  cases ofEnds s e with
  | ok q => simp only [reduceCtorEq]
  | error f =>
    simp only [Except.error.injEq, Failure.fault.injEq, Fault.ofRangeFlaw_injective.eq_iff]

theorem endsOf_perm {es : List (Data × Data)}
    (h : es.Perm [(.text "start", x), (.text "end", y)]) : endsOf es = .ok (x, y) := by
  have hpair : es = [(.text "start", x), (.text "end", y)] ∨
      es = [(.text "end", y), (.text "start", x)] := List.perm_pair.1 h
  rcases hpair with rfl | rfl
  · rfl
  · rfl

/-- What a document has for an issue if its ends have a flaw. -/
def refusal (flaw : RangeFlaw) : Failure :=
  .issues [⟨[], .refused (Fault.ofRangeFlaw flaw).text.lossy⟩]

theorem isBroken_text_ofRangeFlaw (flaw : RangeFlaw) :
    (Fault.ofRangeFlaw flaw).text.isBroken = false := by
  cases flaw with
  | familyMismatch => decide
  | notAscending => decide
  | tooLarge n =>
    change RawText.isBroken (List.intercalate ": "
      [RawText.ofString "invalid ip range", (Cause.rangeTooLarge 0 maxLength).message]) = false
    decide

theorem message_refusal (flaw : RangeFlaw) :
    (refusal flaw).message = ": Value error, " ++ (Fault.ofRangeFlaw flaw).text := by
  have hmessage : (refusal flaw).message =
      RawText.ofString (": Value error, " ++ (Fault.ofRangeFlaw flaw).text.lossy) := by
    change RawText.ofString ("" ++ ": " ++ ("Value error, " ++ _)) = _
    rw [String.empty_append, ← String.append_assoc]
    rfl
  rw [hmessage, RawText.ofString_append, RawText.ofString_lossy (isBroken_text_ofRangeFlaw flaw)]

theorem ofDocument_perm {es : List (Data × Data)}
    (h : es.Perm [(.text "start", x), (.text "end", y)]) :
    ofDocument (.mapping es) = (ofData x y).mapError asIssue := by
  simp only [ofDocument, endsOf_perm h]
  rfl

/-- How a range is made of two addresses, and read from a document that holds them: the first of
three flaws that they have is the failure, and without one they are the ends as they are. -/
structure MadeFrom (s e : Address) (made read : Except Failure AddressRange) : Prop where
  mismatch : made = .error (.fault (.ofRangeFlaw .familyMismatch)) ↔ s.family ≠ e.family
  notAscending : made = .error (.fault (.ofRangeFlaw .notAscending)) ↔
    s.family = e.family ∧ e.number ≤ s.number
  tooLarge : ∀ n, made = .error (.fault (.ofRangeFlaw (.tooLarge n))) ↔
    s.family = e.family ∧ s.number < e.number ∧ n = e.number - s.number + 1 ∧ 2 ^ 32 - 1 < n
  made_iff : (∃ r, made = .ok r) ↔
    s.family = e.family ∧ s.number < e.number ∧ e.number - s.number + 1 ≤ 2 ^ 32 - 1
  ends : ∀ r, made = .ok r ↔ r.first = s ∧ r.last = e
  read_ok : ∀ r, read = .ok r ↔ made = .ok r
  read_error : ∀ f, read = .error f ↔
    ∃ flaw, f = refusal flaw ∧ made = .error (.fault (.ofRangeFlaw flaw))
  message : ∀ flaw, (refusal flaw).message = ": Value error, " ++ (Fault.ofRangeFlaw flaw).text

theorem mapError_asIssue_eq_error_iff {made : Except Failure AddressRange}
    (hmade : ∀ f, made = .error f → ∃ flaw, f = .fault (.ofRangeFlaw flaw)) {f : Failure} :
    made.mapError asIssue = .error f ↔
      ∃ flaw, f = refusal flaw ∧ made = .error (.fault (.ofRangeFlaw flaw)) := by
  cases made with
  | ok r =>
    constructor
    · exact nofun
    · rintro ⟨flaw, -, h⟩
      cases h
  | error g =>
    obtain ⟨flaw, rfl⟩ := hmade g rfl
    constructor
    · intro h
      cases h
      exact ⟨flaw, rfl, rfl⟩
    · rintro ⟨flaw', rfl, h⟩
      rw [h]
      rfl

theorem exists_flaw_of_ofData (hx : x.address? = some s) (hy : y.address? = some e) {f : Failure}
    (h : ofData x y = .error f) : ∃ flaw, f = .fault (.ofRangeFlaw flaw) := by
  rw [ofData_eq hx hy, Requirement.range] at h
  cases hr : ofEnds s e with
  | ok r => simp only [hr, reduceCtorEq] at h
  | error flaw =>
    simp only [hr, Except.error.injEq] at h
    exact ⟨flaw, h.symm⟩

/-- Two values that stand for addresses, and a document with these under its two keys, are read as
the range between them or refused with the first flaw of the pair. -/
theorem made_exactly (hx : x.address? = some s) (hy : y.address? = some e)
    {es : List (Data × Data)} (hes : es.Perm [(.text "start", x), (.text "end", y)]) :
    MadeFrom s e (ofData x y) (ofDocument (.mapping es)) := by
  rw [ofDocument_perm hes]
  refine ⟨ofData_eq_error_iff hx hy, ofData_eq_error_iff hx hy, fun n => ofData_eq_error_iff hx hy,
    ?_, fun r => (ofData_eq_ok_iff hx hy).trans ofEnds_eq_ok_iff, fun r => mapError_eq_ok,
    fun f => ?_, message_refusal⟩
  · simp only [ofData_eq_ok_iff hx hy]
    exact exists_ofEnds_iff
  · exact mapError_asIssue_eq_error_iff fun g hg => exists_flaw_of_ofData hx hy hg

/-- The least link-local address but one, in a zone. -/
def zonedStart : Address :=
  .v6 ⟨338288524927261089654018896841347694593, by decide⟩ (some ⟨RawText.ofString "lan", rfl⟩)

def plainEnd : Address := .v6 ⟨338288524927261089654018896841347694594, by decide⟩ none

/-- The end as sixteen bytes comes before the start as a text in a zone: neither how they are
written nor their order in the document makes a difference. -/
theorem made_exactly_zoned :
    (Data.text "fe80::1%lan").address? = some zonedStart ∧
    (Data.bytes [254, 128, 0, 0, 0, 0, 0, 0, 0, 0, 0, 0, 0, 0, 0, 2]).address? = some plainEnd ∧
    MadeFrom zonedStart plainEnd
      (ofData (.text "fe80::1%lan")
        (.bytes [254, 128, 0, 0, 0, 0, 0, 0, 0, 0, 0, 0, 0, 0, 0, 2]))
      (ofDocument (.mapping
        [(.text "end", .bytes [254, 128, 0, 0, 0, 0, 0, 0, 0, 0, 0, 0, 0, 0, 0, 2]),
          (.text "start", .text "fe80::1%lan")])) :=
  ⟨by decide, by decide, made_exactly (by decide) (by decide) (.swap ..)⟩

end AddressRange
end LeasePlan
