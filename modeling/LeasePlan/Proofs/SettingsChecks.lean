import Mathlib
import LeasePlan.Proofs.FirstFailing
import LeasePlan.Proofs.InterfaceGeometry

namespace LeasePlan

/-- What is asked of the enabled IPv4 settings of an interface. -/
inductive V4Check
  | gatewayFamily
  | maskFamily
  | maskShape
  | startFamily
  | endFamily
  | ascending
  | size
deriving DecidableEq

namespace V4Check

def inOrder : List V4Check :=
  [gatewayFamily, maskFamily, maskShape, startFamily, endFamily, ascending, size]

def Holds (v : V4Config) : V4Check → Prop
  | gatewayFamily => ∃ g, v.gateway = some (.v4 g)
  | maskFamily => ∃ m, v.mask = some (.v4 m)
  | maskShape => ∀ m, v.mask = some (.v4 m) → ∃ p ≤ 32, m.val = 2 ^ 32 - 2 ^ (32 - p)
  | startFamily => ∃ s, v.rangeStart = some (.v4 s)
  | endFamily => ∃ e, v.rangeEnd = some (.v4 e)
  | ascending => ∀ s e, v.rangeStart = some (.v4 s) → v.rangeEnd = some (.v4 e) → s < e
  | size => ∀ s e, v.rangeStart = some (.v4 s) → v.rangeEnd = some (.v4 e) →
      e.val - s.val + 1 ≤ 2 ^ 32 - 1

/-- The number of addresses from the start of the range to its end. -/
def span (v : V4Config) : Nat :=
  match v.rangeStart, v.rangeEnd with
  | some s, some e => e.number - s.number + 1
  | _, _ => 0

/-- What is wrong where a check fails. -/
def cause (v : V4Config) : V4Check → Cause
  | gatewayFamily => .addressFamily "gateway ip" "ipv4"
  | maskFamily => .addressFamily "subnet mask" "ipv4 cidr"
  | maskShape => .subnetMask ((v.mask.map Mention.address).getD .null)
  | startFamily => .addressFamily "range start" "ipv4"
  | endFamily => .addressFamily "range end" "ipv4"
  | ascending => .notAscending "start is greater than or equal to end"
  | size => .rangeTooLarge (span v) 4294967295

end V4Check

namespace Requirement

theorem address4_of_not {field : RawText} {a : Option Address} (h : ¬ ∃ n, a = some (.v4 n)) :
    address4 field a = .error (.ofCause (.addressFamily field "ipv4")) := by
  cases he : address4 field a with
  | ok n => exact absurd ⟨n, address4_eq_ok_iff.1 he⟩ h
  | error e => rw [address4_eq_error he]

theorem prefixLength_of_not {a : Option Address} (h : ¬ ∃ m, a = some (.v4 m)) :
    prefixLength a = .error (.ofCause (.addressFamily "subnet mask" "ipv4 cidr")) := by
  unfold prefixLength
  split
  next m => exact absurd ⟨m, rfl⟩ h
  next => rfl

theorem prefixLength_of_shape {m : Number4} (h : ¬ ∃ p ≤ 32, m.val = 2 ^ 32 - 2 ^ (32 - p)) :
    prefixLength (some (.v4 m)) = .error (.ofCause (.subnetMask (.address (.v4 m)))) :=
  prefixLength_v4_eq_error_iff.2 ⟨Subnet.maskLength?_eq_none_iff.2 h, rfl⟩

end Requirement

namespace V4Check

variable {v : V4Config}

theorem exists_prefixLength (hm : maskFamily.Holds v) (hp : maskShape.Holds v) :
    ∃ p, Requirement.prefixLength v.mask = .ok p := by
  obtain ⟨m, hm⟩ := hm
  obtain ⟨p, hshape⟩ := hp m hm
  exact ⟨p, Requirement.prefixLength_eq_ok_iff.2 ⟨m, hm, Subnet.maskLength?_eq_some_iff.2 hshape⟩⟩

theorem exists_reads (hg : gatewayFamily.Holds v) (hm : maskFamily.Holds v)
    (hp : maskShape.Holds v) {s e : Number4} (hs : v.rangeStart = some (.v4 s))
    (he : v.rangeEnd = some (.v4 e)) : ∃ subnet, v.Reads subnet s e := by
  obtain ⟨g, hg⟩ := hg
  obtain ⟨m, hm⟩ := hm
  obtain ⟨p, hp32, hmp⟩ := hp m hm
  exact ⟨⟨g, p, hp32⟩, hg, ⟨m, hm, Subnet.maskLength?_eq_some_iff.2 ⟨hp32, hmp⟩⟩, hs, he⟩

theorem ofEnds_of_not_lt {s e : Number4} (h : ¬ s < e) :
    AddressRange.ofEnds (.v4 s) (.v4 e) = .error .notAscending := by
  have hf : (Address.v4 s).family = (Address.v4 e).family := rfl
  have hn : ¬ (Address.v4 s).number < (Address.v4 e).number := h
  rw [AddressRange.ofEnds, dif_pos hf, dif_neg hn]

theorem ofEnds_of_lt {s e : Number4} (hlt : s < e) (h : ¬ e.val - s.val + 1 ≤ 2 ^ 32 - 1) :
    AddressRange.ofEnds (.v4 s) (.v4 e) = .error (.tooLarge (e.val - s.val + 1)) := by
  have hf : (Address.v4 s).family = (Address.v4 e).family := rfl
  have hn : (Address.v4 s).number < (Address.v4 e).number := hlt
  have hl : ¬ (Address.v4 e).number - (Address.v4 s).number + 1 ≤ AddressRange.maxLength := h
  rw [AddressRange.ofEnds, dif_pos hf, dif_pos hn, dif_neg hl]
  rfl

/-- Where both ends are known, a check of the range fails for these ends. -/
theorem of_not_ends {s e : Number4} {p : Number4 → Number4 → Prop}
    (hs : v.rangeStart = some (.v4 s)) (he : v.rangeEnd = some (.v4 e))
    (h : ¬ ∀ s e, v.rangeStart = some (.v4 s) → v.rangeEnd = some (.v4 e) → p s e) : ¬ p s e := by
  intro hp
  refine h fun s' e' hs' he' => ?_
  cases hs.symm.trans hs'
  cases he.symm.trans he'
  exact hp

theorem checkV4Settings_of_flaw (hg : gatewayFamily.Holds v) (hm : maskFamily.Holds v)
    (hp : maskShape.Holds v) {s e : Number4} (hs : v.rangeStart = some (.v4 s))
    (he : v.rangeEnd = some (.v4 e)) {flaw : RangeFlaw}
    (h : AddressRange.ofEnds (.v4 s) (.v4 e) = .error flaw) :
    Config.checkV4Settings v = .error (.ofCause (.ofRangeFlaw flaw)) := by
  obtain ⟨subnet, hr⟩ := exists_reads hg hm hp hs he
  rw [checkV4Settings_of_reads hr, Requirement.range_eq_error h]
  rfl

theorem checkV4Settings_of_firstFailing {k : V4Check} (h : FirstFailing (Holds v) inOrder k) :
    Config.checkV4Settings v = .error (.ofCause (k.cause v)) := by
  have hpass := h.passes_takeWhile
  have hfail := h.mem_and_not.2
  cases k with
  | gatewayFamily =>
    rw [Config.checkV4Settings, Requirement.address4_of_not hfail]
    rfl
  | maskFamily =>
    obtain ⟨g, hg⟩ := hpass gatewayFamily (by decide)
    rw [Config.checkV4Settings, Requirement.address4_eq_ok_iff.2 hg,
      Requirement.prefixLength_of_not hfail]
    rfl
  | maskShape =>
    obtain ⟨g, hg⟩ := hpass gatewayFamily (by decide)
    obtain ⟨m, hm⟩ := hpass maskFamily (by decide)
    have hshape : ¬ ∃ p ≤ 32, m.val = 2 ^ 32 - 2 ^ (32 - p) := by
      intro hshape
      refine hfail fun m' hm' => ?_
      cases hm.symm.trans hm'
      exact hshape
    rw [Config.checkV4Settings, Requirement.address4_eq_ok_iff.2 hg, cause, hm,
      Requirement.prefixLength_of_shape hshape]
    rfl
  | startFamily =>
    obtain ⟨g, hg⟩ := hpass gatewayFamily (by decide)
    obtain ⟨p, hp⟩ :=
      exists_prefixLength (hpass maskFamily (by decide)) (hpass maskShape (by decide))
    rw [Config.checkV4Settings, Requirement.address4_eq_ok_iff.2 hg, hp,
      Requirement.address4_of_not hfail]
    rfl
  | endFamily =>
    obtain ⟨g, hg⟩ := hpass gatewayFamily (by decide)
    obtain ⟨p, hp⟩ :=
      exists_prefixLength (hpass maskFamily (by decide)) (hpass maskShape (by decide))
    obtain ⟨s, hs⟩ := hpass startFamily (by decide)
    rw [Config.checkV4Settings, Requirement.address4_eq_ok_iff.2 hg, hp,
      Requirement.address4_eq_ok_iff.2 hs, Requirement.address4_of_not hfail]
    rfl
  | ascending =>
    obtain ⟨s, hs⟩ := hpass startFamily (by decide)
    obtain ⟨e, he⟩ := hpass endFamily (by decide)
    exact checkV4Settings_of_flaw (hpass gatewayFamily (by decide)) (hpass maskFamily (by decide))
      (hpass maskShape (by decide)) hs he (ofEnds_of_not_lt (of_not_ends hs he hfail))
  | size =>
    obtain ⟨s, hs⟩ := hpass startFamily (by decide)
    obtain ⟨e, he⟩ := hpass endFamily (by decide)
    have hlt : s < e := hpass ascending (by decide) s e hs he
    have hspan : span v = e.val - s.val + 1 := by
      rw [span, hs, he]
      rfl
    rw [checkV4Settings_of_flaw (hpass gatewayFamily (by decide)) (hpass maskFamily (by decide))
      (hpass maskShape (by decide)) hs he (ofEnds_of_lt hlt (of_not_ends hs he hfail)), cause,
      hspan]
    rfl

theorem mem_inOrder (k : V4Check) : k ∈ inOrder := by
  cases k <;> decide

theorem checkV4Settings_eq_ok_iff : Config.checkV4Settings v = .ok () ↔ ∀ k, Holds v k := by
  constructor
  · intro h
    rcases FirstFailing.exists_or_forall (Holds v) inOrder with ⟨k, hk⟩ | hall
    · cases h.symm.trans (checkV4Settings_of_firstFailing hk)
    · exact fun k => hall k (mem_inOrder k)
  · intro h
    obtain ⟨s, hs⟩ := h startFamily
    obtain ⟨e, he⟩ := h endFamily
    obtain ⟨subnet, hr⟩ := exists_reads (h gatewayFamily) (h maskFamily) (h maskShape) hs he
    cases hends : AddressRange.ofEnds (.v4 s) (.v4 e) with
    | ok r =>
      rw [checkV4Settings_of_reads hr, Requirement.range_eq_ok hends]
      rfl
    | error flaw =>
      have hflaw := AddressRange.hasFlaw_of_ofEnds hends
      cases flaw with
      | familyMismatch => exact absurd rfl hflaw
      | notAscending => exact absurd (h ascending s e hs he) (not_lt.2 hflaw.2)
      | tooLarge n =>
        obtain ⟨-, -, rfl, hmax⟩ := hflaw
        exact absurd (h size s e hs he) (Nat.not_le.2 hmax)

end V4Check

end LeasePlan
