import Mathlib
import LeasePlan.Proofs.InterfaceBuild

namespace LeasePlan

/-- How the numbers of the gateway, the mask and both ends of the range fit together. -/
structure V4Config.Fits (gateway mask first last : Nat) : Prop where
  mask_eq : ∃ p ≤ 32, mask = 2 ^ 32 - 2 ^ (32 - p)
  ascending : first < last
  first_mem : first &&& mask = gateway &&& mask
  last_mem : gateway &&& mask = last &&& mask
  gateway_out : ¬ (first ≤ gateway ∧ gateway ≤ last)

/-- All four settings are IPv4 addresses, and their numbers fit together. -/
def V4Config.IsSound (c : V4Config) : Prop :=
  ∃ g m s e : Number4, c.gateway = some (.v4 g) ∧ c.mask = some (.v4 m) ∧
    c.rangeStart = some (.v4 s) ∧ c.rangeEnd = some (.v4 e) ∧ Fits g m s e

theorem Subnet.containsNumber_iff_and {s : Subnet} {m : Number4}
    (hm : maskLength? m = some s.length) (n : Nat) :
    s.containsNumber n = true ↔ n &&& m.val = s.host.val &&& m.val := by
  rw [containsNumber, network, decide_eq_true_eq, mask_eq, (maskLength?_eq_some_iff.1 hm).2]

theorem V4Config.isSound_iff {c : V4Config} : c.IsSound ↔ ∃ subnet first last,
    c.Places subnet first last ∧ first < last ∧ ¬ (first ≤ subnet.host ∧ subnet.host ≤ last) := by
  constructor
  · rintro ⟨g, m, s, e, hg, hm, hs, he, hfit⟩
    obtain ⟨p, hp, hmp⟩ := hfit.mask_eq
    have hlen := Subnet.maskLength?_eq_some_iff.2 ⟨hp, hmp⟩
    refine ⟨⟨g, p, hp⟩, s, e, ⟨⟨hg, ⟨m, hm, hlen⟩, hs, he⟩, ?_, ?_⟩, hfit.ascending,
      hfit.gateway_out⟩
    · exact (Subnet.containsNumber_iff_and hlen _).2 hfit.first_mem
    · exact (Subnet.containsNumber_iff_and hlen _).2 hfit.last_mem.symm
  · rintro ⟨subnet, s, e, hc, hlt, hout⟩
    obtain ⟨m, hm, hlen⟩ := hc.mask_eq
    refine ⟨subnet.host, m, s, e, hc.gateway_eq, hm, hc.first_eq, hc.last_eq, ?_, hlt, ?_, ?_, hout⟩
    · exact ⟨subnet.length, Subnet.maskLength?_eq_some_iff.1 hlen⟩
    · exact (Subnet.containsNumber_iff_and hlen _).1 hc.first_mem
    · exact ((Subnet.containsNumber_iff_and hlen _).1 hc.last_mem).symm

theorem AddressRange.exists_ofEnds {s e g : Number4} (hlt : s < e) (hg : ¬ (s ≤ g ∧ g ≤ e)) :
    ∃ r, ofEnds (.v4 s) (.v4 e) = .ok r := by
  cases hr : ofEnds (.v4 s) (.v4 e) with
  | ok r => exact ⟨r, rfl⟩
  | error flaw =>
    rcases ofEnds_v4_eq_error hr with ⟨-, hle⟩ | ⟨n, -, rfl, rfl⟩
    · exact absurd hlt (not_lt.2 hle)
    · exact absurd ⟨Fin.zero_le g, Nat.le_of_lt_succ g.isLt⟩ hg

theorem AddressRange.contains_v4_iff {r : AddressRange} {s e : Number4}
    (hr : ofEnds (.v4 s) (.v4 e) = .ok r) (n : Number4) :
    r.contains (.v4 n) = true ↔ s ≤ n ∧ n ≤ e := by
  obtain ⟨hs, he⟩ := ofEnds_eq_ok_iff.1 hr
  rw [contains_iff_of_v4 hs he]
  simp only [Address.v4.injEq, exists_eq_left']

theorem buildEnabled_eq_ok_iff {name : RawText} {c : V4Config} {i : Interface4} :
    Interface4.buildEnabled name c = .ok i ↔ ∃ subnet first last space,
      c.Places subnet first last ∧ AddressRange.ofEnds (.v4 first) (.v4 last) = .ok space ∧
        ¬ (first ≤ subnet.host ∧ subnet.host ≤ last) ∧ i = .placed name c subnet space := by
  constructor
  · intro h
    obtain ⟨subnet, first, last, space, hc, hr, hg, rfl⟩ := (h ▸ attempt name c).places_of_built
    refine ⟨subnet, first, last, space, hc, hr, ?_, rfl⟩
    rw [← AddressRange.contains_v4_iff hr, hg]
    exact Bool.false_ne_true
  · rintro ⟨subnet, first, last, space, hc, hr, hout, rfl⟩
    rw [← AddressRange.contains_v4_iff hr, Bool.not_eq_true] at hout
    rw [buildEnabled_of_reads name hc.toReads, Interface4.place,
      Interface4.checkBoundary_eq_ok hc.first_mem, Interface4.checkBoundary_eq_ok hc.last_mem,
      Requirement.range_eq_ok hr]
    simp only [bind, Except.bind, hout, Bool.false_eq_true, ↓reduceIte]

/-- An interface can be built exactly from sound settings; their size is never in the way. -/
theorem exists_buildEnabled_iff (name : RawText) (c : V4Config) :
    (∃ i, Interface4.buildEnabled name c = .ok i) ↔ c.IsSound := by
  simp only [buildEnabled_eq_ok_iff, V4Config.isSound_iff]
  constructor
  · rintro ⟨_, subnet, first, last, space, hc, hr, hout, -⟩
    obtain ⟨hs, he⟩ := AddressRange.ofEnds_eq_ok_iff.1 hr
    have hlt := space.number_lt
    rw [hs, he] at hlt
    exact ⟨subnet, first, last, hc, hlt, hout⟩
  · rintro ⟨subnet, first, last, hc, hlt, hout⟩
    obtain ⟨space, hr⟩ := AddressRange.exists_ofEnds hlt hout
    exact ⟨_, subnet, first, last, space, hc, hr, hout, rfl⟩

namespace Interface4

/-- The whole range lies in the subnet, next to the gateway, and numbers its addresses from zero. -/
structure WellPlaced (i : Interface4) : Prop where
  contained : ∀ a, i.contains a = true →
    ∃ n, a = .v4 n ∧ i.subnet.contains a = true ∧ n ≠ i.gateway
  offset : ∀ a, i.contains a = true → ∃ k, i.offset? a = some k ∧ k < i.addressCount
  gateway_mem : i.subnet.contains (.v4 i.gateway) = true
  length_le : i.subnet.length ≤ 30
  two_le_count : 2 ≤ i.addressCount
  count_le : i.addressCount ≤ 2 ^ (32 - i.subnet.length) - 1

theorem wellPlaced_of_buildEnabled {name : RawText} {c : V4Config} {i : Interface4}
    (h : buildEnabled name c = .ok i) : i.WellPlaced := by
  obtain ⟨subnet, first, last, space, hc, hr, hout, rfl⟩ := buildEnabled_eq_ok_iff.1 h
  obtain ⟨hs, he⟩ := AddressRange.ofEnds_eq_ok_iff.1 hr
  have hlt := space.number_lt
  have hcount : space.length = last.val - first.val + 1 := by
    rw [AddressRange.length, hs, he]
    rfl
  obtain ⟨hfirst, -⟩ := (subnet.containsNumber_iff first.isLt).1 hc.first_mem
  obtain ⟨-, hlast⟩ := (subnet.containsNumber_iff last.isLt).1 hc.last_mem
  obtain ⟨hlow, hhigh⟩ := (subnet.containsNumber_iff subnet.host.isLt).1 subnet.contains_host
  rw [hs, he] at hlt
  simp only [Address.number] at hlt
  rw [Fin.le_def, Fin.le_def] at hout
  exact {
    contained := by
      intro a ha
      obtain ⟨n, rfl, hsn, hne⟩ := (AddressRange.contains_iff_of_v4 hs he).1 ha
      refine ⟨n, rfl, ?_, ?_⟩
      · refine (subnet.containsNumber_iff n.isLt).2 ⟨hfirst.trans hsn, ?_⟩
        exact Nat.lt_of_le_of_lt hne hlast
      · rintro rfl
        exact hout ⟨hsn, hne⟩
    offset := by
      intro a ha
      obtain ⟨k, hk, -, hlt⟩ := AddressRange.offset?_of_contains ha
      exact ⟨k, hk, hlt⟩
    gateway_mem := subnet.contains_host
    length_le := by
      apply Subnet.length_le_of_size
      change 2 < subnet.size
      omega
    two_le_count := by
      change 2 ≤ space.length
      omega
    count_le := by
      change space.length ≤ subnet.size - 1
      omega }

end Interface4

end LeasePlan
