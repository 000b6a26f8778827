import Mathlib
import LeasePlan.Proofs.InterfaceGeometry

namespace LeasePlan

namespace Subnet

variable {s : Subnet} {m : Number4}

/-- The IPv4 addresses of a network, said twice: what a mask leaves of them, and the block in which
they stand. A boundary is accepted if it is one of them, and no IPv6 address is. -/
structure IsNetworkOf (s : Subnet) (g m : Number4) (p : Nat) : Prop where
  masked : ∀ a : Number4, s.contains (.v4 a) = true ↔ a.val &&& m.val = g.val &&& m.val
  block : ∀ a : Number4, s.contains (.v4 a) = true ↔ a.val / 2 ^ (32 - p) = g.val / 2 ^ (32 - p)
  boundary : ∀ (b : String) (a : Number4),
    Interface4.checkBoundary s b a = .ok () ↔ s.contains (.v4 a) = true
  foreign : ∀ n z, s.contains (.v6 n z) = false

theorem checkBoundary_eq_ok_iff {b : String} {a : Number4} :
    Interface4.checkBoundary s b a = .ok () ↔ s.contains (.v4 a) = true := by
  constructor
  · intro h
    by_contra hout
    cases (Interface4.checkBoundary_eq_error hout).symm.trans h
  · exact Interface4.checkBoundary_eq_ok

theorem isNetworkOf (hm : maskLength? m = some s.length) : s.IsNetworkOf s.host m s.length where
  masked a := containsNumber_iff_and hm a
  block a := containsNumber_iff_div s a.isLt
  boundary _ _ := checkBoundary_eq_ok_iff
  foreign _ _ := rfl

end Subnet

namespace Requirement

/-- A mask is read as the length for which its number is 2³² less a power of two, and refused if
there is none; a gateway has a network with each length that is read. -/
structure ReadsMask (m : Number4) : Prop where
  length_iff : ∀ p, prefixLength (some (.v4 m)) = .ok p ↔
    p ≤ 32 ∧ m.val = 2 ^ 32 - 2 ^ (32 - p)
  refused_iff : ∀ e, prefixLength (some (.v4 m)) = .error e ↔
    (¬ ∃ p ≤ 32, m.val = 2 ^ 32 - 2 ^ (32 - p)) ∧
      e = .ofCause (.subnetMask (.address (.v4 m)))
  network : ∀ p, prefixLength (some (.v4 m)) = .ok p → ∀ g : Number4,
    ∃ s, Subnet.ofLength? g p = some s ∧ s.IsNetworkOf g m p

theorem prefixLength_v4_eq_ok_iff {m : Number4} {p : Nat} :
    prefixLength (some (.v4 m)) = .ok p ↔ Subnet.maskLength? m = some p := by
  rw [prefixLength_eq_ok_iff]
  simp only [Option.some.injEq, Address.v4.injEq, exists_eq_left']

theorem readsMask (m : Number4) : ReadsMask m where
  length_iff p := prefixLength_v4_eq_ok_iff.trans Subnet.maskLength?_eq_some_iff
  refused_iff e := by
    rw [prefixLength_v4_eq_error_iff, Subnet.maskLength?_eq_none_iff]
  network := by
    intro p h g
    have hm := prefixLength_v4_eq_ok_iff.1 h
    have hs := Subnet.ofLength?_self ⟨g, p, Subnet.maskLength?_le hm⟩
    exact ⟨_, hs, Subnet.isNetworkOf hm⟩

/-- The mask with one host bit, and the network of two addresses that a gateway has with it. -/
theorem readsMask_pair : prefixLength (some (.v4 4294967294)) = .ok 31 ∧
    ∃ s, Subnet.ofLength? 167772161 31 = some s ∧ s.IsNetworkOf 167772161 4294967294 31 :=
  ⟨rfl, (readsMask 4294967294).network 31 rfl 167772161⟩

end Requirement

end LeasePlan
