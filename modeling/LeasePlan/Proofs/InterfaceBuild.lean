import Mathlib
import LeasePlan.Config.Validation
import LeasePlan.Fault.Kind
import LeasePlan.Interface.V4
import LeasePlan.Proofs.Outcome
import LeasePlan.Proofs.RangeMembership
import LeasePlan.Proofs.SubnetMask

namespace LeasePlan

namespace Requirement

theorem address4_eq_ok_iff {field : RawText} {a : Option Address} {n : Number4} :
    address4 field a = .ok n ↔ a = some (.v4 n) := by
  unfold address4
  split
  next m => simp only [Except.ok.injEq, Option.some.injEq, Address.v4.injEq]
  next h =>
    simp only [reduceCtorEq, false_iff]
    exact h n

theorem address4_eq_error {field : RawText} {a : Option Address} {e : Failure}
    (h : address4 field a = .error e) : e = .ofCause (.addressFamily field "ipv4") := by
  unfold address4 at h
  split at h
  · cases h
  · cases h
    rfl

theorem prefixLength_eq_ok_iff {a : Option Address} {p : Nat} :
    prefixLength a = .ok p ↔ ∃ m, a = some (.v4 m) ∧ Subnet.maskLength? m = some p := by
  unfold prefixLength
  split
  next m =>
    simp only [Option.some.injEq, Address.v4.injEq, exists_eq_left']
    split
    next q h => simp only [h, Except.ok.injEq, Option.some.injEq]
    next h => simp only [h, reduceCtorEq]
  next h =>
    simp only [reduceCtorEq, false_iff, not_exists, not_and]
    exact fun m hm => absurd hm (h m)

theorem prefixLength_v4_eq_error_iff {m : Number4} {e : Failure} :
    prefixLength (some (.v4 m)) = .error e ↔
      Subnet.maskLength? m = none ∧ e = .ofCause (.subnetMask (.address (.v4 m))) := by
  cases hm : Subnet.maskLength? m with
  | none => simp only [prefixLength, hm, Except.error.injEq, true_and, eq_comm]
  | some p => simp only [prefixLength, hm, reduceCtorEq, false_and]

theorem prefixLength_eq_error {a : Option Address} {e : Failure} (h : prefixLength a = .error e) :
    ∃ c, e = .ofCause c ∧ (c.kind = .addressFamily ∨ c.kind = .subnetMask) := by
  cases a with
  | none =>
    cases h
    exact ⟨_, rfl, .inl rfl⟩
  | some a =>
    cases a with
    | v4 m => exact ⟨_, (prefixLength_v4_eq_error_iff.1 h).2, .inr rfl⟩
    | v6 n z =>
      cases h
      exact ⟨_, rfl, .inl rfl⟩

theorem range_eq_ok {a b : Address} {r : AddressRange} (h : AddressRange.ofEnds a b = .ok r) :
    range a b = .ok r := by
  rw [range, h]

theorem range_eq_error {a b : Address} {flaw : RangeFlaw}
    (h : AddressRange.ofEnds a b = .error flaw) :
    range a b = .error (.fault (.ofRangeFlaw flaw)) := by
  rw [range, h]

end Requirement

/-- The subnet and the ends of the range that the settings of an interface stand for. -/
structure V4Config.Reads (c : V4Config) (subnet : Subnet) (first last : Number4) : Prop where
  gateway_eq : c.gateway = some (.v4 subnet.host)
  mask_eq : ∃ m, c.mask = some (.v4 m) ∧ Subnet.maskLength? m = some subnet.length
  first_eq : c.rangeStart = some (.v4 first)
  last_eq : c.rangeEnd = some (.v4 last)

/-- Both ends of the range lie in the subnet. -/
structure V4Config.Places (c : V4Config) (subnet : Subnet) (first last : Number4) : Prop
    extends c.Reads subnet first last where
  first_mem : subnet.containsNumber first.val = true
  last_mem : subnet.containsNumber last.val = true

/-- An interface in a subnet with the other settings as they are written down. -/
def Interface4.placed (name : RawText) (c : V4Config) (subnet : Subnet) (space : AddressRange) :
    Interface4 where
  name := name
  gateway := subnet.host
  subnet := subnet
  space := space
  lease := c.lease
  options := c.options

/-- How checking the settings of an interface and building the interface end. -/
inductive Attempt (name : RawText) (c : V4Config) :
    Except Failure Unit → Except Failure Interface4 → Prop
  | unread (cause : Cause) (hk : cause.kind = .addressFamily ∨ cause.kind = .subnetMask)
      (hc : ∀ subnet first last, ¬ c.Reads subnet first last) :
      Attempt name c (.error (.ofCause cause)) (.error (.ofCause cause))
  | outside (subnet : Subnet) (first last : Number4) (hc : c.Reads subnet first last)
      (hp : ¬ c.Places subnet first last) (boundary : RawText) (n : Number4)
      (check : Except Failure Unit)
      (hr : check = .ok () ∨ ∃ flaw, AddressRange.ofEnds (.v4 first) (.v4 last) = .error flaw ∧
        check = .error (.fault (.ofRangeFlaw flaw))) :
      Attempt name c check
        (.error (.ofCause (.boundary boundary (.address (.v4 n)) (.subnet subnet))))
  | flawed (subnet : Subnet) (first last : Number4) (hc : c.Places subnet first last)
      (flaw : RangeFlaw) (hr : AddressRange.ofEnds (.v4 first) (.v4 last) = .error flaw) :
      Attempt name c (.error (.fault (.ofRangeFlaw flaw))) (.error (.fault (.ofRangeFlaw flaw)))
  | gatewayInside (subnet : Subnet) (first last : Number4) (hc : c.Places subnet first last)
      (space : AddressRange) (hr : AddressRange.ofEnds (.v4 first) (.v4 last) = .ok space)
      (hg : space.contains (.v4 subnet.host) = true) :
      Attempt name c (.ok ())
        (.error (.ofCause (.gatewayInRange (.address (.v4 subnet.host)) (.range space))))
  | built (subnet : Subnet) (first last : Number4) (hc : c.Places subnet first last)
      (space : AddressRange) (hr : AddressRange.ofEnds (.v4 first) (.v4 last) = .ok space)
      (hg : space.contains (.v4 subnet.host) = false) :
      Attempt name c (.ok ()) (.ok (.placed name c subnet space))

/-- The numbers of the four settings, the mask by its length; checking and building both begin with
them. -/
def V4Config.read (c : V4Config) : Except Failure (Number4 × Nat × Number4 × Number4) := do
  let gateway ← Requirement.address4 "gateway ip" c.gateway
  let length ← Requirement.prefixLength c.mask
  let first ← Requirement.address4 "range start" c.rangeStart
  let last ← Requirement.address4 "range end" c.rangeEnd
  .ok (gateway, length, first, last)

theorem V4Config.Reads.read_eq {c : V4Config} {subnet : Subnet} {first last : Number4}
    (h : c.Reads subnet first last) : c.read = .ok (subnet.host, subnet.length, first, last) := by
  simp only [read, Requirement.address4_eq_ok_iff.2 h.gateway_eq,
    Requirement.prefixLength_eq_ok_iff.2 h.mask_eq, Requirement.address4_eq_ok_iff.2 h.first_eq,
    Requirement.address4_eq_ok_iff.2 h.last_eq, bind, Except.bind]

theorem V4Config.reads_of_read {c : V4Config} {gateway : Number4} {length : Nat}
    {first last : Number4} (h : c.read = .ok (gateway, length, first, last)) :
    ∃ hlength, c.Reads ⟨gateway, length, hlength⟩ first last := by
  obtain ⟨_, hg, h⟩ := bind_eq_ok.1 h
  obtain ⟨_, hp, h⟩ := bind_eq_ok.1 h
  obtain ⟨_, hs, h⟩ := bind_eq_ok.1 h
  obtain ⟨_, he, h⟩ := bind_eq_ok.1 h
  cases h
  rw [Requirement.address4_eq_ok_iff] at hg hs he
  obtain ⟨m, hm, hlength⟩ := Requirement.prefixLength_eq_ok_iff.1 hp
  exact ⟨Subnet.maskLength?_le hlength, hg, ⟨m, hm, hlength⟩, hs, he⟩

theorem V4Config.read_eq_error {c : V4Config} {e : Failure} (h : c.read = .error e) :
    ∃ cause, e = .ofCause cause ∧ (cause.kind = .addressFamily ∨ cause.kind = .subnetMask) := by
  rcases bind_eq_error.1 h with hg | ⟨_, -, h⟩
  · exact ⟨_, Requirement.address4_eq_error hg, .inl rfl⟩
  · rcases bind_eq_error.1 h with hp | ⟨_, -, h⟩
    · exact Requirement.prefixLength_eq_error hp
    · rcases bind_eq_error.1 h with hs | ⟨_, -, h⟩
      · exact ⟨_, Requirement.address4_eq_error hs, .inl rfl⟩
      · rcases bind_eq_error.1 h with he | ⟨_, -, h⟩
        · exact ⟨_, Requirement.address4_eq_error he, .inl rfl⟩
        · cases h

theorem Subnet.ofLength?_self (s : Subnet) : ofLength? s.host s.length = some s :=
  dif_pos s.length_le

theorem Interface4.checkBoundary_eq_ok {subnet : Subnet} {boundary : RawText} {n : Number4}
    (h : subnet.containsNumber n.val = true) : checkBoundary subnet boundary n = .ok () :=
  if_pos h

theorem Interface4.checkBoundary_eq_error {subnet : Subnet} {boundary : RawText} {n : Number4}
    (h : ¬ subnet.containsNumber n.val = true) : checkBoundary subnet boundary n =
      .error (.ofCause (.boundary boundary (.address (.v4 n)) (.subnet subnet))) :=
  if_neg h

/-- The rest of building: where the ends lie, whether they make a range, and where the gateway
lies. -/
def Interface4.place (name : RawText) (c : V4Config) (subnet : Subnet) (first last : Number4) :
    Except Failure Interface4 := do
  checkBoundary subnet "start" first
  checkBoundary subnet "end" last
  let space ← Requirement.range (.v4 first) (.v4 last)
  if space.contains (.v4 subnet.host) then
    .error (.ofCause (.gatewayInRange (.address (.v4 subnet.host)) (.range space)))
  else .ok (.placed name c subnet space)

theorem checkV4Settings_eq (c : V4Config) : Config.checkV4Settings c = (do
    let (_, _, first, last) ← c.read
    let _ ← Requirement.range (.v4 first) (.v4 last)
    .ok ()) := by
  simp only [V4Config.read, bind_assoc]
  rfl

theorem buildEnabled_eq (name : RawText) (c : V4Config) : Interface4.buildEnabled name c = (do
    let (gateway, length, first, last) ← c.read
    match Subnet.ofLength? gateway length with
    | none => .error (.defect (.prefixTooLong length))
    | some subnet => Interface4.place name c subnet first last) := by
  simp only [Interface4.buildEnabled, V4Config.read, bind_assoc]
  refine bind_congr fun gateway => bind_congr fun length => bind_congr fun first =>
    bind_congr fun last => ?_
  by_cases hlength : length ≤ 32
  · simp only [bind, Except.bind, Subnet.ofLength?, hlength, ↓reduceDIte]
    rfl
  · simp only [bind, Except.bind, Subnet.ofLength?, hlength, ↓reduceDIte]

theorem checkV4Settings_of_reads {c : V4Config} {subnet : Subnet} {first last : Number4}
    (h : c.Reads subnet first last) : Config.checkV4Settings c =
      (Requirement.range (.v4 first) (.v4 last)).map fun _ => () := by
  rw [checkV4Settings_eq, h.read_eq]
  simp only [bind, Except.bind]
  cases Requirement.range (.v4 first) (.v4 last) with
  | error e => rfl
  | ok r => rfl

theorem buildEnabled_of_reads {c : V4Config} {subnet : Subnet} {first last : Number4}
    (name : RawText) (h : c.Reads subnet first last) :
    Interface4.buildEnabled name c = Interface4.place name c subnet first last := by
  rw [buildEnabled_eq, h.read_eq]
  simp only [bind, Except.bind, Subnet.ofLength?_self]

theorem attempt_of_reads {c : V4Config} {subnet : Subnet} {first last : Number4} (name : RawText)
    (h : c.Reads subnet first last) :
    Attempt name c (Config.checkV4Settings c) (Interface4.buildEnabled name c) := by
  rw [checkV4Settings_of_reads h, buildEnabled_of_reads name h, Interface4.place]
  have hcheck : (Requirement.range (.v4 first) (.v4 last)).map (fun _ => ()) = .ok () ∨
      ∃ flaw, AddressRange.ofEnds (.v4 first) (.v4 last) = .error flaw ∧
        (Requirement.range (.v4 first) (.v4 last)).map (fun _ => ()) =
          .error (.fault (.ofRangeFlaw flaw)) := by
    cases hr : AddressRange.ofEnds (.v4 first) (.v4 last) with
    | error flaw => exact .inr ⟨flaw, rfl, by rw [Requirement.range_eq_error hr]; rfl⟩
    | ok space => exact .inl (by rw [Requirement.range_eq_ok hr]; rfl)
  by_cases hf : subnet.containsNumber first.val = true
  · rw [Interface4.checkBoundary_eq_ok hf]
    by_cases hl : subnet.containsNumber last.val = true
    · rw [Interface4.checkBoundary_eq_ok hl]
      have hc : c.Places subnet first last := ⟨h, hf, hl⟩
      cases hr : AddressRange.ofEnds (.v4 first) (.v4 last) with
      | error flaw =>
        rw [Requirement.range_eq_error hr]
        exact .flawed subnet first last hc flaw hr
      | ok space =>
        rw [Requirement.range_eq_ok hr]
        cases hg : space.contains (.v4 subnet.host) with
        | true =>
          simp only [bind, Except.bind, Except.map, hg, ↓reduceIte]
          exact .gatewayInside subnet first last hc space hr hg
        | false =>
          simp only [bind, Except.bind, Except.map, hg, Bool.false_eq_true, ↓reduceIte]
          exact .built subnet first last hc space hr hg
    · rw [Interface4.checkBoundary_eq_error hl]
      exact .outside subnet first last h (fun hc => hl hc.last_mem) _ _ _ hcheck
  · rw [Interface4.checkBoundary_eq_error hf]
    exact .outside subnet first last h (fun hc => hf hc.first_mem) _ _ _ hcheck

/-- Checking and building stop at the same setting if one of them cannot be read. -/
theorem attempt (name : RawText) (c : V4Config) :
    Attempt name c (Config.checkV4Settings c) (Interface4.buildEnabled name c) := by
  cases h : c.read with
  | error e =>
    obtain ⟨cause, rfl, hk⟩ := V4Config.read_eq_error h
    rw [checkV4Settings_eq, buildEnabled_eq, h]
    refine .unread cause hk fun subnet first last hc => ?_
    cases h.symm.trans hc.read_eq
  | ok r =>
    obtain ⟨hlength, hc⟩ := V4Config.reads_of_read h
    exact attempt_of_reads name hc

namespace Attempt

variable {name : RawText} {c : V4Config} {check : Except Failure Unit}
  {build : Except Failure Interface4}

theorem check_onlyFaults (h : Attempt name c check build) : OnlyFaults check := by
  cases h with
  | unread => exact .fault _
  | outside _ _ _ _ _ _ _ _ hr =>
    rcases hr with rfl | ⟨flaw, -, rfl⟩
    · exact .ok ()
    · exact .fault _
  | flawed => exact .fault _
  | gatewayInside => exact .ok ()
  | built => exact .ok ()

theorem build_onlyFaults (h : Attempt name c check build) : OnlyFaults build := by
  cases h with
  | unread => exact .fault _
  | outside => exact .fault _
  | flawed => exact .fault _
  | gatewayInside => exact .fault _
  | built => exact .ok _

theorem check_of_built {i : Interface4} (h : Attempt name c check (.ok i)) : check = .ok () := by
  cases h
  rfl

theorem places_of_built {i : Interface4} (h : Attempt name c check (.ok i)) :
    ∃ subnet first last space, c.Places subnet first last ∧
      AddressRange.ofEnds (.v4 first) (.v4 last) = .ok space ∧
        space.contains (.v4 subnet.host) = false ∧ i = .placed name c subnet space := by
  cases h with
  | built subnet first last hc space hr hg => exact ⟨subnet, first, last, space, hc, hr, hg, rfl⟩

end Attempt

end LeasePlan
