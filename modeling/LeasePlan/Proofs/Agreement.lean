import Mathlib
import LeasePlan.Proofs.Acceptance

namespace LeasePlan

theorem Fault.kind_annotate (parts : List RawText) (f : Fault) :
    (f.annotate parts).kind = f.kind := by
  cases f with
  | single ctx c => rfl
  | joined ctx fs => rfl

/-- The range does not lie in the subnet, or the gateway lies in the range. -/
def Fault.Misplaced (f : Fault) : Prop := f.kind = .boundary ∨ f.kind = .gatewayInRange

/-- Every subnet in which both ends of all addresses lie is the subnet of all addresses. -/
theorem V4Config.Places.mask_eq_zero {c : V4Config} {subnet : Subnet}
    (h : c.Places subnet 0 4294967295) : c.mask = some (.v4 0) := by
  obtain ⟨m, hm, hlen⟩ := h.mask_eq
  have hfirst := (Subnet.containsNumber_iff_and hlen _).1 h.first_mem
  have hlast := (Subnet.containsNumber_iff_and hlen _).1 h.last_mem
  have hzero : (2 ^ 32 - 1) &&& m.val = 0 := by
    rw [Fin.val_zero, Nat.zero_and] at hfirst
    exact hlast.trans hfirst.symm
  rw [Nat.and_comm, Nat.and_two_pow_sub_one_eq_mod, Nat.mod_eq_of_lt m.isLt] at hzero
  rw [hm, Fin.val_eq_zero_iff.1 hzero]

namespace Attempt

variable {name : RawText} {c : V4Config} {build : Except Failure Interface4}

theorem of_passed (h : Attempt name c (.ok ()) build) :
    (∃ i, build = .ok i) ∨ ∃ f, build = .error (.fault f) ∧ f.Misplaced ∧ f.context = [] := by
  cases h with
  | outside => exact .inr ⟨_, rfl, .inl rfl, rfl⟩
  | gatewayInside => exact .inr ⟨_, rfl, .inr rfl, rfl⟩
  | built => exact .inl ⟨_, rfl⟩

theorem of_rejected {e : Failure} (h : Attempt name c (.error e) build) :
    ∃ f g, e = .fault f ∧ build = .error (.fault g) ∧
      (g = f ∨ f.kind.isA .invalidRange = true ∧ g.kind = .boundary) := by
  cases h with
  | unread cause hk hc => exact ⟨_, _, rfl, rfl, .inl rfl⟩
  | outside subnet first last hc hp boundary n check hr =>
    rcases hr with hr | ⟨flaw, -, hr⟩
    · cases hr
    · cases hr
      refine ⟨_, _, rfl, rfl, .inr ⟨?_, rfl⟩⟩
      cases flaw with
      | familyMismatch => rfl
      | notAscending => rfl
      | tooLarge n => rfl
  | flawed => exact ⟨_, _, rfl, rfl, .inl rfl⟩

/-- The subnet checks come before the range, so no range of a built interface mixes families, and
only the range of all addresses is too large. -/
theorem of_failed {check : Except Failure Unit} {e : Failure}
    (h : Attempt name c check (.error e)) : ∃ f, e = .fault f ∧ f.kind ≠ .familyMismatch ∧
      (f.kind = .rangeTooLarge → c.mask = some (.v4 0) ∧ c.rangeStart = some (.v4 0) ∧
        c.rangeEnd = some (.v4 4294967295)) := by
  cases h with
  | unread cause hk hc =>
    refine ⟨_, rfl, ?_⟩
    change cause.kind ≠ _ ∧ (cause.kind = _ → _)
    rcases hk with hk | hk
    · simp only [hk, ne_eq, reduceCtorEq, not_false_eq_true, false_implies, and_self]
    · simp only [hk, ne_eq, reduceCtorEq, not_false_eq_true, false_implies, and_self]
  | outside => exact ⟨_, rfl, FaultKind.noConfusion, FaultKind.noConfusion⟩
  | flawed subnet first last hc flaw hr =>
    refine ⟨_, rfl, ?_⟩
    rcases AddressRange.ofEnds_v4_eq_error hr with ⟨rfl, -⟩ | ⟨n, rfl, rfl, rfl⟩
    · exact ⟨FaultKind.noConfusion, FaultKind.noConfusion⟩
    · exact ⟨FaultKind.noConfusion, fun _ => ⟨hc.mask_eq_zero, hc.first_eq, hc.last_eq⟩⟩
  | gatewayInside => exact ⟨_, rfl, FaultKind.noConfusion, FaultKind.noConfusion⟩

end Attempt

/-- How building an enabled interface ends, by how its checks end. -/
structure Interface4.Agrees (name : RawText) (v : V4Config) : Prop where
  passed : Config.checkV4Settings v = .ok () →
    (∃ i, build name v = .ok (some i)) ∨ ∃ f, build name v = .error (.fault f) ∧ f.Misplaced
  rejected : ∀ e, Config.checkV4Settings v = .error e →
    ∃ f g, e = .fault f ∧ build name v = .error (.fault g) ∧
      (g = f ∨ f.kind.isA .invalidRange = true ∧ g.kind = .boundary)
  failed : ∀ e, build name v = .error e → ∃ f, e = .fault f ∧ f.kind ≠ .familyMismatch ∧
    (f.kind = .rangeTooLarge → v.mask = some (.v4 0) ∧ v.rangeStart = some (.v4 0) ∧
      v.rangeEnd = some (.v4 4294967295))

theorem Interface4.agrees (name : RawText) {v : V4Config} (he : v.enabled = true) :
    Agrees name v where
  passed := by
    intro hc
    rcases (hc ▸ attempt name v).of_passed with ⟨i, hi⟩ | ⟨f, hf, hk, -⟩
    · exact .inl ⟨i, build_eq_some_iff.2 ⟨he, hi⟩⟩
    · exact .inr ⟨f, build_eq_error_iff.2 ⟨he, hf⟩, hk⟩
  rejected := by
    intro e hc
    obtain ⟨f, g, hf, hg, hfg⟩ := (hc ▸ attempt name v).of_rejected
    exact ⟨f, g, hf, build_eq_error_iff.2 ⟨he, hg⟩, hfg⟩
  failed := by
    intro e hb
    exact ((build_eq_error_iff.1 hb).2 ▸ attempt name v).of_failed

namespace Service

/-- The IPv4 interface of a name cannot be built, for this fault. -/
def FailsWith (c : Config) (name : RawText) (f : Fault) : Prop :=
  ∃ v, c.v4? name = some v ∧ Interface4.build name v = .error (.fault f)

/-- After validation the first interface that cannot be built decides, and only its place is at
fault. -/
theorem assemble_error_of_valid {c : Config} (hv : Config.validate (some c) = .ok ()) {e : Failure}
    (h : assemble (some c) = .error e) : ∃ name f,
      e = .fault (f.annotate (Config.protocolContext name Protocol.v4.name)) ∧ f.Misplaced ∧
        f.context = [] ∧ FailsWith c name f ∧ ∀ n g, FailsWith c n g → name ≤ n := by
  have he : c.enabled = true := by
    by_contra hd
    rw [assemble_of_disabled (eq_false_of_ne_true hd)] at h
    cases h
  have hvalid := (Config.validate_eq_ok_iff he).1 hv
  rw [assemble_of_valid he hv, Failure.orValue_eq_error_iff] at h
  obtain ⟨name, hn, hf, hleast⟩ := findSome?_least c.interfaces.sortedNames_pairwise_lt h
  obtain ⟨v, f, hv4, hb, rfl⟩ := (failureAt_eq_some_iff (hvalid.complete name hn)).1 hf
  obtain ⟨hve, hbe⟩ := Interface4.build_eq_error_iff.1 hb
  have hc := hvalid.settings name v hv4 hve
  rcases (hc ▸ attempt name v).of_passed with ⟨i, hi⟩ | ⟨g, hg, hk, hctx⟩
  · cases hi.symm.trans hbe
  · cases hg.symm.trans hbe
    refine ⟨name, f, rfl, hk, hctx, ⟨v, hv4, hb⟩, ?_⟩
    rintro n g' ⟨v', hv', hb'⟩
    have hn' := Config.mem_sortedNames_of_v4? hv'
    have hfail := (failureAt_eq_some_iff (hvalid.complete n hn')).2 ⟨v', g', hv', hb', rfl⟩
    exact hleast n hn' (Option.ne_none_iff_exists'.2 ⟨_, hfail⟩)

/-- Building agrees with the checks on every interface, and so a valid configuration fails only at
its first interface that is misplaced. -/
theorem build_agrees_with_checks :
    (∀ name v, v.enabled = true → Interface4.Agrees name v) ∧
      ∀ c, Config.validate (some c) = .ok () → ∀ e, assemble (some c) = .error e →
        ∃ name f g, e = .fault f ∧ f.Misplaced ∧ f.context = [interfaceContext name, "ipv4"] ∧
          f.kind = g.kind ∧ f.message = g.message ∧ FailsWith c name g ∧
            ∀ n g', FailsWith c n g' → name ≤ n := by
  refine ⟨fun name v he => Interface4.agrees name he, fun c hv e h => ?_⟩
  obtain ⟨name, f, rfl, hk, hctx, hf, hleast⟩ := assemble_error_of_valid hv h
  refine ⟨name, _, f, rfl, ?_, ?_, f.kind_annotate _, f.message_annotate _, hf, hleast⟩
  · rw [Fault.Misplaced, Fault.kind_annotate]
    exact hk
  · rw [Fault.context_annotate, hctx]
    rfl

end Service

/-- All addresses of a subnet are given out, also the gateway. -/
def Config.crowded : Config where
  interfaces := {
    entries := [
      ("lan", some {
        v4 := some { V4Config.smallest with rangeStart := V4Config.smallest.gateway }
        v6 := some {} })]
    nodup := by decide }
  domainName := "home.arpa"
  enabled := true

namespace Service

theorem crowded_fails : ∃ e, Config.validate (some .crowded) = .ok () ∧
    assemble (some .crowded) = .error e ∧
      ∃ name f g, e = .fault f ∧ f.Misplaced ∧ f.context = [interfaceContext name, "ipv4"] ∧
        f.kind = g.kind ∧ f.message = g.message ∧ FailsWith .crowded name g ∧
          ∀ n g', FailsWith .crowded n g' → name ≤ n := by
  have hnames : Config.crowded.interfaces.sortedNames = [RawText.ofString "lan"] :=
    List.mergeSort_singleton _
  have hv : Config.validate (some .crowded) = .ok () := by
    rw [Config.validate_some, Config.checkInterfaces, hnames]
    rfl
  obtain ⟨e, hfail⟩ : ∃ e, failureAt .crowded "lan" = some e := ⟨_, rfl⟩
  have he : assemble (some .crowded) = .error e := by
    rw [assemble_of_valid rfl hv, hnames, Failure.orValue_eq_error_iff, List.findSome?_cons, hfail]
  exact ⟨e, hv, he, build_agrees_with_checks.2 .crowded hv e he⟩

end Service

end LeasePlan
