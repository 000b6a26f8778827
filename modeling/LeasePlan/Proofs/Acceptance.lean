import Mathlib
import LeasePlan.Proofs.Assembly
import LeasePlan.Proofs.InterfaceGeometry

namespace LeasePlan

/-- The smallest subnet filled up: all its addresses but the gateway are given out. -/
def V4Config.smallest : V4Config where
  gateway := some (.v4 167772160)
  mask := some (.v4 4294967292)
  rangeStart := some (.v4 167772161)
  rangeEnd := some (.v4 167772163)
  enabled := true

theorem V4Config.smallest_isSound : smallest.IsSound := by
  refine ⟨_, _, _, _, rfl, rfl, rfl, rfl, ?_⟩
  exact ⟨⟨30, by decide, by decide⟩, by decide, by decide, by decide, by decide⟩

namespace Config

/-- What an enabled configuration needs for a service. -/
structure Acceptable (c : Config) : Prop where
  timeout : 0 ≤ c.icmpTimeout.micros
  name : DomainName.IsName c.domainName
  nonempty : c.interfaces.entries ≠ []
  interfaces : ∀ e ∈ c.interfaces.entries, ∃ v4 v6,
    e.2 = some { v4 := some v4, v6 := some v6 } ∧ (v4.enabled = true → v4.IsSound)

/-- IPv4 alone on one interface and IPv6 alone on the other. -/
def mixed : Config where
  interfaces := {
    entries := [
      ("lan", some { v4 := some .smallest, v6 := some {} }),
      ("dmz", some { v4 := some {}, v6 := some { slaacOnly := true, enabled := true } })]
    nodup := by decide }
  domainName := "home.arpa"
  enabled := true

theorem mixed_acceptable : mixed.Acceptable where
  timeout := by decide
  name := (DomainName.flaw?_eq_none_iff _).1 (by decide)
  nonempty := List.cons_ne_nil _ _
  interfaces := by
    intro e he
    simp only [mixed, List.mem_cons, List.not_mem_nil, or_false] at he
    rcases he with rfl | rfl
    · exact ⟨_, _, rfl, fun _ => V4Config.smallest_isSound⟩
    · exact ⟨_, _, rfl, fun h => absurd h (by decide)⟩

theorem forall_completeAt_iff {c : Config} : (∀ n ∈ c.interfaces.sortedNames, c.CompleteAt n) ↔
    ∀ e ∈ c.interfaces.entries, ∃ v4 v6, e.2 = some { v4 := some v4, v6 := some v6 } := by
  constructor
  · rintro h ⟨n, a⟩ he
    have hf := NameMap.find?_eq_some_iff.2 he
    obtain ⟨v4, v6, hi⟩ := h n (NameMap.mem_sortedNames_iff.2 ⟨a, hf⟩)
    exact ⟨v4, v6, Option.some.inj (hf.symm.trans hi)⟩
  · intro h n hn
    obtain ⟨a, hf⟩ := NameMap.mem_sortedNames_iff.1 hn
    obtain ⟨v4, v6, rfl⟩ := h (n, a) (NameMap.find?_eq_some_iff.1 hf)
    exact ⟨v4, v6, hf⟩

theorem forall_interfaces_iff {c : Config} :
    ((∀ n ∈ c.interfaces.sortedNames, c.CompleteAt n) ∧
      ∀ n v, c.v4? n = some v → v.enabled = true → v.IsSound) ↔
    ∀ e ∈ c.interfaces.entries, ∃ v4 v6,
      e.2 = some { v4 := some v4, v6 := some v6 } ∧ (v4.enabled = true → v4.IsSound) := by
  constructor
  · rintro ⟨hc, hs⟩ ⟨n, a⟩ he
    obtain ⟨v4, v6, rfl⟩ := forall_completeAt_iff.1 hc (n, a) he
    exact ⟨v4, v6, rfl, hs n v4 (v4?_of_find? (NameMap.find?_eq_some_iff.2 he))⟩
  · intro h
    have hc := forall_completeAt_iff.2 fun e he =>
      (h e he).imp fun v4 hv4 => hv4.imp fun v6 hv6 => hv6.1
    refine ⟨hc, fun n v hv => ?_⟩
    obtain ⟨a, hf⟩ := NameMap.mem_sortedNames_iff.1 (mem_sortedNames_of_v4? hv)
    obtain ⟨v4, v6, rfl, hs⟩ := h (n, a) (NameMap.find?_eq_some_iff.1 hf)
    cases (v4?_of_find? hf).symm.trans hv
    exact hs

end Config

namespace Service

variable {c : Config}

theorem findSome?_failureAt_eq_none_iff (hc : ∀ n ∈ c.interfaces.sortedNames, c.CompleteAt n) :
    c.interfaces.sortedNames.findSome? (failureAt c) = none ↔
      ∀ n v, c.v4? n = some v → v.enabled = true → v.IsSound := by
  rw [List.findSome?_eq_none_iff]
  constructor
  · intro h n v hv he
    have hn := Config.mem_sortedNames_of_v4? hv
    have hb := (failureAt_eq_none_iff (hc n hn)).1 (h n hn) v hv
    exact (exists_buildEnabled_iff n v).1 ((Interface4.exists_build_iff he).1 hb)
  · intro h n hn
    refine (failureAt_eq_none_iff (hc n hn)).2 fun v hv => ?_
    cases he : v.enabled with
    | false => exact ⟨none, if_neg (ne_true_of_eq_false he)⟩
    | true =>
      have hs := h n v hv he
      exact (Interface4.exists_build_iff he).2 ((exists_buildEnabled_iff n v).2 hs)

theorem assemble_onlyFaults (he : c.enabled = true) : OnlyFaults (assemble (some c)) := by
  intro e h
  cases hv : Config.validate (some c) with
  | error e' =>
    rw [assemble_of_invalid hv] at h
    cases h
    exact Config.validate_onlyFaults _ _ hv
  | ok u =>
    rw [assemble_of_valid he hv, Failure.orValue_eq_error_iff] at h
    obtain ⟨n, hn, hf⟩ := List.exists_of_findSome?_eq_some h
    have hc := ((Config.validate_eq_ok_iff he).1 hv).complete n hn
    obtain ⟨_, g, -, -, rfl⟩ := (failureAt_eq_some_iff hc).1 hf
    exact ⟨_, rfl⟩

theorem valid_of_acceptable (h : c.Acceptable) : c.Valid := by
  obtain ⟨hc, hs⟩ := Config.forall_interfaces_iff.2 h.interfaces
  refine ⟨h.timeout, h.name, h.nonempty, hc, fun n v hv he => ?_⟩
  obtain ⟨i, hi⟩ := (exists_buildEnabled_iff n v).2 (hs n v hv he)
  exact (hi ▸ attempt n v).check_of_built

theorem assemble_eq_some_iff (he : c.enabled = true) {s : Service} :
    assemble (some c) = .ok (some s) ↔ c.Acceptable ∧ assembled c = s := by
  constructor
  · intro h
    cases hv : Config.validate (some c) with
    | error e =>
      rw [assemble_of_invalid hv] at h
      cases h
    | ok u =>
      have hvalid := (Config.validate_eq_ok_iff he).1 hv
      rw [assemble_of_valid he hv, Failure.orValue_eq_ok_iff,
        findSome?_failureAt_eq_none_iff hvalid.complete, Option.some.injEq] at h
      refine ⟨⟨hvalid.timeout, hvalid.name, hvalid.nonempty, ?_⟩, h.2⟩
      exact Config.forall_interfaces_iff.1 ⟨hvalid.complete, h.1⟩
  · rintro ⟨ha, rfl⟩
    obtain ⟨hc, hs⟩ := Config.forall_interfaces_iff.2 ha.interfaces
    rw [assemble_of_valid he ((Config.validate_eq_ok_iff he).2 (valid_of_acceptable ha)),
      Failure.orValue_eq_ok_iff, findSome?_failureAt_eq_none_iff hc]
    exact ⟨hs, rfl⟩

theorem assemble_ne_none (he : c.enabled = true) : assemble (some c) ≠ .ok none := by
  intro h
  cases hv : Config.validate (some c) with
  | error e =>
    rw [assemble_of_invalid hv] at h
    cases h
  | ok u =>
    rw [assemble_of_valid he hv, Failure.orValue_eq_ok_iff] at h
    cases h.2

theorem enabled_of_assemble_some {s : Service} (h : assemble (some c) = .ok (some s)) :
    c.enabled = true := by
  cases he : c.enabled with
  | true => rfl
  | false =>
    rw [assemble_of_disabled he] at h
    cases h

/-- A service comes from the enabled configurations that are acceptable, and a fault from all the
others. -/
theorem assemble_accepts_iff (c : Config) :
    ((∃ s, assemble (some c) = .ok (some s)) ↔ c.enabled = true ∧ c.Acceptable) ∧
      ((∃ f, assemble (some c) = .error (.fault f)) ↔ c.enabled = true ∧ ¬ c.Acceptable) := by
  cases he : c.enabled with
  | false =>
    simp only [assemble_of_disabled he, Except.ok.injEq, reduceCtorEq, exists_false,
      Bool.false_eq_true, false_and, and_self]
  | true =>
    simp only [assemble_eq_some_iff he, exists_and_left, exists_eq', and_true, true_and]
    constructor
    · rintro ⟨f, hf⟩ ha
      rw [(assemble_eq_some_iff he).2 ⟨ha, rfl⟩] at hf
      cases hf
    · intro ha
      cases hs : assemble (some c) with
      | error e =>
        obtain ⟨f, rfl⟩ := assemble_onlyFaults he e hs
        exact ⟨f, rfl⟩
      | ok s =>
        cases s with
        | none => exact absurd hs (assemble_ne_none he)
        | some s => exact absurd ((assemble_eq_some_iff he).1 hs).1 ha

end Service

end LeasePlan
