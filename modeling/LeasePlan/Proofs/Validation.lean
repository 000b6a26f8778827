import Mathlib
import LeasePlan.Proofs.DomainGrammar
import LeasePlan.Proofs.InterfaceBuild
import LeasePlan.Proofs.NameOrder

namespace LeasePlan

namespace Config

/-- The IPv4 settings of an interface, if there are any. -/
def v4? (c : Config) (name : RawText) : Option V4Config :=
  (c.interfaces.find? name).join.bind InterfaceConfig.v4

def v6? (c : Config) (name : RawText) : Option V6Config :=
  (c.interfaces.find? name).join.bind InterfaceConfig.v6

/-- The settings of an interface and of both its protocols are there. -/
def CompleteAt (c : Config) (name : RawText) : Prop :=
  ∃ v4 v6, c.interfaces.find? name = some (some { v4 := some v4, v6 := some v6 })

theorem completeAt_of_eq {c : Config} {name : RawText} {i : InterfaceConfig} {v4 : V4Config}
    {v6 : V6Config} (h : c.interfaces.find? name = some (some i)) (h4 : i.v4 = some v4)
    (h6 : i.v6 = some v6) : c.CompleteAt name := by
  cases i
  cases h4
  cases h6
  exact ⟨v4, v6, h⟩

theorem checkPresence_eq_ok_iff {c : Config} {name : RawText} :
    c.checkPresence name = .ok () ↔ c.CompleteAt name := by
  constructor
  · intro h
    unfold checkPresence at h
    split at h
    · cases h
    · cases h
    next i hi =>
      cases h4 : i.v4 with
      | none => simp only [h4, Option.isNone_none, ↓reduceIte, reduceCtorEq] at h
      | some v4 =>
        cases h6 : i.v6 with
        | none =>
          simp only [h4, h6, Option.isNone_some, Option.isNone_none, Bool.false_eq_true, ↓reduceIte,
            reduceCtorEq] at h
        | some v6 => exact completeAt_of_eq hi h4 h6
  · rintro ⟨v4, v6, h⟩
    simp only [checkPresence, h, Option.isNone_some, Bool.false_eq_true, ↓reduceIte]

theorem checkPresence_onlyFaults {c : Config} {name : RawText}
    (h : ∃ a, c.interfaces.find? name = some a) : OnlyFaults (c.checkPresence name) := by
  obtain ⟨a, ha⟩ := h
  unfold checkPresence
  rw [ha]
  cases a with
  | none => exact .fault _
  | some i =>
    dsimp only
    split
    · exact .fault _
    · split
      · exact .fault _
      · exact .ok ()

theorem checkStructure_eq (c : Config) (names : List RawText) : c.checkStructure names =
    Failure.orValue (names.findSome? fun n => Failure.of? (c.checkPresence n)) () := by
  induction names with
  | nil => rfl
  | cons name names ih =>
    rw [checkStructure, ih, List.findSome?_cons]
    cases c.checkPresence name with
    | error e => rfl
    | ok u => rfl

theorem checkStructure_eq_ok_iff {c : Config} {names : List RawText} :
    c.checkStructure names = .ok () ↔ ∀ n ∈ names, c.CompleteAt n := by
  have hat (n : RawText) : Failure.of? (c.checkPresence n) = none ↔ c.CompleteAt n := by
    rw [Failure.of?_eq_none_iff, ← checkPresence_eq_ok_iff]
    exact ⟨fun ⟨_, h⟩ => h, fun h => ⟨(), h⟩⟩
  simp only [checkStructure_eq, Failure.orValue_eq_ok_iff, List.findSome?_eq_none_iff, hat,
    and_true]

theorem v4?_of_find? {c : Config} {name : RawText} {i : InterfaceConfig}
    (h : c.interfaces.find? name = some (some i)) : c.v4? name = i.v4 := by
  rw [v4?, h]
  rfl

theorem v6?_of_find? {c : Config} {name : RawText} {i : InterfaceConfig}
    (h : c.interfaces.find? name = some (some i)) : c.v6? name = i.v6 := by
  rw [v6?, h]
  rfl

def v4Fault? (c : Config) (name : RawText) : Option Fault :=
  match c.v4? name with
  | none => none
  | some v4 =>
    if v4.enabled then
      match checkV4Settings v4 with
      | .error (.fault f) => some (f.annotate (protocolContext name Protocol.v4.name))
      | _ => none
    else none

theorem v4Fault?_eq_some_iff {c : Config} {name : RawText} {f : Fault} :
    c.v4Fault? name = some f ↔ ∃ v g, c.v4? name = some v ∧ v.enabled = true ∧
      checkV4Settings v = .error (.fault g) ∧
        f = g.annotate (protocolContext name Protocol.v4.name) := by
  unfold v4Fault?
  constructor
  · intro h
    split at h
    · cases h
    next v hv =>
      split at h
      next he =>
        split at h
        next g hg =>
          cases h
          exact ⟨v, g, hv, he, hg, rfl⟩
        · cases h
      · cases h
  · rintro ⟨v, g, hv, he, hg, rfl⟩
    simp only [hv, he, hg, ↓reduceIte]

theorem v4Fault?_eq_none_iff {c : Config} {name : RawText} : c.v4Fault? name = none ↔
    ∀ v, c.v4? name = some v → v.enabled = true → checkV4Settings v = .ok () := by
  rw [Option.eq_none_iff_forall_ne_some]
  constructor
  · intro h v hv he
    cases hc : checkV4Settings v with
    | ok u => rfl
    | error e =>
      obtain ⟨g, rfl⟩ := (attempt name v).check_onlyFaults e hc
      exact absurd (v4Fault?_eq_some_iff.2 ⟨v, g, hv, he, hc, rfl⟩) (h _)
  · rintro h f hf
    obtain ⟨v, g, hv, he, hg, -⟩ := v4Fault?_eq_some_iff.1 hf
    rw [h v hv he] at hg
    cases hg

/-- Where nothing is missing, the IPv4 pass ends with the first fault. -/
theorem checkV4_eq {c : Config} {names : List RawText} (h : ∀ n ∈ names, c.CompleteAt n) :
    c.checkV4 names = .ok (names.findSome? c.v4Fault?) := by
  induction names with
  | nil => rfl
  | cons name names ih =>
    obtain ⟨v4, v6, hi⟩ := h name List.mem_cons_self
    have ih := ih fun n hn => h n (List.mem_cons_of_mem name hn)
    rw [List.findSome?_cons, v4Fault?, v4?_of_find? hi]
    simp only [checkV4, hi]
    split
    · cases hc : checkV4Settings v4 with
      | ok u => exact ih
      | error e =>
        obtain ⟨f, rfl⟩ := (attempt name v4).check_onlyFaults e hc
        rfl
    · exact ih

/-- What validation asks of an enabled configuration. -/
structure Valid (c : Config) : Prop where
  timeout : 0 ≤ c.icmpTimeout.micros
  name : DomainName.IsName c.domainName
  nonempty : c.interfaces.entries ≠ []
  complete : ∀ n ∈ c.interfaces.sortedNames, c.CompleteAt n
  settings : ∀ n v, c.v4? n = some v → v.enabled = true → checkV4Settings v = .ok ()

theorem mem_sortedNames_of_bind {α : Type} {c : Config} {name : RawText}
    {f : InterfaceConfig → Option α} {a : α} (h : (c.interfaces.find? name).join.bind f = some a) :
    name ∈ c.interfaces.sortedNames := by
  rw [NameMap.mem_sortedNames_iff]
  cases hf : c.interfaces.find? name with
  | none =>
    rw [hf] at h
    cases h
  | some i => exact ⟨i, rfl⟩

theorem mem_sortedNames_of_v4? {c : Config} {name : RawText} {v : V4Config}
    (h : c.v4? name = some v) : name ∈ c.interfaces.sortedNames := mem_sortedNames_of_bind h

theorem mem_sortedNames_of_v6? {c : Config} {name : RawText} {v : V6Config}
    (h : c.v6? name = some v) : name ∈ c.interfaces.sortedNames := mem_sortedNames_of_bind h

/-- The passes over all interfaces: structure, then IPv4 and IPv6 with their faults joined. -/
def checkInterfaces (c : Config) : Except Failure Unit := do
  c.checkStructure c.interfaces.sortedNames
  let v4 ← c.checkV4 c.interfaces.sortedNames
  match Fault.join [v4.map (Fault.annotate ["validating v4"]),
      (c.checkV6 c.interfaces.sortedNames).map (Fault.annotate ["validating v6"])] with
  | none => .ok ()
  | some f => .error (.fault f)

theorem validate_some (c : Config) : validate (some c) =
    if !c.enabled then .ok ()
    else if c.icmpTimeout.isNegative then .error (.ofCause (.negativeTimeout c.icmpTimeout))
    else (do
      Requirement.domainName c.domainName
      if c.interfaces.isEmpty then .error (.ofCause (.noInterfaces Cause.noInterfacesMessage))
      else c.checkInterfaces) := rfl

/-- As IPv6 has no faults, what is left of a complete configuration is its first IPv4 fault. -/
theorem checkInterfaces_eq {c : Config} (hc : ∀ n ∈ c.interfaces.sortedNames, c.CompleteAt n) :
    c.checkInterfaces = Failure.orValue ((c.interfaces.sortedNames.findSome? c.v4Fault?).map
      fun f => .fault (f.annotate ["validating v4"])) () := by
  rw [checkInterfaces, checkStructure_eq_ok_iff.2 hc, checkV4_eq hc]
  cases c.interfaces.sortedNames.findSome? c.v4Fault? with
  | none => rfl
  | some f => rfl

theorem checkInterfaces_eq_ok_iff {c : Config} : c.checkInterfaces = .ok () ↔
    (∀ n ∈ c.interfaces.sortedNames, c.CompleteAt n) ∧
      ∀ n v, c.v4? n = some v → v.enabled = true → checkV4Settings v = .ok () := by
  constructor
  · intro h
    obtain ⟨⟨⟩, hs, -⟩ := bind_eq_ok.1 h
    have hc := checkStructure_eq_ok_iff.1 hs
    rw [checkInterfaces_eq hc, Failure.orValue_eq_ok_iff, Option.map_eq_none_iff,
      List.findSome?_eq_none_iff] at h
    exact ⟨hc, fun n v hv => v4Fault?_eq_none_iff.1 (h.1 n (mem_sortedNames_of_v4? hv)) v hv⟩
  · rintro ⟨hc, hv⟩
    rw [checkInterfaces_eq hc, Failure.orValue_eq_ok_iff, Option.map_eq_none_iff,
      List.findSome?_eq_none_iff]
    exact ⟨fun n _ => v4Fault?_eq_none_iff.2 (hv n), rfl⟩

theorem checkInterfaces_onlyFaults (c : Config) : OnlyFaults c.checkInterfaces := by
  intro e h
  rcases bind_eq_error.1 h with hs | ⟨⟨⟩, hs, -⟩
  · rw [checkStructure_eq, Failure.orValue_eq_error_iff] at hs
    obtain ⟨n, hn, he⟩ := List.exists_of_findSome?_eq_some hs
    exact checkPresence_onlyFaults (NameMap.mem_sortedNames_iff.1 hn) e
      (Failure.of?_eq_some_iff.1 he)
  · rw [checkInterfaces_eq (checkStructure_eq_ok_iff.1 hs), Failure.orValue_eq_error_iff] at h
    obtain ⟨f, -, rfl⟩ := Option.map_eq_some_iff.1 h
    exact ⟨_, rfl⟩

theorem validate_eq_ok_iff {c : Config} (he : c.enabled = true) :
    validate (some c) = .ok () ↔ c.Valid := by
  have ht : c.icmpTimeout.isNegative = true ↔ ¬ 0 ≤ c.icmpTimeout.micros :=
    decide_eq_true_iff.trans not_le.symm
  have hne : c.interfaces.isEmpty = true ↔ c.interfaces.entries = [] := List.isEmpty_iff
  simp only [validate_some, he, Bool.not_true, Bool.false_eq_true, ↓reduceIte]
  constructor
  · intro h
    split at h
    · cases h
    next hneg =>
      obtain ⟨⟨⟩, hname, h⟩ := bind_eq_ok.1 h
      split at h
      · cases h
      next hempty =>
        obtain ⟨hc, hv⟩ := checkInterfaces_eq_ok_iff.1 h
        exact ⟨not_not.1 (mt ht.2 hneg), (Requirement.domainName_eq_ok_iff _).1 hname,
          mt hne.2 hempty, hc, hv⟩
  · intro h
    rw [if_neg (mt ht.1 (not_not.2 h.timeout)), (Requirement.domainName_eq_ok_iff _).2 h.name]
    refine (if_neg (mt hne.1 h.nonempty)).trans ?_
    exact checkInterfaces_eq_ok_iff.2 ⟨h.complete, h.settings⟩

theorem validate_onlyFaults (conf : Option Config) : OnlyFaults (validate conf) := by
  cases conf with
  | none => exact .fault _
  | some c =>
    rw [validate_some]
    split
    · exact .ok ()
    · split
      · exact .fault _
      · refine (Requirement.domainName_onlyFaults _).bind fun _ _ => ?_
        split
        · exact .fault _
        · exact checkInterfaces_onlyFaults c

end Config

end LeasePlan
