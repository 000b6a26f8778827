import Mathlib
import LeasePlan.Proofs.Validation
import LeasePlan.Service

namespace LeasePlan

namespace Interface4

theorem build_eq_some_iff {name : RawText} {v : V4Config} {i : Interface4} :
    build name v = .ok (some i) ↔ v.enabled = true ∧ buildEnabled name v = .ok i := by
  unfold build
  split
  next he => simp only [map_eq_ok, Option.some.injEq, exists_eq_right, he, true_and]
  next he => simp only [Except.ok.injEq, reduceCtorEq, he, false_and]

theorem build_eq_error_iff {name : RawText} {v : V4Config} {e : Failure} :
    build name v = .error e ↔ v.enabled = true ∧ buildEnabled name v = .error e := by
  unfold build
  split
  next he => simp only [map_eq_error, he, true_and]
  next he => simp only [reduceCtorEq, he, false_and]

theorem exists_build_iff {name : RawText} {v : V4Config} (he : v.enabled = true) :
    (∃ o, build name v = .ok o) ↔ ∃ i, buildEnabled name v = .ok i := by
  simp only [build, he, ↓reduceIte, map_eq_ok]
  constructor
  · rintro ⟨_, i, hi, -⟩
    exact ⟨i, hi⟩
  · rintro ⟨i, hi⟩
    exact ⟨some i, i, hi, rfl⟩

theorem name_of_build {name : RawText} {v : V4Config} {i : Interface4}
    (h : build name v = .ok (some i)) : i.name = name := by
  obtain ⟨-, h⟩ := build_eq_some_iff.1 h
  obtain ⟨_, _, _, _, _, _, _, rfl⟩ := (h ▸ attempt name v).places_of_built
  rfl

end Interface4

namespace Interface6

/-- All settings under the name of the interface. -/
def carried (name : RawText) (v : V6Config) : Interface6 where
  name := name
  rangeStart := v.rangeStart
  lease := v.lease
  slaacOnly := v.slaacOnly
  allowSlaac := v.allowSlaac
  options := v.options

theorem build_eq_some_iff {name : RawText} {v : V6Config} {i : Interface6} :
    build name v = some i ↔ v.enabled = true ∧ i = carried name v := by
  unfold build
  split
  next he => simp only [Option.some.injEq, he, true_and, carried, eq_comm]
  next he => simp only [reduceCtorEq, he, false_and]

end Interface6

namespace Service

def failureAt (c : Config) (name : RawText) : Option Failure := Failure.of? (buildInterface c name)

/-- The IPv4 interface that is kept under a name. -/
def kept4 (c : Config) (name : RawText) : Option Interface4 :=
  match buildInterface c name with
  | .error _ => none
  | .ok p => p.1

def kept6 (c : Config) (name : RawText) : Option Interface6 :=
  match buildInterface c name with
  | .error _ => none
  | .ok p => p.2

theorem filterMap_cons_of_eq {α β : Type} {f : β → Option α} {b : β} {o : Option α} (h : f b = o)
    (l : List β) : (b :: l).filterMap f = o.toList ++ l.filterMap f := by
  rw [List.filterMap_cons, h]
  cases o with
  | none => rfl
  | some a => rfl

/-- Building all interfaces ends with the first failure or keeps what is built under every name. -/
theorem buildAll_eq (c : Config) (names : List RawText) : buildAll c names =
    Failure.orValue (names.findSome? (failureAt c))
      (names.filterMap (kept4 c), names.filterMap (kept6 c)) := by
  induction names with
  | nil => rfl
  | cons name names ih =>
    rw [buildAll, ih, List.findSome?_cons]
    cases hb : buildInterface c name with
    | error e =>
      have he : failureAt c name = some e := Failure.of?_eq_some_iff.2 hb
      rw [he]
      rfl
    | ok p =>
      have hn : failureAt c name = none := Failure.of?_eq_none_iff.2 ⟨p, hb⟩
      have h4 : kept4 c name = p.1 := by rw [kept4, hb]
      have h6 : kept6 c name = p.2 := by rw [kept6, hb]
      rw [hn, filterMap_cons_of_eq h4, filterMap_cons_of_eq h6]
      cases names.findSome? (failureAt c) with
      | none => rfl
      | some e => rfl

theorem buildInterface_eq {c : Config} {name : RawText} {v4 : V4Config} {v6 : V6Config}
    (h : c.interfaces.find? name = some (some { v4 := some v4, v6 := some v6 })) :
    buildInterface c name =
      ((Interface4.build name v4).mapError
        (Failure.annotate (Config.protocolContext name Protocol.v4.name))).map
          fun i4 => (i4, Interface6.build name v6) := by
  rw [buildInterface, h]
  dsimp only
  cases Interface4.build name v4 with
  | error e => rfl
  | ok i4 => rfl

theorem failureAt_eq_some_iff {c : Config} {name : RawText} (hc : c.CompleteAt name) {e : Failure} :
    failureAt c name = some e ↔ ∃ v g, c.v4? name = some v ∧
      Interface4.build name v = .error (.fault g) ∧
        e = .fault (g.annotate (Config.protocolContext name Protocol.v4.name)) := by
  obtain ⟨v4, v6, hi⟩ := hc
  rw [failureAt, Failure.of?_eq_some_iff, buildInterface_eq hi, map_eq_error]
  constructor
  · intro h
    cases hb : Interface4.build name v4 with
    | ok i4 =>
      rw [hb] at h
      cases h
    | error e' =>
      obtain ⟨g, rfl⟩ :=
        (attempt name v4).build_onlyFaults e' (Interface4.build_eq_error_iff.1 hb).2
      rw [hb] at h
      cases h
      exact ⟨v4, g, Config.v4?_of_find? hi, hb, rfl⟩
  · rintro ⟨v, g, hv, hb, rfl⟩
    cases (Config.v4?_of_find? hi).symm.trans hv
    rw [hb]
    rfl

theorem failureAt_eq_none_iff {c : Config} {name : RawText} (hc : c.CompleteAt name) :
    failureAt c name = none ↔ ∀ v, c.v4? name = some v → ∃ o, Interface4.build name v = .ok o := by
  obtain ⟨v4, v6, hi⟩ := hc
  rw [failureAt, buildInterface_eq hi, Config.v4?_of_find? hi]
  simp only [Option.some.injEq, forall_eq']
  cases Interface4.build name v4 with
  | ok i4 => simp only [Except.mapError, Except.map, Failure.of?, Except.ok.injEq, exists_eq']
  | error e => simp only [Except.mapError, Except.map, Failure.of?, reduceCtorEq, exists_false]

theorem kept4_eq_some_iff {c : Config} {name : RawText} (hc : c.CompleteAt name) {i : Interface4} :
    kept4 c name = some i ↔ ∃ v, c.v4? name = some v ∧ Interface4.build name v = .ok (some i) := by
  obtain ⟨v4, v6, hi⟩ := hc
  rw [kept4, buildInterface_eq hi, Config.v4?_of_find? hi]
  simp only [Option.some.injEq, exists_eq_left']
  cases Interface4.build name v4 with
  | ok i4 => simp only [Except.mapError, Except.map, Except.ok.injEq]
  | error e => simp only [Except.mapError, Except.map, reduceCtorEq]

theorem kept6_eq_some_iff {c : Config} {name : RawText} (hc : c.CompleteAt name)
    (hf : failureAt c name = none) {i : Interface6} : kept6 c name = some i ↔
      ∃ v, c.v6? name = some v ∧ v.enabled = true ∧ i = Interface6.carried name v := by
  have hb := (failureAt_eq_none_iff hc).1 hf
  obtain ⟨v4, v6, hi⟩ := hc
  obtain ⟨o, hb⟩ := hb v4 (Config.v4?_of_find? hi)
  rw [kept6, buildInterface_eq hi, hb, Config.v6?_of_find? hi]
  simp only [Except.mapError, Except.map, Option.some.injEq, exists_eq_left',
    Interface6.build_eq_some_iff]

/-- What a configuration that can be built describes. -/
def assembled (c : Config) : Service where
  enabled := c.enabled
  interfaces4 := c.interfaces.sortedNames.filterMap (kept4 c)
  interfaces6 := c.interfaces.sortedNames.filterMap (kept6 c)

theorem assemble_some (c : Config) : assemble (some c) = (do
    Config.validate (some c)
    if !c.enabled then .ok none
    else
      let (interfaces4, interfaces6) ← buildAll c c.interfaces.sortedNames
      .ok (some { enabled := c.enabled, interfaces4, interfaces6 })) := rfl

theorem assemble_of_invalid {c : Config} {e : Failure}
    (h : Config.validate (some c) = .error e) : assemble (some c) = .error e := by
  rw [assemble_some, h]
  rfl

theorem assemble_of_disabled {c : Config} (h : c.enabled = false) :
    assemble (some c) = .ok none := by
  rw [assemble_some, Config.validate_some, h]
  rfl

theorem assemble_of_valid {c : Config} (he : c.enabled = true)
    (hv : Config.validate (some c) = .ok ()) : assemble (some c) =
      Failure.orValue (c.interfaces.sortedNames.findSome? (failureAt c)) (some (assembled c)) := by
  rw [assemble_some, hv, buildAll_eq, assembled]
  simp only [he, Bool.not_true, Bool.false_eq_true, ↓reduceIte]
  cases c.interfaces.sortedNames.findSome? (failureAt c) with
  | none => rfl
  | some e => rfl

end Service

end LeasePlan
