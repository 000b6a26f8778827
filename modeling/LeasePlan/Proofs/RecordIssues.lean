import Mathlib
import LeasePlan.Config.Parse
import LeasePlan.Proofs.KeyOrder

namespace LeasePlan

namespace Checked

variable {α β : Type}

theorem eq_error_of_mem {x : Checked α} {i : Issue} (h : i ∈ x.issues) : x = .error x.issues := by
  cases x with
  | ok a => cases h
  | error is => rfl

theorem issues_both (x : Checked α) (y : Checked β) :
    (x.both y).issues = x.issues ++ y.issues := by
  cases x with
  | ok a =>
    cases y with
    | ok b => rfl
    | error js => rfl
  | error is =>
    cases y with
    | ok b => exact (List.append_nil is).symm
    | error js => rfl

theorem issues_map (f : α → β) (x : Checked α) : issues (x.map f) = x.issues := by
  cases x <;> rfl

theorem issues_under (step : String) (x : Checked α) :
    (x.under step).issues = x.issues.map (Issue.under step) := by
  cases x <;> rfl

theorem mem_issues_all {xs : List (Checked α)} {i : Issue} :
    i ∈ (all xs).issues ↔ ∃ x ∈ xs, i ∈ x.issues := by
  induction xs with
  | nil => simp only [all, issues, List.not_mem_nil, false_and, exists_false]
  | cons x xs ih =>
    simp only [all, issues_map, issues_both, List.mem_append, ih, List.exists_mem_cons_iff]

end Checked

/-- The records that a configuration is written down in. -/
inductive RecordKind
  | config
  | interface
  | v4
  | v6
  | option

namespace RecordKind

def fields : RecordKind → List String
  | config => ["interfaces", "local_domain_name", "icmp_timeout", "enabled"]
  | interface => ["ipv4", "ipv6"]
  | v4 => ["gateway_ip", "subnet_mask", "range_start", "range_end", "options", "lease_duration",
      "enabled"]
  | v6 => ["range_start", "options", "lease_duration", "ra_slaac_only", "ra_allow_slaac", "enabled"]
  | option => ["code", "value"]

/-- The fields that hold spans of time. -/
def durations : RecordKind → List String
  | config => ["icmp_timeout"]
  | interface => []
  | v4 => ["lease_duration"]
  | v6 => ["lease_duration"]
  | option => []

/-- All that is wrong with a value that is read as such a record. -/
def issues : RecordKind → Data → List Issue
  | config, d => d.readConfig.issues
  | interface, d => d.readInterface.issues
  | v4, d => d.readV4Config.issues
  | v6, d => d.readV6Config.issues
  | option, d => d.readOption.issues

/-- What is wrong with the fields of such a record. -/
def values : RecordKind → List (Data × Data) → List Issue
  | config, es => (Data.configFields es).issues
  | interface, es => (Data.interfaceFields es).issues
  | v4, es => (Data.v4Fields es).issues
  | v6, es => (Data.v6Fields es).issues
  | option, es => (Data.optionFields es).issues

end RecordKind

namespace Data

/-- The entries of a record hold another record behind some steps. -/
inductive Holds : RecordKind → List (Data × Data) → List String → RecordKind →
    List (Data × Data) → Prop
  | interface {es is fs : List (Data × Data)} {key : Data}
      (hi : field? "interfaces" es = some (mapping is)) (hm : (key, mapping fs) ∈ is) :
      Holds .config es ["interfaces", key.step] .interface fs
  | v4 {es fs : List (Data × Data)} (hv : field? "ipv4" es = some (mapping fs)) :
      Holds .interface es ["ipv4"] .v4 fs
  | v6 {es fs : List (Data × Data)} (hv : field? "ipv6" es = some (mapping fs)) :
      Holds .interface es ["ipv6"] .v6 fs
  | option4 {es fs : List (Data × Data)} {ds : List Data} {k : Nat}
      (ho : field? "options" es = some (list ds)) (hk : ds[k]? = some (mapping fs)) :
      Holds .v4 es ["options", toString k] .option fs
  | option6 {es fs : List (Data × Data)} {ds : List Data} {k : Nat}
      (ho : field? "options" es = some (list ds)) (hk : ds[k]? = some (mapping fs)) :
      Holds .v6 es ["options", toString k] .option fs

/-- A document holds the entries of a record behind some steps, at any depth. -/
inductive RecordAt (d : Data) : RecordKind → List String → List (Data × Data) → Prop
  | root {es : List (Data × Data)} (h : d = mapping es) : RecordAt d .config [] es
  | inside {kind inner : RecordKind} {path steps : List String} {es fs : List (Data × Data)}
      (h : RecordAt d kind path es) (hs : Holds kind es steps inner fs) :
      RecordAt d inner (path ++ steps) fs

end Data

/-- Puts an issue behind further steps. -/
def Issue.behind (steps : List String) (i : Issue) : Issue := { i with path := steps ++ i.path }

namespace Data

section Readers

variable {α : Type} {read : Data → Checked α} {es : List (Data × Data)} {i : Issue}

theorem mem_issues_fieldOr {name : String} {a : α} {v : Data} (hv : field? name es = some v)
    (h : i ∈ (read v).issues) : i.behind [name] ∈ (fieldOr name a read es).issues := by
  rw [fieldOr, hv]
  dsimp only
  rw [Checked.issues_under]
  exact List.mem_map_of_mem h

theorem mem_issues_readNames {is fs : List (Data × Data)} {key : Data}
    (hm : (key, mapping fs) ∈ is) (h : i ∈ (read (mapping fs)).issues) :
    i.behind [key.step] ∈ (readNames read (mapping is)).issues := by
  rw [readNames, Checked.issues_map, Checked.mem_issues_all]
  refine ⟨_, List.mem_map_of_mem hm, ?_⟩
  rw [Checked.issues_under, Checked.issues_both]
  exact List.mem_map_of_mem (List.mem_append_right _ h)

theorem mem_issues_readList {ds : List Data} {k : Nat} {d : Data} (hk : ds[k]? = some d)
    (h : i ∈ (read d).issues) : i.behind [toString k] ∈ (readList read (list ds)).issues := by
  rw [readList, readItems, Checked.mem_issues_all]
  refine ⟨_, List.mem_map_of_mem (List.mk_mem_zipIdx_iff_getElem?.2 hk), ?_⟩
  rw [Checked.issues_under]
  exact List.mem_map_of_mem h

theorem mem_issues_readNullable {fs : List (Data × Data)} (h : i ∈ (read (mapping fs)).issues) :
    i ∈ (readNullable read (mapping fs)).issues := by
  rw [readNullable, Checked.issues_map]
  · exact h
  · exact nofun

theorem issues_onlyFields (known : List String) (es : List (Data × Data)) :
    (onlyFields known es).issues = es.filterMap fun e => keyIssue? known e.1 := by
  rw [onlyFields]
  split
  next h => exact h.symm
  next h => exact h.symm

theorem issues_readObject {model : String} {known : List String}
    {fields : List (Data × Data) → Checked α} :
    (readObject model known fields (mapping es)).issues =
      if hasBrokenKey es then
        ((fields es).issues.filter fun i => i.problem.days?.isSome) ++ [⟨[], .notUnicode⟩]
      else (fields es).issues ++ es.filterMap fun e => keyIssue? known e.1 := by
  rw [readObject]
  split
  · rfl
  · rw [Checked.issues_map, Checked.issues_both, issues_onlyFields]

end Readers

end Data

namespace RecordKind

variable (kind : RecordKind) (es : List (Data × Data))

theorem issues_mapping : kind.issues (.mapping es) =
    if Data.hasBrokenKey es then
      ((kind.values es).filter fun i => i.problem.days?.isSome) ++ [⟨[], .notUnicode⟩]
    else kind.values es ++ es.filterMap fun e => Data.keyIssue? kind.fields e.1 := by
  cases kind <;> exact Data.issues_readObject

variable {kind es}

/-- Every field of a record is read, whatever the others are like, and every key is looked at. -/
theorem issues_of_clear (h : Data.hasBrokenKey es = false) : kind.issues (.mapping es) =
    kind.values es ++ es.filterMap fun e => Data.keyIssue? kind.fields e.1 := by
  rw [issues_mapping, h]
  exact if_neg Bool.false_ne_true

theorem issues_of_broken (h : Data.hasBrokenKey es = true) : kind.issues (.mapping es) =
    ((kind.values es).filter fun i => i.problem.days?.isSome) ++ [⟨[], .notUnicode⟩] := by
  rw [issues_mapping, if_pos h]

theorem issues_ne_nil_of_broken (h : Data.hasBrokenKey es = true) :
    kind.issues (.mapping es) ≠ [] := by
  rw [issues_of_broken h]
  exact List.append_ne_nil_of_right_ne_nil _ (List.cons_ne_nil _ _)

end RecordKind

namespace Data

/-- What is wrong with a record inside another one is wrong with a field of that one. -/
theorem Holds.mem_values {kind inner : RecordKind} {steps : List String}
    {es fs : List (Data × Data)} (h : Holds kind es steps inner fs) {i : Issue}
    (hi : i ∈ inner.issues (mapping fs)) : i.behind steps ∈ kind.values es := by
  cases h with
  | interface hv hm =>
    have hread := mem_issues_readNames hm (mem_issues_readNullable hi)
    have hfield := mem_issues_fieldOr (a := NameMap.empty) hv hread
    simp only [RecordKind.values, configFields, Checked.issues_map, Checked.issues_both,
      List.mem_append]
    exact .inl hfield
  | v4 hv =>
    have hfield := mem_issues_fieldOr (a := none) hv (mem_issues_readNullable hi)
    simp only [RecordKind.values, interfaceFields, Checked.issues_map, Checked.issues_both,
      List.mem_append]
    exact .inl hfield
  | v6 hv =>
    have hfield := mem_issues_fieldOr (a := none) hv (mem_issues_readNullable hi)
    simp only [RecordKind.values, interfaceFields, Checked.issues_map, Checked.issues_both,
      List.mem_append]
    exact .inr hfield
  | option4 ho hk =>
    have hfield := mem_issues_fieldOr (a := []) ho (mem_issues_readList hk hi)
    simp only [RecordKind.values, v4Fields, Checked.issues_map, Checked.issues_both,
      List.mem_append]
    exact .inr (.inr (.inr (.inr (.inl hfield))))
  | option6 ho hk =>
    have hfield := mem_issues_fieldOr (a := []) ho (mem_issues_readList hk hi)
    simp only [RecordKind.values, v6Fields, Checked.issues_map, Checked.issues_both,
      List.mem_append]
    exact .inr (.inl hfield)

theorem Holds.mem_issues {kind inner : RecordKind} {steps : List String}
    {es fs : List (Data × Data)} (h : Holds kind es steps inner fs)
    (hes : hasBrokenKey es = false) {i : Issue} (hi : i ∈ inner.issues (mapping fs)) :
    i.behind steps ∈ kind.issues (mapping es) := by
  rw [RecordKind.issues_of_clear hes]
  exact List.mem_append_left _ (h.mem_values hi)

/-- A duration below the least one is told whatever the keys are like. -/
theorem Holds.mem_issues_of_days {kind inner : RecordKind} {steps : List String}
    {es fs : List (Data × Data)} (h : Holds kind es steps inner fs) {i : Issue}
    (hi : i ∈ inner.issues (mapping fs)) (hn : i.problem.days?.isSome) :
    i.behind steps ∈ kind.issues (mapping es) := by
  cases hes : hasBrokenKey es with
  | false => exact h.mem_issues hes hi
  | true =>
    rw [RecordKind.issues_of_broken hes]
    exact List.mem_append_left _ (List.mem_filter.2 ⟨h.mem_values hi, hn⟩)

theorem Holds.issues_ne_nil {kind inner : RecordKind} {steps : List String}
    {es fs : List (Data × Data)} (h : Holds kind es steps inner fs)
    (hi : inner.issues (mapping fs) ≠ []) : kind.issues (mapping es) ≠ [] := by
  cases hes : hasBrokenKey es with
  | false =>
    obtain ⟨i, hi⟩ := List.exists_mem_of_ne_nil _ hi
    exact List.ne_nil_of_mem (h.mem_issues hes hi)
  | true => exact RecordKind.issues_ne_nil_of_broken hes

theorem RecordAt.exists_mapping {d : Data} {kind : RecordKind} {path : List String}
    {es : List (Data × Data)} (h : RecordAt d kind path es) : ∃ fs, d = mapping fs := by
  induction h with
  | root hd => exact ⟨_, hd⟩
  | inside _ _ ih => exact ih

theorem RecordAt.mem_issues_of_days {d : Data} {kind : RecordKind} {path : List String}
    {es : List (Data × Data)} (h : RecordAt d kind path es) {i : Issue}
    (hi : i ∈ kind.issues (mapping es)) (hn : i.problem.days?.isSome) :
    i.behind path ∈ d.readConfig.issues := by
  induction h generalizing i with
  | root hd =>
    rw [hd]
    exact hi
  | inside _ hs ih =>
    have hmem := ih (hs.mem_issues_of_days hi hn) hn
    rw [Issue.behind, List.append_assoc]
    exact hmem

theorem RecordAt.issues_ne_nil {d : Data} {kind : RecordKind} {path : List String}
    {es : List (Data × Data)} (h : RecordAt d kind path es)
    (hi : kind.issues (mapping es) ≠ []) : d.readConfig.issues ≠ [] := by
  induction h with
  | root hd =>
    rw [hd]
    exact hi
  | inside _ hs ih => exact ih (hs.issues_ne_nil hi)

/-- Such a record stands behind some steps, and neither it nor a record around it has a key that is
no text for its code points. -/
inductive ClearAt (d : Data) : RecordKind → List String → List (Data × Data) → Prop
  | root {es : List (Data × Data)} (h : d = mapping es) (hes : hasBrokenKey es = false) :
      ClearAt d .config [] es
  | inside {kind inner : RecordKind} {path steps : List String} {es fs : List (Data × Data)}
      (h : ClearAt d kind path es) (hs : Holds kind es steps inner fs)
      (hfs : hasBrokenKey fs = false) : ClearAt d inner (path ++ steps) fs

namespace ClearAt

variable {d : Data} {kind : RecordKind} {path : List String} {es : List (Data × Data)}

theorem recordAt (h : ClearAt d kind path es) : RecordAt d kind path es := by
  induction h with
  | root hd => exact .root hd
  | inside _ hs _ ih => exact ih.inside hs

theorem hasBrokenKey (h : ClearAt d kind path es) : Data.hasBrokenKey es = false := by
  cases h with
  | root _ hes => exact hes
  | inside _ _ hfs => exact hfs

theorem mem_issues (h : ClearAt d kind path es) {i : Issue} (hi : i ∈ kind.issues (mapping es)) :
    i.behind path ∈ d.readConfig.issues := by
  induction h generalizing i with
  | root hd =>
    rw [hd]
    exact hi
  | inside hclear hs _ ih =>
    have hmem := ih (hs.mem_issues hclear.hasBrokenKey hi)
    rw [Issue.behind, List.append_assoc]
    exact hmem

/-- A key of a record that names none of its fields is an issue of the document. -/
theorem keyIssue_mem (h : ClearAt d kind path es) {key : Data} {i : Issue}
    (hkey : key ∈ es.map Prod.fst) (hi : keyIssue? kind.fields key = some i) :
    i.behind path ∈ d.readConfig.issues := by
  obtain ⟨e, he, rfl⟩ := List.mem_map.1 hkey
  apply h.mem_issues
  rw [RecordKind.issues_of_clear h.hasBrokenKey]
  exact List.mem_append_right _ (List.mem_filterMap.2 ⟨e, he, hi⟩)

end ClearAt

/-- A record with a key that names none of its fields has issues, whatever its other keys are. -/
theorem issues_ne_nil_of_key {kind : RecordKind} {es : List (Data × Data)} {key : Data}
    (hkey : key ∈ es.map Prod.fst) (hi : keyIssue? kind.fields key ≠ none) :
    kind.issues (mapping es) ≠ [] := by
  cases hes : hasBrokenKey es with
  | true => exact RecordKind.issues_ne_nil_of_broken hes
  | false =>
    obtain ⟨e, he, rfl⟩ := List.mem_map.1 hkey
    obtain ⟨i, hi⟩ := Option.ne_none_iff_exists'.1 hi
    rw [RecordKind.issues_of_clear hes]
    exact List.ne_nil_of_mem (List.mem_append_right _ (List.mem_filterMap.2 ⟨e, he, hi⟩))

theorem keyIssue?_text {known : List String} {key : String} (h : key ∉ known) :
    keyIssue? known (text key) = some ⟨[key], .extra⟩ := if_neg h

theorem keyIssue?_eq_none_iff {known : List String} {key : Data} :
    keyIssue? known key = none ↔ ∃ s ∈ known, key = text s := by
  cases key <;> simp [keyIssue?]

end Data

end LeasePlan
