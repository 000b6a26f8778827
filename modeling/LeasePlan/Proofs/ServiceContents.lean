import Mathlib
import LeasePlan.Proofs.Acceptance

namespace LeasePlan

namespace Config

def EnabledV4 (c : Config) (name : RawText) : Prop :=
  ∃ v, c.v4? name = some v ∧ v.enabled = true

def EnabledV6 (c : Config) (name : RawText) : Prop :=
  ∃ v, c.v6? name = some v ∧ v.enabled = true

theorem Acceptable.completeAt {c : Config} (h : c.Acceptable) {n : RawText}
    (hn : n ∈ c.interfaces.sortedNames) : c.CompleteAt n :=
  (forall_interfaces_iff.2 h.interfaces).1 n hn

end Config

namespace Service

/-- The interfaces of one protocol in the order of their names: one for each enabled name, as it is
made for that name, and found by it. -/
structure Roster {β : Type} (name : β → RawText) (Enabled : RawText → Prop)
    (Made : RawText → β → Prop) (is : List β) (find? : RawText → Option β) : Prop where
  rising : (is.map name).Pairwise (· < ·)
  mem_iff : ∀ n, n ∈ is.map name ↔ Enabled n
  made : ∀ i ∈ is, Made (name i) i
  found : ∀ n, Enabled n → ∃ i ∈ is, name i = n ∧ find? n = some i
  absent : ∀ n, ¬ Enabled n → find? n = none

/-- Whatever is kept of a strictly rising list of names under those names is a roster. -/
theorem roster_filterMap {β : Type} {name : β → RawText} {Enabled : RawText → Prop}
    {Made : RawText → β → Prop} {names : List RawText} {keep : RawText → Option β}
    (hnames : names.Pairwise (· < ·)) (hname : ∀ n ∈ names, ∀ i, keep n = some i → name i = n)
    (hmade : ∀ n ∈ names, ∀ i, keep n = some i → Made n i)
    (henabled : ∀ n, Enabled n ↔ n ∈ names ∧ ∃ i, keep n = some i) :
    Roster name Enabled Made (names.filterMap keep)
      fun n => (names.filterMap keep).find? fun i => name i = n where
  rising := pairwise_map_filterMap hname hnames
  mem_iff := by
    intro n
    rw [henabled]
    constructor
    · intro hn
      obtain ⟨i, hi, rfl⟩ := List.mem_map.1 hn
      obtain ⟨n, hmem, hk⟩ := List.mem_filterMap.1 hi
      cases hname n hmem i hk
      exact ⟨hmem, i, hk⟩
    · rintro ⟨hmem, i, hk⟩
      exact List.mem_map.2 ⟨i, List.mem_filterMap.2 ⟨n, hmem, hk⟩, hname n hmem i hk⟩
  made := by
    intro i hi
    obtain ⟨n, hmem, hk⟩ := List.mem_filterMap.1 hi
    cases hname n hmem i hk
    exact hmade _ hmem i hk
  found := by
    intro n hn
    obtain ⟨hmem, i, hk⟩ := (henabled n).1 hn
    refine ⟨i, List.mem_filterMap.2 ⟨n, hmem, hk⟩, hname n hmem i hk, ?_⟩
    exact (find?_filterMap_eq_some_iff hname (hnames.imp RawText.ne_of_lt)).2 ⟨hmem, hk⟩
  absent := by
    intro n hn
    rw [Option.eq_none_iff_forall_ne_some]
    intro i hi
    obtain ⟨hmem, hk⟩ := (find?_filterMap_eq_some_iff hname (hnames.imp RawText.ne_of_lt)).1 hi
    exact hn ((henabled n).2 ⟨hmem, i, hk⟩)

/-- A service has the interfaces of a configuration, by protocol and by name. -/
structure Keeps (s : Service) (c : Config) : Prop where
  v4 : Roster Interface4.name c.EnabledV4
    (fun n i => ∃ v, c.v4? n = some v ∧ Interface4.build n v = .ok (some i))
    s.interfaces4 s.interface4?
  v6 : Roster Interface6.name c.EnabledV6
    (fun n i => ∃ v, c.v6? n = some v ∧ Interface6.build n v = some i ∧ i = .carried n v)
    s.interfaces6 s.interface6?
  names_rising : s.names.Pairwise (· < ·)
  mem_names : ∀ n, n ∈ s.names ↔ c.EnabledV4 n ∨ c.EnabledV6 n

variable {c : Config}

theorem names_pairwise_lt (s : Service) : s.names.Pairwise (· < ·) :=
  mergeSort_pairwise_lt (nodup_eraseDups _)

theorem mem_names_iff {s : Service} {n : RawText} : n ∈ s.names ↔
    n ∈ s.interfaces4.map Interface4.name ∨ n ∈ s.interfaces6.map Interface6.name := by
  rw [names, List.mem_mergeSort, List.mem_eraseDups, List.mem_append]

theorem failureAt_of_acceptable (h : c.Acceptable) {n : RawText}
    (hn : n ∈ c.interfaces.sortedNames) : failureAt c n = none := by
  obtain ⟨hc, hs⟩ := Config.forall_interfaces_iff.2 h.interfaces
  exact List.findSome?_eq_none_iff.1 ((findSome?_failureAt_eq_none_iff hc).2 hs) n hn

theorem enabledV4_iff (h : c.Acceptable) (n : RawText) :
    c.EnabledV4 n ↔ n ∈ c.interfaces.sortedNames ∧ ∃ i, kept4 c n = some i := by
  constructor
  · rintro ⟨v, hv, he⟩
    have hn := Config.mem_sortedNames_of_v4? hv
    have hc := h.completeAt hn
    have hb := (failureAt_eq_none_iff hc).1 (failureAt_of_acceptable h hn) v hv
    obtain ⟨i, hi⟩ := (Interface4.exists_build_iff he).1 hb
    exact ⟨hn, i, (kept4_eq_some_iff hc).2 ⟨v, hv, Interface4.build_eq_some_iff.2 ⟨he, hi⟩⟩⟩
  · rintro ⟨hn, i, hi⟩
    obtain ⟨v, hv, hb⟩ := (kept4_eq_some_iff (h.completeAt hn)).1 hi
    exact ⟨v, hv, (Interface4.build_eq_some_iff.1 hb).1⟩

theorem enabledV6_iff (h : c.Acceptable) (n : RawText) :
    c.EnabledV6 n ↔ n ∈ c.interfaces.sortedNames ∧ ∃ i, kept6 c n = some i := by
  constructor
  · rintro ⟨v, hv, he⟩
    have hn := Config.mem_sortedNames_of_v6? hv
    refine ⟨hn, .carried n v, ?_⟩
    exact (kept6_eq_some_iff (h.completeAt hn) (failureAt_of_acceptable h hn)).2 ⟨v, hv, he, rfl⟩
  · rintro ⟨hn, i, hi⟩
    obtain ⟨v, hv, he, -⟩ :=
      (kept6_eq_some_iff (h.completeAt hn) (failureAt_of_acceptable h hn)).1 hi
    exact ⟨v, hv, he⟩

theorem assembled_keeps (h : c.Acceptable) : (assembled c).Keeps c := by
  have h4 : Roster Interface4.name c.EnabledV4
      (fun n i => ∃ v, c.v4? n = some v ∧ Interface4.build n v = .ok (some i))
      (assembled c).interfaces4 (assembled c).interface4? := by
    refine roster_filterMap c.interfaces.sortedNames_pairwise_lt ?_ ?_ (enabledV4_iff h)
    · intro n hn i hi
      obtain ⟨v, -, hb⟩ := (kept4_eq_some_iff (h.completeAt hn)).1 hi
      exact Interface4.name_of_build hb
    · intro n hn i hi
      exact (kept4_eq_some_iff (h.completeAt hn)).1 hi
  have h6 : Roster Interface6.name c.EnabledV6
      (fun n i => ∃ v, c.v6? n = some v ∧ Interface6.build n v = some i ∧ i = .carried n v)
      (assembled c).interfaces6 (assembled c).interface6? := by
    refine roster_filterMap c.interfaces.sortedNames_pairwise_lt ?_ ?_ (enabledV6_iff h)
    · intro n hn i hi
      obtain ⟨v, -, -, rfl⟩ :=
        (kept6_eq_some_iff (h.completeAt hn) (failureAt_of_acceptable h hn)).1 hi
      rfl
    · intro n hn i hi
      obtain ⟨v, hv, he, rfl⟩ :=
        (kept6_eq_some_iff (h.completeAt hn) (failureAt_of_acceptable h hn)).1 hi
      exact ⟨v, hv, Interface6.build_eq_some_iff.2 ⟨he, rfl⟩, rfl⟩
  refine ⟨h4, h6, names_pairwise_lt _, fun n => ?_⟩
  rw [mem_names_iff, h4.mem_iff, h6.mem_iff]

/-- Of the enabled interfaces none is lost, none comes twice, and the names are in order. -/
theorem keeps_of_assemble {s : Service} (h : assemble (some c) = .ok (some s)) : s.Keeps c := by
  obtain ⟨ha, rfl⟩ := (assemble_eq_some_iff (enabled_of_assemble_some h)).1 h
  exact assembled_keeps ha

theorem mixed_kept : ∃ s, assemble (some Config.mixed) = .ok (some s) ∧ s.Keeps Config.mixed ∧
    Config.mixed.EnabledV4 "lan" ∧ Config.mixed.EnabledV6 "dmz" := by
  have h := (assemble_eq_some_iff (c := Config.mixed) rfl).2 ⟨Config.mixed_acceptable, rfl⟩
  exact ⟨_, h, keeps_of_assemble h, ⟨_, rfl, rfl⟩, ⟨_, rfl, rfl⟩⟩

/-- Of every built interface, on its own or in a service, the whole range is well placed. -/
theorem built_wellPlaced :
    (∀ name v i, Interface4.build name v = .ok (some i) → i.WellPlaced) ∧
      ∀ conf s, assemble conf = .ok (some s) → ∀ i ∈ s.interfaces4, i.WellPlaced := by
  have hbuild {name : RawText} {v : V4Config} {i : Interface4}
      (h : Interface4.build name v = .ok (some i)) : i.WellPlaced :=
    Interface4.wellPlaced_of_buildEnabled (Interface4.build_eq_some_iff.1 h).2
  refine ⟨fun _ _ _ => hbuild, fun conf s h i hi => ?_⟩
  cases conf with
  | none => cases h
  | some c =>
    obtain ⟨ha, rfl⟩ := (assemble_eq_some_iff (enabled_of_assemble_some h)).1 h
    obtain ⟨v, -, hb⟩ := (assembled_keeps ha).v4.made i hi
    exact hbuild hb

theorem smallest_wellPlaced : ∃ i, Interface4.build "lan" .smallest = .ok (some i) ∧
    i.addressCount = 2 ^ (32 - i.subnet.length) - 1 ∧ i.WellPlaced := by
  obtain ⟨i, hb, hcount⟩ : ∃ i, Interface4.build "lan" .smallest = .ok (some i) ∧
      i.addressCount = 2 ^ (32 - i.subnet.length) - 1 := ⟨_, rfl, rfl⟩
  exact ⟨i, hb, hcount, built_wellPlaced.1 "lan" .smallest i hb⟩

end Service

end LeasePlan
