import Mathlib
import LeasePlan.Proofs.RangeWalk
import LeasePlan.Proofs.ServiceContents

namespace LeasePlan

namespace NameMap

variable {α : Type} {m : NameMap α} {p : α → Bool}

/-- The names whose entries have a property. -/
def namesWith (m : NameMap α) (p : α → Bool) : List RawText :=
  (m.entries.filter fun e => p e.2).map Prod.fst

theorem mem_namesWith {n : RawText} : n ∈ m.namesWith p ↔ ∃ a, m.find? n = some a ∧ p a = true := by
  simp only [namesWith, List.mem_map, List.mem_filter, find?_eq_some_iff, Prod.exists,
    exists_and_right, exists_eq_right]

theorem nodup_namesWith : (m.namesWith p).Nodup :=
  m.nodup.sublist (List.filter_sublist.map Prod.fst)

/-- Names that are all different and are those with a property are as many as its entries. -/
theorem length_eq_countP {names : List RawText} (hnodup : names.Nodup)
    (hmem : ∀ n, n ∈ names ↔ ∃ a, m.find? n = some a ∧ p a = true) :
    names.length = m.entries.countP fun e => p e.2 := by
  have hperm : names.Perm (m.namesWith p) := by
    apply (List.perm_ext_iff_of_nodup hnodup nodup_namesWith).2
    intro n
    rw [hmem, mem_namesWith]
  rw [hperm.length_eq, namesWith, List.length_map, List.countP_eq_length_filter]

end NameMap

/-- What has one of two properties or both is counted once less than each property counts it. -/
theorem countP_or_add_countP_and {α : Type} (p q : α → Bool) (l : List α) :
    (l.countP fun a => p a || q a) + (l.countP fun a => p a && q a) =
      l.countP p + l.countP q := by
  induction l with
  | nil => rfl
  | cons a l ih =>
    simp only [List.countP_cons]
    cases p a <;> cases q a <;> simp only [Bool.or_true, Bool.or_false, Bool.and_true,
      Bool.and_false, Bool.false_eq_true, ↓reduceIte] <;> omega

namespace InterfaceConfig

/-- The settings of an interface are there and enable IPv4. -/
def enablesV4 (i : Option InterfaceConfig) : Bool := (i.bind v4).any V4Config.enabled

def enablesV6 (i : Option InterfaceConfig) : Bool := (i.bind v6).any V6Config.enabled

end InterfaceConfig

open InterfaceConfig (enablesV4 enablesV6)

namespace Config

variable {c : Config} {n : RawText}

theorem exists_enabled_iff {α : Type} {settings : InterfaceConfig → Option α} {enabled : α → Bool} :
    (∃ v, (c.interfaces.find? n).join.bind settings = some v ∧ enabled v = true) ↔
      ∃ i, c.interfaces.find? n = some i ∧ (i.bind settings).any enabled = true := by
  cases c.interfaces.find? n with
  | none => simp only [Option.join_none, Option.bind_none, reduceCtorEq, false_and, exists_false]
  | some i => simp only [Option.join_some, Option.some.injEq, exists_eq_left', Option.any_eq_true]

theorem enabledV4_iff_find? :
    c.EnabledV4 n ↔ ∃ i, c.interfaces.find? n = some i ∧ enablesV4 i = true :=
  exists_enabled_iff

theorem enabledV6_iff_find? :
    c.EnabledV6 n ↔ ∃ i, c.interfaces.find? n = some i ∧ enablesV6 i = true :=
  exists_enabled_iff

end Config

namespace Service

variable {c : Config} {s : Service}

/-- A roster has one interface for each entry that enables its protocol. -/
theorem Roster.length_eq {β : Type} {name : β → RawText} {Made : RawText → β → Prop} {is : List β}
    {find? : RawText → Option β} {Enabled : RawText → Prop}
    {enables : Option InterfaceConfig → Bool}
    (h : Roster name Enabled Made is find?)
    (henabled : ∀ n, Enabled n ↔ ∃ i, c.interfaces.find? n = some i ∧ enables i = true) :
    is.length = c.interfaces.entries.countP fun e => enables e.2 := by
  have hnodup : (is.map name).Nodup := h.rising.imp RawText.ne_of_lt
  rw [← List.length_map name]
  apply NameMap.length_eq_countP hnodup
  intro n
  rw [h.mem_iff, henabled]

theorem Keeps.length_names (h : s.Keeps c) : s.names.length =
    c.interfaces.entries.countP fun e => enablesV4 e.2 || enablesV6 e.2 := by
  have hnodup : s.names.Nodup := h.names_rising.imp RawText.ne_of_lt
  apply NameMap.length_eq_countP (p := fun i => enablesV4 i || enablesV6 i) hnodup
  intro n
  rw [h.mem_names, Config.enabledV4_iff_find?, Config.enabledV6_iff_find?, ← exists_or]
  simp only [← and_or_left, Bool.or_eq_true]

theorem allocatable4_eq_sum (s : Service) :
    s.summary.allocatable4 = (s.interfaces4.map Interface4.addressCount).sum := rfl

theorem allocatable4_eq_length (s : Service) :
    s.summary.allocatable4 = (s.interfaces4.flatMap fun i => i.space.walk).length := by
  have hwalk (i : Interface4) : i.space.walk.length = i.addressCount := i.space.length_walk
  rw [allocatable4_eq_sum, List.length_flatMap, List.map_congr_left fun i _ => hwalk i]

theorem two_mul_le_allocatable4 (h : ∀ i ∈ s.interfaces4, i.WellPlaced) :
    2 * s.interfaces4.length ≤ s.summary.allocatable4 := by
  have hsum := (s.interfaces4.map Interface4.addressCount).card_nsmul_le_sum 2
  rw [List.length_map, smul_eq_mul, Nat.mul_comm] at hsum
  apply hsum
  intro n hn
  obtain ⟨i, hi, rfl⟩ := List.mem_map.1 hn
  exact (h i hi).two_le_count

theorem allocatable4_le (h : ∀ i ∈ s.interfaces4, i.WellPlaced) : s.summary.allocatable4 ≤
    (s.interfaces4.map fun i => 2 ^ (32 - i.subnet.length) - 1).sum := by
  apply List.sum_le_sum
  intro i hi
  exact (h i hi).count_le

end Service

/-- The numbers of a summary are counts of what a configuration enables and of the addresses that
there are to give out. -/
structure Summary.Counts (m : Summary) (c : Config) (s : Service) : Prop where
  interfaces4 : m.interfaces4 = c.interfaces.entries.countP fun e => enablesV4 e.2
  interfaces6 : m.interfaces6 = c.interfaces.entries.countP fun e => enablesV6 e.2
  interfaces : m.interfaces +
    (c.interfaces.entries.countP fun e => enablesV4 e.2 && enablesV6 e.2) =
      m.interfaces4 + m.interfaces6
  interfaces_le : m.interfaces ≤ c.interfaces.entries.length
  allocatable4 : m.allocatable4 = (s.interfaces4.flatMap fun i => i.space.walk).length
  two_mul_le : 2 * m.interfaces4 ≤ m.allocatable4
  allocatable4_le : m.allocatable4 ≤
    (s.interfaces4.map fun i => 2 ^ (32 - i.subnet.length) - 1).sum

namespace Service

theorem Keeps.counts {c : Config} {s : Service} (h : s.Keeps c)
    (hplaced : ∀ i ∈ s.interfaces4, i.WellPlaced) : s.summary.Counts c s := by
  have h4 := h.v4.length_eq fun _ => Config.enabledV4_iff_find?
  have h6 := h.v6.length_eq fun _ => Config.enabledV6_iff_find?
  have hnames := h.length_names
  constructor
  · exact h4
  · exact h6
  · change s.names.length + _ = s.interfaces4.length + s.interfaces6.length
    rw [hnames, h4, h6]
    exact countP_or_add_countP_and _ _ _
  · change s.names.length ≤ _
    rw [hnames]
    exact List.countP_le_length
  · exact s.allocatable4_eq_length
  · exact two_mul_le_allocatable4 hplaced
  · exact allocatable4_le hplaced

/-- The summary of an assembled service counts the entries of its configuration. -/
theorem summary_counts {c : Config} {s : Service} (h : assemble (some c) = .ok (some s)) :
    s.summary.Counts c s := by
  obtain ⟨ha, rfl⟩ := (assemble_eq_some_iff (enabled_of_assemble_some h)).1 h
  have hkeeps := assembled_keeps ha
  apply hkeeps.counts
  intro i hi
  obtain ⟨v, -, hb⟩ := hkeeps.v4.made i hi
  exact Interface4.wellPlaced_of_buildEnabled (Interface4.build_eq_some_iff.1 hb).2

end Service

/-- Both protocols on one interface, IPv6 alone on another one and neither on the last. -/
def Config.dualStack : Config where
  interfaces := {
    entries := [
      ("uplink", some { v4 := some .smallest, v6 := some { enabled := true } }),
      ("guests", some { v4 := some {}, v6 := some { enabled := true } }),
      ("spare", some { v4 := some {}, v6 := some {} })]
    nodup := by decide }
  domainName := "home.arpa"
  enabled := true

theorem Config.dualStack_acceptable : dualStack.Acceptable where
  timeout := by decide
  name := (DomainName.flaw?_eq_none_iff _).1 (by decide)
  nonempty := List.cons_ne_nil _ _
  interfaces := by
    intro e he
    simp only [dualStack, List.mem_cons, List.not_mem_nil, or_false] at he
    rcases he with rfl | rfl | rfl
    · exact ⟨_, _, rfl, fun _ => V4Config.smallest_isSound⟩
    · exact ⟨_, _, rfl, fun h => absurd h (by decide)⟩
    · exact ⟨_, _, rfl, fun h => absurd h (by decide)⟩

theorem Service.dualStack_counted : ∃ s, assemble (some .dualStack) = .ok (some s) ∧
    s.summary.Counts .dualStack s ∧ s.summary.interfaces4 = 1 ∧ s.summary.interfaces6 = 2 ∧
      s.summary.interfaces = 2 := by
  have h := (assemble_eq_some_iff (c := .dualStack) rfl).2 ⟨Config.dualStack_acceptable, rfl⟩
  have hcounts := summary_counts h
  have h4 : (assembled .dualStack).summary.interfaces4 = 1 := hcounts.interfaces4
  have h6 : (assembled .dualStack).summary.interfaces6 = 2 := hcounts.interfaces6
  have hboth : (assembled .dualStack).summary.interfaces + 1 = _ := hcounts.interfaces
  refine ⟨_, h, hcounts, h4, h6, ?_⟩
  omega

end LeasePlan
