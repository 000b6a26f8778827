import Mathlib
import LeasePlan.Proofs.Acceptance

namespace LeasePlan

/-- The same settings, or settings that are both switched off. -/
def V4Config.SameOrOff (v w : V4Config) : Prop := v = w ∨ v.enabled = false ∧ w.enabled = false

def V6Config.SameOrOff (v w : V6Config) : Prop := v = w ∨ v.enabled = false ∧ w.enabled = false

/-- Each protocol has settings in both or in neither: for IPv4 the same ones unless they are
switched off, and for IPv6 related ones. -/
structure InterfaceConfig.Alike (R6 : V6Config → V6Config → Prop) (i j : InterfaceConfig) :
    Prop where
  v4 : Option.Rel V4Config.SameOrOff i.v4 j.v4
  v6 : Option.Rel R6 i.v6 j.v6

/-- Two configurations with the same interfaces, alike under each name, and with the same values
otherwise. -/
structure Config.Alike (R6 : V6Config → V6Config → Prop) (c d : Config) : Prop where
  enabled : c.enabled = d.enabled
  timeout : c.icmpTimeout = d.icmpTimeout
  domain : c.domainName = d.domainName
  interfaces : ∀ n, Option.Rel (Option.Rel (InterfaceConfig.Alike R6))
    (c.interfaces.find? n) (d.interfaces.find? n)

theorem rel_refl {α : Type} {R : α → α → Prop} (h : ∀ a, R a a) (o : Option α) :
    Option.Rel R o o := by
  cases o with
  | none => exact .none
  | some a => exact .some (h a)

theorem isNone_eq_of_rel {α β : Type} {R : α → β → Prop} {o : Option α} {p : Option β}
    (h : Option.Rel R o p) : o.isNone = p.isNone := by
  cases h with
  | none => rfl
  | some h => rfl

theorem NameMap.sortedNames_eq {α β : Type} {m : NameMap α} {k : NameMap β}
    (h : ∀ n, (m.find? n).isNone = (k.find? n).isNone) : m.sortedNames = k.sortedNames := by
  refine m.sortedNames_pairwise_lt.eq_of_mem_iff k.sortedNames_pairwise_lt fun n => ?_
  have hsome : (∃ a, m.find? n = some a) ↔ ∃ b, k.find? n = some b := by
    rw [← Option.isSome_iff_exists, ← Option.isSome_iff_exists, ← Option.not_isNone, h,
      Option.not_isNone]
  rw [mem_sortedNames_iff, mem_sortedNames_iff, hsome]

theorem NameMap.isEmpty_eq {α : Type} (m : NameMap α) : m.isEmpty = m.sortedNames.isEmpty := by
  rw [isEmpty, ← List.isEmpty_map (f := Prod.fst), sortedNames, names, Bool.eq_iff_iff,
    List.isEmpty_iff, List.isEmpty_iff, ← List.length_eq_zero_iff, ← List.length_eq_zero_iff,
    List.length_mergeSort]

/-- Maps whose entries are related one by one find related values. -/
theorem NameMap.rel_find? {α β : Type} {R : α → β → Prop} {m : NameMap α} {k : NameMap β}
    (h : List.Forall₂ (fun e f => e.1 = f.1 ∧ R e.2 f.2) m.entries k.entries) (n : RawText) :
    Option.Rel R (m.find? n) (k.find? n) := by
  unfold find?
  generalize m.entries = es at h ⊢
  generalize k.entries = fs at h ⊢
  induction h with
  | nil => exact .none
  | @cons e f es fs hef _ ih =>
    obtain ⟨hname, hR⟩ := hef
    rw [List.find?_cons, List.find?_cons, hname]
    cases decide (f.1 = n) with
    | true => exact .some hR
    | false => exact ih

namespace Config

variable {R6 : V6Config → V6Config → Prop} {c d : Config}

/-- Configurations that find the same under every name are alike. -/
theorem alike_of_find? (hR : ∀ v, R6 v v) (he : c.enabled = d.enabled)
    (ht : c.icmpTimeout = d.icmpTimeout) (hd : c.domainName = d.domainName)
    (hf : ∀ n, c.interfaces.find? n = d.interfaces.find? n) : c.Alike R6 d := by
  refine ⟨he, ht, hd, fun n => ?_⟩
  rw [hf]
  refine rel_refl (fun o => rel_refl (fun i => ?_) o) _
  exact ⟨rel_refl (fun v => .inl rfl) i.v4, rel_refl hR i.v6⟩

theorem Alike.sortedNames_eq (h : c.Alike R6 d) :
    c.interfaces.sortedNames = d.interfaces.sortedNames :=
  NameMap.sortedNames_eq fun n => isNone_eq_of_rel (h.interfaces n)

theorem Alike.isEmpty_eq (h : c.Alike R6 d) : c.interfaces.isEmpty = d.interfaces.isEmpty := by
  rw [NameMap.isEmpty_eq, NameMap.isEmpty_eq, h.sortedNames_eq]

/-- What both configurations hold under a name. -/
theorem Alike.at_name (h : c.Alike R6 d) (n : RawText) :
    (c.interfaces.find? n = none ∧ d.interfaces.find? n = none) ∨
      (c.interfaces.find? n = some none ∧ d.interfaces.find? n = some none) ∨
        ∃ i j, c.interfaces.find? n = some (some i) ∧ d.interfaces.find? n = some (some j) ∧
          i.Alike R6 j := by
  have hn := h.interfaces n
  generalize c.interfaces.find? n = o at hn ⊢
  generalize d.interfaces.find? n = p at hn ⊢
  cases hn with
  | none => exact .inl ⟨rfl, rfl⟩
  | some hi =>
    cases hi with
    | none => exact .inr (.inl ⟨rfl, rfl⟩)
    | some hi => exact .inr (.inr ⟨_, _, rfl, rfl, hi⟩)

theorem Alike.checkPresence_eq (h : c.Alike R6 d) (n : RawText) :
    c.checkPresence n = d.checkPresence n := by
  unfold checkPresence
  rcases h.at_name n with ⟨hc, hd⟩ | ⟨hc, hd⟩ | ⟨i, j, hc, hd, hi⟩
  · rw [hc, hd]
  · rw [hc, hd]
  · rw [hc, hd]
    dsimp only
    rw [isNone_eq_of_rel hi.v4, isNone_eq_of_rel hi.v6]

theorem Alike.checkStructure_eq (h : c.Alike R6 d) (names : List RawText) :
    c.checkStructure names = d.checkStructure names := by
  rw [Config.checkStructure_eq, Config.checkStructure_eq]
  simp only [h.checkPresence_eq]

theorem Alike.checkV4_eq (h : c.Alike R6 d) (names : List RawText) :
    c.checkV4 names = d.checkV4 names := by
  induction names with
  | nil => rfl
  | cons n names ih =>
    unfold checkV4
    rw [ih]
    rcases h.at_name n with ⟨hc, hd⟩ | ⟨hc, hd⟩ | ⟨i, j, hc, hd, hi⟩
    · rw [hc, hd]
    · rw [hc, hd]
    · rw [hc, hd]
      obtain ⟨hv4, -⟩ := hi
      dsimp only
      generalize i.v4 = v at hv4 ⊢
      generalize j.v4 = w at hv4 ⊢
      cases hv4 with
      | none => rfl
      | some hv4 =>
        rcases hv4 with rfl | ⟨hv, hw⟩
        · rfl
        · dsimp only
          rw [hv, hw]
          rfl

theorem Alike.validate_eq (h : c.Alike R6 d) : validate (some c) = validate (some d) := by
  have hi : c.checkInterfaces = d.checkInterfaces := by
    rw [checkInterfaces, checkInterfaces, h.sortedNames_eq, h.checkStructure_eq, h.checkV4_eq]
    rfl
  rw [validate_some, validate_some, h.enabled, h.timeout, h.domain, h.isEmpty_eq, hi]

end Config

namespace Service

variable {R6 : V6Config → V6Config → Prop} {c d : Config}

theorem build_eq_of_sameOrOff {v w : V4Config} (n : RawText) (h : v.SameOrOff w) :
    Interface4.build n v = Interface4.build n w := by
  rcases h with rfl | ⟨hv, hw⟩
  · rfl
  · simp only [Interface4.build, hv, hw, Bool.false_eq_true, ↓reduceIte]

theorem build6_eq_of_sameOrOff {v w : V6Config} (n : RawText) (h : v.SameOrOff w) :
    Interface6.build n v = Interface6.build n w := by
  rcases h with rfl | ⟨hv, hw⟩
  · rfl
  · simp only [Interface6.build, hv, hw, Bool.false_eq_true, ↓reduceIte]

/-- Building from alike configurations ends with the same failure or the same IPv4 interface. -/
theorem buildInterface_alike (h : c.Alike R6 d) (n : RawText) :
    (∃ e, buildInterface c n = .error e ∧ buildInterface d n = .error e) ∨
      ∃ i4 v w, R6 v w ∧ buildInterface c n = .ok (i4, Interface6.build n v) ∧
        buildInterface d n = .ok (i4, Interface6.build n w) := by
  unfold buildInterface
  rcases h.at_name n with ⟨hc, hd⟩ | ⟨hc, hd⟩ | ⟨i, j, hc, hd, hi⟩
  · rw [hc, hd]
    exact .inl ⟨_, rfl, rfl⟩
  · rw [hc, hd]
    exact .inl ⟨_, rfl, rfl⟩
  · rw [hc, hd]
    obtain ⟨hv4, hv6⟩ := hi
    dsimp only
    generalize i.v4 = v4 at hv4 ⊢
    generalize j.v4 = w4 at hv4 ⊢
    generalize i.v6 = v6 at hv6 ⊢
    generalize j.v6 = w6 at hv6 ⊢
    cases hv4 with
    | none => exact .inl ⟨_, rfl, rfl⟩
    | some hv4 =>
      dsimp only
      rw [build_eq_of_sameOrOff n hv4]
      cases Interface4.build n _ with
      | error e => exact .inl ⟨_, rfl, rfl⟩
      | ok i4 =>
        cases hv6 with
        | none => exact .inl ⟨_, rfl, rfl⟩
        | some hv6 => exact .inr ⟨i4, _, _, hv6, rfl, rfl⟩

theorem failureAt_alike (h : c.Alike R6 d) (n : RawText) : failureAt c n = failureAt d n := by
  rcases buildInterface_alike h n with ⟨e, hc, hd⟩ | ⟨i4, v, w, -, hc, hd⟩
  · rw [failureAt, failureAt, hc, hd]
  · rw [failureAt, failureAt, hc, hd]
    rfl

theorem kept4_alike (h : c.Alike R6 d) (n : RawText) : kept4 c n = kept4 d n := by
  rcases buildInterface_alike h n with ⟨e, hc, hd⟩ | ⟨i4, v, w, -, hc, hd⟩
  · rw [kept4, kept4, hc, hd]
  · rw [kept4, kept4, hc, hd]

theorem kept6_alike (h : c.Alike V6Config.SameOrOff d) (n : RawText) : kept6 c n = kept6 d n := by
  rcases buildInterface_alike h n with ⟨e, hc, hd⟩ | ⟨i4, v, w, hvw, hc, hd⟩
  · rw [kept6, kept6, hc, hd]
  · rw [kept6, kept6, hc, hd, build6_eq_of_sameOrOff n hvw]

theorem assembled_interfaces4_alike (h : c.Alike R6 d) :
    (assembled c).interfaces4 = (assembled d).interfaces4 := by
  rw [assembled, assembled, h.sortedNames_eq, funext (kept4_alike h)]

theorem assembled_alike (h : c.Alike V6Config.SameOrOff d) : assembled c = assembled d := by
  rw [assembled, assembled, h.sortedNames_eq, h.enabled, funext (kept4_alike h),
    funext (kept6_alike h)]

/-- Whatever alike configurations are assembled to, it differs at most in what each describes. -/
theorem assemble_alike (h : c.Alike R6 d) :
    (∃ r, assemble (some c) = r ∧ assemble (some d) = r) ∨
      (assemble (some c) = .ok (some (assembled c)) ∧
        assemble (some d) = .ok (some (assembled d))) := by
  cases he : c.enabled with
  | false =>
    have hd : d.enabled = false := h.enabled.symm.trans he
    exact .inl ⟨_, assemble_of_disabled he, assemble_of_disabled hd⟩
  | true =>
    have hd : d.enabled = true := h.enabled.symm.trans he
    cases hv : Config.validate (some c) with
    | error e =>
      exact .inl ⟨_, assemble_of_invalid hv, assemble_of_invalid (h.validate_eq.symm.trans hv)⟩
    | ok u =>
      rw [assemble_of_valid he hv, assemble_of_valid hd (h.validate_eq.symm.trans hv),
        h.sortedNames_eq, funext (failureAt_alike h)]
      cases d.interfaces.sortedNames.findSome? (failureAt d) with
      | none => exact .inr ⟨rfl, rfl⟩
      | some e => exact .inl ⟨_, rfl, rfl⟩

theorem assemble_eq_of_alike (h : c.Alike V6Config.SameOrOff d) :
    assemble (some c) = assemble (some d) := by
  rcases assemble_alike h with ⟨r, hc, hd⟩ | ⟨hc, hd⟩
  · exact hc.trans hd.symm
  · rw [hc, hd, assembled_alike h]

/-- Settings that are switched off do not count at all, and settings for IPv6 count neither for the
failure nor for the IPv4 interfaces. -/
theorem assemble_ignores_disabled (c d : Config) :
    (c.Alike V6Config.SameOrOff d → assemble (some c) = assemble (some d)) ∧
      (c.Alike (fun _ _ => True) d → (assemble (some c)).map (Option.map interfaces4) =
        (assemble (some d)).map (Option.map interfaces4)) := by
  constructor
  · exact assemble_eq_of_alike
  · intro h
    rcases assemble_alike h with ⟨r, hc, hd⟩ | ⟨hc, hd⟩
    · rw [hc, hd]
    · rw [hc, hd]
      simp only [Except.map, Option.map_some, assembled_interfaces4_alike h]

end Service

namespace Config

/-- `mixed` with other settings where they are switched off. -/
def mixedOff : Config where
  interfaces := {
    entries := [
      ("lan", some { v4 := some .smallest, v6 := some { allowSlaac := true } }),
      ("dmz", some {
        v4 := some { V4Config.smallest with enabled := false }
        v6 := some { slaacOnly := true, enabled := true } })]
    nodup := by decide }
  domainName := "home.arpa"
  enabled := true

/-- `mixed` with IPv6 on the other interface. -/
def mixedOver : Config where
  interfaces := {
    entries := [
      ("lan", some { v4 := some .smallest, v6 := some { enabled := true } }),
      ("dmz", some { v4 := some {}, v6 := some { slaacOnly := true } })]
    nodup := by decide }
  domainName := "home.arpa"
  enabled := true

theorem mixed_alike_mixedOff : mixed.Alike V6Config.SameOrOff mixedOff := by
  refine ⟨rfl, rfl, rfl, NameMap.rel_find? (.cons ⟨rfl, ?_⟩ (.cons ⟨rfl, ?_⟩ .nil))⟩
  · exact .some ⟨.some (.inl rfl), .some (.inr ⟨rfl, rfl⟩)⟩
  · exact .some ⟨.some (.inr ⟨rfl, rfl⟩), .some (.inl rfl)⟩

theorem mixed_alike_mixedOver : mixed.Alike (fun _ _ => True) mixedOver := by
  refine ⟨rfl, rfl, rfl, NameMap.rel_find? (.cons ⟨rfl, ?_⟩ (.cons ⟨rfl, ?_⟩ .nil))⟩
  · exact .some ⟨.some (.inl rfl), .some trivial⟩
  · exact .some ⟨.some (.inl rfl), .some trivial⟩

end Config

namespace Service

/-- One service for three configurations, apart from the IPv6 interfaces of the third. -/
theorem mixed_ignores_disabled : ∃ s, assemble (some .mixed) = .ok (some s) ∧
    Config.mixed.Alike V6Config.SameOrOff .mixedOff ∧ assemble (some .mixedOff) = .ok (some s) ∧
      Config.mixed.Alike (fun _ _ => True) .mixedOver ∧
        (assemble (some .mixedOver)).map (Option.map interfaces4) = .ok (some s.interfaces4) := by
  have hs : assemble (some .mixed) = .ok (some (assembled .mixed)) :=
    (assemble_eq_some_iff rfl).2 ⟨Config.mixed_acceptable, rfl⟩
  have hoff := (assemble_ignores_disabled .mixed .mixedOff).1 Config.mixed_alike_mixedOff
  have hover := (assemble_ignores_disabled .mixed .mixedOver).2 Config.mixed_alike_mixedOver
  rw [hs] at hoff hover
  exact ⟨_, hs, Config.mixed_alike_mixedOff, hoff.symm, Config.mixed_alike_mixedOver, hover.symm⟩

end Service

end LeasePlan
