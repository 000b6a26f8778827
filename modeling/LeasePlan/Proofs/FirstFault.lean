import Mathlib
import LeasePlan.Proofs.SettingsChecks
import LeasePlan.Proofs.Validation

namespace LeasePlan

namespace Config

/-- What is missing at a name: its settings as a whole, else those for IPv4, else those for IPv6. -/
inductive Lacks (c : Config) (name : RawText) : Cause → Prop
  | interface (h : c.interfaces.find? name = some none) : Lacks c name (.nilInterface name)
  | v4 (i : InterfaceConfig) (h : c.interfaces.find? name = some (some i)) (h4 : i.v4 = none) :
      Lacks c name (.nilProtocol name "ipv4")
  | v6 (i : InterfaceConfig) (h : c.interfaces.find? name = some (some i)) (h4 : i.v4 ≠ none)
      (h6 : i.v6 = none) : Lacks c name (.nilProtocol name "ipv6")

/-- The IPv4 settings of an interface are enabled and fail a check. -/
def FaultyV4 (c : Config) (name : RawText) : Prop :=
  ∃ v, c.v4? name = some v ∧ v.enabled = true ∧ ∃ k, ¬ V4Check.Holds v k

/-- The fault that an enabled configuration is to be blamed for, in the order of its rules. -/
inductive Blames (c : Config) : Fault → Prop
  | timeout (ht : c.icmpTimeout.micros < 0) :
      Blames c (.ofCause (.negativeTimeout c.icmpTimeout))
  | name (flaw : DomainName.Flaw) (ht : 0 ≤ c.icmpTimeout.micros)
      (hn : ¬ DomainName.IsName c.domainName)
      (hf : DomainName.flaw? c.domainName = some flaw) :
      Blames c (.ofCause (.domainName c.domainName flaw.reason))
  | empty (ht : 0 ≤ c.icmpTimeout.micros) (hn : DomainName.IsName c.domainName)
      (hi : c.interfaces.entries = []) :
      Blames c (.ofCause (.noInterfaces "no interfaces specified"))
  | missing (n : RawText) (cause : Cause) (ht : 0 ≤ c.icmpTimeout.micros)
      (hn : DomainName.IsName c.domainName) (hl : IsLeast {m | ∃ k, c.Lacks m k} n)
      (hk : c.Lacks n cause) : Blames c (.ofCause cause)
  | settings (n : RawText) (v : V4Config) (k : V4Check) (ht : 0 ≤ c.icmpTimeout.micros)
      (hn : DomainName.IsName c.domainName) (hc : ∀ m k, ¬ c.Lacks m k)
      (hl : IsLeast {m | c.FaultyV4 m} n) (hv : c.v4? n = some v)
      (hk : FirstFailing (V4Check.Holds v) V4Check.inOrder k) :
      Blames c (.single ("validating v4" :: interfaceContext n :: "ipv4" :: (k.cause v).context)
        (k.cause v))

variable {c : Config} {name : RawText} {cause : Cause}

theorem Lacks.mem (h : c.Lacks name cause) : name ∈ c.interfaces.sortedNames := by
  rw [NameMap.mem_sortedNames_iff]
  cases h with
  | interface h => exact ⟨_, h⟩
  | v4 i h => exact ⟨_, h⟩
  | v6 i h => exact ⟨_, h⟩

theorem Lacks.checkPresence_eq (h : c.Lacks name cause) :
    c.checkPresence name = .error (.ofCause cause) := by
  unfold checkPresence
  cases h with
  | interface h => rw [h]
  | v4 i h h4 =>
    rw [h]
    dsimp only
    rw [h4]
    rfl
  | v6 i h h4 h6 =>
    have h4' : i.v4.isNone = false := by
      rw [Option.isNone_eq_false_iff]
      exact Option.isSome_iff_ne_none.2 h4
    rw [h]
    dsimp only
    rw [h4', h6]
    rfl

theorem exists_lacks_iff (hn : name ∈ c.interfaces.sortedNames) :
    (∃ k, c.Lacks name k) ↔ ¬ c.CompleteAt name := by
  constructor
  · rintro ⟨k, hk⟩ hc
    cases hk.checkPresence_eq.symm.trans (checkPresence_eq_ok_iff.2 hc)
  · intro hc
    obtain ⟨a, ha⟩ := NameMap.mem_sortedNames_iff.1 hn
    cases a with
    | none => exact ⟨_, .interface ha⟩
    | some i =>
      cases h4 : i.v4 with
      | none => exact ⟨_, .v4 i ha h4⟩
      | some v4 =>
        cases h6 : i.v6 with
        | none => exact ⟨_, .v6 i ha (h4 ▸ Option.some_ne_none v4) h6⟩
        | some v6 => exact absurd (completeAt_of_eq ha h4 h6) hc

/-- The names that lack something are those that the structure pass stops at. -/
theorem setOf_lacks (c : Config) :
    {m | ∃ k, c.Lacks m k} = {m | m ∈ c.interfaces.sortedNames ∧ ¬ c.CompleteAt m} := by
  ext m
  constructor
  · rintro ⟨k, hk⟩
    exact ⟨hk.mem, (exists_lacks_iff hk.mem).1 ⟨k, hk⟩⟩
  · rintro ⟨hm, hc⟩
    exact (exists_lacks_iff hm).2 hc

theorem forall_completeAt_iff_not_lacks :
    (∀ n ∈ c.interfaces.sortedNames, c.CompleteAt n) ↔ ∀ n k, ¬ c.Lacks n k := by
  constructor
  · intro hc n k hk
    exact (exists_lacks_iff hk.mem).1 ⟨k, hk⟩ (hc n hk.mem)
  · intro h n hn
    by_contra hc
    obtain ⟨k, hk⟩ := (exists_lacks_iff hn).2 hc
    exact h n k hk

theorem setOf_faultyV4 (c : Config) :
    {m | c.FaultyV4 m} = {m | m ∈ c.interfaces.sortedNames ∧ ¬ ¬ c.FaultyV4 m} := by
  ext m
  constructor
  · intro h
    have hf := h
    obtain ⟨v, hv, -⟩ := hf
    exact ⟨mem_sortedNames_of_v4? hv, not_not.2 h⟩
  · rintro ⟨-, h⟩
    exact not_not.1 h

theorem v4Fault?_of_not_faulty (h : ¬ c.FaultyV4 name) : c.v4Fault? name = none := by
  rw [v4Fault?_eq_none_iff]
  intro v hv he
  rw [V4Check.checkV4Settings_eq_ok_iff]
  intro k
  by_contra hk
  exact h ⟨v, hv, he, k, hk⟩

/-- The structure pass ends with what the first incomplete name lacks. -/
theorem checkInterfaces_of_lacks (hl : IsLeast {m | ∃ k, c.Lacks m k} name)
    (hk : c.Lacks name cause) : c.checkInterfaces = .error (.ofCause cause) := by
  rw [setOf_lacks] at hl
  have hfirst := FirstFailing.of_isLeast c.interfaces.sortedNames_pairwise_lt hl
  have hs : c.checkStructure c.interfaces.sortedNames = .error (.ofCause cause) := by
    rw [checkStructure_eq, Failure.orValue_eq_error_iff]
    refine hfirst.findSome?_eq (fun x _ hx => ?_) ?_
    · exact Failure.of?_eq_none_iff.2 ⟨(), checkPresence_eq_ok_iff.2 hx⟩
    · exact Failure.of?_eq_some_iff.2 hk.checkPresence_eq
  rw [checkInterfaces, hs]
  rfl

/-- Where nothing is missing, the IPv4 pass ends with the first check that the first faulty name
fails. -/
theorem checkInterfaces_of_faultyV4 {v : V4Config} {k : V4Check}
    (hc : ∀ m k, ¬ c.Lacks m k) (hl : IsLeast {m | c.FaultyV4 m} name)
    (hv : c.v4? name = some v) (hk : FirstFailing (V4Check.Holds v) V4Check.inOrder k) :
    c.checkInterfaces = .error (.fault (.single
      ("validating v4" :: interfaceContext name :: "ipv4" :: (k.cause v).context)
        (k.cause v))) := by
  obtain ⟨v', hv', he, -⟩ := hl.1
  cases hv.symm.trans hv'
  rw [setOf_faultyV4] at hl
  have hfirst := FirstFailing.of_isLeast c.interfaces.sortedNames_pairwise_lt hl
  have hf : c.v4Fault? name =
      some ((Fault.ofCause (k.cause v)).annotate (protocolContext name Protocol.v4.name)) :=
    v4Fault?_eq_some_iff.2 ⟨v, _, hv, he, V4Check.checkV4Settings_of_firstFailing hk, rfl⟩
  rw [checkInterfaces_eq (forall_completeAt_iff_not_lacks.2 hc),
    hfirst.findSome?_eq (fun x _ hx => v4Fault?_of_not_faulty hx) hf]
  rfl

theorem validate_eq_checkInterfaces (he : c.enabled = true) (ht : 0 ≤ c.icmpTimeout.micros)
    (hn : DomainName.IsName c.domainName) (hm : name ∈ c.interfaces.sortedNames) :
    validate (some c) = c.checkInterfaces := by
  have hneg : c.icmpTimeout.isNegative = false := decide_eq_false (not_lt.2 ht)
  have hne : c.interfaces.isEmpty = false := by
    obtain ⟨a, ha⟩ := NameMap.mem_sortedNames_iff.1 hm
    exact List.isEmpty_eq_false_iff.2 (List.ne_nil_of_mem (NameMap.find?_eq_some_iff.1 ha))
  rw [validate_some, he, hneg, (Requirement.domainName_eq_ok_iff _).2 hn, hne]
  rfl

theorem validate_of_blames (he : c.enabled = true) {f : Fault} (h : c.Blames f) :
    validate (some c) = .error (.fault f) := by
  cases h with
  | timeout ht =>
    have hneg : c.icmpTimeout.isNegative = true := decide_eq_true ht
    rw [validate_some, he, hneg]
    rfl
  | name flaw ht hn hf =>
    have hneg : c.icmpTimeout.isNegative = false := decide_eq_false (not_lt.2 ht)
    rw [validate_some, he, hneg, Requirement.domainName_of_flaw hf]
    rfl
  | empty ht hn hi =>
    have hneg : c.icmpTimeout.isNegative = false := decide_eq_false (not_lt.2 ht)
    rw [validate_some, he, hneg, (Requirement.domainName_eq_ok_iff _).2 hn, NameMap.isEmpty, hi]
    rfl
  | missing n cause ht hn hl hk =>
    rw [validate_eq_checkInterfaces he ht hn hk.mem, checkInterfaces_of_lacks hl hk]
    rfl
  | settings n v k ht hn hc hl hv hk =>
    rw [validate_eq_checkInterfaces he ht hn (mem_sortedNames_of_v4? hv),
      checkInterfaces_of_faultyV4 hc hl hv hk]

/-- An enabled configuration for which nothing is to blame is valid. -/
theorem blames_or_valid (c : Config) : (∃ f, c.Blames f) ∨ c.Valid := by
  by_cases ht : 0 ≤ c.icmpTimeout.micros
  · by_cases hn : DomainName.IsName c.domainName
    · by_cases hi : c.interfaces.entries = []
      · exact .inl ⟨_, .empty ht hn hi⟩
      · have hrise := c.interfaces.sortedNames_pairwise_lt
        rcases FirstFailing.exists_or_forall c.CompleteAt c.interfaces.sortedNames with ⟨n, h⟩ | hc
        · have hl := h.isLeast hrise
          rw [← setOf_lacks] at hl
          obtain ⟨k, hk⟩ := hl.1
          exact .inl ⟨_, .missing n k ht hn hl hk⟩
        · rcases FirstFailing.exists_or_forall (fun n => ¬ c.FaultyV4 n) c.interfaces.sortedNames
            with ⟨n, h⟩ | hs
          · have hl := h.isLeast hrise
            rw [← setOf_faultyV4] at hl
            obtain ⟨v, hv, he, k, hk⟩ := hl.1
            rcases FirstFailing.exists_or_forall (V4Check.Holds v) V4Check.inOrder
              with ⟨j, hj⟩ | hall
            · exact .inl ⟨_, .settings n v j ht hn (forall_completeAt_iff_not_lacks.1 hc) hl hv hj⟩
            · exact absurd (hall k (V4Check.mem_inOrder k)) hk
          · refine .inr ⟨ht, hn, hi, hc, fun n v hv he => ?_⟩
            exact v4Fault?_eq_none_iff.1 (v4Fault?_of_not_faulty (hs n (mem_sortedNames_of_v4? hv)))
              v hv he
    · cases hf : DomainName.flaw? c.domainName with
      | none => exact absurd ((DomainName.flaw?_eq_none_iff _).1 hf) hn
      | some flaw => exact .inl ⟨_, .name flaw ht hn hf⟩
  · exact .inl ⟨_, .timeout (not_le.1 ht)⟩

/-- Validation fails with the fault that is to blame and with nothing else, and this fault is never
a joined one. -/
theorem validate_eq_error_iff_blames (c : Config) (he : c.enabled = true) :
    (∀ e, validate (some c) = .error e ↔ ∃ f, e = .fault f ∧ c.Blames f) ∧
      ∀ f, c.Blames f → f.kind ≠ .joined := by
  constructor
  · intro e
    constructor
    · intro h
      rcases blames_or_valid c with ⟨f, hf⟩ | hvalid
      · cases h.symm.trans (validate_of_blames he hf)
        exact ⟨f, rfl, hf⟩
      · cases h.symm.trans ((validate_eq_ok_iff he).2 hvalid)
    · rintro ⟨f, rfl, hf⟩
      exact validate_of_blames he hf
  · intro f hf
    cases hf with
    | timeout ht => exact FaultKind.noConfusion
    | name flaw ht hn hf => exact FaultKind.noConfusion
    | empty ht hn hi => exact FaultKind.noConfusion
    | missing n cause ht hn hl hk =>
      cases hk with
      | interface h => exact FaultKind.noConfusion
      | v4 i h h4 => exact FaultKind.noConfusion
      | v6 i h h4 h6 => exact FaultKind.noConfusion
    | settings n v k ht hn hc hl hv hk =>
      cases k <;> exact FaultKind.noConfusion

/-- Of two interfaces the first in order has faulty settings and the second has none. -/
def halfWritten : Config where
  interfaces := {
    entries := [
      ("lan", none),
      ("dmz", some { v4 := some { enabled := true }, v6 := some {} })]
    nodup := by decide }
  domainName := "home.arpa"
  enabled := true

/-- The settings that are missing come first, although the other name is smaller. -/
theorem halfWritten_blamed : ∃ f, validate (some halfWritten) = .error (.fault f) ∧
    halfWritten.Blames f ∧ f.kind ≠ .joined ∧ f.text = "interface \"lan\": config is nil" ∧
      halfWritten.FaultyV4 "dmz" ∧ RawText.ofString "dmz" < RawText.ofString "lan" := by
  have hleast : IsLeast {m | ∃ k, halfWritten.Lacks m k} "lan" := by
    refine ⟨⟨_, .interface rfl⟩, ?_⟩
    rintro n ⟨k, hk⟩
    have hmem : n = "lan" ∨ n = "dmz" := by
      have hn := NameMap.mem_sortedNames.1 hk.mem
      simpa only [NameMap.names, halfWritten, List.map_cons, List.map_nil, List.mem_cons,
        List.not_mem_nil, or_false] using hn
    rcases hmem with rfl | rfl
    · exact List.le_refl _
    · exact absurd ⟨_, _, rfl⟩ ((exists_lacks_iff hk.mem).1 ⟨k, hk⟩)
  have hb : halfWritten.Blames (.ofCause (.nilInterface "lan")) :=
    .missing "lan" _ (by decide) ((DomainName.flaw?_eq_none_iff _).1 (by decide)) hleast
      (.interface rfl)
  have h := validate_eq_error_iff_blames halfWritten rfl
  have hdmz : halfWritten.FaultyV4 "dmz" := by
    refine ⟨_, rfl, rfl, .gatewayFamily, ?_⟩
    rintro ⟨g, hg⟩
    cases hg
  exact ⟨_, (h.1 _).2 ⟨_, rfl, hb⟩, hb, h.2 _ hb, by decide, hdmz, by decide⟩

end Config

end LeasePlan
