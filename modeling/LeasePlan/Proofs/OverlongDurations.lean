import Mathlib
import LeasePlan.Proofs.RecordIssues

namespace LeasePlan

namespace Checked

variable {α β : Type}

/-- Among the issues of a value is a duration of so many days, which is below the least one. -/
def Tells (x : Checked α) (n : Int) : Prop := ∃ i ∈ x.issues, i.problem.days? = some n

@[simp] theorem not_tells_ok (a : α) (n : Int) : ¬ Tells (.ok a) n := by
  rintro ⟨i, ⟨⟩, -⟩

@[simp] theorem tells_fail (p : Problem) (n : Int) :
    Tells (Checked.fail p : Checked α) n ↔ p.days? = some n := by
  simp only [Tells, issues, fail, List.mem_singleton, exists_eq_left]

@[simp] theorem tells_both (x : Checked α) (y : Checked β) (n : Int) :
    Tells (x.both y) n ↔ Tells x n ∨ Tells y n := by
  simp only [Tells, issues_both, List.mem_append, or_and_right, exists_or]

@[simp] theorem tells_map (f : α → β) (x : Checked α) (n : Int) :
    Tells (x.map f) n ↔ Tells x n := by
  simp only [Tells, issues_map]

@[simp] theorem tells_under (step : String) (x : Checked α) (n : Int) :
    Tells (x.under step) n ↔ Tells x n := by
  simp only [Tells, issues_under, List.mem_map, exists_exists_and_eq_and, Issue.under]

@[simp] theorem tells_all (xs : List (Checked α)) (n : Int) :
    Tells (all xs) n ↔ ∃ x ∈ xs, Tells x n := by
  simp only [Tells, mem_issues_all]
  tauto

theorem tells_of_bind {x : Checked α} {f : α → Checked β} {n : Int} (h : Tells (x >>= f) n) :
    Tells x n ∨ ∃ a, Tells (f a) n := by
  cases x with
  | ok a => exact .inr ⟨a, h⟩
  | error is => exact .inl h

end Checked

attribute [simp] Problem.days?

namespace Data

variable {α : Type} {read : Data → Checked α} {n : Int}

theorem tells_fieldOr {name : String} {default : α} {es : List (Data × Data)} :
    (fieldOr name default read es).Tells n ↔ ∃ v, field? name es = some v ∧ (read v).Tells n := by
  rw [fieldOr]
  split
  next h => simp only [h, Checked.not_tells_ok, reduceCtorEq, false_and, exists_false]
  next v h => simp only [h, Checked.tells_under, Option.some.injEq, exists_eq_left']

theorem tells_requiredField {name : String} {es : List (Data × Data)} :
    (requiredField name read es).Tells n ↔
      ∃ v, field? name es = some v ∧ (read v).Tells n := by
  rw [requiredField]
  split
  next h => simp [h]
  next v h => simp only [h, Checked.tells_under, Option.some.injEq, exists_eq_left']

theorem days?_of_keyIssue? {known : List String} {key : Data} {i : Issue}
    (h : keyIssue? known key = some i) : i.problem.days? = none := by
  cases key with
  | text s =>
    obtain ⟨-, hi⟩ := Option.ite_none_left_eq_some.1 h
    cases hi
    rfl
  | _ =>
    cases h
    rfl

theorem not_tells_asText? {p : Problem} (hp : p.days? = none) (d : Data) (n : Int) :
    ¬ (d.asText? p).Tells n := by
  cases d with
  | bytes bs =>
    rw [asText?]
    split
    · exact Checked.not_tells_ok _ _
    · rw [Checked.tells_fail, hp]
      exact nofun
  | _ => simp [asText?]

theorem not_tells_readText (d : Data) (n : Int) : ¬ d.readText.Tells n := by
  cases d with
  | bytes bs =>
    rw [readText]
    split
    · exact Checked.not_tells_ok _ _
    · rw [Checked.tells_fail]
      exact nofun
  | _ => simp [readText]

theorem not_tells_readBool (d : Data) (n : Int) : ¬ d.readBool.Tells n := by
  intro h
  rw [readBool.eq_def] at h
  unfold boolOfInt at h
  split at h
  · simp at h
  · split_ifs at h <;> simp at h
  · split at h
    · split_ifs at h <;> simp at h
    · simp at h
  · rcases Checked.tells_of_bind h with h | ⟨o, h⟩
    · exact not_tells_asText? rfl _ n h
    · cases o with
      | none => simp at h
      | some s => cases hs : boolOfText? s <;> simp [hs] at h

theorem not_tells_readBytes (d : Data) (n : Int) : ¬ d.readBytes.Tells n := by
  cases d <;> simp [readBytes]

theorem not_tells_readAddress (d : Data) (n : Int) : ¬ d.readAddress.Tells n := by
  rw [readAddress.eq_def]
  split
  · simp
  · split <;> simp

theorem not_tells_readInt (d : Data) (n : Int) : ¬ d.readInt.Tells n := by
  intro h
  rw [readInt.eq_def] at h
  split at h
  · simp at h
  · simp at h
  · split at h
    · split_ifs at h <;> simp at h
    · simp at h
  · simp at h
  · rcases Checked.tells_of_bind h with h | ⟨o, h⟩
    · exact not_tells_asText? rfl _ n h
    · cases o with
      | none => simp at h
      | some s =>
        dsimp only at h
        split_ifs at h
        · simp at h
        · cases hs : intOfText? s.toList <;> simp [hs] at h

theorem not_tells_readBelow (bound : Nat) (d : Data) (n : Int) :
    ¬ (d.readBelow bound).Tells n := by
  intro h
  rcases Checked.tells_of_bind h with h | ⟨k, h⟩
  · exact not_tells_readInt d n h
  · split_ifs at h <;> simp at h

theorem tells_readNullable {d : Data} (h : (readNullable read d).Tells n) : (read d).Tells n := by
  rw [readNullable.eq_def] at h
  split at h
  · exact absurd h (Checked.not_tells_ok _ _)
  · exact (Checked.tells_map _ _ _).1 h

theorem not_tells_readList (h : ∀ d, ¬ (read d).Tells n) (d : Data) :
    ¬ (readList read d).Tells n := by
  have hitems (ds : List Data) : ¬ (readItems read ds).Tells n := by
    simp only [readItems, Checked.tells_all, List.mem_map]
    rintro ⟨x, ⟨e, -, rfl⟩, hx⟩
    exact h _ ((Checked.tells_under _ _ _).1 hx)
  cases d with
  | list ds => exact hitems ds
  | members ds => exact hitems ds
  | _ => simp [readList]

theorem readDuration_eq (d : Data) :
    (∃ a, d.readDuration = .ok a) ∨ ∃ p, d.readDuration = Checked.fail p := by
  have hof (x : Except Duration.Flaw Int) :
      (∃ a, durationOf x = .ok a) ∨ ∃ p, durationOf x = Checked.fail p := by
    cases x with
    | error f => exact .inr ⟨_, rfl⟩
    | ok n =>
      rw [durationOf]
      split
      · exact .inl ⟨_, rfl⟩
      · exact .inr ⟨_, rfl⟩
  cases d with
  | text s => exact hof _
  | bytes bs => exact hof _
  | bool b => exact hof _
  | float x => exact hof _
  | int n =>
    rw [readDuration]
    split
    · exact hof _
    · split
      · exact hof _
      · exact hof _
  | _ => exact .inr ⟨_, rfl⟩

theorem tells_readDuration {d : Data} (h : d.readDuration.Tells n) :
    d.readDuration = Checked.fail (.belowDurations n) := by
  have hfail (p : Problem) (hp : (Checked.fail p : Checked Duration).Tells n) :
      p = .belowDurations n := by
    rw [Checked.tells_fail] at hp
    cases p with
    | belowDurations m =>
      cases hp
      rfl
    | _ => cases hp
  rcases readDuration_eq d with ⟨a, ha⟩ | ⟨p, hp⟩
  · rw [ha] at h
    exact absurd h (Checked.not_tells_ok _ _)
  · rw [hp] at h ⊢
    rw [hfail p h]

/-- A field that holds a span of time says one of so many days, fewer than there can be. -/
def Overlong (kind : RecordKind) (es : List (Data × Data)) (n : Int) : Prop :=
  ∃ name ∈ kind.durations, ∃ v, field? name es = some v ∧
    v.readDuration = Checked.fail (.belowDurations n)

theorem tells_readNames {d : Data} (h : (readNames read d).Tells n) :
    ∃ is, d = mapping is ∧ ∃ e ∈ is, (read e.2).Tells n := by
  cases d with
  | mapping is =>
    simp only [readNames, Checked.tells_map, Checked.tells_all, List.mem_map] at h
    obtain ⟨x, ⟨e, he, rfl⟩, hx⟩ := h
    simp only [Checked.tells_under, Checked.tells_both, not_tells_readText, false_or] at hx
    exact ⟨is, rfl, e, he, hx⟩
  | _ => simp [readNames] at h

end Data

/-- A value that is read as such a record has a duration of so many days in it. -/
def RecordKind.Tells (kind : RecordKind) (d : Data) (n : Int) : Prop :=
  ∃ i ∈ kind.issues d, i.problem.days? = some n

theorem RecordKind.Tells.exists_mapping {kind : RecordKind} {d : Data} {n : Int}
    (h : kind.Tells d n) : ∃ es, d = .mapping es := by
  cases d with
  | mapping es => exact ⟨es, rfl⟩
  | _ =>
    obtain ⟨i, hi, hn⟩ := h
    cases kind <;>
    · obtain rfl := List.mem_singleton.1 hi
      cases hn

namespace Data

variable {n : Int} {es : List (Data × Data)}

/-- Only the fields of a record can tell such a duration, not its keys. -/
theorem tells_mapping {kind : RecordKind} :
    kind.Tells (mapping es) n ↔ ∃ i ∈ kind.values es, i.problem.days? = some n := by
  have hkey {i : Issue} (hi : i ∈ es.filterMap fun e => keyIssue? kind.fields e.1) :
      i.problem.days? ≠ some n := by
    obtain ⟨e, -, hkey⟩ := List.mem_filterMap.1 hi
    rw [days?_of_keyIssue? hkey]
    exact nofun
  rw [RecordKind.Tells, RecordKind.issues_mapping]
  split
  · simp only [List.mem_append, List.mem_filter, List.mem_singleton]
    constructor
    · rintro ⟨i, ⟨hi, -⟩ | rfl, hn⟩
      · exact ⟨i, hi, hn⟩
      · cases hn
    · rintro ⟨i, hi, hn⟩
      exact ⟨i, .inl ⟨hi, Option.isSome_of_eq_some hn⟩, hn⟩
  · simp only [List.mem_append]
    constructor
    · rintro ⟨i, hi | hi, hn⟩
      · exact ⟨i, hi, hn⟩
      · exact absurd hn (hkey hi)
    · rintro ⟨i, hi, hn⟩
      exact ⟨i, .inl hi, hn⟩

theorem not_tells_readOption (d : Data) (n : Int) : ¬ d.readOption.Tells n := by
  intro h
  have hoption : RecordKind.option.Tells d n := h
  obtain ⟨es, rfl⟩ := hoption.exists_mapping
  have hfields : (optionFields es).Tells n := tells_mapping.1 hoption
  simp [optionFields, tells_requiredField, tells_fieldOr, not_tells_readBelow,
    not_tells_readBytes] at hfields

/-- Where a duration below the least one comes from: a field of the record, or a record inside. -/
theorem overlong_or_holds {kind : RecordKind} (h : kind.Tells (mapping es) n) :
    Overlong kind es n ∨
      ∃ steps inner fs, Holds kind es steps inner fs ∧ inner.Tells (mapping fs) n := by
  have hduration {name : String} (hname : name ∈ kind.durations)
      (h : ∃ v, field? name es = some v ∧ v.readDuration.Tells n) : Overlong kind es n := by
    obtain ⟨v, hv, hn⟩ := h
    exact ⟨name, hname, v, hv, tells_readDuration hn⟩
  have hvalues := tells_mapping.1 h
  cases kind with
  | config =>
    change (configFields es).Tells n at hvalues
    simp only [configFields, Checked.tells_map, Checked.tells_both, tells_fieldOr,
      not_tells_readText, not_tells_readBool, and_false, exists_false, or_false,
      false_or] at hvalues
    rcases hvalues with ⟨v, hv, h⟩ | h
    · obtain ⟨is, rfl, ⟨key, d⟩, he, h⟩ := tells_readNames h
      have hinner : RecordKind.interface.Tells d n := tells_readNullable h
      obtain ⟨fs, rfl⟩ := hinner.exists_mapping
      exact .inr ⟨_, _, fs, .interface hv he, hinner⟩
    · exact .inl (hduration List.mem_cons_self h)
  | interface =>
    change (interfaceFields es).Tells n at hvalues
    simp only [interfaceFields, Checked.tells_map, Checked.tells_both, tells_fieldOr] at hvalues
    rcases hvalues with ⟨v, hv, h⟩ | ⟨v, hv, h⟩
    · have hinner : RecordKind.v4.Tells v n := tells_readNullable h
      obtain ⟨fs, rfl⟩ := hinner.exists_mapping
      exact .inr ⟨_, _, fs, .v4 hv, hinner⟩
    · have hinner : RecordKind.v6.Tells v n := tells_readNullable h
      obtain ⟨fs, rfl⟩ := hinner.exists_mapping
      exact .inr ⟨_, _, fs, .v6 hv, hinner⟩
  | v4 =>
    change (v4Fields es).Tells n at hvalues
    simp only [v4Fields, Checked.tells_map, Checked.tells_both, tells_fieldOr,
      not_tells_readAddress, not_tells_readBool, not_tells_readList (not_tells_readOption · n),
      and_false, exists_false, or_false, false_or] at hvalues
    exact .inl (hduration List.mem_cons_self hvalues)
  | v6 =>
    change (v6Fields es).Tells n at hvalues
    simp only [v6Fields, Checked.tells_map, Checked.tells_both, tells_fieldOr,
      not_tells_readAddress, not_tells_readBool, not_tells_readList (not_tells_readOption · n),
      and_false, exists_false, or_false, false_or] at hvalues
    exact .inl (hduration List.mem_cons_self hvalues)
  | option => exact absurd h (not_tells_readOption _ n)

/-- How deep records can stand in a record. -/
def depth : RecordKind → Nat
  | .config => 3
  | .interface => 2
  | .v4 => 1
  | .v6 => 1
  | .option => 0

theorem Holds.depth_lt {kind inner : RecordKind} {steps : List String}
    {fs : List (Data × Data)} (h : Holds kind es steps inner fs) : depth inner < depth kind := by
  cases h <;> decide

/-- Some record of a document has such a field. -/
def HasOverlong (d : Data) : Prop :=
  ∃ kind path es n, RecordAt d kind path es ∧ Overlong kind es n

theorem RecordAt.hasOverlong {d : Data} {kind : RecordKind} {path : List String}
    (h : RecordAt d kind path es) (hn : kind.Tells (mapping es) n) : d.HasOverlong := by
  induction hdepth : depth kind using Nat.strong_induction_on generalizing kind path es with
  | _ k ih =>
    rcases overlong_or_holds hn with ho | ⟨steps, inner, fs, hs, hn⟩
    · exact ⟨kind, path, es, n, h, ho⟩
    · exact ih _ (hdepth ▸ hs.depth_lt) (h.inside hs) hn rfl

theorem Overlong.tells {kind : RecordKind} (h : Overlong kind es n) :
    kind.Tells (mapping es) n := by
  obtain ⟨name, hname, v, hv, hd⟩ := h
  have htells : v.readDuration.Tells n := by
    rw [hd, Checked.tells_fail]
    rfl
  apply tells_mapping.2
  cases kind with
  | config =>
    obtain rfl := List.mem_singleton.1 hname
    change (configFields es).Tells n
    simp only [configFields, Checked.tells_map, Checked.tells_both, tells_fieldOr]
    exact .inr (.inr (.inl ⟨v, hv, htells⟩))
  | v4 =>
    obtain rfl := List.mem_singleton.1 hname
    change (v4Fields es).Tells n
    simp only [v4Fields, Checked.tells_map, Checked.tells_both, tells_fieldOr]
    exact .inr (.inr (.inr (.inr (.inr (.inl ⟨v, hv, htells⟩)))))
  | v6 =>
    obtain rfl := List.mem_singleton.1 hname
    change (v6Fields es).Tells n
    simp only [v6Fields, Checked.tells_map, Checked.tells_both, tells_fieldOr]
    exact .inr (.inr (.inl ⟨v, hv, htells⟩))
  | _ => cases hname

theorem RecordAt.tells {d : Data} {kind : RecordKind} {path : List String}
    (h : RecordAt d kind path es) (hn : kind.Tells (mapping es) n) : d.readConfig.Tells n := by
  obtain ⟨i, hi, hn⟩ := hn
  exact ⟨i.behind path, h.mem_issues_of_days hi (Option.isSome_of_eq_some hn), hn⟩

theorem hasOverlong_iff {d : Data} : d.HasOverlong ↔ ∃ n, d.readConfig.Tells n := by
  constructor
  · rintro ⟨kind, path, es, n, h, ho⟩
    exact ⟨n, h.tells ho.tells⟩
  · rintro ⟨n, h⟩
    have hconfig : RecordKind.config.Tells d n := h
    obtain ⟨es, rfl⟩ := hconfig.exists_mapping
    exact RecordAt.hasOverlong (.root rfl) hconfig

end Data

theorem Failure.isSome_outOfRange?_iff {α : Type} {x : Checked α} :
    (outOfRange? x.issues).isSome ↔ ∃ n, x.Tells n := by
  rw [outOfRange?, List.findSome?_isSome_iff]
  simp only [Option.isSome_iff_exists, Checked.Tells]
  tauto

theorem Failure.isSome_outOfRange?_readConfig_iff {d : Data} :
    (outOfRange? d.readConfig.issues).isSome ↔ d.HasOverlong :=
  isSome_outOfRange?_iff.trans Data.hasOverlong_iff.symm

instance (d : Data) : Decidable d.HasOverlong :=
  decidable_of_iff _ Failure.isSome_outOfRange?_readConfig_iff

namespace Config

theorem parse_eq_crash_iff {d : Data} (source : Mention) :
    (∃ c, parse source d = .error (.crash c)) ↔ d.HasOverlong := by
  rw [← Failure.isSome_outOfRange?_readConfig_iff]
  cases d with
  | mapping es =>
    rw [parse]
    cases (Data.mapping es).readConfig with
    | ok c => simp [Checked.issues, Failure.outOfRange?]
    | error is =>
      cases hn : Failure.outOfRange? is <;>
        simp [Checked.issues, hn, loadFailure, Failure.ofCause]
  | _ =>
    simp [parse, loadFailure, Failure.ofCause, Data.readConfig, Data.readObject, Checked.issues,
      Checked.fail, Failure.outOfRange?]

end Config

end LeasePlan
