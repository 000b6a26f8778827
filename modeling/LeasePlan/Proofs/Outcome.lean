import LeasePlan.Fault.Failure

namespace LeasePlan

variable {α β ε : Type}

theorem bind_eq_ok {x : Except ε α} {f : α → Except ε β} {b : β} :
    (x >>= f) = .ok b ↔ ∃ a, x = .ok a ∧ f a = .ok b := by
  cases x with
  | error e => simp [bind, Except.bind]
  | ok a => simp [bind, Except.bind]

theorem bind_eq_error {x : Except ε α} {f : α → Except ε β} {e : ε} :
    (x >>= f) = .error e ↔ x = .error e ∨ ∃ a, x = .ok a ∧ f a = .error e := by
  cases x with
  | error e' => simp [bind, Except.bind]
  | ok a => simp [bind, Except.bind]

theorem map_eq_ok {x : Except ε α} {f : α → β} {b : β} :
    x.map f = .ok b ↔ ∃ a, x = .ok a ∧ f a = b := by
  cases x with
  | error e => simp [Except.map]
  | ok a => simp [Except.map]

theorem map_eq_error {x : Except ε α} {f : α → β} {e : ε} :
    x.map f = .error e ↔ x = .error e := by
  cases x with
  | error e' => simp [Except.map]
  | ok a => simp [Except.map]

theorem mapError_eq_ok {δ : Type} {x : Except ε α} {f : ε → δ} {a : α} :
    x.mapError f = .ok a ↔ x = .ok a := by
  cases x with
  | error e => exact ⟨nofun, nofun⟩
  | ok b =>
    constructor
    · rintro ⟨⟩
      rfl
    · rintro ⟨⟩
      rfl

theorem toOption_eq_some_iff {x : Except ε α} {a : α} : x.toOption = some a ↔ x = .ok a := by
  cases x with
  | error e => exact ⟨nofun, nofun⟩
  | ok b => exact ⟨fun h => congrArg Except.ok (Option.some.inj h), fun h => by cases h; rfl⟩

def Failure.of? : Except Failure α → Option Failure
  | .ok _ => none
  | .error e => some e

namespace Failure

theorem of?_eq_some_iff {x : Except Failure α} {e : Failure} : of? x = some e ↔ x = .error e := by
  cases x with
  | error e' => simp [of?]
  | ok a => simp [of?]

theorem of?_eq_none_iff {x : Except Failure α} : of? x = none ↔ ∃ a, x = .ok a := by
  cases x with
  | error e => simp [of?]
  | ok a => simp [of?]

/-- The failure if there is one, and else the value. -/
def orValue (e? : Option Failure) (a : α) : Except Failure α :=
  match e? with
  | some e => .error e
  | none => .ok a

theorem orValue_eq_ok_iff {e? : Option Failure} {a b : α} :
    orValue e? a = .ok b ↔ e? = none ∧ a = b := by
  cases e? with
  | none => simp [orValue]
  | some e => simp [orValue]

theorem orValue_eq_error_iff {e? : Option Failure} {a : α} {e : Failure} :
    orValue e? a = .error e ↔ e? = some e := by
  cases e? with
  | none => simp [orValue]
  | some e' => simp [orValue]

end Failure

/-- Whatever goes wrong is a fault of the configuration. -/
def OnlyFaults (x : Except Failure α) : Prop := ∀ e, x = .error e → ∃ f, e = .fault f

theorem OnlyFaults.ok (a : α) : OnlyFaults (.ok a) := by
  intro e h
  cases h

theorem OnlyFaults.fault (f : Fault) : OnlyFaults (.error (.fault f) : Except Failure α) := by
  intro e h
  cases h
  exact ⟨f, rfl⟩

theorem OnlyFaults.bind {x : Except Failure α} {f : α → Except Failure β} (hx : OnlyFaults x)
    (hf : ∀ a, x = .ok a → OnlyFaults (f a)) : OnlyFaults (x >>= f) := by
  intro e h
  rcases bind_eq_error.1 h with h | ⟨a, ha, h⟩
  · exact hx e h
  · exact hf a ha e h

end LeasePlan
