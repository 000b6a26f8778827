import LeasePlan.Text.CodePoint

namespace LeasePlan

/-- A finite map from names; the entries keep the order in which their names first came. -/
structure NameMap (α : Type) where
  entries : List (RawText × α)
  nodup : (entries.map Prod.fst).Nodup
deriving DecidableEq

namespace NameMap

variable {α : Type}

/-- Gives a name a value: a known name keeps its place, and a new one comes last. -/
def put (name : RawText) (value : α) : List (RawText × α) → List (RawText × α)
  | [] => [(name, value)]
  | (n, v) :: es => if n = name then (n, value) :: es else (n, v) :: put name value es

theorem mem_fst_put {name : RawText} {value : α} {es : List (RawText × α)} {n : RawText} :
    n ∈ (put name value es).map Prod.fst ↔ n = name ∨ n ∈ es.map Prod.fst := by
  induction es with
  | nil => simp [put]
  | cons e es ih =>
    obtain ⟨m, v⟩ := e
    unfold put
    split
    next h => simp [h]
    next h => simp only [List.map_cons, List.mem_cons, ih]; grind

theorem nodup_put {name : RawText} {value : α} {es : List (RawText × α)}
    (h : (es.map Prod.fst).Nodup) : ((put name value es).map Prod.fst).Nodup := by
  induction es with
  | nil => simp [put]
  | cons e es ih =>
    obtain ⟨m, v⟩ := e
    rw [List.map_cons, List.nodup_cons] at h
    unfold put
    split
    next hm => exact List.nodup_cons.2 h
    next hm =>
      refine List.nodup_cons.2 ⟨?_, ih h.2⟩
      rw [mem_fst_put]
      rintro (hn | hn)
      · exact hm hn
      · exact h.1 hn

def empty : NameMap α := ⟨[], List.nodup_nil⟩

def insert (m : NameMap α) (name : RawText) (value : α) : NameMap α :=
  ⟨put name value m.entries, nodup_put m.nodup⟩

/-- Puts the entries in one after the other. -/
def ofList (es : List (RawText × α)) : NameMap α :=
  es.foldl (fun m e => m.insert e.1 e.2) empty

def isEmpty (m : NameMap α) : Bool := m.entries.isEmpty

def names (m : NameMap α) : List RawText := m.entries.map Prod.fst

/-- The names in the order of their code points. -/
def sortedNames (m : NameMap α) : List RawText := m.names.mergeSort fun a b => a ≤ b

def find? (m : NameMap α) (name : RawText) : Option α :=
  (m.entries.find? fun e => e.1 = name).map Prod.snd

end NameMap

end LeasePlan
