import LeasePlan.Address.Text

namespace LeasePlan

/-- Why two addresses are not the ends of a range. -/
inductive RangeFlaw
  | familyMismatch
  | notAscending
  | tooLarge (length : Nat)
deriving DecidableEq

namespace Address

/-- A smaller number comes first; of two addresses with one number neither does, so one is at most
the other only if they are the same. -/
def atMost (a b : Address) : Bool := a.number < b.number || a = b

theorem number_le_of_atMost {a b : Address} (h : atMost a b = true) : a.number ≤ b.number := by
  simp only [atMost, Bool.or_eq_true, decide_eq_true_eq] at h
  rcases h with h | h
  · exact Nat.le_of_lt h
  · exact Nat.le_of_eq (congrArg number h)

end Address

namespace AddressRange

def maxLength : Nat := 4294967295

end AddressRange

structure AddressRange where
  first : Address
  last : Address
  family_eq : first.family = last.family
  number_lt : first.number < last.number
  length_le : last.number - first.number + 1 ≤ AddressRange.maxLength
deriving DecidableEq

namespace AddressRange

/-- The range between two addresses, or the first of the three flaws that they have. -/
def ofEnds (a b : Address) : Except RangeFlaw AddressRange :=
  if hf : a.family = b.family then
    if hn : a.number < b.number then
      if hl : b.number - a.number + 1 ≤ maxLength then .ok ⟨a, b, hf, hn, hl⟩
      else .error (.tooLarge (b.number - a.number + 1))
    else .error .notAscending
  else .error .familyMismatch

def family (r : AddressRange) : Family := r.first.family

def length (r : AddressRange) : Nat := r.last.number - r.first.number + 1

def contains (r : AddressRange) (a : Address) : Bool :=
  a.family = r.family && r.first.atMost a && a.atMost r.last

/-- The distance of a contained address from the first one. -/
def offset? (r : AddressRange) (a : Address) : Option Nat :=
  if r.contains a then some (a.number - r.first.number) else none

/-- The addresses of a family from a number on, as many as asked for while there are any. -/
def numbered (f : Family) : Nat → Nat → List Address
  | 0, _ => []
  | count + 1, n =>
    match Address.ofNumber? f n with
    | none => []
    | some a => a :: numbered f count (n + 1)

/-- The first addresses in ascending order, at most as many as asked for. -/
def take (r : AddressRange) (count : Nat) : List Address :=
  numbered r.family (min count r.length) r.first.number

def walk (r : AddressRange) : List Address := numbered r.family r.length r.first.number

/-- The first of so many addresses from a number on that has a property. -/
def search (f : Family) (p : Address → Bool) : Nat → Nat → Option Address
  | 0, _ => none
  | count + 1, n =>
    match Address.ofNumber? f n with
    | none => none
    | some a => if p a then some a else search f p count (n + 1)

theorem search_eq (f : Family) (p : Address → Bool) (count n : Nat) :
    search f p count n = (numbered f count n).find? p := by
  induction count generalizing n with
  | zero => rfl
  | succ count ih =>
    unfold search numbered
    split
    · rfl
    · rw [List.find?_cons, ih]
      split
      next h => simp [h]
      next h => simp [h]

/-- The first address with a property; the search stops there. -/
def find? (r : AddressRange) (p : Address → Bool) : Option Address :=
  search r.family p r.length r.first.number

theorem find?_eq (r : AddressRange) (p : Address → Bool) : r.find? p = r.walk.find? p :=
  search_eq _ _ _ _

def text (r : AddressRange) : RawText := r.first.text ++ .char '-' :: r.last.text

end AddressRange

end LeasePlan
