import LeasePlan.Address.Text

namespace LeasePlan

structure Subnet where
  host : Number4
  length : Nat
  length_le : length ≤ 32
deriving DecidableEq

namespace Subnet

def bitLength (n : Nat) : Nat := if n = 0 then 0 else Nat.log2 n + 1

/-- The bits of a mask that are zero, as a number. -/
def hostBits (mask : Number4) : Nat := 4294967295 - mask.val

/-- The prefix length of a mask; its zero bits must be the lowest ones. -/
def maskLength? (mask : Number4) : Option Nat :=
  let h := hostBits mask
  if h &&& (h + 1) ≠ 0 then none else some (32 - bitLength h)

theorem maskLength?_le {mask : Number4} {p : Nat} (h : maskLength? mask = some p) :
    p ≤ 32 := by
  simp only [maskLength?] at h
  split at h
  · cases h
  · cases h
    omega

/-- A host with a prefix length, which is at most 32. -/
def ofLength? (host : Number4) (length : Nat) : Option Subnet :=
  if h : length ≤ 32 then some ⟨host, length, h⟩ else none

/-- The mask with so many one bits in front. -/
def mask (s : Subnet) : Nat := 4294967296 - Nat.pow 2 (32 - s.length)

/-- The lowest number of the network. -/
def network (s : Subnet) : Nat := s.host.val &&& s.mask

def containsNumber (s : Subnet) (n : Nat) : Bool := n &&& s.mask = s.network

/-- The addresses of the network share its leading bits. -/
def contains (s : Subnet) : Address → Bool
  | .v4 n => s.containsNumber n.val
  | .v6 _ _ => false

def lengthChars (s : Subnet) : List Char := '/' :: Numeral.decimal s.length

def text (s : Subnet) : String := String.ofList (Address.dotted s.host.val ++ s.lengthChars)

def networkText (s : Subnet) : String := String.ofList (Address.dotted s.network ++ s.lengthChars)

end Subnet

end LeasePlan
