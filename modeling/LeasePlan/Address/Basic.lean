import LeasePlan.Text.CodePoint

namespace LeasePlan

inductive Family
  | v4
  | v6
deriving DecidableEq, Inhabited

namespace Family

/-- How many addresses a family has: two to the power of 32 or of 128. -/
def size : Family → Nat
  | v4 => 4294967296
  | v6 => 340282366920938463463374607431768211456

def version : Family → Nat
  | v4 => 4
  | v6 => 6

end Family

abbrev Number4 : Type := Fin 4294967296

abbrev Number6 : Type := Fin 340282366920938463463374607431768211456

/-- A zone text stands after a percent sign, so it is not empty and holds neither that sign nor a
slash. -/
def isZoneText (t : RawText) : Bool :=
  !t.isEmpty && !t.contains (.char '%') && !t.contains (.char '/')

structure Zone where
  text : RawText
  valid : isZoneText text = true
deriving DecidableEq

inductive Address
  | v4 (number : Number4)
  | v6 (number : Number6) (zone : Option Zone)
deriving DecidableEq

namespace Address

def family : Address → Family
  | v4 _ => .v4
  | v6 _ _ => .v6

def number : Address → Nat
  | v4 n => n.val
  | v6 n _ => n.val

def zone : Address → Option Zone
  | v4 _ => none
  | v6 _ z => z

theorem number_lt (a : Address) : a.number < a.family.size := by
  cases a with
  | v4 n => exact n.isLt
  | v6 n z => exact n.isLt

/-- The address of a family with a number, in no zone. -/
def ofNumber? (f : Family) (n : Nat) : Option Address :=
  match f with
  | .v4 => if h : n < Family.v4.size then some (v4 ⟨n, h⟩) else none
  | .v6 => if h : n < Family.v6.size then some (v6 ⟨n, h⟩ none) else none

/-- A whole number is an IPv4 address if it fits there, and else an IPv6 address. -/
def ofInt? (n : Int) : Option Address :=
  if n < 0 then none else ofNumber? .v4 n.toNat <|> ofNumber? .v6 n.toNat

/-- Four bytes are an IPv4 address and sixteen an IPv6 address, the highest byte first. -/
def ofBytes? (bs : List UInt8) : Option Address :=
  let n := bs.foldl (fun n b => n * 256 + b.toNat) 0
  if bs.length = 4 then ofNumber? .v4 n
  else if bs.length = 16 then ofNumber? .v6 n
  else none

/-- Two addresses with the family, number and zone of one another are the same. -/
theorem ext_view {a b : Address} (hf : a.family = b.family) (hn : a.number = b.number)
    (hz : a.zone = b.zone) : a = b := by
  cases a with
  | v4 m =>
    cases b with
    | v4 n => exact congrArg v4 (Fin.ext hn)
    | v6 n z => cases hf
  | v6 m y =>
    cases b with
    | v4 n => cases hf
    | v6 n z =>
      cases hz
      exact congrArg (v6 · _) (Fin.ext hn)

end Address

end LeasePlan
