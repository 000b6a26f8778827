import LeasePlan.Text.Numeral

namespace LeasePlan

/-- A finite number is its significand times a power of two. -/
inductive Binary64
  | finite (negative : Bool) (significand : Nat) (exponent : Int)
  | infinite (negative : Bool)
  | nan
deriving DecidableEq, Inhabited

namespace Binary64

/-- The nearest whole number to a quotient, a tie to the even one. -/
def roundEven (num den : Nat) : Nat :=
  let q := num / den
  let r := num % den
  if den < 2 * r then q + 1
  else if 2 * r = den then q + q % 2
  else q

/-- The exponent at which a quotient has a significand of 53 bits, or the least exponent. -/
def exponentFor (num den : Nat) : Int :=
  let e : Int := (Nat.log2 num : Int) - Nat.log2 den - 52
  let e :=
    if num * Nat.pow 2 (-e).toNat < 4503599627370496 * (den * Nat.pow 2 e.toNat) then e - 1 else e
  if e < -1074 then -1074 else e

/-- The number nearest to a quotient with a positive denominator. -/
def ofRatio (negative : Bool) (num den : Nat) : Binary64 :=
  if num = 0 then finite negative 0 (-1074)
  else
    let e := exponentFor num den
    let m := roundEven (num * Nat.pow 2 (-e).toNat) (den * Nat.pow 2 e.toNat)
    let (m, e) := if m = 9007199254740992 then (4503599627370496, e + 1) else (m, e)
    if 971 < e then infinite negative else finite negative m e

/-- The number nearest to a decimal fraction; far outside the range no power is computed. -/
def ofDecimal (negative : Bool) (digits : Nat) (exponent : Int) : Binary64 :=
  if digits = 0 then finite negative 0 (-1074)
  else
    let size : Int := (Numeral.decimal digits).length + exponent
    if 400 < size then infinite negative
    else if size < -400 then finite negative 0 (-1074)
    else ofRatio negative (digits * Nat.pow 10 exponent.toNat) (Nat.pow 10 (-exponent).toNat)

/-- Numerator and denominator of the magnitude of a finite number. -/
def ratio (m : Nat) (e : Int) : Nat × Nat := (m * Nat.pow 2 e.toNat, Nat.pow 2 (-e).toNat)

def zero : Binary64 := finite false 0 (-1074)

def ofInt (n : Int) : Binary64 := ofRatio (n < 0) n.natAbs 1

def negate : Binary64 → Binary64
  | finite s m e => finite (!s) m e
  | infinite s => infinite (!s)
  | nan => nan

def isZero : Binary64 → Bool
  | finite _ m _ => m = 0
  | _ => false

def add : Binary64 → Binary64 → Binary64
  | nan, _ => nan
  | _, nan => nan
  | infinite s, infinite t => if s = t then infinite s else nan
  | infinite s, _ => infinite s
  | _, infinite t => infinite t
  | finite s m e, finite t n f =>
    let low := if e < f then e else f
    let a : Int := (m * Nat.pow 2 (e - low).toNat : Nat)
    let b : Int := (n * Nat.pow 2 (f - low).toNat : Nat)
    let c := (if s then -a else a) + (if t then -b else b)
    if c = 0 then finite (s && t) 0 (-1074)
    else ofRatio (c < 0) (c.natAbs * Nat.pow 2 low.toNat) (Nat.pow 2 (-low).toNat)

def mul : Binary64 → Binary64 → Binary64
  | nan, _ => nan
  | _, nan => nan
  | finite s m e, finite t n f =>
    let (a, b) := ratio m e
    let (c, d) := ratio n f
    ofRatio (s != t) (a * c) (b * d)
  | infinite s, finite t n _ => if n = 0 then nan else infinite (s != t)
  | finite s m _, infinite t => if m = 0 then nan else infinite (s != t)
  | infinite s, infinite t => infinite (s != t)

/-- The quotient of two numbers; a zero divisor gives no number. -/
def div : Binary64 → Binary64 → Binary64
  | finite s m e, finite t n f =>
    let (a, b) := ratio m e
    let (c, d) := ratio n f
    if n = 0 then nan else ofRatio (s != t) (a * d) (b * c)
  | infinite s, finite t _ _ => infinite (s != t)
  | finite s _ _, infinite t => finite (s != t) 0 (-1074)
  | _, _ => nan

def wholePart : Binary64 → Nat
  | finite _ m e => let (a, b) := ratio m e; a / b
  | _ => 0

/-- The magnitude of a finite number less its whole part, which is exact. -/
def fractionPart : Binary64 → Binary64
  | finite _ m e => let (a, b) := ratio m e; ofRatio false (a % b) b
  | _ => nan

/-- The whole number nearest to the magnitude of a finite number, a half going up. -/
def roundHalfUp : Binary64 → Nat
  | finite _ m e => let (a, b) := ratio m e; (2 * a + b) / (2 * b)
  | _ => 0

/-- The whole number that a finite number equals, if it is whole. -/
def toInt? : Binary64 → Option Int
  | finite s m e =>
    let (a, b) := ratio m e
    if a % b = 0 then some (if s then -(a / b : Nat) else (a / b : Nat)) else none
  | _ => none

/-- The decimal exponent of the first digit of a positive quotient. -/
def magnitude (num den : Nat) : Int :=
  let guess : Int := (Numeral.decimal num).length - (Numeral.decimal den).length
  if num * Nat.pow 10 (-guess).toNat < den * Nat.pow 10 guess.toNat then guess - 1 else guess

/-- The decimal with a given count of digits that is nearest to a quotient among the two around it
that round back to the number, as digits and exponent of the last one. -/
def decimalWith? (num den : Nat) (value : Binary64) (count : Nat) : Option (Nat × Int) :=
  let last : Int := magnitude num den - count + 1
  let a := num * Nat.pow 10 (-last).toNat
  let b := den * Nat.pow 10 last.toNat
  let low := a / b
  let hit (d : Nat) : Bool :=
    ofRatio false (d * Nat.pow 10 last.toNat) (Nat.pow 10 (-last).toNat) = value
  let nearHigh := roundEven a b ≠ low
  if nearHigh && hit (low + 1) then some (low + 1, last)
  else if hit low then some (low, last)
  else if hit (low + 1) then some (low + 1, last)
  else none

/-- Fewest digits that read back, as digits and the exponent of the first one. -/
def shortest (m : Nat) (e : Int) : List Char × Int :=
  let (num, den) := ratio m e
  let value := finite false m e
  match (List.range 17).findSome? fun i => decimalWith? num den value (i + 1) with
  | some (d, last) =>
    let digits := Numeral.decimal d
    (Numeral.trimZeros digits, last + digits.length - 1)
  | none => (['0'], 0)

/-- Positional from 10⁻⁴ up to below 10¹⁶ and with an exponent of at least two digits outside. -/
def positional (digits : List Char) (first : Int) : List Char :=
  if -4 ≤ first && first < 16 then
    if first < 0 then
      '0' :: '.' :: (List.replicate (-first - 1).toNat '0' ++ digits)
    else
      let places := first.toNat + 1
      let whole := digits.take places ++ List.replicate (places - digits.length) '0'
      let rest := digits.drop places
      whole ++ '.' :: (if rest.isEmpty then ['0'] else rest)
  else
    let mantissa := match digits with
      | [] => []
      | [d] => [d]
      | d :: ds => d :: '.' :: ds
    let size := Numeral.decimal first.natAbs
    let size := if size.length < 2 then '0' :: size else size
    mantissa ++ 'e' :: (if first < 0 then '-' else '+') :: size

/-- The shortest text that reads back as the number. -/
def text : Binary64 → String
  | nan => "nan"
  | infinite s => if s then "-inf" else "inf"
  | finite s m e =>
    let body := if m = 0 then ['0', '.', '0'] else
      let (digits, first) := shortest m e
      positional digits first
    String.ofList (if s then '-' :: body else body)

end Binary64

end LeasePlan
