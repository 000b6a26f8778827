import LeasePlan.Address.Text
import LeasePlan.Document.Issue
import LeasePlan.Document.Literal
import LeasePlan.Text.Blank
import LeasePlan.Text.Utf8

namespace LeasePlan

namespace Data

/-- The text that a word or a number is looked for in, or none for a value that is neither text nor
bytes; `unreadable` says what is wrong with bytes that are not UTF-8. -/
def asText? (unreadable : Problem) : Data → Checked (Option String)
  | text s => .ok (some s)
  | broken _ => Checked.fail .notUnicode
  | bytes bs =>
    match Utf8.text? bs with
    | some s => .ok (some s)
    | none => Checked.fail unreadable
  | _ => .ok none

/-- A text as it is, surrogates included, or the text that bytes stand for. -/
def readText : Data → Checked RawText
  | text s => .ok s
  | broken t => .ok t
  | bytes bs =>
    match Utf8.text? bs with
    | some s => .ok s
    | none => Checked.fail .notUnicode
  | _ => Checked.fail .notText

def isFalseWord (s : String) : Bool := s ∈ ["0", "off", "f", "false", "n", "no"]

def isTrueWord (s : String) : Bool := s ∈ ["1", "on", "t", "true", "y", "yes"]

/-- A word for a truth value, in any mixture of cases. -/
def boolOfText? (s : String) : Option Bool :=
  if isFalseWord s.toLower then some false
  else if isTrueWord s.toLower then some true
  else none

def isWord (n : Int) : Bool := -9223372036854775808 ≤ n && n < 9223372036854775808

/-- A whole number of 64 bits with its sign, the least one excepted. -/
def isInnerWord (n : Int) : Bool := -9223372036854775808 < n && n < 9223372036854775808

def boolOfInt (n : Int) : Checked Bool :=
  if n = 0 then .ok false else if n = 1 then .ok true else Checked.fail .unclearBool

/-- A truth value, a word for one, or a number equal to 0 or 1. -/
def readBool (d : Data) : Checked Bool := do
  match d with
  | bool b => .ok b
  | int n => if isWord n then boolOfInt n else Checked.fail .notBool
  | float x =>
    match x.toInt? with
    | some n => if isInnerWord n then boolOfInt n else Checked.fail .notBool
    | none => Checked.fail .notBool
  | d =>
    match ← d.asText? .unclearBool with
    | some s =>
      match boolOfText? s with
      | some b => .ok b
      | none => Checked.fail .unclearBool
    | none => Checked.fail .notBool

/-- Digits without needless leading zeros, behind a sign if there is one. -/
def plainInt? (cs : List Char) : Option Int :=
  let (negative, ds) := match cs with
    | '-' :: r => (true, r)
    | '+' :: r => (false, r)
    | r => (false, r)
  if ds.head? = some '0' && ds.length ≠ 1 then none
  else (Numeral.decimal? ds).map fun n => if negative then -(n : Int) else n

/-- Drops leading zeros and underscores among them, but not the last zero of a number. -/
def dropZeros : List Char → Option (List Char)
  | [] => none
  | c :: r =>
    if c = '0' then
      let zeros := r.takeWhile fun c => c = '0' || c = '_'
      match r.drop zeros.length with
      | [] => some [(c :: zeros).getLast?.getD c]
      | d :: rest =>
        if Numeral.isDigit d then some (d :: rest)
        else if d = '.' then some ((c :: zeros).getLast?.getD c :: d :: rest)
        else none
    else if Numeral.isDigit c || c = '-' then some (c :: r)
    else none

/-- Drops a decimal point behind which there are only zeros. -/
def dropFraction (cs : List Char) : List Char :=
  match Text.cut '.' cs with
  | (whole, some places) => if places.all (· = '0') then whole else cs
  | _ => cs

/-- Drops underscores, each of which must stand between two other characters. -/
def dropUnderscores (cs : List Char) : Option (List Char) :=
  let ps := Text.parts '_' cs
  if ps.any List.isEmpty then none else some ps.flatten

/-- A whole number as a text: plainly, or with blanks around it, leading zeros, underscores between
digits and a fraction of zeros. -/
def intOfText? (cs : List Char) : Option Int :=
  match plainInt? cs with
  | some n => some n
  | none => do
    let ds ← dropZeros (Text.trim Text.isBlank cs)
    plainInt? (← dropUnderscores (dropFraction ds))

/-- A whole number, a truth value as 0 or 1, a whole float, or a text. -/
def readInt (d : Data) : Checked Int := do
  match d with
  | int n => .ok n
  | bool b => .ok (if b then 1 else 0)
  | float (.finite s m e) =>
    match (Binary64.finite s m e).toInt? with
    | some n => if isInnerWord n then .ok n else Checked.fail .tooManyDigits
    | none => Checked.fail .fractional
  | float _ => Checked.fail .notFinite
  | d =>
    match ← d.asText? .notIntText with
    | some s =>
      if 4300 < s.utf8ByteSize then Checked.fail .tooManyDigits
      else
        match intOfText? s.toList with
        | some n => .ok n
        | none => Checked.fail .notIntText
    | none => Checked.fail .notInt

/-- A whole number from 0 up to below a bound. -/
def readBelow (bound : Nat) (d : Data) : Checked (Fin bound) := do
  let n ← d.readInt
  if n < 0 then Checked.fail (.belowMinimum 0)
  else if h : n.toNat < bound then .ok ⟨n.toNat, h⟩
  else Checked.fail (.aboveMaximum (bound - 1))

def readBytes : Data → Checked (List UInt8)
  | bytes bs => .ok bs
  | text s => .ok (Utf8.encode s.toList)
  | broken _ => Checked.fail .notUnicode
  | _ => Checked.fail .notBytes

/-- The address that a text, a whole number, a truth value or bytes stand for. -/
def address? : Data → Option Address
  | text s => Address.parse? s
  | broken t => Address.parse? t
  | int n => Address.ofInt? n
  | bool b => Address.ofInt? (if b then 1 else 0)
  | bytes bs => Address.ofBytes? bs
  | _ => none

def readAddress : Data → Checked (Option Address)
  | null => .ok none
  | d =>
    match d.address? with
    | some a => .ok (some a)
    | none => Checked.fail .notAddress

/-- Microseconds as a duration; days far in the past are a problem of their own. -/
def durationOf (micros : Except Duration.Flaw Int) : Checked Duration :=
  match micros with
  | .error f => Checked.fail (.notDuration f)
  | .ok n =>
    match Duration.ofMicros? n with
    | some d => .ok d
    | none => Checked.fail (.belowDurations (n.fdiv Duration.microsPerDay))

def readDuration : Data → Checked Duration
  | text s => durationOf (Duration.readMicros (Duration.asciiBytes s.toList))
  | bytes bs =>
    durationOf (Duration.readMicros (bs.map fun b => if b < 128 then Char.ofNat b.toNat else '?'))
  | broken _ => Checked.fail .notUnicode
  | bool b => durationOf (Duration.microsOfInt (if b then 1 else 0))
  | int n =>
    if isWord n then durationOf (Duration.microsOfInt n)
    else
      match Binary64.ofInt n with
      | .infinite _ => durationOf (.error .notDuration)
      | x => durationOf (Duration.microsOfFloat x)
  | float x => durationOf (Duration.microsOfFloat x)
  | _ => durationOf (.error .notDuration)

end Data

end LeasePlan
