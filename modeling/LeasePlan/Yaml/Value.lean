import LeasePlan.Text.Blank
import LeasePlan.Yaml.Tag

namespace LeasePlan.Yaml.Value

def crash {α : Type} (c : Crash) : Except Flaw α := .error (.crash c)

def ofChars (cs : List Char) : Data := .text (String.ofList cs)

/-- A sign and whether it is a minus. -/
def signed (cs : List Char) : Bool × List Char :=
  match cs with
  | '-' :: r => (true, r)
  | '+' :: r => (false, r)
  | r => (false, r)

def negateIf (negative : Bool) (n : Int) : Int := if negative then -n else n

def digitBelow? (base : Nat) (c : Char) : Option Nat :=
  (Numeral.hexDigit? c).filter (· < base)

/-- Drops the mark of a base, which is a zero and a letter. -/
def dropBaseMark (base : Nat) : List Char → List Char
  | '0' :: x :: r =>
    if (base = 2 && x.toLower = 'b') || (base = 8 && x.toLower = 'o') ||
        (base = 16 && x.toLower = 'x') then r
    else '0' :: x :: r
  | cs => cs

/-- A whole number in a base, with blanks around it and a sign if it likes. -/
def integer (base : Nat) (cs : List Char) : Except Flaw Int :=
  let (negative, ds) := signed (Text.trim Text.isBlank cs)
  let ds := dropBaseMark base ds
  match ds.mapM (digitBelow? base) with
  | none => crash (.notInt base (ofChars cs))
  | some ns =>
    if ns.isEmpty then crash (.notInt base (ofChars cs))
    else if base = 10 && 4300 < ns.length then crash (.tooManyDigits ns.length)
    else .ok (negateIf negative (Numeral.ofDigits base ns))

/-- The sum of the parts of a number to the base sixty, the last part counting once. -/
def sixtieths (parts : List Int) : Int := parts.foldl (fun n p => n * 60 + p) 0

def int (text : List Char) : Except Flaw Data := do
  let cs := text.filter (· ≠ '_')
  let (negative, ds) := signed cs
  let finish (n : Int) : Except Flaw Data := .ok (.int (negateIf negative n))
  match ds with
  | [] => crash .emptyNumber
  | ['0'] => .ok (.int 0)
  | '0' :: 'b' :: r => do finish (← integer 2 r)
  | '0' :: 'x' :: r => do finish (← integer 16 r)
  | '0' :: r => do finish (← integer 8 ('0' :: r))
  | ds =>
    if ds.contains ':' then do finish (sixtieths (← (Text.parts ':' ds).mapM (integer 10)))
    else do finish (← integer 10 ds)

def infinityWords : List String := ["inf", "infinity"]

/-- Digits, decimal places and a power of ten. -/
def decimal? (cs : List Char) : Option Binary64 := do
  let (negative, ds) := signed cs
  let s := String.ofList ds
  if infinityWords.contains s then some (.infinite negative)
  else if s = "nan" then some .nan
  else
    let (mantissa, power) := Text.cut 'e' ds
    let (whole, places) := Text.cut '.' mantissa
    let digits := whole ++ places.getD []
    let n ← Numeral.decimal? digits
    let exponent ← match power with
      | none => some 0
      | some p =>
        let (down, p) := signed p
        (Numeral.decimal? p).map fun k => negateIf down k
    some (Binary64.ofDecimal negative n (exponent - (places.getD []).length))

/-- A floating-point number with blanks around it, in lower case. -/
def real (cs : List Char) : Except Flaw Binary64 :=
  match decimal? (Text.trim Text.isBlank cs) with
  | some x => .ok x
  | none => crash (.notFloat (ofChars cs))

/-- The sum of the parts of a number to the base sixty from the last part on. -/
def realSixtieths : Int → Binary64 → List Binary64 → Binary64
  | _, sum, [] => sum
  | base, sum, p :: ps => realSixtieths (base * 60) (sum.add (p.mul (Binary64.ofInt base))) ps

def float (text : List Char) : Except Flaw Data := do
  let cs := (text.filter (· ≠ '_')).map Char.toLower
  let (negative, ds) := signed cs
  let finish (x : Binary64) : Except Flaw Data := .ok (.float (if negative then x.negate else x))
  if cs.isEmpty then crash .emptyNumber
  else if ds = ".inf".toList then finish (.infinite false)
  else if ds = ".nan".toList then .ok (.float .nan)
  else if ds.contains ':' then do
    finish (realSixtieths 1 Binary64.zero (← (Text.parts ':' ds).mapM real).reverse)
  else do finish (← real ds)

def bool (text : List Char) : Except Flaw Data :=
  let s := String.ofList (text.map Char.toLower)
  if ["yes", "true", "on"].contains s then .ok (.bool true)
  else if ["no", "false", "off"].contains s then .ok (.bool false)
  else crash (.notBool (.text s))

def base64Digit? (n : Nat) : Option Nat :=
  let c := Char.ofNat n
  if 'A' ≤ c ∧ c ≤ 'Z' then some (n - 65)
  else if 'a' ≤ c ∧ c ≤ 'z' then some (n - 71)
  else if '0' ≤ c ∧ c ≤ '9' then some (n + 4)
  else if c = '+' then some 62
  else if c = '/' then some 63
  else none

/-- The bytes of groups of four digits. Characters that are no digits are skipped, and enough
fillers end the text; `digits` are those of the open group, and `fillers` those after them. -/
def base64Bytes : List Nat → (digits : List Nat) → (fillers : Nat) → Option (List UInt8)
  | [], [], _ => some []
  | [], _ :: _, _ => none
  | c :: r, ds, fillers =>
    if c = 61 then
      if 2 ≤ ds.length then
        if 4 ≤ ds.length + fillers + 1 then
          match ds with
          | [a, b] => some [(a * 4 + b / 16).toUInt8]
          | [a, b, d] => some [(a * 4 + b / 16).toUInt8, (b % 16 * 16 + d / 4).toUInt8]
          | _ => none
        else base64Bytes r ds (fillers + 1)
      else base64Bytes r ds fillers
    else
      match base64Digit? c, ds with
      | none, _ => base64Bytes r ds fillers
      | some d, [x, y, z] => do
        let n := ((x * 64 + y) * 64 + z) * 64 + d
        let bs ← base64Bytes r [] 0
        some ((n / 65536).toUInt8 :: (n / 256 % 256).toUInt8 :: (n % 256).toUInt8 :: bs)
      | some d, ds => base64Bytes r (ds ++ [d]) 0

/-- Bytes in Base64, which must be ASCII. -/
def binary (codes : List Nat) : Except Flaw Data :=
  if codes.any (128 ≤ ·) then .error .malformed
  else
    match base64Bytes codes [] 0 with
    | some bs => .ok (.bytes bs)
    | none => .error .malformed

def isLeap (year : Nat) : Bool := year % 4 = 0 && (year % 100 ≠ 0 || year % 400 = 0)

def daysOf (year month : Nat) : Nat :=
  if month = 2 then if isLeap year then 29 else 28
  else if month = 4 || month = 6 || month = 9 || month = 11 then 30
  else 31

def noSuchTime {α : Type} (reason : String) : Except Flaw α := crash (.noSuchTime reason)

def checkDate (year month day : Nat) : Except Flaw Unit :=
  if year = 0 then noSuchTime "year 0 is out of range"
  else if month < 1 || 12 < month then noSuchTime "month must be in 1..12"
  else if day < 1 || daysOf year month < day then noSuchTime "day is out of range for month"
  else .ok ()

def checkClock (hour minute second : Nat) : Except Flaw Unit :=
  if 23 < hour then noSuchTime "hour must be in 0..23"
  else if 59 < minute then noSuchTime "minute must be in 0..59"
  else if 59 < second then noSuchTime "second must be in 0..59"
  else .ok ()

def numberOf (cs : List Char) : Nat := (Numeral.decimal? cs).getD 0

def microsOf (places : List Char) : Nat :=
  let ds := places.take 6
  numberOf ds * Nat.pow 10 (6 - ds.length)

/-- The offset of a zone in seconds, which is less than a day. -/
def offset (zone : List Char) : Except Flaw (Option Int) :=
  match zone with
  | [] => .ok none
  | 'Z' :: _ => .ok (some 0)
  | s :: r =>
    let seconds : Int := match (Text.parts ':' r).map numberOf with
      | [h] => h * 3600
      | h :: m :: _ => h * 3600 + m * 60
      | [] => 0
    let seconds := negateIf (s = '-') seconds
    if seconds.natAbs < 86400 then .ok (some seconds)
    else
      noSuchTime ("offset must be a timedelta strictly between -timedelta(hours=24) and " ++
        "timedelta(hours=24), not " ++ Data.offsetLiteral seconds)

def instant (year month day : Nat) (clock zone : List Char) : Except Flaw Data := do
  let o ← offset zone
  match Text.parts ':' clock with
  | [h, m, s] =>
    let (second, places) := Text.cut '.' s
    checkDate year month day
    checkClock (numberOf h) (numberOf m) (numberOf second)
    .ok (.instant ⟨year, month, day, numberOf h, numberOf m, numberOf second,
      microsOf (places.getD []), o⟩)
  | _ => crash .notInstant

def timestamp (text : List Char) : Except Flaw Data := do
  let cs := Tag.chomp text
  match Tag.splitMoment? cs with
  | none => crash .notInstant
  | some (y, m, d, rest) =>
    if !(Tag.isDigitRun 4 4 y && Tag.isDigitRun 1 2 m && Tag.isDigitRun 1 2 d) then
      crash .notInstant
    else if rest.isEmpty then do
      checkDate (numberOf y) (numberOf m) (numberOf d)
      .ok (.date (numberOf y) (numberOf m) (numberOf d))
    else
      match Tag.clockPart? rest with
      | none => crash .notInstant
      | some r =>
        let (clock, zone) := Tag.splitClock r
        if Tag.isTimestamp cs then instant (numberOf y) (numberOf m) (numberOf d) clock zone
        else crash .notInstant

/-- The value of a scalar of a kind; only scalars have these kinds. -/
def ofScalar (tag : Tag) (codes : List Nat) : Except Flaw Data :=
  let cs := codes.map Char.ofNat
  match tag with
  | .null => .ok .null
  | .bool => bool cs
  | .int => int cs
  | .float => float cs
  | .binary => binary codes
  | .timestamp => timestamp cs
  | .str => .ok (.ofCodes codes)
  | _ => .error .malformed

end LeasePlan.Yaml.Value
