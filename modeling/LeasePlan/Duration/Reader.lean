import LeasePlan.Duration.Basic
import LeasePlan.Number.Binary64

namespace LeasePlan.Duration

inductive Flaw
  | notDuration
  | tooShort
  | extraCharacters
  | invalidDigit
  | repeatedTimeMark
  | fractionNotLast
  | invalidDateUnit
  | invalidTimeUnit
  | invalidDayWord
  | invalidHour
  | invalidMinute
  | invalidSecond
  | invalidSeparator
  | minuteOutOfRange
  | secondOutOfRange
  | fractionTooLong
  | fractionMissing
  | hoursTooLarge
  | valueTooLarge
  | daysTooLarge
  | notNumber
deriving DecidableEq

namespace Flaw

def detail? : Flaw → Option String
  | notDuration => none
  | tooShort => some "input is too short"
  | extraCharacters => some "unexpected extra characters at the end of the input"
  | invalidDigit => some "invalid digit in duration"
  | repeatedTimeMark => some "\x60t\x60 character repeated in duration"
  | fractionNotLast => some "quantity fraction invalid in duration"
  | invalidDateUnit => some "quantity invalid in date part of duration"
  | invalidTimeUnit => some "quantity invalid in time part of duration"
  | invalidDayWord => some "\"day\" identifier in duration not correctly formatted"
  | invalidHour => some "invalid character in hour"
  | invalidMinute => some "invalid character in minute"
  | invalidSecond => some "invalid character in second"
  | invalidSeparator => some "invalid time separator, expected \x60:\x60"
  | minuteOutOfRange => some "minute value is outside expected range of 0-59"
  | secondOutOfRange => some "second value is outside expected range of 0-59"
  | fractionTooLong => some "second fraction value is more than 6 digits long"
  | fractionMissing => some "second fraction digits missing after \x60.\x60"
  | hoursTooLarge => some "durations may not exceed 999,999,999 hours"
  | valueTooLarge => some "a numeric value in the duration is too large"
  | daysTooLarge => some "durations may not exceed 999,999,999 days"
  | notNumber => some "NaN values not permitted"

def message (f : Flaw) : String :=
  match f.detail? with
  | none => "Input should be a valid timedelta"
  | some d => "Input should be a valid timedelta, " ++ d

end Flaw

/-- A magnitude as read, before its parts are carried over into one another. -/
structure Parts where
  days : Nat
  seconds : Nat
  micros : Nat
deriving DecidableEq

namespace Parts

def total (p : Parts) : Nat := (p.days * 86400 + p.seconds) * 1000000 + p.micros

/-- The magnitude in microseconds, of at most 999 999 999 whole days. -/
def settle (p : Parts) : Except Flaw Nat :=
  if 999999999 < p.total / 86400000000 then .error .daysTooLarge else .ok p.total

end Parts

/-- Digits at the front of a text as a number of 32 bits. -/
def number (cs : List Char) : Except Flaw (Nat × List Char) :=
  let ds := cs.takeWhile Numeral.isDigit
  if ds.isEmpty then .error .invalidDigit
  else
    let n := Numeral.ofDigits 10 (ds.filterMap Numeral.digit?)
    if 4294967295 < n then .error .valueTooLarge else .ok (n, cs.drop ds.length)

def fractionOf (ds : List Nat) : Binary64 :=
  let ten := Binary64.ofInt 10
  let p := ds.foldl
    (fun (p : Binary64 × Binary64) (d : Nat) =>
      ((p.1.mul ten).add (Binary64.ofInt d), p.2.mul ten))
    (Binary64.zero, Binary64.ofInt 1)
  p.1.div p.2

/-- A number with decimal places after a point or a comma, if there are any. -/
def numberWithFraction (cs : List Char) :
    Except Flaw (Nat × Option Binary64 × List Char) := do
  let (n, r) ← number cs
  match r with
  | [] => .ok (n, none, [])
  | c :: s =>
    if c = '.' || c = ',' then
      let ds := s.takeWhile Numeral.isDigit
      .ok (n, some (fractionOf (ds.filterMap Numeral.digit?)), s.drop ds.length)
    else .ok (n, none, c :: s)

def dateUnit? : Char → Option Nat
  | 'Y' => some 365
  | 'M' => some 30
  | 'W' => some 7
  | 'D' => some 1
  | _ => none

def timeUnit? : Char → Option Nat
  | 'H' => some 3600
  | 'M' => some 60
  | 'S' => some 1
  | _ => none

/-- The nearest whole count of microseconds in a part of a second. -/
def microsOf (fraction : Binary64) : Nat := (fraction.mul (Binary64.ofInt 1000000)).roundHalfUp

/-- Adds a count of date units; a fraction of them is days, seconds and microseconds. -/
def Parts.addDate (p : Parts) (n unit : Nat) (fraction : Option Binary64) : Parts :=
  let days := p.days + n * unit
  match fraction with
  | none => { p with days := days }
  | some f =>
    let extra := f.mul (Binary64.ofInt unit)
    let seconds := extra.fractionPart.mul (Binary64.ofInt 86400)
    ⟨days + extra.wholePart, p.seconds + seconds.wholePart,
      p.micros + microsOf seconds.fractionPart⟩

/-- Adds a count of time units; a fraction of them is seconds and microseconds. -/
def Parts.addTime (p : Parts) (n unit : Nat) (fraction : Option Binary64) : Parts :=
  let seconds := p.seconds + n * unit
  match fraction with
  | none => { p with seconds := seconds }
  | some f =>
    let extra := f.mul (Binary64.ofInt unit)
    ⟨p.days, seconds + extra.wholePart, p.micros + microsOf extra.fractionPart⟩

def Parts.check (p : Parts) : Except Flaw Parts :=
  if 4294967295 < p.days || 4294967295 < p.seconds then .error .valueTooLarge else .ok p

/-- Counts with their units; those behind the mark `T` are units of time. Fuel bounds the counts. -/
def isoUnits : Nat → Bool → Bool → Parts → List Char → Except Flaw Parts
  | _, _, _, p, [] => .ok p
  | 0, _, _, _, _ => .error .tooShort
  | fuel + 1, inTime, fractionSeen, p, c :: r =>
    if c = 'T' then
      if inTime then .error .repeatedTimeMark else isoUnits fuel true fractionSeen p r
    else do
      let (n, fraction, rest) ← numberWithFraction (c :: r)
      if fractionSeen then .error .fractionNotLast
      else if inTime then
        match rest with
        | [] => .error .invalidTimeUnit
        | u :: rest =>
          match timeUnit? u with
          | none => .error .invalidTimeUnit
          | some unit =>
            isoUnits fuel true fraction.isSome (← (p.addTime n unit fraction).check) rest
      else
        match rest with
        | [] => .error .invalidDateUnit
        | u :: rest =>
          match dateUnit? u with
          | none => .error .invalidDateUnit
          | some unit =>
            isoUnits fuel false fraction.isSome (← (p.addDate n unit fraction).check) rest

def twoDigits (flaw : Flaw) : List Char → Except Flaw (Nat × List Char)
  | [] => .error .tooShort
  | [a] => if Numeral.isDigit a then .error .tooShort else .error flaw
  | a :: b :: r =>
    match Numeral.digit? a, Numeral.digit? b with
    | some m, some n => .ok (10 * m + n, r)
    | _, _ => .error flaw

def clockFraction (cs : List Char) : Except Flaw (Nat × List Char) :=
  let ds := cs.takeWhile Numeral.isDigit
  if ds.isEmpty then .error .fractionMissing
  else if 6 < ds.length then .error .fractionTooLong
  else
    .ok (Numeral.ofDigits 10 (ds.filterMap Numeral.digit?) * Nat.pow 10 (6 - ds.length),
      cs.drop ds.length)

/-- Minutes, and seconds with their fraction if there are any, as seconds and microseconds. -/
def minutesAndSeconds (cs : List Char) : Except Flaw (Nat × Nat) := do
  if cs.length < 2 then .error .tooShort
  else if 12 < cs.length then .error .fractionTooLong
  else
    let (m, r) ← twoDigits .invalidMinute cs
    if 59 < m then .error .minuteOutOfRange
    else
      match r with
      | ':' :: r =>
        let (s, r) ← twoDigits .invalidSecond r
        if 59 < s then .error .secondOutOfRange
        else
          match r with
          | [] => .ok (60 * m + s, 0)
          | c :: r =>
            if c = '.' || c = ',' then
              let (f, r) ← clockFraction r
              if r.isEmpty then .ok (60 * m + s, f) else .error .extraCharacters
            else .error .extraCharacters
      | [] => .ok (60 * m, 0)
      | _ => .error .extraCharacters

/-- Hours up to the first colon; there may be any number of them. -/
def hours (cs : List Char) : Except Flaw (Nat × List Char) :=
  if !cs.contains ':' then .error .invalidHour
  else
    let hs := cs.takeWhile (· ≠ ':')
    if hs.all Numeral.isDigit then
      let h := Numeral.ofDigits 10 (hs.filterMap Numeral.digit?)
      if 2400000000 < h then .error .hoursTooLarge else .ok (h, cs.drop (hs.length + 1))
    else .error .invalidHour

def clock (cs : List Char) : Except Flaw Parts := do
  if cs.length < 5 then .error .tooShort
  else
    let (h, r) ← hours cs
    let (seconds, micros) ← minutesAndSeconds r
    .ok ⟨h / 24, h % 24 * 3600 + seconds, micros⟩

def isD (c : Char) : Bool := c = 'd' || c = 'D'

/-- The rest of the word for days after its first letter. -/
def dayWord : List Char → Except Flaw (List Char)
  | a :: r =>
    if a = 'a' || a = 'A' then
      match r with
      | y :: r =>
        if y = 'y' || y = 'Y' then
          match r with
          | s :: t => .ok (if s = 's' || s = 'S' then t else r)
          | [] => .ok []
        else .error .invalidDayWord
      | [] => .error .invalidDayWord
    else .ok (a :: r)
  | [] => .ok []

/-- A count of days and, after a comma or a blank, a time of day. -/
def daysAndClock (cs : List Char) : Except Flaw Parts := do
  if cs.isEmpty then .error .tooShort
  else
    let (n, r) ← number cs
    let r := if r.head? = some ' ' then r.tail else r
    match r with
    | c :: r =>
      if !isD c then .error .invalidDayWord
      else
        let r ← dayWord r
        let r := if r.head? = some ',' then r.tail else r
        let r := if r.head? = some ' ' then r.tail else r
        if r.isEmpty then .ok ⟨n, 0, 0⟩
        else
          let p ← clock r
          .ok { p with days := p.days + n }
    | [] => .error .invalidDayWord

/-- The microseconds of a text, given as its bytes with a mark for each that is not ASCII. -/
def readMicros (cs : List Char) : Except Flaw Int := do
  let (negative, r) := match cs with
    | '+' :: r => (false, r)
    | '-' :: r => (true, r)
    | r => (false, r)
  let parts ← match r with
    | 'P' :: units => do
      let p ← isoUnits (units.length + 1) false false ⟨0, 0, 0⟩ units
      if cs.length < 3 then .error .tooShort else .ok p
    | _ =>
      if cs.isEmpty then .error .tooShort
      else if cs.any isD || cs.length < 5 then daysAndClock r
      else clock r
  let n ← parts.settle
  .ok (if negative then -(n : Int) else n)

/-- The bytes of a text, with a question mark for each that is not ASCII. -/
def asciiBytes (cs : List Char) : List Char :=
  cs.flatMap fun c => if c.toNat < 128 then [c] else List.replicate c.utf8Size '?'

/-- Whole seconds; their whole days are counted in 32 bits, without regard to any that get lost. -/
def microsOfInt (n : Int) : Except Flaw Int :=
  let p : Parts := ⟨n.natAbs / 86400 % 4294967296, n.natAbs % 86400, 0⟩
  p.settle.map fun m => if n < 0 then -(m : Int) else m

/-- Seconds as a floating-point number, rounded to microseconds with halves away from zero. -/
def microsOfFloat : Binary64 → Except Flaw Int
  | .nan => .error .notNumber
  | .infinite _ => .error .daysTooLarge
  | .finite s m e =>
    let x := Binary64.finite false m e
    let p : Parts := ⟨(x.div (Binary64.ofInt 86400)).wholePart, x.wholePart % 86400,
      microsOf x.fractionPart⟩
    p.settle.map fun n => if s then -(n : Int) else n

end LeasePlan.Duration
