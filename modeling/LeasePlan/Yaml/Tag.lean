import LeasePlan.Text.Numeral
import LeasePlan.Text.Parts
import LeasePlan.Yaml.Cursor

namespace LeasePlan.Yaml

inductive Tag
  | null
  | bool
  | int
  | float
  | binary
  | timestamp
  | str
  | seq
  | map
  | set
  | omap
  | pairs
  | merge
  | value
  /-- A kind that no value is made of. -/
  | unknown
deriving DecidableEq

namespace Tag

/-- The start of the names of all tags that are known. -/
def family : String := "tag:yaml.org,2002:"

def names : List (String × Tag) :=
  [("null", null), ("bool", bool), ("int", int), ("float", float), ("binary", binary),
    ("timestamp", timestamp), ("str", str), ("seq", seq), ("map", map), ("set", set),
    ("omap", omap), ("pairs", pairs), ("merge", merge), ("value", value)]

def ofName (cs : List Char) : Tag :=
  ((names.find? fun p => (family ++ p.1).toList = cs).map Prod.snd).getD unknown

def boolWords : List String :=
  ["yes", "Yes", "YES", "no", "No", "NO", "true", "True", "TRUE", "false", "False", "FALSE",
    "on", "On", "ON", "off", "Off", "OFF"]

def nullWords : List String := ["", "~", "null", "Null", "NULL"]

def unsigned : List Char → List Char
  | '-' :: r => r
  | '+' :: r => r
  | cs => cs

def isDigitOrLine (c : Char) : Bool := Numeral.isDigit c || c = '_'

/-- A digit and then digits and underscores. -/
def isDigits : List Char → Bool
  | [] => false
  | c :: r => Numeral.isDigit c && r.all isDigitOrLine

def isSixtieth : List Char → Bool
  | [c] => Numeral.isDigit c
  | [b, c] => '0' ≤ b && b ≤ '5' && Numeral.isDigit c
  | _ => false

def isDigitOf (digits : String) (c : Char) : Bool := digits.toList.contains c

/-- Binary, octal, decimal and hexadecimal numbers, and numbers to the base sixty. -/
def isInt (cs : List Char) : Bool :=
  let ds := unsigned cs
  match ds with
  | '0' :: 'b' :: r => !r.isEmpty && r.all (isDigitOf "01_")
  | '0' :: 'x' :: r => !r.isEmpty && r.all (isDigitOf "0123456789abcdefABCDEF_")
  | '0' :: r => r.all (isDigitOf "01234567_")
  | ds =>
    match Text.parts ':' ds with
    | first :: rest => isDigits first && rest.all isSixtieth
    | [] => false

/-- A power of ten, whose sign must be written. -/
def isExponent : List Char → Bool
  | e :: s :: r =>
    (e = 'e' || e = 'E') && (s = '-' || s = '+') && !r.isEmpty && r.all Numeral.isDigit
  | _ => false

/-- Decimal places and a power of ten, both of which may be missing. -/
def isPlaces (cs : List Char) : Bool :=
  let rest := cs.dropWhile isDigitOrLine
  rest.isEmpty || isExponent rest

/-- Numbers with a decimal point, also to the base sixty, and what is no finite number. -/
def isFloat (cs : List Char) : Bool :=
  let ds := unsigned cs
  if [".inf", ".Inf", ".INF"].contains (String.ofList ds) then true
  else if [".nan", ".NaN", ".NAN"].contains (String.ofList cs) then true
  else
    match Text.cut '.' ds with
    | ([], some places) => ds = cs && (places.head?.any Numeral.isDigit) && isPlaces places
    | (whole, some places) =>
      match Text.parts ':' whole with
      | [w] => isDigits w && isPlaces places
      | w :: ws => isDigits w && ws.all isSixtieth && places.all isDigitOrLine
      | [] => false
    | _ => false

def isDigitRun (least most : Nat) (cs : List Char) : Bool :=
  least ≤ cs.length && cs.length ≤ most && cs.all Numeral.isDigit

/-- Hours, minutes and seconds, the last with decimal places if there are any. -/
def isClock (cs : List Char) : Bool :=
  match Text.parts ':' cs with
  | [h, m, s] =>
    let (whole, places) := Text.cut '.' s
    isDigitRun 1 2 h && isDigitRun 2 2 m && isDigitRun 2 2 whole &&
      (places.getD []).all Numeral.isDigit
  | _ => false

/-- An offset from universal time, behind its sign. -/
def isOffset (cs : List Char) : Bool :=
  match Text.parts ':' cs with
  | [h] => isDigitRun 1 2 h
  | [h, m] => isDigitRun 1 2 h && isDigitRun 2 2 m
  | _ => false

def isGap (c : Char) : Bool := c = ' ' || c = '\t'

/-- The parts of a moment: year, month and day, and the time of day with what follows it. -/
def splitMoment? (cs : List Char) : Option (List Char × List Char × List Char × List Char) :=
  match Text.cut '-' cs with
  | (year, some r) =>
    match Text.cut '-' r with
    | (month, some r) =>
      let day := r.takeWhile Numeral.isDigit
      some (year, month, day, r.drop day.length)
    | _ => none
  | _ => none

/-- The time of day behind a letter or blanks. -/
def clockPart? (cs : List Char) : Option (List Char) :=
  match cs with
  | 'T' :: r => some r
  | 't' :: r => some r
  | c :: r => if isGap c then some (r.dropWhile isGap) else none
  | [] => none

/-- A time of day, and the mark of its zone without the blanks before it. -/
def splitClock (cs : List Char) : List Char × List Char :=
  let clock := cs.takeWhile fun c => Numeral.isDigit c || c = ':' || c = '.'
  (clock, (cs.drop clock.length).dropWhile isGap)

def isZone : List Char → Bool
  | [] => true
  | ['Z'] => true
  | '+' :: r => isOffset r
  | '-' :: r => isOffset r
  | _ => false

/-- A date with two digits for month and day, or a date with a time of day. -/
def isTimestamp (cs : List Char) : Bool :=
  match splitMoment? cs with
  | none => false
  | some (year, month, day, rest) =>
    if rest.isEmpty then isDigitRun 4 4 year && isDigitRun 2 2 month && isDigitRun 2 2 day
    else
      match clockPart? rest with
      | none => false
      | some r =>
        let (clock, zone) := splitClock r
        isDigitRun 4 4 year && isDigitRun 1 2 month && isDigitRun 1 2 day && isClock clock &&
          isZone zone && (r.length = clock.length + zone.length || !zone.isEmpty)

/-- A text without the line break at its end, which makes no difference to its kind. -/
def chomp (cs : List Char) : List Char :=
  if cs.getLast? = some '\n' then cs.dropLast else cs

/-- The kind that a text looks like. -/
def ofText (text : List Char) : Tag :=
  let cs := chomp text
  let s := String.ofList cs
  if boolWords.contains s then bool
  else if isFloat cs then float
  else if isInt cs then int
  else if s = "<<" then merge
  else if nullWords.contains s then null
  else if isTimestamp cs then timestamp
  else if s = "=" then value
  else if ["!", "&", "*"].contains s then unknown
  else str

end Tag

end LeasePlan.Yaml
