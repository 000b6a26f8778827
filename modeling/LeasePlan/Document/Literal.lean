import LeasePlan.Document.Data
import LeasePlan.Text.Numeral

namespace LeasePlan.Data

def commaSeparated (parts : List String) : String := ", ".intercalate parts

/-- A span of time as whole days and seconds of one sign. -/
def offsetLiteral (seconds : Int) : String :=
  let days := seconds.fdiv 86400
  let rest := seconds.fmod 86400
  let parts := (if days = 0 then [] else [s!"days={days}"]) ++
    (if rest = 0 then [] else [s!"seconds={rest}"])
  if parts.isEmpty then "datetime.timedelta(0)"
  else s!"datetime.timedelta({commaSeparated parts})"

def instantLiteral (t : Instant) : String :=
  let clock := [toString t.year, toString t.month, toString t.day, toString t.hour,
    toString t.minute]
  let clock := clock ++
    (if t.second = 0 && t.micros = 0 then [] else [toString t.second]) ++
    (if t.micros = 0 then [] else [toString t.micros])
  let zone := match t.offset with
    | none => []
    | some 0 => ["tzinfo=datetime.timezone.utc"]
    | some s => [s!"tzinfo=datetime.timezone({offsetLiteral s})"]
  s!"datetime.datetime({commaSeparated (clock ++ zone)})"

mutual

/-- The spelling in which each kind of value can be told from every other. -/
def literal : Data → String
  | null => "None"
  | bool b => if b then "True" else "False"
  | int n => toString n
  | float x => x.text
  | text s => Literal.ofString s
  | broken t => Literal.ofRaw t
  | bytes bs => Literal.ofBytes bs
  | date y m d => s!"datetime.date({y}, {m}, {d})"
  | instant t => instantLiteral t
  | list xs => s!"[{commaSeparated (literals xs)}]"
  | mapping es => "\x7b" ++ commaSeparated (entryLiterals es) ++ "\x7d"
  | members xs => if xs.isEmpty then "set()" else "\x7b" ++ commaSeparated (literals xs) ++ "\x7d"

def literals : List Data → List String
  | [] => []
  | x :: xs => literal x :: literals xs

def entryLiterals : List (Data × Data) → List String
  | [] => []
  | (k, v) :: es => (literal k ++ ": " ++ literal v) :: entryLiterals es

end

/-- The spelling inside a sentence: a text stands for itself. -/
def display : Data → RawText
  | text s => s
  | broken t => t
  | v => literal v

/-- The spelling as a step of a location: a truth value by its number, a text as it is, but for
surrogates. -/
def step : Data → String
  | text s => s
  | bool b => if b then "1" else "0"
  | broken t => t.lossy
  | v => literal v

end LeasePlan.Data
