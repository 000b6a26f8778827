import LeasePlan.Document.Data
import LeasePlan.Text.Numeral

namespace LeasePlan.Json

def isBlank (c : Char) : Bool := c = ' ' || c = '\n' || c = '\r' || c = '\t'

def skip (cs : List Char) : List Char := cs.dropWhile isBlank

/-- The code points of a list of UTF-16 units: a high and a low surrogate in a row are one. -/
def joinSurrogates : List Nat → List Nat
  | a :: b :: r =>
    if 0xD800 ≤ a && a < 0xDC00 && 0xDC00 ≤ b && b < 0xE000 then
      (0x10000 + (a - 0xD800) * 0x400 + (b - 0xDC00)) :: joinSurrogates r
    else a :: joinSurrogates (b :: r)
  | cs => cs

def escape? : Char → Option Char
  | '"' => some '"'
  | '\\' => some '\\'
  | '/' => some '/'
  | 'b' => some '\x08'
  | 'f' => some '\x0c'
  | 'n' => some '\n'
  | 'r' => some '\r'
  | 't' => some '\t'
  | _ => none

/-- The body of a string up to its closing quote as code points and units, and the rest. -/
def stringBody : List Char → Option (List Nat × List Char)
  | [] => none
  | '"' :: r => some ([], r)
  | '\\' :: 'u' :: a :: b :: c :: d :: r => do
    let n ← Numeral.hexadecimal? [a, b, c, d]
    let (ns, rest) ← stringBody r
    some (n :: ns, rest)
  | '\\' :: c :: r => do
    let e ← escape? c
    let (ns, rest) ← stringBody r
    some (e.toNat :: ns, rest)
  | c :: r =>
    if c.toNat < 32 then none
    else do
      let (ns, rest) ← stringBody r
      some (c.toNat :: ns, rest)

def string? (cs : List Char) : Option (Data × List Char) :=
  match cs with
  | '"' :: r => (stringBody r).map fun p => (Data.ofCodes (joinSurrogates p.1), p.2)
  | _ => none

def wholePart : List Char → Option (List Char × List Char)
  | '0' :: r => some (['0'], r)
  | cs =>
    let ds := cs.takeWhile Numeral.isDigit
    if ds.isEmpty then none else some (ds, cs.drop ds.length)

def fractionPart : List Char → Option (List Char × List Char)
  | '.' :: r =>
    let ds := r.takeWhile Numeral.isDigit
    if ds.isEmpty then none else some (ds, r.drop ds.length)
  | cs => some ([], cs)

def exponentPart : List Char → Option (Option Int × List Char)
  | c :: r =>
    if c = 'e' || c = 'E' then
      let (negative, digits) := match r with
        | '-' :: s => (true, s)
        | '+' :: s => (false, s)
        | s => (false, s)
      let ds := digits.takeWhile Numeral.isDigit
      if ds.isEmpty then none
      else
        let n : Int := Numeral.ofDigits 10 (ds.filterMap Numeral.digit?)
        some (some (if negative then -n else n), digits.drop ds.length)
    else some (none, c :: r)
  | [] => some (none, [])

/-- A number is whole if it is written without fraction and exponent. -/
def number? (cs : List Char) : Option (Data × List Char) := do
  let (negative, cs) := match cs with
    | '-' :: r => (true, r)
    | r => (false, r)
  let (whole, cs) ← wholePart cs
  let (places, cs) ← fractionPart cs
  let (exponent, cs) ← exponentPart cs
  let digits := Numeral.ofDigits 10 ((whole ++ places).filterMap Numeral.digit?)
  if places.isEmpty && exponent.isNone then
    some (.int (if negative then -(digits : Int) else digits), cs)
  else
    some (.float (Binary64.ofDecimal negative digits (exponent.getD 0 - places.length)), cs)

def word? (cs : List Char) : Option (Data × List Char) :=
  if "null".toList.isPrefixOf cs then some (.null, cs.drop 4)
  else if "true".toList.isPrefixOf cs then some (.bool true, cs.drop 4)
  else if "false".toList.isPrefixOf cs then some (.bool false, cs.drop 5)
  else none

mutual

/-- A value at the front of a text, nested no deeper than the fuel. -/
def value? : Nat → List Char → Option (Data × List Char)
  | 0, _ => none
  | fuel + 1, cs =>
    match skip cs with
    | '[' :: r =>
      match skip r with
      | ']' :: rest => some (.list [], rest)
      | r => (items? fuel r).map fun p => (.list p.1, p.2)
    | '\x7b' :: r =>
      match skip r with
      | '\x7d' :: rest => some (.mapping [], rest)
      | r => (entries? fuel [] r).map fun p => (.mapping p.1, p.2)
    | '"' :: r => string? ('"' :: r)
    | r => word? r <|> number? r

def items? : Nat → List Char → Option (List Data × List Char)
  | 0, _ => none
  | fuel + 1, cs => do
    let (v, r) ← value? fuel cs
    match skip r with
    | ',' :: r =>
      let (vs, rest) ← items? fuel r
      some (v :: vs, rest)
    | ']' :: rest => some ([v], rest)
    | _ => none

def entries? : Nat → List (Data × Data) → List Char → Option (List (Data × Data) × List Char)
  | 0, _, _ => none
  | fuel + 1, seen, cs => do
    let (k, r) ← string? (skip cs)
    match skip r with
    | ':' :: r =>
      let (v, r) ← value? fuel r
      match skip r with
      | ',' :: r => entries? fuel (Data.insert k v seen) r
      | '\x7d' :: rest => some (Data.insert k v seen, rest)
      | _ => none
    | _ => none

end

def read? (s : String) : Option Data :=
  let cs := s.toList
  match value? (cs.length + 1) cs with
  | some (v, rest) => if (skip rest).isEmpty then some v else none
  | none => none

def escaped (n : Nat) : List Char :=
  if n = 34 then ['\\', '"']
  else if n = 92 then ['\\', '\\']
  else if n < 32 || (0xD800 ≤ n && n < 0xE000) then '\\' :: 'u' :: Literal.hex 4 n
  else [Char.ofNat n]

def quoted (codes : List Nat) : String :=
  String.ofList ('"' :: (codes.flatMap escaped ++ ['"']))

mutual

/-- A JSON text for a value; what JSON has no form for is written as its spelling. -/
def write : Data → String
  | .null => "null"
  | .bool b => if b then "true" else "false"
  | .int n => toString n
  | .float x => x.text
  | .text s => quoted (s.toList.map Char.toNat)
  | .broken t => quoted (t.map CodePoint.number)
  | .bytes bs => quoted (bs.map UInt8.toNat)
  | .date y m d => quoted (s!"{y}-{m}-{d}".toList.map Char.toNat)
  | .instant t => quoted (s!"{t.year}-{t.month}-{t.day}".toList.map Char.toNat)
  | .list xs => "[" ++ ",".intercalate (writeAll xs) ++ "]"
  | .members xs => "[" ++ ",".intercalate (writeAll xs) ++ "]"
  | .mapping es => "\x7b" ++ ",".intercalate (writeEntries es) ++ "\x7d"

def writeAll : List Data → List String
  | [] => []
  | x :: xs => write x :: writeAll xs

def writeEntries : List (Data × Data) → List String
  | [] => []
  | (k, v) :: es => (write k ++ ":" ++ write v) :: writeEntries es

end

end LeasePlan.Json
