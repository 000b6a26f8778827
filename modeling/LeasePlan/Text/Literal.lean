import LeasePlan.Text.CodePoint
import LeasePlan.Text.Printable

namespace LeasePlan.Literal

def apostrophe : Char := Char.ofNat 39

def hexDigit (n : Nat) : Char :=
  if n < 10 then Char.ofNat (48 + n) else Char.ofNat (87 + n)

/-- The lowest `width` hexadecimal digits of a number. -/
def hex : Nat → Nat → List Char
  | 0, _ => []
  | width + 1, n => hex width (n / 16) ++ [hexDigit (n % 16)]

/-- The quotation mark that needs fewest escapes. -/
def delimiter (cs : List Char) : Char :=
  if cs.contains apostrophe && !cs.contains '"' then '"' else apostrophe

/-- A control or unprintable character by its number. -/
def numbered (n : Nat) : List Char :=
  if n < 0x100 then '\\' :: 'x' :: hex 2 n
  else if n < 0x10000 then '\\' :: 'u' :: hex 4 n
  else '\\' :: 'U' :: hex 8 n

def escapeChar (mark c : Char) : List Char :=
  if c = mark || c = '\\' then ['\\', c]
  else if c = '\n' then ['\\', 'n']
  else if c = '\r' then ['\\', 'r']
  else if c = '\t' then ['\\', 't']
  else if isPrintable c then [c]
  else numbered c.toNat

def ofChars (cs : List Char) : List Char :=
  let mark := delimiter cs
  mark :: (cs.flatMap (escapeChar mark) ++ [mark])

def ofString (s : String) : String := String.ofList (ofChars s.toList)

/-- Surrogates are written by number. -/
def escape (mark : Char) : CodePoint → List Char
  | .char c => escapeChar mark c
  | .surrogate k => numbered (CodePoint.surrogate k).number

def ofRaw (t : RawText) : String :=
  let mark := delimiter (t.filterMap CodePoint.char?)
  String.ofList (mark :: (t.flatMap (escape mark) ++ [mark]))

/-- Bytes above 126 are always escaped, so only the ASCII rules of `escapeChar` apply. -/
def ofBytes (bs : List UInt8) : String :=
  let cs := bs.map fun b => Char.ofNat b.toNat
  let mark := delimiter cs
  let body := cs.flatMap fun c => if c.toNat < 128 then escapeChar mark c else numbered c.toNat
  String.ofList ('b' :: mark :: (body ++ [mark]))

end LeasePlan.Literal
