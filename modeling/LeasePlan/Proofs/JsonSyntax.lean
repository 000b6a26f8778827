import Mathlib
import LeasePlan.Document.Json

namespace LeasePlan.Json

/-- White space around values and marks. -/
structure Gap where
  chars : List Char
  blank : ∀ c ∈ chars, isBlank c = true

/-- The values that are written with letters. -/
inductive Word
  | null
  | bool (value : Bool)

namespace Word

def chars : Word → List Char
  | null => ['n', 'u', 'l', 'l']
  | bool true => ['t', 'r', 'u', 'e']
  | bool false => ['f', 'a', 'l', 's', 'e']

def data : Word → Data
  | null => .null
  | bool b => .bool b

end Word

structure Digits where
  chars : List Char
  ne_nil : chars ≠ []
  isDigit : ∀ c ∈ chars, Numeral.isDigit c = true

def valueOf (cs : List Char) : Nat := Numeral.ofDigits 10 (cs.filterMap Numeral.digit?)

/-- What stands before the digits of an exponent. -/
inductive Sign
  | none
  | plus
  | minus
deriving DecidableEq

def Sign.chars : Sign → List Char
  | none => []
  | plus => ['+']
  | minus => ['-']

structure Exponent where
  mark : Char
  sign : Sign
  digits : Digits
  isMark : mark = 'e' ∨ mark = 'E'

namespace Exponent

def chars (e : Exponent) : List Char := e.mark :: (e.sign.chars ++ e.digits.chars)

def value (e : Exponent) : Int :=
  if e.sign = .minus then -(valueOf e.digits.chars : Int) else valueOf e.digits.chars

end Exponent

/-- The number with these digits before and behind its point; it is whole if it has neither a point
nor an exponent. -/
def numberOf (negative : Bool) (whole places : List Char) (exponent : Option Int) : Data :=
  let digits := valueOf (whole ++ places)
  if places.isEmpty && exponent.isNone then .int (if negative then -(digits : Int) else digits)
  else .float (Binary64.ofDecimal negative digits (exponent.getD 0 - places.length))

structure Number where
  negative : Bool
  whole : Digits
  places : Option Digits
  exponent : Option Exponent
  /-- Only zero itself begins with a zero. -/
  head : whole.chars.head? = some '0' → whole.chars = ['0']

namespace Number

def fraction (n : Number) : List Char := n.places.elim [] fun ds => '.' :: ds.chars

/-- The digits behind the point. -/
def placeDigits (n : Number) : List Char := n.places.elim [] Digits.chars

def power (n : Number) : List Char := n.exponent.elim [] Exponent.chars

/-- The characters behind the sign. -/
def magnitude (n : Number) : List Char := n.whole.chars ++ (n.fraction ++ n.power)

def chars (n : Number) : List Char :=
  if n.negative then '-' :: n.magnitude else n.magnitude

def data (n : Number) : Data :=
  numberOf n.negative n.whole.chars n.placeDigits (n.exponent.map Exponent.value)

end Number

/-- A part of a string: a character as it is, a character behind a backslash, or the four digits of
a unit. -/
inductive Piece
  | raw (c : Char) (h : 32 ≤ c.toNat ∧ c ≠ '"' ∧ c ≠ '\\')
  | escape (mark value : Char) (h : escape? mark = some value)
  | unit (a b c d : Char) (code : Nat) (h : Numeral.hexadecimal? [a, b, c, d] = some code)

namespace Piece

def chars : Piece → List Char
  | raw c _ => [c]
  | escape mark _ _ => ['\\', mark]
  | unit a b c d _ _ => ['\\', 'u', a, b, c, d]

def code : Piece → Nat
  | raw c _ => c.toNat
  | escape _ value _ => value.toNat
  | unit _ _ _ _ code _ => code

end Piece

/-- The pieces of a string with its closing quote. -/
def body (ps : List Piece) : List Char := ps.flatMap Piece.chars ++ ['"']

def quote (ps : List Piece) : List Char := '"' :: body ps

def codes (ps : List Piece) : List Nat := ps.map Piece.code

def text (ps : List Piece) : Data := .ofCodes (joinSurrogates (codes ps))

/-- The name of an entry with the white space around it. -/
structure Key where
  before : Gap
  pieces : List Piece
  after : Gap

def Key.chars (k : Key) : List Char := k.before.chars ++ (quote k.pieces ++ k.after.chars)

mutual

inductive Value
  | word (w : Word)
  | number (n : Number)
  | string (pieces : List Piece)
  | emptyList (gap : Gap)
  | list (items : Items)
  | emptyObject (gap : Gap)
  | object (entries : Entries)

/-- A value with the white space around it. -/
inductive Slot
  | mk (before : Gap) (value : Value) (after : Gap)

inductive Items
  | last (item : Slot)
  | more (item : Slot) (rest : Items)

inductive Entries
  | last (key : Key) (value : Slot)
  | more (key : Key) (value : Slot) (rest : Entries)

end

namespace Slot

def value : Slot → Value
  | mk _ value _ => value

def after : Slot → Gap
  | mk _ _ after => after

end Slot

mutual

def Value.chars : Value → List Char
  | .word w => w.chars
  | .number n => n.chars
  | .string ps => quote ps
  | .emptyList gap => '[' :: (gap.chars ++ [']'])
  | .list items => '[' :: (items.chars ++ [']'])
  | .emptyObject gap => '\x7b' :: (gap.chars ++ ['\x7d'])
  | .object entries => '\x7b' :: (entries.chars ++ ['\x7d'])

def Slot.chars : Slot → List Char
  | .mk before value after => before.chars ++ (value.chars ++ after.chars)

def Items.chars : Items → List Char
  | .last item => item.chars
  | .more item rest => item.chars ++ ',' :: rest.chars

def Entries.chars : Entries → List Char
  | .last key value => key.chars ++ ':' :: value.chars
  | .more key value rest => key.chars ++ ':' :: (value.chars ++ ',' :: rest.chars)

end

mutual

def Value.data : Value → Data
  | .word w => w.data
  | .number n => n.data
  | .string ps => text ps
  | .emptyList _ => .list []
  | .list items => .list items.data
  | .emptyObject _ => .mapping []
  | .object entries => .mapping (entries.dataOver [])

def Slot.data : Slot → Data
  | .mk _ value _ => value.data

def Items.data : Items → List Data
  | .last item => [item.data]
  | .more item rest => item.data :: rest.data

/-- The entries set over those before them. -/
def Entries.dataOver (seen : List (Data × Data)) : Entries → List (Data × Data)
  | .last key value => Data.insert (text key.pieces) value.data seen
  | .more key value rest =>
    rest.dataOver (Data.insert (text key.pieces) value.data seen)

end

end LeasePlan.Json
