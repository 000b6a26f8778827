import LeasePlan.Number.Binary64
import LeasePlan.Text.Literal

namespace LeasePlan

/-- A moment with its offset from universal time in seconds, if it states one. -/
structure Instant where
  year : Nat
  month : Nat
  day : Nat
  hour : Nat
  minute : Nat
  second : Nat
  micros : Nat
  offset : Option Int
deriving DecidableEq, Inhabited

/-- Values that a document can hold. Mappings keep the order in which their keys first appeared, and
keys may be any scalar. -/
inductive Data
  | null
  | bool (value : Bool)
  | int (value : Int)
  | float (value : Binary64)
  | text (value : String)
  /-- A text in which there is a lone surrogate. -/
  | broken (value : RawText)
  | bytes (value : List UInt8)
  | date (year month day : Nat)
  | instant (value : Instant)
  | list (items : List Data)
  | mapping (entries : List (Data × Data))
  | members (items : List Data)
deriving Inhabited

namespace Data

def ofCodes (codes : List Nat) : Data :=
  if codes.any fun n => 0xD800 ≤ n && n < 0xE000 then .broken (codes.map CodePoint.ofNat)
  else .text (String.ofList (codes.map Char.ofNat))

/-- A text as a value; nothing stands for a surrogate where there is none. -/
def ofRaw (t : RawText) : Data := if t.isBroken then .broken t else .text t.lossy

/-- Whether a value is a text in which there is a lone surrogate. -/
def isBroken : Data → Bool
  | broken _ => true
  | _ => false

/-- The word for the kind of a value in diagnostics. -/
def kind : Data → String
  | null => "NoneType"
  | bool _ => "bool"
  | int _ => "int"
  | float _ => "float"
  | text _ => "str"
  | broken _ => "str"
  | bytes _ => "bytes"
  | date _ _ _ => "date"
  | instant _ => "datetime"
  | list _ => "list"
  | mapping _ => "dict"
  | members _ => "set"

/-- Null, false, every zero and everything empty count as absent. -/
def isBlank : Data → Bool
  | null => true
  | bool b => !b
  | int n => n = 0
  | float x => x.isZero
  | text s => s.isEmpty
  | broken t => t.isEmpty
  | bytes bs => bs.isEmpty
  | date _ _ _ => false
  | instant _ => false
  | list xs => xs.isEmpty
  | mapping es => es.isEmpty
  | members xs => xs.isEmpty

/-- The whole number that a value equals, if it is a number and whole. -/
def whole? : Data → Option Int
  | bool b => some (if b then 1 else 0)
  | int n => some n
  | float x => x.toInt?
  | _ => none

/-- Whether two scalars are one key: numbers by value, everything else by kind and content. -/
def sameKey : Data → Data → Bool
  | null, null => true
  | text a, text b => a = b
  | broken a, broken b => a = b
  | bytes a, bytes b => a = b
  | date y m d, date y' m' d' => y = y' && m = m' && d = d'
  | instant a, instant b => a = b
  | float a, float b => a ≠ .nan && (a = b || (a.isZero && b.isZero))
  | a, b =>
    match a.whole?, b.whole? with
    | some m, some n => m = n
    | _, _ => false

/-- Sets a key: a known key keeps its place and its spelling and gets the new value. -/
def insert (key value : Data) : List (Data × Data) → List (Data × Data)
  | [] => [(key, value)]
  | (k, v) :: es => if sameKey k key then (k, value) :: es else (k, v) :: insert key value es

def field? (name : String) : List (Data × Data) → Option Data
  | [] => none
  | (text k, v) :: es => if k = name then some v else field? name es
  | _ :: es => field? name es

/-- A mapping with text keys in the given order. -/
def object (fields : List (String × Data)) : Data :=
  mapping (fields.map fun f => (text f.1, f.2))

end Data

end LeasePlan
