namespace LeasePlan

/-- What texts are made of. A surrogate is half of a character and stands alone only where no
character is. -/
inductive CodePoint
  | char (value : Char)
  | surrogate (offset : Fin 2048)
deriving DecidableEq

namespace CodePoint

def number : CodePoint → Nat
  | char c => c.toNat
  | surrogate k => 0xD800 + k.val

def ofNat (n : Nat) : CodePoint :=
  if h : 0xD800 ≤ n ∧ n < 0xE000 then surrogate ⟨n - 0xD800, by omega⟩ else char (Char.ofNat n)

instance : LE CodePoint := ⟨fun a b => a.number ≤ b.number⟩

instance : LT CodePoint := ⟨fun a b => a.number < b.number⟩

instance (a b : CodePoint) : Decidable (a < b) :=
  inferInstanceAs (Decidable (a.number < b.number))

def char? : CodePoint → Option Char
  | char c => some c
  | surrogate _ => none

/-- A replacement character for each of the three bytes that a surrogate would have. -/
def lossy : CodePoint → List Char
  | char c => [c]
  | surrogate _ => List.replicate 3 (Char.ofNat 0xFFFD)

end CodePoint

/-- A text that may hold lone surrogates. -/
abbrev RawText := List CodePoint

namespace RawText

def ofChars (cs : List Char) : RawText := cs.map .char

def ofString (s : String) : RawText := ofChars s.toList

instance : Coe String RawText := ⟨ofString⟩

/-- The characters of a text without surrogates. -/
def chars? (t : RawText) : Option (List Char) := t.mapM CodePoint.char?

/-- Whether there is a lone surrogate, so that the text cannot be written as bytes. -/
def isBroken (t : RawText) : Bool := t.any fun c => c.char?.isNone

/-- The text with a character in place of each surrogate. -/
def marked (mark : Char) (t : RawText) : String :=
  String.ofList (t.map fun c => c.char?.getD mark)

/-- The text that is left when it is written as bytes and read again. -/
def lossy (t : RawText) : String := String.ofList (t.flatMap CodePoint.lossy)

end RawText

end LeasePlan
