import LeasePlan.Text.Literal
import LeasePlan.Text.Parts
import LeasePlan.Text.Quoted

namespace LeasePlan

namespace DomainName

def maxLength : Nat := 253

def maxLabelLength : Nat := 63

inductive LabelFlaw
  | empty
  | tooLong
  | badChar (char : CodePoint) (index : Nat)
  | hyphenAtEnd
  /-- A character is refused, yet none is found that may not stand in a label. -/
  | unexplained
deriving DecidableEq

inductive Flaw
  | empty
  | tooLong
  | label (label : RawText) (flaw : LabelFlaw)
deriving DecidableEq

def isLabelChar : CodePoint → Bool
  | .char c =>
    ('a' ≤ c && c ≤ 'z') || ('A' ≤ c && c ≤ 'Z') || ('0' ≤ c && c ≤ '9') || c = '_' || c = '-'
  | .surrogate _ => false

/-- An ASCII letter or digit, an underscore or a hyphen. -/
def isFamiliar : CodePoint → Bool
  | .char c => c.toNat < 128 && (c.isAlphanum || c = '_' || c = '-')
  | .surrogate _ => false

/-- The first of the other characters, with its place. -/
def foreignChar? (cs : RawText) : Option (CodePoint × Nat) :=
  cs.zipIdx.find? fun p => !isFamiliar p.1

def labelFlaw? (cs : RawText) : Option LabelFlaw :=
  if cs.isEmpty then some .empty
  else if maxLabelLength < cs.length then some .tooLong
  else if !cs.all isLabelChar then
    match foreignChar? cs with
    | some (c, i) => some (.badChar c i)
    | none => some .unexplained
  else if cs.head? = some (.char '-') || cs.getLast? = some (.char '-') then some .hyphenAtEnd
  else none

def flaw? (cs : RawText) : Option Flaw :=
  if cs.isEmpty then some .empty
  else if maxLength < cs.length then some .tooLong
  else (Text.parts (.char '.') cs).findSome? fun l => (labelFlaw? l).map (.label l)

def LabelFlaw.reason : LabelFlaw → String
  | .empty => "label is empty"
  | .tooLong => "label is too long, max: " ++ toString maxLabelLength
  | .badChar c i => "bad char " ++ Literal.ofRaw [c] ++ " at index " ++ toString i
  | .hyphenAtEnd => "label must not start or end with a hyphen"
  | .unexplained => ""

def Flaw.reason : Flaw → RawText
  | .empty => "domain name is empty"
  | .tooLong => "domain name is too long, max: " ++ toString maxLength
  | .label l f => "bad domain name label " ++ quote l ++ ": " ++ f.reason

end DomainName

end LeasePlan
