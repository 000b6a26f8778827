import LeasePlan.Document.Scalar
import LeasePlan.Interface.Requirement

namespace LeasePlan

def Data.toAddress (d : Data) : Except Failure Address :=
  match d.address? with
  | some a => .ok a
  | none => .error (.notAddress d)

namespace AddressRange

def ofData (first last : Data) : Except Failure AddressRange := do
  let a ← first.toAddress
  let b ← last.toAddress
  Requirement.range a b

/-- What is wrong with the first key that names no end. -/
def keyFlaw? (es : List (Data × Data)) : Option EndsFlaw :=
  es.findSome? fun e =>
    match e.1 with
    | .text "start" => none
    | .text "end" => none
    | .text "self" => some (.reserved "self")
    | k => some (.unexpected k.display)

def endsOf (es : List (Data × Data)) : Except Failure (Data × Data) :=
  match keyFlaw? es with
  | some f => .error (.crash (.rangeEnds f))
  | none =>
    match Data.field? "start" es, Data.field? "end" es with
    | some a, some b => .ok (a, b)
    | some _, none => .error (.crash (.rangeEnds .noEnd))
    | none, some _ => .error (.crash (.rangeEnds .noStart))
    | none, none => .error (.crash (.rangeEnds .neither))

/-- A fault of the range and a value that is no address as an issue of the whole document. -/
def asIssue : Failure → Failure
  | .fault f => .issues [⟨[], .refused f.text.lossy⟩]
  | .notAddress d => .issues [⟨[], .refused (Failure.notAddressMessage d)⟩]
  | e => e

def ofDocument : Data → Except Failure AddressRange
  | .mapping es => do
    let (a, b) ← endsOf es
    (ofData a b).mapError asIssue
  | _ => .error (.issues [⟨[], .notObject "AddressRange"⟩])

end AddressRange

end LeasePlan
