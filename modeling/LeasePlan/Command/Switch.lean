import LeasePlan.Text.Parts

namespace LeasePlan

structure Switch where
  name : String
  letter : Option Char
  takesValue : Bool
deriving DecidableEq

inductive SwitchFlaw
  | unknown
  | valueMissing
  | valueNotTaken
deriving DecidableEq

/-- Switches by name, each with its value if it takes one, and the other words. -/
structure Words where
  switches : List (String × String)
  operands : List String
deriving DecidableEq

/-- The switches in one word, and one that waits for the next word as its value. -/
structure OneWord where
  given : List (String × String)
  waiting : Option String
deriving DecidableEq

namespace Switch

/-- Switches whose letters stand together. -/
def readLetters (known : List Switch) : List Char → Except SwitchFlaw OneWord
  | [] => .ok ⟨[], none⟩
  | c :: r =>
    match known.find? fun s => s.letter = some c with
    | none => .error .unknown
    | some s =>
      if s.takesValue then
        if r.isEmpty then .ok ⟨[], some s.name⟩
        else .ok ⟨[(s.name, String.ofList r)], none⟩
      else (readLetters known r).map fun w => { w with given := (s.name, "") :: w.given }

/-- A long switch, with what stands behind its equals sign. -/
def readLong (s : Switch) (value : Option (List Char)) : Except SwitchFlaw OneWord :=
  match s.takesValue, value with
  | true, some v => .ok ⟨[(s.name, String.ofList v)], none⟩
  | true, none => .ok ⟨[], some s.name⟩
  | false, some _ => .error .valueNotTaken
  | false, none => .ok ⟨[(s.name, "")], none⟩

def readWord (known : List Switch) (word : List Char) : Except SwitchFlaw OneWord :=
  let (body, value) := Text.cut '=' word
  match known.find? fun s => body = '-' :: '-' :: s.name.toList with
  | some s => readLong s value
  | none =>
    match word with
    | '-' :: '-' :: _ => .error .unknown
    | _ => readLetters known word.tail

def isSwitch (word : String) : Bool :=
  match word.toList with
  | '-' :: _ :: _ => true
  | _ => false

/-- Reads words up to two lone hyphens, or up to the first operand if no switches may stand behind
one. -/
def readWords (known : List Switch) (mixed : Bool) : List String → Except SwitchFlaw Words
  | [] => .ok ⟨[], []⟩
  | w :: ws =>
    if w = "--" then .ok ⟨[], ws⟩
    else if isSwitch w then
      match readWord known w.toList with
      | .error f => .error f
      | .ok one =>
        match one.waiting, ws with
        | none, ws =>
          (readWords known mixed ws).map fun r => { r with switches := one.given ++ r.switches }
        | some _, [] => .error .valueMissing
        | some name, v :: ws =>
          (readWords known mixed ws).map fun r =>
            { r with switches := one.given ++ (name, v) :: r.switches }
    else if mixed then
      (readWords known mixed ws).map fun r => { r with operands := w :: r.operands }
    else .ok ⟨[], w :: ws⟩

end Switch

end LeasePlan
