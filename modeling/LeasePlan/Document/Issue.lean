import LeasePlan.Duration.Reader

namespace LeasePlan

/-- What is wrong with one value of a document. -/
inductive Problem
  | missing
  | extra
  | keyNotText
  | notObject (model : String)
  | notMapping
  | notList
  | notText
  | notUnicode
  | notBytes
  | notBool
  | unclearBool
  | notInt
  | notIntText
  | fractional
  | notFinite
  | tooManyDigits
  | belowMinimum (least : Int)
  | aboveMaximum (greatest : Int)
  | notAddress
  | notDuration (flaw : Duration.Flaw)
  /-- A duration that can be read and is below the least one. -/
  | belowDurations (days : Int)
  | refused (reason : String)

namespace Problem

def message : Problem → String
  | missing => "Field required"
  | extra => "Extra inputs are not permitted"
  | keyNotText => "Keys should be strings"
  | notObject m => "Input should be a valid dictionary or instance of " ++ m
  | notMapping => "Input should be a valid dictionary"
  | notList => "Input should be a valid list"
  | notText => "Input should be a valid string"
  | notUnicode => "Input should be a valid string, unable to parse raw data as a unicode string"
  | notBytes => "Input should be a valid bytes"
  | notBool => "Input should be a valid boolean"
  | unclearBool => "Input should be a valid boolean, unable to interpret input"
  | notInt => "Input should be a valid integer"
  | notIntText => "Input should be a valid integer, unable to parse string as an integer"
  | fractional => "Input should be a valid integer, got a number with a fractional part"
  | notFinite => "Input should be a finite number"
  | tooManyDigits => "Unable to parse input string as an integer, exceeded maximum size"
  | belowMinimum n => "Input should be greater than or equal to " ++ toString n
  | aboveMaximum n => "Input should be less than or equal to " ++ toString n
  | notAddress => "value is not a valid IPv4 or IPv6 address"
  | notDuration f => f.message
  | belowDurations d => "days=" ++ toString d ++ "; must have magnitude <= 999999999"
  | refused r => "Value error, " ++ r

end Problem

/-- The days of a duration below the least one, which ends the reading of a whole document. -/
def Problem.days? : Problem → Option Int
  | belowDurations d => some d
  | _ => none

/-- A problem and the path to the value, the outermost step first. -/
structure Issue where
  path : List String
  problem : Problem

namespace Issue

def location (i : Issue) : String := ".".intercalate i.path

/-- The message behind the location, even behind an empty one. -/
def text (i : Issue) : String := i.location ++ ": " ++ i.problem.message

/-- The message behind the location if there is one. -/
def plainText (i : Issue) : String := if i.location.isEmpty then i.problem.message else i.text

def under (step : String) (i : Issue) : Issue := { i with path := step :: i.path }

end Issue

/-- A value, or the issues that kept it from being read. -/
abbrev Checked (α : Type) := Except (List Issue) α

namespace Checked

variable {α β : Type}

def fail (p : Problem) : Checked α := .error [⟨[], p⟩]

/-- What kept a value from being read. -/
def issues : Checked α → List Issue
  | .ok _ => []
  | .error is => is

/-- Fails with one problem and tells nothing else of a value but what ends the reading. -/
def failInstead (x : Checked α) (p : Problem) : Checked α :=
  .error ((x.issues.filter fun i => i.problem.days?.isSome) ++ [⟨[], p⟩])

/-- Puts the issues of a value under the step that leads to it. -/
def under (step : String) : Checked α → Checked α
  | .ok a => .ok a
  | .error is => .error (is.map (Issue.under step))

/-- Two values, or the issues of the first and then those of the second. -/
def both : Checked α → Checked β → Checked (α × β)
  | .ok a, .ok b => .ok (a, b)
  | .ok _, .error js => .error js
  | .error is, .ok _ => .error is
  | .error is, .error js => .error (is ++ js)

theorem both_eq_ok {x : Checked α} {y : Checked β} {p : α × β} :
    both x y = .ok p ↔ x = .ok p.1 ∧ y = .ok p.2 := by
  obtain ⟨a, b⟩ := p
  cases x <;> cases y <;> simp [both]

/-- All values of a list, or the issues of them all. -/
def all : List (Checked α) → Checked (List α)
  | [] => .ok []
  | x :: xs => (both x (all xs)).map fun p => p.1 :: p.2

end Checked

end LeasePlan
