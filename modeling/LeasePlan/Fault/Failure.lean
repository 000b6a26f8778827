import LeasePlan.Console.Markup
import LeasePlan.Document.Crash
import LeasePlan.Document.Issue
import LeasePlan.Fault.Basic

namespace LeasePlan

/-- A mistake of the library itself: a step that the checks before it should have made safe. -/
inductive Defect
  | missingConfig
  | missingInterface (name : RawText)
  | missingProtocol (name protocol : RawText)
  | prefixTooLong (length : Nat)
  | unexplainedLabel
deriving DecidableEq

inductive Failure
  | fault (fault : Fault)
  | notAddress (value : Data)
  | issues (issues : List Issue)
  | crash (crash : Crash)
  | markup (flaw : Console.MarkupFlaw)
  | defect (defect : Defect)

namespace Failure

def notAddressMessage (value : Data) : String :=
  value.literal ++ " does not appear to be an IPv4 or IPv6 address"

def ofCause (c : Cause) : Failure := fault (.ofCause c)

/-- Puts a fault into an outer context and leaves every other failure as it is. -/
def annotate (parts : List RawText) : Failure → Failure
  | fault f => fault (f.annotate parts)
  | f => f

def issuesText (is : List Issue) : String := "; ".intercalate (is.map Issue.text)

def message : Failure → RawText
  | fault f => f.text
  | notAddress d => notAddressMessage d
  | issues is => issuesText is
  | crash c => c.message
  | markup f => f.message
  | defect _ => "the checks before this step do not make it safe"

def outOfRange? (is : List Issue) : Option Int := is.findSome? fun i => i.problem.days?

/-- A duration out of range ends the reading of a document and hides all issues. -/
def ofIssues (is : List Issue) : Failure :=
  match outOfRange? is with
  | some d => crash (.days d)
  | none => issues is

/-- The value, or its issues as a failure. -/
def ofChecked {α : Type} : Checked α → Except Failure α
  | .ok a => .ok a
  | .error is => .error (ofIssues is)

end Failure

/-- So many microseconds, if a duration has room for them. -/
def Duration.ofMicros (n : Int) : Except Failure Duration :=
  match ofMicros? n with
  | some d => .ok d
  | none => .error (.crash (.days (n.fdiv microsPerDay)))

end LeasePlan
