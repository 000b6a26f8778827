import LeasePlan.Config.Reader
import LeasePlan.Fault.Failure

namespace LeasePlan.Config

def loadFailure (source : Mention) (reason : String) : Failure := .ofCause (.load source reason)

def reasonOf (is : List Issue) : String := "; ".intercalate (is.map Issue.plainText)

/-- The source stands in the message of the fault. -/
def parse (source : Mention) (d : Data) : Except Failure Config :=
  match d with
  | .mapping es =>
    match (Data.mapping es).readConfig with
    | .ok c => .ok c
    | .error is =>
      match Failure.outOfRange? is with
      | some n => .error (.crash (.days n))
      | none => .error (loadFailure source (reasonOf is))
  | d => .error (loadFailure source ("top level must be a mapping, got " ++ d.kind))

/-- The source of documents that come from no file. -/
def memory : Mention := .text "<memory>"

end LeasePlan.Config
