import LeasePlan.Text.CodePoint

namespace LeasePlan.Quoted

/-- A quote and a backslash are written with a backslash before them. -/
def escape : RawText → RawText
  | [] => []
  | c :: r => if c = .char '"' ∨ c = .char '\\' then .char '\\' :: c :: escape r else c :: escape r

/-- The body of a quoted name up to its closing quote, and the text after that quote. -/
def splitBody? : RawText → Option (RawText × RawText)
  | [] => none
  | .char '"' :: r => some ([], r)
  | .char '\\' :: c :: r => (splitBody? r).map fun p => (c :: p.1, p.2)
  | c :: r => (splitBody? r).map fun p => (c :: p.1, p.2)

/-- A quoted name at the front of a text, and the rest of the text. -/
def split? : RawText → Option (RawText × RawText)
  | .char '"' :: r => splitBody? r
  | _ => none

end LeasePlan.Quoted

namespace LeasePlan

def quote (s : RawText) : RawText := .char '"' :: (Quoted.escape s ++ [.char '"'])

/-- The context entry that names an interface. -/
def interfaceContext (name : RawText) : RawText := "interface " ++ quote name

end LeasePlan
