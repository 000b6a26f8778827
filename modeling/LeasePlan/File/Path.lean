import LeasePlan.Text.Parts

namespace LeasePlan

structure Path where
  /-- The slashes of an absolute path: one, or two if there are exactly two. -/
  root : List Char
  segments : List (List Char)
deriving DecidableEq

namespace Path

def rootOf (cs : List Char) : List Char :=
  match (cs.takeWhile (· = '/')).length with
  | 0 => []
  | 2 => ['/', '/']
  | _ => ['/']

def ofChars (cs : List Char) : Path where
  root := rootOf cs
  segments := (Text.parts '/' cs).filter fun s => s ≠ [] && s ≠ ['.']

def ofString (s : String) : Path := ofChars s.toList

def isAbsolute (p : Path) : Bool := !p.root.isEmpty

def chars (p : Path) : List Char :=
  if p.root.isEmpty && p.segments.isEmpty then ['.'] else p.root ++ Text.joined '/' p.segments

def text (p : Path) : String := String.ofList p.chars

end Path

end LeasePlan
