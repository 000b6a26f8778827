import LeasePlan.Yaml.Cursor

namespace LeasePlan.Yaml

inductive Directive
  | version (major : Nat)
  | handle (handle uri : List Char)
  | other

/-- The text of a scalar as code points, among which a lone surrogate can be. -/
structure Scalar where
  codes : List Nat
  /-- Whether it is written without quotes and on no lines of its own. -/
  plain : Bool
deriving DecidableEq

inductive Token
  | directive (directive : Directive)
  | documentStart
  | documentEnd
  | streamEnd
  | blockSequenceStart
  | blockMappingStart
  | blockEnd
  | flowSequenceStart
  | flowSequenceEnd
  | flowMappingStart
  | flowMappingEnd
  | blockEntry
  | flowEntry
  | key
  | value
  | reference (name : List Char)
  | anchor (name : List Char)
  | tag (handle : Option (List Char)) (suffix : List Char)
  | scalar (scalar : Scalar)
  /-- The text cannot be read beyond here. -/
  | broken (flaw : Flaw)

end LeasePlan.Yaml
