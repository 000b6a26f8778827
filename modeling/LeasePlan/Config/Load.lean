import LeasePlan.Config.Parse
import LeasePlan.File.Tree
import LeasePlan.Yaml.Document

namespace LeasePlan.Config

/-- A document without content counts as an empty mapping. -/
def orEmpty (d : Data) : Data := if d.isBlank then .mapping [] else d

def ofText (path : Path) (text : List Char) : Except Failure Config :=
  match Yaml.read text with
  | .error .malformed => .error (loadFailure (.text path.text) "invalid yaml")
  | .error (.crash c) => .error (.crash c)
  | .ok d => parse (.text path.text) (orEmpty d)

def ofBytes (path : Path) (bytes : List UInt8) : Except Failure Config :=
  match Utf8.decode bytes with
  | .error f => .error (.crash (.notUtf8 f))
  | .ok text => ofText path text

/-- A path with a null character names no file that could be looked for. -/
def load (files : FileTree) (path : Path) : Except Failure Config :=
  if path.chars.contains '\x00' then .error (.crash .nullInPath)
  else
    match files.read path with
    | .error f => .error (loadFailure (.text path.text) f.message)
    | .ok bytes => ofBytes path bytes

end LeasePlan.Config
