import LeasePlan.File.Path
import LeasePlan.Text.Utf8

namespace LeasePlan

inductive FileContent
  | directory
  | bytes (bytes : List UInt8)
deriving DecidableEq

/-- Files and directories by their paths; the directories above them need not be listed. -/
structure FileTree where
  entries : List (Path × FileContent)

inductive FileFlaw
  | missing
  | isDirectory
  | notDirectory
  | nameTooLong
deriving DecidableEq

def FileFlaw.message : FileFlaw → String
  | missing => "No such file or directory"
  | isDirectory => "Is a directory"
  | notDirectory => "Not a directory"
  | nameTooLong => "File name too long"

namespace FileTree

/-- What is at a path from the working directory or from the root: an entry or a directory above
one. -/
def at? (t : FileTree) (absolute : Bool) (segments : List (List Char)) : Option FileContent :=
  match t.entries.find? fun e => e.1.isAbsolute = absolute && e.1.segments = segments with
  | some e => some e.2
  | none =>
    if segments.isEmpty || t.entries.any fun e =>
        e.1.isAbsolute = absolute && segments.isPrefixOf e.1.segments then some .directory
    else none

def maxNameBytes : Nat := 255

/-- The directory above one; nothing is known of those above the working directory, and the root is
above itself. -/
def parent (absolute : Bool) : Option (List (List Char)) → Option (List (List Char))
  | some [] => if absolute then some [] else none
  | some d => some d.dropLast
  | none => none

/-- Walks from a directory through segments, some of which may lead back up. -/
def walk (t : FileTree) (absolute : Bool) (directory : Option (List (List Char))) :
    List (List Char) → Except FileFlaw (List UInt8)
  | [] => .error .isDirectory
  | s :: ss =>
    if s = ['.', '.'] then t.walk absolute (parent absolute directory) ss
    else if maxNameBytes < (Utf8.encode s).length then .error .nameTooLong
    else
      match directory with
      | none => .error .missing
      | some d =>
        match t.at? absolute (d ++ [s]) with
        | none => .error .missing
        | some .directory => t.walk absolute (some (d ++ [s])) ss
        | some (.bytes bs) => if ss.isEmpty then .ok bs else .error .notDirectory

def read (t : FileTree) (p : Path) : Except FileFlaw (List UInt8) :=
  t.walk p.isAbsolute (some []) p.segments

end FileTree

end LeasePlan
