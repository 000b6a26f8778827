import LeasePlan.Console.Width
import LeasePlan.Text.Blank
import LeasePlan.Text.Parts

namespace LeasePlan.Console

abbrev Line := List Char

def spaces (n : Nat) : Line := List.replicate n ' '

/-- What happens to a word that is too long for a line. -/
inductive Overflow
  | fold
  | ellipsis
deriving DecidableEq

/-- Where the text of a line stands in a given width. -/
inductive Justify
  | ragged
  | left
  | center
  | right
deriving DecidableEq

namespace Line

def tabWidth : Nat := 8

/-- Puts parts behind a column, each but the last filled up to the next tab stop. -/
def fillTabs (column : Nat) : List Line → Line
  | [] => []
  | [p] => p
  | p :: q :: ps =>
    let reached := column + width p
    let gap := tabWidth - reached % tabWidth
    p ++ spaces gap ++ fillTabs (reached + gap) (q :: ps)

def expandTabs (line : Line) : Line := fillTabs 0 (Text.parts '\t' line)

/-- As many clusters as fit; a cluster that fits in part leaves its place empty. -/
def fill (room : Nat) : List Cluster → Line
  | [] => []
  | c :: cs => if c.width ≤ room then c.chars ++ fill (room - c.width) cs else spaces room

def cut (limit : Nat) (line : Line) : Line := fill limit (Cluster.split line)

/-- A line that does not fit is cut, with an ellipsis where words are not folded. -/
def truncate (overflow : Overflow) (limit : Nat) (line : Line) : Line :=
  if width line ≤ limit then line
  else
    match overflow with
    | .fold => cut limit line
    | .ellipsis => cut (limit - 1) line ++ ['…']

def dropBlankEnd (line : Line) : Line := (line.reverse.dropWhile Text.isSpace).reverse

/-- Drops blanks at the end, at most as many as the line has characters beyond a limit. -/
def dropExcess (limit : Nat) (line : Line) : Line :=
  let blanks := (line.reverse.takeWhile Text.isSpace).length
  line.take (line.length - min blanks (line.length - limit))

def padEnd (limit : Nat) (line : Line) : Line := line ++ spaces (limit - width line)

def justify (j : Justify) (overflow : Overflow) (limit : Nat) (line : Line) : Line :=
  match j with
  | .ragged => truncate overflow limit line
  | .left => padEnd limit (truncate overflow limit line)
  | .center =>
    let text := truncate overflow limit (dropBlankEnd line)
    padEnd limit (spaces ((limit - width text) / 2) ++ text)
  | .right =>
    let text := truncate overflow limit (dropBlankEnd line)
    spaces (limit - width text) ++ text

/-- The words of a line, each with the blanks after it, and the first one also with those before
it. -/
def words (line : Line) : List Line :=
  match line.splitBy fun a b => !(Text.isSpace a && !Text.isSpace b) with
  | first :: second :: rest =>
    if first.all Text.isSpace then (first ++ second) :: rest else first :: second :: rest
  | ws => ws

/-- Folds clusters into lines behind the begun line and its width. -/
def chopFrom (limit : Nat) (line : Line) (used : Nat) : List Cluster → List Line
  | [] => if used = 0 then [] else [line]
  | c :: cs =>
    if used + c.width ≤ limit then chopFrom limit (line ++ c.chars) (used + c.width) cs
    else line :: chopFrom limit c.chars c.width cs

def chop (limit : Nat) (word : Line) : List Line := chopFrom limit [] 0 (Cluster.split word)

/-- The lines that a word takes when it begins a line. -/
def fresh (overflow : Overflow) (limit : Nat) (word : Line) : List Line :=
  if overflow = .fold && limit < width (dropBlankEnd word) then chop limit word else [word]

/-- Puts words one after the other behind the begun line and its width. -/
def place (overflow : Overflow) (limit : Nat) (line : Line) (used : Nat) :
    List Line → List Line
  | [] => [line]
  | w :: ws =>
    if used + width (dropBlankEnd w) ≤ limit then
      place overflow limit (line ++ w) (used + width w) ws
    else
      let begun := fresh overflow limit w
      let last := begun.getLastD []
      (if line.isEmpty then [] else [line]) ++ begun.dropLast ++
        place overflow limit last (width last) ws

end Line

/-- The lines of a text, none of them wider than the limit. -/
def wrap (j : Justify) (overflow : Overflow) (limit : Nat) (text : List Char) : List Line :=
  (Text.parts '\n' text).flatMap fun line =>
    (Line.place overflow limit [] 0 (Line.words (Line.expandTabs line))).map fun l =>
      Line.justify j overflow limit (Line.dropExcess limit l)

/-- Lines as one text, each with a line break at its end. -/
def unlines (ls : List Line) : String := String.ofList (ls.flatMap fun l => l ++ ['\n'])

end LeasePlan.Console
