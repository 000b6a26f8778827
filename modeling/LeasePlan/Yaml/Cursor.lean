import LeasePlan.Document.Crash

namespace LeasePlan.Yaml

inductive Flaw
  | malformed
  | crash (crash : Crash)

/-- Stands for the end of the text, in which it cannot be. -/
def ending : Char := '\x00'

def isBreak (c : Char) : Bool := c = '\n' || c = '\x85' || c = '\u2028' || c = '\u2029'

def isBreakOrEnd (c : Char) : Bool := isBreak c || c = ending

def isSpaceOrEnd (c : Char) : Bool := c = ' ' || isBreakOrEnd c

def isBlankOrEnd (c : Char) : Bool := c = '\t' || isSpaceOrEnd c

def isAlphanumeric (c : Char) : Bool :=
  ('0' ≤ c && c ≤ '9') || ('a' ≤ c && c ≤ 'z') || ('A' ≤ c && c ≤ 'Z')

/-- A character of the names of anchors, directives and tag handles. -/
def isWordChar (c : Char) : Bool := isAlphanumeric c || c = '-' || c = '_'

/-- The characters that a document may hold as they are. -/
def isAllowed (c : Char) : Bool :=
  let n := c.toNat
  n = 9 || n = 10 || (32 ≤ n && n ≤ 126) || n = 0x85 || (0xA0 ≤ n && n ≤ 0xFFFD) || 0x10000 ≤ n

/-- The byte order mark, which takes no column. -/
def orderMark : Char := Char.ofNat 0xFEFF

structure Cursor where
  rest : List Char
  index : Nat
  line : Nat
  column : Nat

namespace Cursor

def start (cs : List Char) : Cursor := ⟨cs, 0, 0, 0⟩

def peek (c : Cursor) : Char := c.rest.headD ending

/-- The character so many places ahead. -/
def peekAt (c : Cursor) (n : Nat) : Char := (c.rest.drop n).headD ending

def next (c : Cursor) : Cursor :=
  match c.rest with
  | [] => c
  | x :: xs =>
    if isBreak x then ⟨xs, c.index + 1, c.line + 1, 0⟩
    else if x = orderMark then ⟨xs, c.index + 1, c.line, c.column⟩
    else ⟨xs, c.index + 1, c.line, c.column + 1⟩

def skip (c : Cursor) : Nat → Cursor
  | 0 => c
  | n + 1 => c.next.skip n

/-- The characters up to the first that is not of a kind, and the place of that one. -/
def takeWhile (p : Char → Bool) (c : Cursor) : List Char × Cursor :=
  let cs := c.rest.takeWhile p
  (cs, c.skip cs.length)

def skipWhile (p : Char → Bool) (c : Cursor) : Cursor := (c.takeWhile p).2

def skipSpaces (c : Cursor) : Cursor := c.skipWhile (· = ' ')

def skipComment (c : Cursor) : Cursor :=
  if c.peek = '#' then c.skipWhile fun x => !isBreakOrEnd x else c

/-- A line break as it counts in scalars: nothing, a plain one, or a separator as it is. -/
def lineBreak (c : Cursor) : List Char × Cursor :=
  let x := c.peek
  if x = '\n' || x = '\x85' then (['\n'], c.next)
  else if isBreak x then ([x], c.next)
  else ([], c)

/-- Three hyphens or dots that stand alone, which separate documents. -/
def atSeparator (c : Cursor) (mark : Char) : Bool :=
  c.peek = mark && c.peekAt 1 = mark && c.peekAt 2 = mark && isBlankOrEnd (c.peekAt 3)

def atAnySeparator (c : Cursor) : Bool := c.atSeparator '-' || c.atSeparator '.'

/-- The rest of a line on which there is nothing more than a comment. -/
def endLine (c : Cursor) : Except Flaw Cursor :=
  let c := c.skipSpaces.skipComment
  if isBreakOrEnd c.peek then .ok c.lineBreak.2 else .error .malformed

end Cursor

end LeasePlan.Yaml
