import LeasePlan.Text.Numeral
import LeasePlan.Yaml.Token

namespace LeasePlan.Yaml

def escapes : List (Char × Nat) :=
  [('0', 0), ('a', 7), ('b', 8), ('t', 9), ('\t', 9), ('n', 10), ('v', 11), ('f', 12), ('r', 13),
    ('e', 27), (' ', 32), ('"', 34), ('\\', 92), ('/', 47), ('N', 0x85), ('_', 0xA0),
    ('L', 0x2028), ('P', 0x2029)]

def escapeDigits? : Char → Option Nat
  | 'x' => some 2
  | 'u' => some 4
  | 'U' => some 8
  | _ => none

def codesOf (cs : List Char) : List Nat := cs.map Char.toNat

namespace Cursor

/-- Line breaks with blanks between them; a document cannot end within quotes. Fuel bounds the
lines. -/
def quotedBreaks : Nat → Cursor → Except Flaw (List Char × Cursor)
  | 0, _ => .error .malformed
  | fuel + 1, c =>
    if c.atAnySeparator then .error .malformed
    else
      let c := c.skipWhile fun x => x = ' ' || x = '\t'
      if isBreak c.peek then do
        let (b, c) := c.lineBreak
        let (bs, c) ← quotedBreaks fuel c
        .ok (b ++ bs, c)
      else .ok ([], c)

/-- The text for a line break and the breaks that follow it. -/
def folded (first more : List Char) : List Char :=
  if first ≠ ['\n'] then first ++ more
  else if more.isEmpty then [' ']
  else more

/-- Blanks within quotes, which count unless a line ends with them. -/
def quotedBlanks (c : Cursor) : Except Flaw (List Char × Cursor) := do
  let (blanks, c) := c.takeWhile fun x => x = ' ' || x = '\t'
  if c.peek = ending then .error .malformed
  else if isBreak c.peek then
    let (b, c) := c.lineBreak
    let (bs, c) ← c.quotedBreaks (c.rest.length + 1)
    .ok (folded b bs, c)
  else .ok (blanks, c)

/-- The code points of an escape, whose backslash has been read. -/
def escape (c : Cursor) : Except Flaw (List Nat × Cursor) :=
  let x := c.peek
  match escapes.lookup x, escapeDigits? x with
  | some n, _ => .ok ([n], c.next)
  | none, some count =>
    let digits := (c.next.rest.take count).map Numeral.hexDigit?
    if digits.length = count && digits.all Option.isSome then
      let n := Numeral.ofDigits 16 (digits.filterMap id)
      if n < 0x110000 then .ok ([n], c.next.skip count) else .error (.crash .noSuchCodePoint)
    else .error .malformed
  | none, none =>
    if isBreak x then do
      let c := c.lineBreak.2
      let (bs, c) ← c.quotedBreaks (c.rest.length + 1)
      .ok (codesOf bs, c)
    else .error .malformed

/-- The rest of a text in double quotes. Fuel bounds its characters. -/
def doubleQuoted : Nat → Cursor → Except Flaw (List Nat × Cursor)
  | 0, _ => .error .malformed
  | fuel + 1, c =>
    let x := c.peek
    if x = '"' then .ok ([], c.next)
    else if x = '\\' then do
      let (ns, c) ← c.next.escape
      let (rest, c) ← doubleQuoted fuel c
      .ok (ns ++ rest, c)
    else if isBlankOrEnd x then do
      let (bs, c) ← c.quotedBlanks
      let (rest, c) ← doubleQuoted fuel c
      .ok (codesOf bs ++ rest, c)
    else do
      let (rest, c) ← doubleQuoted fuel c.next
      .ok (x.toNat :: rest, c)

/-- The rest of a text in single quotes, in which a quote is written twice. -/
def singleQuoted : Nat → Cursor → Except Flaw (List Char × Cursor)
  | 0, _ => .error .malformed
  | fuel + 1, c =>
    let x := c.peek
    if x = Literal.apostrophe then
      if c.peekAt 1 = Literal.apostrophe then do
        let (rest, c) ← singleQuoted fuel (c.skip 2)
        .ok (x :: rest, c)
      else .ok ([], c.next)
    else if isBlankOrEnd x then do
      let (bs, c) ← c.quotedBlanks
      let (rest, c) ← singleQuoted fuel c
      .ok (bs ++ rest, c)
    else do
      let (rest, c) ← singleQuoted fuel c.next
      .ok (x :: rest, c)

def isFlowMark (c : Char) : Bool := c = ',' || c = '[' || c = ']' || c = '\x7b' || c = '\x7d'

/-- How far a plain scalar goes on a line; in brackets it ends at their marks too. -/
def plainLength (inFlow : Bool) : List Char → Nat
  | [] => 0
  | x :: xs =>
    let after := xs.headD ending
    if isBlankOrEnd x then 0
    else if x = ':' && (isBlankOrEnd after || (inFlow && isFlowMark after)) then 0
    else if inFlow && (isFlowMark x || x = '?') then 0
    else plainLength inFlow xs + 1

/-- Line breaks with spaces between them, up to a separator of documents if one follows. -/
def plainBreaks : Nat → Cursor → Option (List Char) × Cursor
  | 0, c => (some [], c)
  | fuel + 1, c =>
    let c := c.skipSpaces
    if isBreak c.peek then
      let (b, c) := c.lineBreak
      if c.atAnySeparator then (none, c)
      else
        let (bs, c) := plainBreaks fuel c
        (bs.map (b ++ ·), c)
    else (some [], c)

/-- What stands between two stretches of a plain scalar, or nothing where it ends; and whether a
line break was passed. -/
def plainGap (c : Cursor) : List Char × Bool × Cursor :=
  let (blanks, c) := c.takeWhile (· = ' ')
  if isBreak c.peek then
    let (b, c) := c.lineBreak
    if c.atAnySeparator then ([], true, c)
    else
      match c.plainBreaks (c.rest.length + 1) with
      | (none, c) => ([], true, c)
      | (some bs, c) => (folded b bs, true, c)
  else (blanks, false, c)

/-- A plain scalar with lines at a least column, and whether it ends behind a line break. -/
def plain (inFlow : Bool) (least : Int) : Nat → Cursor → List Char × Bool × Cursor
  | 0, c => ([], false, c)
  | fuel + 1, c =>
    if c.peek = '#' then ([], false, c)
    else
      let size := plainLength inFlow c.rest
      if size = 0 then ([], false, c)
      else
        let text := c.rest.take size
        let (gap, broken, c) := (c.skip size).plainGap
        if gap.isEmpty || c.peek = '#' || (!inFlow && (c.column : Int) < least) then
          (text, broken, c)
        else
          let (more, brokenLater, d) := plain inFlow least fuel c
          if more.isEmpty then (text, broken, d) else (text ++ gap ++ more, brokenLater, d)

/-- What becomes of the line breaks at the end of a block scalar. -/
inductive Chomping
  | strip
  | clip
  | keep

def chomping? : Char → Option Chomping
  | '+' => some .keep
  | '-' => some .strip
  | _ => none

/-- An indentation that is stated in a block header; it cannot be zero. -/
def indentation? (c : Cursor) : Except Flaw (Option Nat × Cursor) :=
  match Numeral.digit? c.peek with
  | none => .ok (none, c)
  | some 0 => .error .malformed
  | some n => .ok (some n, c.next)

def blockHeader (c : Cursor) : Except Flaw (Chomping × Option Nat × Cursor) := do
  let (mode, indent, c) ← match chomping? c.peek with
    | some m => do
      let (n, c) ← c.next.indentation?
      .ok (m, n, c)
    | none => do
      let (n, c) ← c.indentation?
      match n, chomping? c.peek with
      | some _, some m => .ok (m, n, c.next)
      | _, _ => .ok (Chomping.clip, n, c)
  if isSpaceOrEnd c.peek then .ok (mode, indent, c) else .error .malformed

def skipIndent (column : Nat) (c : Cursor) : Cursor :=
  c.skip (min (c.rest.takeWhile (· = ' ')).length (column - c.column))

/-- Empty lines and the indentation of the line that follows. -/
def blockBreaks (column : Nat) : Nat → Cursor → List Char × Cursor
  | 0, c => ([], c)
  | fuel + 1, c =>
    let c := c.skipIndent column
    if isBreak c.peek then
      let (b, c) := c.lineBreak
      let (bs, c) := blockBreaks column fuel c
      (b ++ bs, c)
    else ([], c)

/-- Empty lines and spaces before the first line of a block, with the widest indentation among
them. -/
def blockIndent : Nat → Nat → Cursor → List Char × Nat × Cursor
  | 0, widest, c => ([], widest, c)
  | fuel + 1, widest, c =>
    let c := c.skipSpaces
    let widest := max widest c.column
    if isBreak c.peek then
      let (b, c) := c.lineBreak
      let (bs, widest, c) := blockIndent fuel widest c
      (b ++ bs, widest, c)
    else ([], widest, c)

/-- The lines of a block behind the given empty lines: their text, the break that ends the last of
them, and the empty lines after it. -/
def blockLines (fold : Bool) (column : Nat) :
    Nat → List Char → Cursor → List Char × List Char × List Char × Cursor
  | 0, breaks, c => ([], [], breaks, c)
  | fuel + 1, breaks, c =>
    if c.column = column && c.peek ≠ ending then
      let opening := c.peek
      let (text, c) := c.takeWhile fun x => !isBreakOrEnd x
      let (b, c) := c.lineBreak
      let (more, c) := c.blockBreaks column (c.rest.length + 1)
      if c.column = column && c.peek ≠ ending then
        let isBlank (x : Char) : Bool := x = ' ' || x = '\t'
        let joint :=
          if fold && b = ['\n'] && !isBlank opening && !isBlank c.peek then
            if more.isEmpty then [' '] else []
          else b
        let (rest, last, tail, c) := blockLines fold column fuel more c
        (breaks ++ text ++ joint ++ rest, last, tail, c)
      else (breaks ++ text, b, more, c)
    else ([], [], breaks, c)

/-- A block scalar behind its mark, in a block at an indentation. -/
def block (fold : Bool) (indent : Int) (c : Cursor) : Except Flaw (List Char × Cursor) := do
  let (mode, stated, c) ← c.blockHeader
  let c ← c.endLine
  let least := (max (indent + 1) 1).toNat
  let (breaks, column, c) := match stated with
    | some n =>
      let column := least + n - 1
      let (bs, c) := c.blockBreaks column (c.rest.length + 1)
      (bs, column, c)
    | none =>
      let (bs, widest, c) := c.blockIndent (c.rest.length + 1) 0
      (bs, max least widest, c)
  let (text, last, tail, c) := c.blockLines fold column (c.rest.length + 1) breaks
  match mode with
  | .strip => .ok (text, c)
  | .clip => .ok (text ++ last, c)
  | .keep => .ok (text ++ last ++ tail, c)

end Cursor

end LeasePlan.Yaml
