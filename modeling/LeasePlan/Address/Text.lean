import LeasePlan.Address.Basic
import LeasePlan.Text.Numeral
import LeasePlan.Text.Parts

namespace LeasePlan.Address

/-- The digits of a number in a base, highest first, as many as asked for. -/
def fields (base : Nat) : Nat → Nat → List Nat
  | 0, _ => []
  | count + 1, n => fields base count (n / base) ++ [n % base]

def octets (n : Nat) : List Nat := fields 256 4 n

def groups (n : Nat) : List Nat := fields 65536 8 n

def dotted (n : Nat) : List Char := Text.joined '.' ((octets n).map Numeral.decimal)

/-- How many zeros a list starts with. -/
def zeroRun (gs : List Nat) : Nat := (gs.takeWhile (· = 0)).length

/-- Start and length of the first of the longest runs of zeros. -/
def longestGap (gs : List Nat) : Nat × Nat :=
  (List.range gs.length).foldl
    (fun best i => if best.2 < zeroRun (gs.drop i) then (i, zeroRun (gs.drop i)) else best) (0, 0)

def hexGroups (gs : List Nat) : List Char := Text.joined ':' (gs.map Numeral.hexadecimal)

def colons (n : Nat) : List Char :=
  let gs := groups n
  let gap := longestGap gs
  if gap.2 < 2 then hexGroups gs
  else hexGroups (gs.take gap.1) ++ ':' :: ':' :: hexGroups (gs.drop (gap.1 + gap.2))

/-- The text of an address without its zone. -/
def figures : Address → List Char
  | v4 n => dotted n.val
  | v6 n _ => colons n.val

/-- A zone behind its percent sign. -/
def zoneText : Option Zone → RawText
  | none => []
  | some z => .char '%' :: z.text

def text (a : Address) : RawText := RawText.ofChars a.figures ++ zoneText a.zone

/-- One to three decimal digits without a leading zero, at most 255. -/
def octet? (cs : List Char) : Option Nat :=
  if 3 < cs.length then none
  else if cs.head? = some '0' && cs.length ≠ 1 then none
  else (Numeral.decimal? cs).filter (· < 256)

def readDotted (cs : List Char) : Option Nat := do
  let os ← (Text.parts '.' cs).mapM octet?
  if os.length = 4 then some (Numeral.ofDigits 256 os) else none

def group? (cs : List Char) : Option Nat :=
  if 4 < cs.length then none else Numeral.hexadecimal? cs

/-- A last part with a dot stands for the two groups of an IPv4 address. -/
def expandLast : List (List Char) → Option (List (List Char))
  | [] => some []
  | [p] =>
    if p.contains '.' then do
      let n ← readDotted p
      some [Numeral.hexadecimal (n / 65536), Numeral.hexadecimal (n % 65536)]
    else some [p]
  | p :: q :: ps => (expandLast (q :: ps)).map (p :: ·)

/-- The parts on one side of a gap; a single empty part is where the text begins or ends. -/
def side? (ps : List (List Char)) : Option (List Nat) :=
  if ps = [[]] then some [] else ps.mapM group?

/-- Eight groups, or fewer with one gap that stands for the missing zeros. -/
def readGroups (ps : List (List Char)) : Option (List Nat) :=
  match ps with
  | [] => none
  | first :: rest =>
    match rest.span (fun p => !p.isEmpty) with
    | (inner, [] :: low@(_ :: _)) => do
      let hi ← side? (first :: inner)
      let lo ← side? low
      if hi.length + lo.length < 8 then
        some (hi ++ List.replicate (8 - (hi.length + lo.length)) 0 ++ lo)
      else none
    | _ => do
      let gs ← ps.mapM group?
      if gs.length = 8 then some gs else none

def readColons (cs : List Char) : Option Nat := do
  let ps ← expandLast (Text.parts ':' cs)
  (readGroups ps).map (Numeral.ofDigits 65536)

def readV4 (t : RawText) : Option Address := do
  ofNumber? .v4 (← readDotted (← t.chars?))

/-- An IPv6 address, with a zone after a percent sign if there is one. -/
def readV6 (t : RawText) : Option Address := do
  let (body, tail) := Text.cut (.char '%') t
  let n ← readColons (← RawText.chars? body)
  if h : n < Family.v6.size then
    match tail with
    | none => some (v6 ⟨n, h⟩ none)
    | some z => if hz : isZoneText z = true then some (v6 ⟨n, h⟩ (some ⟨z, hz⟩)) else none
  else none

def parse? (t : RawText) : Option Address := readV4 t <|> readV6 t

end LeasePlan.Address
