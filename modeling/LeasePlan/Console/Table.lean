import LeasePlan.Console.Print

namespace LeasePlan.Console

structure Column where
  header : String
  justify : Justify := .left

/-- A table of cells in markup, row by row. -/
structure Table where
  title : String
  columns : List Column
  rows : List (List String)

/-- Rendered cells by column, the header of each column first. -/
abbrev Grid := List (List (List Char))

namespace Table

def cellsOf (t : Table) (index : Nat) (c : Column) : List String :=
  c.header :: t.rows.map fun row => row[index]?.getD ""

def grid (console : Console) (t : Table) : Except MarkupFlaw Grid :=
  t.columns.zipIdx.mapM fun (c, i) => (t.cellsOf i c).mapM (Markup.render console)

/-- Characters at which the lines of a measured text end. -/
def endsLine (c : Char) : Bool := c.toNat ∈ [10, 28, 29, 30, 0x85, 0x2028, 0x2029]

def textWidth (text : List Char) : Nat :=
  ((Text.parts '\n' (text.map fun c => if endsLine c then '\n' else c)).map width).foldl max 0

/-- The width of a cell with its spaces where there is so much room. -/
def cellWidth (room : Nat) (text : List Char) : Nat :=
  if room < 3 then room else min (textWidth text + 2) room

def columnWidth (room : Nat) (cells : List (List Char)) : Nat :=
  (cells.map (cellWidth room)).foldl max 0

/-- A quotient to the nearest whole number; a half goes to the even neighbour. -/
def roundDiv (n d : Nat) : Nat :=
  let q := n / d
  if 2 * (n % d) < d then q else if d < 2 * (n % d) then q + 1 else q + q % 2

/-- Takes a total away in equal shares from the columns that may give something; each comes with the
most that it may give, and with its width. -/
def takeShares (total shares : Nat) : List (Nat × Nat) → List Nat
  | [] => []
  | (most, w) :: r =>
    if most = 0 then w :: takeShares total shares r
    else
      let share := min most (roundDiv total shares)
      (w - share) :: takeShares (total - share) (shares - 1) r

/-- The widest columns give way, at most down to the next widest. -/
def narrowWidest (excess : Nat) (widths : List Nat) : List Nat :=
  let widest := widths.foldl max 0
  let next := (widths.filter (· ≠ widest)).foldl max 0
  let most := min excess (widest - next)
  takeShares excess (widths.countP (· = widest))
    (widths.map fun w => (if w = widest then most else 0, w))

def total (widths : List Nat) : Nat := widths.foldr (· + ·) 0

/-- Narrows columns until they fit; every round takes away at least one column of the console. -/
def narrow (room : Nat) : Nat → List Nat → List Nat
  | 0, widths => widths
  | rounds + 1, widths =>
    if total widths ≤ room then widths
    else narrow room rounds (narrowWidest (total widths - room) widths)

def columnWidths (room : Nat) (g : Grid) : List Nat :=
  let natural := g.map (columnWidth room)
  if total natural ≤ room then natural
  else List.zipWith columnWidth (narrow room (total natural) natural) g

def rule (left fill divider right : Char) (widths : List Nat) : Line :=
  left :: (Text.joined divider (widths.map fun w => List.replicate w fill) ++ [right])

def cellLines (w : Nat) (j : Justify) (text : List Char) : List Line :=
  (wrap j .ellipsis (w - 2) text).map fun l => ' ' :: (l ++ [' '])

/-- Fills a cell with empty lines, either above or below. -/
def fillCell (height w : Nat) (above : Bool) (lines : List Line) : List Line :=
  let empty := List.replicate (height - lines.length) (spaces w)
  if above then empty ++ lines else lines ++ empty

/-- The lines of a row between vertical rules; all cells are as high as the highest. -/
def rowLines (edge : Char) (above : Bool) (cells : List (Nat × List Line)) : List Line :=
  let height := (cells.map fun c => c.2.length).foldl max 1
  let filled := cells.map fun c => fillCell height c.1 above c.2
  (List.range height).map fun k => edge :: filled.flatMap fun ls => ls[k]?.getD [] ++ [edge]

/-- The cells of one row of a grid, with the widths and places of their columns. -/
def rowCells (widths : List Nat) (columns : List Column) (g : Grid) (row : Nat) :
    List (Nat × List Line) :=
  (widths.zip (columns.zip g)).map fun (w, c, cells) =>
    (w, cellLines w c.justify (cells[row]?.getD []))

def body (widths : List Nat) (t : Table) (g : Grid) : List Line :=
  rule '┏' '━' '┳' '┓' widths ::
    (rowLines '┃' true (rowCells widths t.columns g 0) ++
      rule '┡' '━' '╇' '┩' widths ::
        ((List.range t.rows.length).flatMap (fun i =>
            rowLines '│' false (rowCells widths t.columns g (i + 1))) ++
          [rule '└' '─' '┴' '┘' widths]))

/-- The lines of a table, its title centred above it. -/
def lines (console : Console) (t : Table) : Except MarkupFlaw (List Line) := do
  let g ← t.grid console
  let rules := t.columns.length + 1
  let widths := columnWidths (console.columns - rules) g
  let title ← Markup.render console t.title
  .ok (wrap .center .fold (total widths + rules) title ++ body widths t g)

end Table

end LeasePlan.Console
