import Mathlib
import LeasePlan.Console.Table
import LeasePlan.Proofs.PrintedText

namespace LeasePlan.Console

open Markup (IsPlain)

/-- A text that a column shows as it is, with spaces on one side. -/
structure IsCell (j : Justify) (text : List Char) : Prop where
  plain : IsPlain text
  unended : ∀ c ∈ text, Table.endsLine c = false
  tabless : '\t' ∉ text
  ending : text.length ≤ width text ∨ ∀ c ∈ text.getLast?, Text.isSpace c = false
  side : j = .left ∨ j = .right ∧ ∀ c ∈ text.getLast?, Text.isSpace c = false

/-- A text on one side of the spaces that fill its place. -/
def aligned (j : Justify) (limit : Nat) (text : List Char) : Line :=
  match j with
  | .right => spaces (limit - width text) ++ text
  | _ => text ++ spaces (limit - width text)

namespace IsCell

variable {j : Justify} {text : List Char}

theorem isOneLine (h : IsCell j text) : IsOneLine text where
  unbroken hmem := Bool.false_ne_true (h.unended '\n' hmem).symm
  tabless := h.tabless
  ending := h.ending

theorem textWidth_eq (h : IsCell j text) : Table.textWidth text = width text := by
  have hsame : text.map (fun c => if Table.endsLine c then '\n' else c) = text := by
    rw [List.map_congr_left fun c hc => if_neg (Bool.eq_false_iff.1 (h.unended c hc)), List.map_id']
  rw [Table.textWidth, hsame, Text.parts_of_not_mem h.isOneLine.unbroken, List.map_singleton,
    List.foldl_cons, List.foldl_nil, Nat.zero_max]

theorem cellWidth_eq (h : IsCell j text) {room : Nat} (hroom : width text + 2 ≤ room) :
    Table.cellWidth room text = width text + 2 := by
  rw [Table.cellWidth, h.textWidth_eq]
  split
  · omega
  · exact Nat.min_eq_left hroom

theorem justify_eq (h : IsCell j text) {limit : Nat} (hfits : width text ≤ limit) :
    Line.justify j .ellipsis limit text = aligned j limit text := by
  rcases h.side with rfl | ⟨rfl, hend⟩
  · rw [Line.justify, Line.truncate_of_fits hfits]
    rfl
  · rw [Line.justify, Line.dropBlankEnd_of_end hend, Line.truncate_of_fits hfits]
    rfl

theorem hasTag_isSlash (h : IsCell j text) : hasTag isSlash text = false := by
  apply hasTag_mono _ h.plain.tagless
  intro c hc
  rw [isSlash, decide_eq_true_eq] at hc
  rw [hc]
  decide

/-- In a column that is wide enough a cell is one line. -/
theorem cellLines_eq (h : IsCell j text) {w : Nat} (hfits : width text + 2 ≤ w) :
    Table.cellLines w j text = [' ' :: (aligned j (w - 2) text ++ [' '])] := by
  have hlimit : width text ≤ w - 2 := Nat.le_sub_of_add_le hfits
  rw [Table.cellLines, wrap_of_fits h.isOneLine hlimit, h.justify_eq hlimit, List.map_singleton]

end IsCell

/-- A cell that its column shows as it is. -/
def CellOf (c : Column) (cell : String) : Prop := IsCell c.justify cell.toList

theorem hasTag_of_cellOf {columns : List Column} {row : List String}
    (h : List.Forall₂ CellOf columns row) : ∀ cell ∈ row, hasTag isSlash cell.toList = false := by
  induction h with
  | nil => exact List.forall_mem_nil _
  | cons hcell _ ih => exact List.forall_mem_cons.2 ⟨hcell.hasTag_isSlash, ih⟩

theorem le_foldl_max {x : Nat} {l : List Nat} (h : x ∈ l) (n : Nat) : x ≤ l.foldl max n := by
  have hinit (l : List Nat) (n : Nat) : n ≤ l.foldl max n := by
    induction l generalizing n with
    | nil => exact Nat.le_refl n
    | cons y l ih => exact Nat.le_trans (Nat.le_max_left n y) (ih _)
  induction l generalizing n with
  | nil => cases h
  | cons y l ih =>
    rcases List.mem_cons.1 h with rfl | h
    · exact Nat.le_trans (Nat.le_max_right n x) (hinit l _)
    · exact ih h _

theorem mapM_eq_ok {α β ε : Type} {f : α → Except ε β} {g : α → β} {l : List α}
    (h : ∀ a ∈ l, f a = .ok (g a)) : l.mapM f = .ok (l.map g) := by
  induction l with
  | nil => rfl
  | cons a l ih =>
    rw [List.forall_mem_cons] at h
    rw [List.mapM_cons, h.1, ih h.2]
    rfl

theorem exists_mapM {α β ε : Type} {f : α → Except ε β} {l : List α}
    (h : ∀ a ∈ l, ∃ b, f a = .ok b) : ∃ bs, l.mapM f = .ok bs := by
  induction l with
  | nil => exact ⟨[], rfl⟩
  | cons a l ih =>
    rw [List.forall_mem_cons] at h
    obtain ⟨b, hb⟩ := h.1
    obtain ⟨bs, hbs⟩ := ih h.2
    refine ⟨b :: bs, ?_⟩
    rw [List.mapM_cons, hb, hbs]
    rfl

namespace Table

variable {console : Console} {t : Table}

/-- The texts of a table row by row, those of the headers first. -/
def texts (t : Table) : List (List String) := t.columns.map Column.header :: t.rows

/-- The texts of a table column by column, as characters. -/
def plainGrid (t : Table) : Grid :=
  t.columns.zipIdx.map fun (c, i) => (t.cellsOf i c).map String.toList

/-- The width of a column that shows texts in full. -/
def fullWidth (column : List (List Char)) : Nat :=
  (column.map fun text => width text + 2).foldl max 0

def widths (t : Table) : List Nat := t.plainGrid.map fullWidth

/-- All columns in full, and the rules between them, have room on a console. -/
def Fits (console : Console) (t : Table) : Prop :=
  total t.widths + (t.columns.length + 1) ≤ console.columns

instance (console : Console) (t : Table) : Decidable (t.Fits console) :=
  inferInstanceAs (Decidable (total t.widths + (t.columns.length + 1) ≤ console.columns))

/-- A table that a console shows as it is. -/
structure IsLegible (console : Console) (t : Table) : Prop where
  title : Markup.render console t.title = .ok t.title.toList
  cells : ∀ row ∈ t.texts, List.Forall₂ CellOf t.columns row
  fits : t.Fits console

/-- A row as one line, each cell behind an edge and followed by the next one. -/
def rowLine (t : Table) (edge : Char) (row : List String) : Line :=
  edge :: (t.widths.zip (t.columns.zip row)).flatMap fun (w, c, cell) =>
    ' ' :: (aligned c.justify (w - 2) cell.toList ++ [' ', edge])

/-- The lines of a table in which nothing is cut or wrapped. -/
def picture (t : Table) : List Line :=
  wrap .center .fold (total t.widths + (t.columns.length + 1)) t.title.toList ++
    rule '┏' '━' '┳' '┓' t.widths :: t.rowLine '┃' (t.columns.map Column.header) ::
      rule '┡' '━' '╇' '┩' t.widths ::
        (t.rows.map (t.rowLine '│') ++ [rule '└' '─' '┴' '┘' t.widths])

theorem length_plainGrid (t : Table) : t.plainGrid.length = t.columns.length := by
  rw [plainGrid, List.length_map, List.length_zipIdx]

theorem length_widths (t : Table) : t.widths.length = t.columns.length := by
  rw [widths, List.length_map, length_plainGrid]

theorem cellsOf_eq {i : Nat} {c : Column} (h : t.columns[i]? = some c) :
    t.cellsOf i c = t.texts.map fun row => row[i]?.getD "" := by
  rw [cellsOf, texts, List.map_cons, List.getElem?_map, h]
  rfl

theorem getElem_plainGrid {i : Nat} (h : i < t.plainGrid.length) :
    t.plainGrid[i] = t.texts.map fun row => (row[i]?.getD "").toList := by
  have hcolumn : i < t.columns.length := by rwa [length_plainGrid] at h
  have hc : t.columns[i]? = some t.columns[i] := List.getElem?_eq_getElem hcolumn
  simp only [plainGrid, List.getElem_map, List.getElem_zipIdx, Nat.zero_add]
  rw [cellsOf_eq hc, List.map_map]
  rfl

/-- A cell with its spaces is no wider than its column. -/
theorem width_le {row : List String} (hrow : row ∈ t.texts) {i : Nat} (hi : i < t.widths.length) :
    width (row[i]?.getD "").toList + 2 ≤ t.widths[i] := by
  have hplain : i < t.plainGrid.length := by rwa [widths, List.length_map] at hi
  have hmem : (row[i]?.getD "").toList ∈ t.plainGrid[i] := by
    rw [getElem_plainGrid hplain]
    exact List.mem_map_of_mem hrow
  have hwidth : t.widths[i] = fullWidth t.plainGrid[i] := List.getElem_map _
  rw [hwidth, fullWidth]
  exact le_foldl_max (List.mem_map_of_mem (f := fun text => width text + 2) hmem) 0

/-- A table whose texts close no tags can be shown. -/
theorem exists_lines {title : List Char} (htitle : Markup.render console t.title = .ok title)
    (h : ∀ row ∈ t.texts, ∀ cell ∈ row, hasTag isSlash cell.toList = false) :
    ∃ ls, t.lines console = .ok ls := by
  have hgrid : ∃ g, t.grid console = .ok g := by
    apply exists_mapM
    rintro ⟨c, i⟩ hmem
    apply exists_mapM
    intro text htext
    rw [cellsOf_eq (List.mk_mem_zipIdx_iff_getElem?.1 hmem)] at htext
    obtain ⟨row, hrow, rfl⟩ := List.mem_map.1 htext
    apply Markup.exists_render
    cases hcell : row[i]? with
    | none => rfl
    | some cell => exact h row hrow cell (List.mem_of_getElem? hcell)
  obtain ⟨g, hg⟩ := hgrid
  exact ⟨_, bind_eq_ok.2 ⟨g, hg, bind_eq_ok.2 ⟨title, htitle, rfl⟩⟩⟩

namespace IsLegible

theorem isCell (h : t.IsLegible console) {row : List String} (hrow : row ∈ t.texts) {i : Nat}
    (hi : i < t.columns.length) : IsCell t.columns[i].justify (row[i]?.getD "").toList := by
  have hcells := h.cells row hrow
  have hlength : i < row.length := hcells.length_eq ▸ hi
  rw [List.getElem?_eq_getElem hlength]
  exact hcells.get hi hlength

theorem grid_eq (h : t.IsLegible console) : t.grid console = .ok t.plainGrid := by
  apply mapM_eq_ok
  rintro ⟨c, i⟩ hmem
  apply mapM_eq_ok
  intro text htext
  have hc : t.columns[i]? = some c := List.mk_mem_zipIdx_iff_getElem?.1 hmem
  obtain ⟨hi, rfl⟩ := List.getElem?_eq_some_iff.1 hc
  rw [cellsOf_eq hc] at htext
  obtain ⟨row, hrow, rfl⟩ := List.mem_map.1 htext
  exact Markup.render_of_isPlain (h.isCell hrow hi).plain

theorem columnWidth_eq (h : t.IsLegible console) {i : Nat} (hi : i < t.plainGrid.length) :
    columnWidth (console.columns - (t.columns.length + 1)) t.plainGrid[i] =
      fullWidth t.plainGrid[i] := by
  have hwidth : i < t.widths.length := by rwa [widths, List.length_map]
  have hcolumn : i < t.columns.length := by rwa [length_plainGrid] at hi
  have htotal : t.widths[i] ≤ total t.widths := List.le_sum_of_mem (List.getElem_mem hwidth)
  have hfits : total t.widths + (t.columns.length + 1) ≤ console.columns := h.fits
  rw [columnWidth, fullWidth, getElem_plainGrid hi]
  refine congrArg (List.foldl max 0) (List.map_congr_left ?_)
  intro text htext
  obtain ⟨row, hrow, rfl⟩ := List.mem_map.1 htext
  have hcell := width_le hrow hwidth
  exact (h.isCell hrow hcolumn).cellWidth_eq (by omega)

theorem columnWidths_eq (h : t.IsLegible console) :
    columnWidths (console.columns - (t.columns.length + 1)) t.plainGrid = t.widths := by
  have hnatural : t.plainGrid.map (columnWidth (console.columns - (t.columns.length + 1))) =
      t.widths := by
    apply List.map_congr_left
    intro column hcolumn
    obtain ⟨i, hi, rfl⟩ := List.getElem_of_mem hcolumn
    exact h.columnWidth_eq hi
  have hfits : total t.widths ≤ console.columns - (t.columns.length + 1) :=
    Nat.le_sub_of_add_le h.fits
  rw [columnWidths, hnatural, if_pos hfits]

theorem rowCells_eq (h : t.IsLegible console) {k : Nat} {row : List String}
    (hrow : t.texts[k]? = some row) :
    rowCells t.widths t.columns t.plainGrid k =
      (t.widths.zip (t.columns.zip row)).map fun (w, c, cell) =>
        (w, [' ' :: (aligned c.justify (w - 2) cell.toList ++ [' '])]) := by
  have hmem : row ∈ t.texts := List.mem_of_getElem? hrow
  have hlength : t.columns.length = row.length := (h.cells row hmem).length_eq
  apply List.ext_getElem
  · simp only [rowCells, List.length_map, List.length_zip, length_widths, length_plainGrid]
    omega
  · intro i hi _
    simp only [rowCells, List.length_map, List.length_zip, length_widths, length_plainGrid] at hi
    have hcolumn : i < t.columns.length := by omega
    have hwidth : i < t.widths.length := by rwa [length_widths]
    have hin : i < row.length := by omega
    have hplain : i < t.plainGrid.length := by rwa [length_plainGrid]
    simp only [rowCells, List.getElem_map, List.getElem_zip]
    have hcell := h.isCell hmem hcolumn
    have hfits := width_le hmem hwidth
    rw [getElem_plainGrid hplain, List.getElem?_map, hrow]
    rw [List.getElem?_eq_getElem hin] at hcell hfits
    rw [Option.map_some, Option.getD_some, List.getElem?_eq_getElem hin]
    exact congrArg (Prod.mk t.widths[i]) (hcell.cellLines_eq hfits)

end IsLegible

theorem fillCell_singleton (w : Nat) (above : Bool) (line : Line) :
    fillCell 1 w above [line] = [line] := by
  rw [fillCell]
  split
  · rfl
  · rfl

/-- Cells of one line each are put side by side. -/
theorem rowLines_of_single (edge : Char) (above : Bool) (cells : List (Nat × Line)) :
    rowLines edge above (cells.map fun c => (c.1, [c.2])) =
      [edge :: cells.flatMap fun c => c.2 ++ [edge]] := by
  have hheight : ((cells.map fun c => (c.1, [c.2])).map fun c => c.2.length).foldl max 1 = 1 := by
    induction cells with
    | nil => rfl
    | cons c cells ih => exact ih
  rw [rowLines, hheight]
  simp only [List.map_map, Function.comp_def, fillCell_singleton, List.flatMap_map]
  rfl

theorem IsLegible.rowLines_eq (h : t.IsLegible console) {k : Nat} {row : List String}
    (hrow : t.texts[k]? = some row) (edge : Char) (above : Bool) :
    rowLines edge above (rowCells t.widths t.columns t.plainGrid k) = [t.rowLine edge row] := by
  have hsingle := rowLines_of_single edge above
    ((t.widths.zip (t.columns.zip row)).map fun (w, c, cell) =>
      (w, ' ' :: (aligned c.justify (w - 2) cell.toList ++ [' '])))
  rw [List.map_map, List.flatMap_map] at hsingle
  rw [h.rowCells_eq hrow, rowLine]
  refine hsingle.trans ?_
  simp only [List.cons_append, List.append_assoc, List.nil_append]

theorem IsLegible.body_eq (h : t.IsLegible console) : body t.widths t t.plainGrid =
    rule '┏' '━' '┳' '┓' t.widths :: t.rowLine '┃' (t.columns.map Column.header) ::
      rule '┡' '━' '╇' '┩' t.widths ::
        (t.rows.map (t.rowLine '│') ++ [rule '└' '─' '┴' '┘' t.widths]) := by
  have hrows : (List.range t.rows.length).flatMap (fun i =>
      rowLines '│' false (rowCells t.widths t.columns t.plainGrid (i + 1))) =
        t.rows.map (t.rowLine '│') := by
    have hline : ∀ i ∈ List.range t.rows.length,
        rowLines '│' false (rowCells t.widths t.columns t.plainGrid (i + 1)) =
          [t.rowLine '│' (t.rows[i]?.getD [])] := by
      intro i hi
      have hlt : i < t.rows.length := List.mem_range.1 hi
      have hrow : t.texts[i + 1]? = some (t.rows[i]?.getD []) := by
        rw [texts, List.getElem?_cons_succ, List.getElem?_eq_getElem hlt]
        rfl
      exact h.rowLines_eq hrow '│' false
    rw [List.flatMap_congr hline, ← List.map_eq_flatMap]
    apply List.ext_getElem
    · rw [List.length_map, List.length_map, List.length_range]
    · intro i _ hi
      rw [List.length_map] at hi
      rw [List.getElem_map, List.getElem_map, List.getElem_range, List.getElem?_eq_getElem hi]
      rfl
  rw [body, h.rowLines_eq rfl, hrows]
  rfl

/-- A table that fits is shown as its picture. -/
theorem IsLegible.lines_eq (h : t.IsLegible console) : t.lines console = .ok t.picture := by
  refine bind_eq_ok.2 ⟨t.plainGrid, h.grid_eq, bind_eq_ok.2 ⟨t.title.toList, h.title, ?_⟩⟩
  rw [h.columnWidths_eq, h.body_eq]
  rfl

section FirstCell

variable {edge : Char} {c : Column} {cs : List Column}

theorem exists_rowLine_cons (edge : Char) (hcolumns : t.columns = c :: cs)
    (hleft : c.justify = .left) (cell : String) (row : List String) :
    ∃ n rest, t.rowLine edge (cell :: row) =
      edge :: (' ' :: (cell.toList ++ spaces n) ++ edge :: rest) := by
  have hlength := t.length_widths
  rw [hcolumns] at hlength
  obtain ⟨w, ws, hwidths⟩ := List.exists_cons_of_length_eq_add_one hlength
  refine ⟨w - 2 - width cell.toList + 1, (ws.zip (cs.zip row)).flatMap fun (w, c, cell) =>
    ' ' :: (aligned c.justify (w - 2) cell.toList ++ [' ', edge]), ?_⟩
  rw [rowLine, hwidths, hcolumns, List.zip_cons_cons, List.zip_cons_cons, List.flatMap_cons, spaces,
    List.replicate_succ']
  simp only [hleft, aligned, spaces, List.cons_append, List.append_assoc, List.nil_append]

/-- The cells on the left of two equal rows differ by blanks at the end at most. -/
theorem dropBlankEnd_of_rowLine_eq (hcolumns : t.columns = c :: cs) (hleft : c.justify = .left)
    (hedge : edge ≠ ' ') {cell other : String} {row rest : List String} (hcell : edge ∉ cell.toList)
    (hother : edge ∉ other.toList)
    (h : t.rowLine edge (cell :: row) = t.rowLine edge (other :: rest)) :
    Line.dropBlankEnd cell.toList = Line.dropBlankEnd other.toList := by
  obtain ⟨n, after, hline⟩ := exists_rowLine_cons edge hcolumns hleft cell row
  obtain ⟨m, after', hline'⟩ := exists_rowLine_cons edge hcolumns hleft other rest
  have hfree {text : List Char} (htext : edge ∉ text) (k : Nat) :
      edge ∉ ' ' :: (text ++ spaces k) := by
    simp only [List.mem_cons, List.mem_append, not_or]
    exact ⟨hedge, htext, fun hmem => hedge (List.eq_of_mem_replicate hmem)⟩
  rw [hline, hline', List.cons_inj_right] at h
  have hcut := congrArg (fun line => (Text.cut edge line).1) h
  simp only [Text.cut_append (hfree hcell n), Text.cut_append (hfree hother m)] at hcut
  rw [List.cons_inj_right] at hcut
  rw [← Line.dropBlankEnd_append_spaces _ n, hcut, Line.dropBlankEnd_append_spaces]

end FirstCell

end Table

end LeasePlan.Console
