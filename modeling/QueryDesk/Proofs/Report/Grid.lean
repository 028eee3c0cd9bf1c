import QueryDesk.Report.Grid
import QueryDesk.Proofs.Lists
import QueryDesk.Proofs.Result.Pivot
import Mathlib.Algebra.GroupWithZero.Nat
import Mathlib.Data.List.Forall2

/-! # Grids are aligned

A result with the shape of a table is shown as a grid, since no row is too short to be looked at
(`widths?_eq`). A line of the grid has a place for every column that does not depend on the line: a text that is
joined from parts has each part behind the parts before it and what separates them
(`startsAt_intercalate`), and the parts of every line are as wide as their columns. So the header, the rule and
the lines of the rows have one length, and the columns begin at the same characters in all of them
(`QueryResult.shownAligned_of_shaped`); what was taken in and what was pivoted has that shape.
-/

set_option autoImplicit false

namespace QueryDesk

/-! ## Padded texts -/

theorem length_padded (width : Nat) (s : String) : (padded width s).length = max s.length width := by
  rw [padded, String.length_append, String.length_ofList, List.length_replicate]
  omega

/-- A text that is not too long is as long as asked for. -/
theorem length_padded_of_le {width : Nat} {s : String} (h : s.length ≤ width) :
    (padded width s).length = width := by
  rw [length_padded, Nat.max_eq_right h]

theorem length_dashes (count : Nat) : (dashes count).length = count := by
  rw [dashes, String.length_ofList, List.length_replicate]

namespace Grid

/-! ## Texts at places -/

/-- **A line has a text at an offset**, counted in characters. -/
def StartsAt (line : String) (offset : Nat) (text : String) : Prop :=
  ∃ front back, line = front ++ text ++ back ∧ front.length = offset

section StartsAt

variable {line text : String} {offset : Nat}

theorem startsAt_zero (text back : String) : StartsAt (text ++ back) 0 text :=
  ⟨"", back, by rw [String.empty_append], rfl⟩

/-- What is put in front of a line moves its texts. -/
theorem StartsAt.behind (h : StartsAt line offset text) (front : String) :
    StartsAt (front ++ line) (front.length + offset) text := by
  obtain ⟨front', back, rfl, rfl⟩ := h
  exact ⟨front ++ front', back, by simp only [String.append_assoc], String.length_append front front'⟩

/-- A text begins where it begins together with what follows it. -/
theorem StartsAt.left {next : String} (h : StartsAt line offset (text ++ next)) :
    StartsAt line offset text := by
  obtain ⟨front, back, rfl, hfront⟩ := h
  exact ⟨front, next ++ back, by simp only [String.append_assoc], hfront⟩

/-- What follows a text begins where the text ends. -/
theorem StartsAt.right {next : String} (h : StartsAt line offset (text ++ next)) :
    StartsAt line (offset + text.length) next := by
  obtain ⟨front, back, rfl, rfl⟩ := h
  exact ⟨front ++ text, back, by simp only [String.append_assoc], String.length_append front text⟩

end StartsAt

/-! ## Joined parts -/

/-- Where the column at an index begins: behind the columns before it and what separates them. -/
def columnStart (widths : List Nat) (index : Nat) : Nat := (widths.take index).sum + 3 * index

/-- How long a line is. -/
def lineLength (widths : List Nat) : Nat := widths.sum + 3 * (widths.length - 1)

theorem length_separator : separator.length = 3 := rfl

theorem columnStart_succ (width : Nat) (widths : List Nat) (index : Nat) :
    columnStart (width :: widths) (index + 1) = width + 3 + columnStart widths index := by
  rw [columnStart, columnStart, List.take_succ_cons, List.sum_cons]
  omega

theorem length_intercalate (parts : List String) :
    (separator.intercalate parts).length = lineLength (parts.map String.length) := by
  induction parts with
  | nil => rfl
  | cons part rest ih =>
      cases rest with
      | nil => simp [lineLength]
      | cons next rest =>
          rw [String.intercalate_cons_cons, String.length_append, String.length_append, ih, length_separator]
          simp only [lineLength, List.map_cons, List.sum_cons, List.length_cons]
          omega

/-- What follows a part: what separates it from the next one, if there is one. -/
def ending (count index : Nat) : String := if index + 1 < count then separator else ""

/-- **Joined parts are where they should be**: each one behind those before it, and separated from the next. -/
theorem startsAt_intercalate {parts : List String} {index : Nat} {part : String}
    (h : parts[index]? = some part) :
    StartsAt (separator.intercalate parts) (columnStart (parts.map String.length) index)
      (part ++ ending parts.length index) := by
  induction parts generalizing index with
  | nil => simp at h
  | cons first rest ih =>
      cases index with
      | zero =>
          obtain rfl : first = part := by simpa using h
          cases rest with
          | nil =>
              rw [String.intercalate_singleton]
              exact ⟨"", "", by simp [ending], rfl⟩
          | cons next rest =>
              rw [String.intercalate_cons_cons]
              exact startsAt_zero (first ++ separator) (separator.intercalate (next :: rest))
      | succ index =>
          rw [List.getElem?_cons_succ] at h
          have hrest : rest ≠ [] := by
            rintro rfl
            simp at h
          have hending : ending (first :: rest).length (index + 1) = ending rest.length index := by
            simp [ending]
          -- the parts behind the first one are moved by it and what separates it from them
          have hbehind := (ih h).behind (first ++ separator)
          rw [String.length_append, length_separator] at hbehind
          rw [String.intercalate_cons_of_ne_nil hrest, List.map_cons, columnStart_succ, hending]
          exact hbehind

/-! ## Lines -/

/-- **Cells that fit into columns**: there is one for every column, and none is too wide. -/
structure Fits (widths : List Nat) (cells : List String) : Prop where
  length : cells.length = widths.length
  le : ∀ {index width : Nat} {cell : String}, widths[index]? = some width → cells[index]? = some cell →
    cell.length ≤ width

/-- **A line that shows cells in columns**: every cell stands in full at the place of its column, with spaces up
to the width of the column, and is separated from the next one. -/
structure Shows (widths : List Nat) (cells : List String) (line : String) : Prop where
  length : line.length = lineLength widths
  cell : ∀ {index width : Nat} {cell : String}, widths[index]? = some width → cells[index]? = some cell →
    StartsAt line (columnStart widths index) (padded width cell)
  separator : ∀ {index width : Nat}, widths[index]? = some width → index + 1 < widths.length →
    StartsAt line (columnStart widths index + width) separator

section Fits

variable {widths : List Nat} {cells : List String}

/-- Where there is a column there is a cell. -/
theorem Fits.exists_cell (h : Fits widths cells) {index width : Nat} (hwidth : widths[index]? = some width) :
    ∃ cell, cells[index]? = some cell ∧ cell.length ≤ width := by
  have hlt : index < cells.length := h.length ▸ (List.getElem?_eq_some_iff.mp hwidth).1
  have hcell := List.getElem?_eq_getElem hlt
  exact ⟨_, hcell, h.le hwidth hcell⟩

theorem getElem?_zipWith_padded {index width : Nat} {cell : String} (hwidth : widths[index]? = some width)
    (hcell : cells[index]? = some cell) :
    (List.zipWith padded widths cells)[index]? = some (padded width cell) := by
  rw [List.getElem?_zipWith, hwidth, hcell]

/-- The padded cells are as wide as their columns. -/
theorem Fits.map_length_zipWith (h : Fits widths cells) :
    (List.zipWith padded widths cells).map String.length = widths := by
  refine List.ext_getElem? fun index => ?_
  rw [List.getElem?_map]
  cases hwidth : widths[index]? with
  | none => rw [List.getElem?_zipWith, hwidth, Option.map_none]
  | some width =>
      obtain ⟨cell, hcell, hle⟩ := h.exists_cell hwidth
      rw [getElem?_zipWith_padded hwidth hcell, Option.map_some, length_padded_of_le hle]

/-- **Cells that fit are shown.** -/
theorem Fits.shows (h : Fits widths cells) : Shows widths cells (line widths cells) := by
  have hparts := h.map_length_zipWith
  have hcount : (List.zipWith padded widths cells).length = widths.length := by
    rw [← List.length_map String.length, hparts]
  -- a cell is found at its place together with what separates it from the next one
  have hplace : ∀ {index width cell}, widths[index]? = some width → cells[index]? = some cell →
      StartsAt (line widths cells) (columnStart widths index)
        (padded width cell ++ ending widths.length index) := by
    intro index width cell hwidth hcell
    have hstarts := startsAt_intercalate (getElem?_zipWith_padded hwidth hcell)
    rwa [hparts, hcount] at hstarts
  refine { length := ?_, cell := fun hwidth hcell => (hplace hwidth hcell).left, separator := ?_ }
  · rw [line, length_intercalate, hparts]
  · intro index width hwidth hnext
    obtain ⟨cell, hcell, hle⟩ := h.exists_cell hwidth
    have hseparator := (hplace hwidth hcell).right
    rwa [length_padded_of_le hle, ending, if_pos hnext] at hseparator

end Fits

/-! ## The widths of columns -/

/-- What is shown in the column at an index: its name and the cells that are there. -/
def columnTexts (rows : List (List String)) (index : Nat) (name : String) : List String :=
  name :: rows.filterMap fun row => row[index]?

/-- The length of the longest text. -/
def widest (texts : List String) : Nat := (texts.map String.length).foldl max 0

theorem length_le_widest {texts : List String} {text : String} (h : text ∈ texts) :
    text.length ≤ widest texts :=
  le_foldl_max (Or.inr (List.mem_map_of_mem h))

/-- The widths of all columns, where every row has a cell for every column. -/
def columnWidths (columns : List String) (rows : List (List String)) : List Nat :=
  columns.zipIdx.map fun (name, index) => widest (columnTexts rows index name)

variable {columns : List String} {rows : List (List String)}

/-- Row by row, the width is the greatest so far. -/
theorem foldlM_width {index : Nat} (start : Nat) (h : ∀ row ∈ rows, index < row.length) :
    rows.foldlM (fun width row => row[index]?.map fun cell => max width cell.length) start =
      some (((rows.filterMap fun row => row[index]?).map String.length).foldl max start) := by
  induction rows generalizing start with
  | nil => rfl
  | cons row rest ih =>
      obtain ⟨hrow, hrest⟩ := List.forall_mem_cons.mp h
      have hcell := List.getElem?_eq_getElem hrow
      rw [List.foldlM_cons, List.filterMap_cons, hcell]
      exact ih _ hrest

theorem columnWidth?_eq {index : Nat} (name : String) (h : ∀ row ∈ rows, index < row.length) :
    columnWidth? rows index name = some (widest (columnTexts rows index name)) := by
  rw [columnWidth?, foldlM_width name.length h, widest, columnTexts, List.map_cons, List.foldl_cons,
    Nat.zero_max]

/-- **The widths are there where every row has a cell for every column.** -/
theorem widths?_eq (h : ∀ row ∈ rows, row.length = columns.length) :
    widths? columns rows = some (columnWidths columns rows) := by
  refine mapM_eq_some_map fun (name, index) hmem => columnWidth?_eq name fun row hrow => ?_
  rw [h row hrow]
  exact (List.getElem?_eq_some_iff.mp (List.mem_zipIdx_iff_getElem?.mp hmem)).1

theorem getElem?_columnWidths (columns : List String) (rows : List (List String)) (index : Nat) :
    (columnWidths columns rows)[index]? =
      columns[index]?.map fun name => widest (columnTexts rows index name) := by
  rw [columnWidths, List.getElem?_map, List.getElem?_zipIdx, Option.map_map, Nat.zero_add]
  rfl

theorem fits_columnWidths (columns : List String) (rows : List (List String)) :
    Fits (columnWidths columns rows) columns where
  length := by rw [columnWidths, List.length_map, List.length_zipIdx]
  le := by
    intro index width name hwidth hname
    rw [getElem?_columnWidths, hname, Option.map_some, Option.some.injEq] at hwidth
    exact hwidth ▸ length_le_widest List.mem_cons_self

/-- Every row fits into columns that are as wide as their widest cells. -/
theorem fits_columnWidths_of_mem (h : ∀ row ∈ rows, row.length = columns.length) {row : List String}
    (hrow : row ∈ rows) : Fits (columnWidths columns rows) row where
  length := (h row hrow).trans (fits_columnWidths columns rows).length
  le := by
    intro index width cell hwidth hcell
    rw [getElem?_columnWidths, Option.map_eq_some_iff] at hwidth
    obtain ⟨name, -, rfl⟩ := hwidth
    exact length_le_widest (List.mem_cons_of_mem name (List.mem_filterMap.mpr ⟨row, hrow, hcell⟩))

/-! ## Blocks -/

/-- **Lines that show a table**: a header, a rule of dashes below it and a line for every row, all of one length,
with the columns at the same places in all of them and every column as wide as its widest text. -/
structure Aligned (columns : List String) (rows : List (List String)) (header rule : String)
    (body : List String) (widths : List Nat) : Prop where
  width : ∀ index, widths[index]? = columns[index]?.map fun name => widest (columnTexts rows index name)
  showsHeader : Shows widths columns header
  ofDashes : rule = dashes (lineLength widths)
  showsRows : List.Forall₂ (Shows widths) rows body
  lengths : ∀ text ∈ header :: rule :: body, text.length = lineLength widths

theorem rule_eq (widths : List Nat) : rule widths = dashes (lineLength widths) := by
  rw [rule, lineLength, List.sum_eq_foldl]

/-- **The block of a table is aligned.** -/
theorem aligned_block (h : ∀ row ∈ rows, row.length = columns.length) :
    Aligned columns rows (line (columnWidths columns rows) columns) (rule (columnWidths columns rows))
      (rows.map (line (columnWidths columns rows))) (columnWidths columns rows) := by
  have hheader := (fits_columnWidths columns rows).shows
  have hrows : ∀ row ∈ rows, Shows (columnWidths columns rows) row (line (columnWidths columns rows) row) :=
    fun row hrow => (fits_columnWidths_of_mem h hrow).shows
  refine ⟨getElem?_columnWidths columns rows, hheader, rule_eq _, ?_, ?_⟩
  · rw [List.forall₂_map_right_iff, List.forall₂_same]
    exact hrows
  · rw [List.forall_mem_cons, List.forall_mem_cons, List.forall_mem_map]
    exact ⟨hheader.length, by rw [rule_eq, length_dashes], fun row hrow => (hrows row hrow).length⟩

end Grid

/-! ## Results -/

namespace QueryResult

/-- **A result that is shown as a grid**: one line where there are no rows, else lines that show the table of its
cells, an empty line, and what is known about the rows. -/
inductive ShownAligned (r : QueryResult) (pattern : Option String) : Prop
  | empty : r.rows = [] → r.grid? pattern = some ["No rows"] → ShownAligned r pattern
  | table {header rule : String} {body : List String} {widths : List Nat} :
      r.rows ≠ [] → r.grid? pattern = some (header :: rule :: body ++ ["", Grid.footer r]) →
      Grid.Aligned r.columns (r.shownRows pattern) header rule body widths → ShownAligned r pattern

/-- **A result with the shape of a table is shown as a grid.** -/
theorem shownAligned_of_shaped {r : QueryResult} (hr : r.Shaped) (pattern : Option String) :
    r.ShownAligned pattern := by
  have hrows : ∀ row ∈ r.shownRows pattern, row.length = r.columns.length := by
    refine List.forall_mem_map.mpr fun row hrow => ?_
    rw [List.length_map]
    exact hr.rows row hrow
  by_cases hempty : r.rows = []
  · refine .empty hempty ?_
    rw [grid?, isEmpty, hempty]
    rfl
  · refine .table hempty ?_ (Grid.aligned_block hrows)
    rw [grid?, isEmpty, List.isEmpty_eq_false_iff.mpr hempty, if_neg Bool.false_ne_true]
    dsimp only
    rw [Grid.widths?_eq hrows]
    rfl

/-- **What was taken in is shown as a grid, and so is every pivot of it**, with any pattern for dates: no row is
looked at where it has no cell, and all lines of the table are aligned. -/
theorem shownAligned_of_taken {r : QueryResult}
    (taken : (∃ raw, ofRaw raw = .ok r) ∨ ∃ text, read text = .ok r) (pattern : Option String) :
    r.ShownAligned pattern ∧ ∀ c, (r.pivot c).ShownAligned pattern := by
  have hr : r.Shaped := by
    rcases taken with ⟨raw, hraw⟩ | ⟨text, htext⟩
    · exact shaped_of_ofRaw hraw
    · exact shaped_of_read htext
  exact ⟨shownAligned_of_shaped hr pattern, fun c => shownAligned_of_shaped (Pivot.shaped_pivot hr c) pattern⟩

/-- Ships in two harbours, as sent without type names. -/
def sentShips : RawResult where
  columns := ["Hafen", "année", "船"]
  columnTypes := []
  rows := [[.text "Malmö", .text "2023", .natural 4], [.text "Malmö", .text "2024", .natural 11],
    [.text "Åbo", .text "2024", .null]]
  rowCount := none
  truncated := false
  executionTimeMs := 0

/-- The ships by year. -/
def shipsByYear : PivotConfig := ⟨"année", "船", ["Hafen"], none⟩

/-- What is wider in bytes than in characters is aligned by its characters. -/
theorem shownAligned_ships : ∃ r, ofRaw sentShips = .ok r ∧ r.ShownAligned none ∧
    (r.pivot shipsByYear).ShownAligned none ∧ (r.pivot shipsByYear).grid? none = some
      ["Hafen | 2023 | 2024", "-------------------", "Malmö | 4    | 11  ", "Åbo   |      |     ", "", "2 rows"] := by
  obtain ⟨r, hr⟩ : ∃ r, ofRaw sentShips = .ok r := ⟨_, rfl⟩
  obtain ⟨halone, hpivot⟩ := shownAligned_of_taken (Or.inl ⟨sentShips, hr⟩) none
  refine ⟨r, hr, halone, hpivot shipsByYear, ?_⟩
  obtain rfl : _ = r := Except.ok.inj hr
  decide +kernel

end QueryResult

end QueryDesk
