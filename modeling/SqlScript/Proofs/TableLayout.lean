import Mathlib.Algebra.GroupWithZero.Nat
import Mathlib.Data.List.Forall2
import SqlScript.Database.Engine
import SqlScript.Report.Table

/-!
# The layout of result tables

A result set whose rows have a value for each column is drawn as a box.  Its columns are as
wide as their longest text, up to a limit; every horizontal line and every line of cells has
the same length, and what a cell shows is its text, or the front of it and an ellipsis.

* `QueryRows.Rectangular`, `Engine.query_rectangular` — the rows that a query gives have a
  value for each column;
* `columnWidths_getElem?` — the width of a column, from its longest text;
* `border_hasLength`, `IsLine.hasLength` — the length of a line of the box is a matter of the widths;
* `IsCell`, `IsLine`, `isLine_of_mem` — what the line of a row shows;
* `render_aligned` — the whole table.
-/

namespace SqlScript

/-! ### Rows with a value for each column -/

namespace QueryRows

/-- Every row has a value for each column. -/
def Rectangular (table : QueryRows) : Prop :=
  ∀ row ∈ table.rows, row.length = table.columns.length

/-- The texts of a column, its header first. -/
def column (table : QueryRows) (i : Nat) : List String :=
  (table.columns :: table.rows).filterMap (·[i]?)

end QueryRows

theorem Prepared.table_rectangular {p : Prepared} {table : QueryRows} (h : p.table = .ok table) :
    table.Rectangular := by
  unfold Prepared.table at h
  split at h
  · cases h
  · split at h
    · cases h
    · next rows _ =>
      cases h
      intro row hrow
      obtain ⟨cells, -, rfl⟩ := List.mem_map.mp hrow
      simp [Prepared.rowText, Prepared.columnNames]

/-- The rows that a query gives have a value for each column. -/
theorem Engine.query_rectangular {σ : Type} (engine : Engine σ) (text : String) (s : σ)
    {table : QueryRows} (h : (engine.query text s).1 = .ok table) : table.Rectangular := by
  unfold Engine.query at h
  split at h
  · cases h
  · exact Prepared.table_rectangular h

namespace Table

/-! ### The widths of the columns -/

/-- The texts of the headers and of the cells. -/
def headerTexts (table : QueryRows) : List (List Char) :=
  table.columns.map String.toList

def rowTexts (table : QueryRows) : List (List (List Char)) :=
  table.rows.map (·.map String.toList)

/-- The widths with which a table is drawn. -/
def columnWidths (table : QueryRows) : List Nat :=
  widths (headerTexts table) (rowTexts table)

theorem length_columnWidths (table : QueryRows) :
    (columnWidths table).length = table.columns.length := by
  simp [columnWidths, widths, naturalWidths, headerTexts]

/-- The lengths of the cells of a column, where every row has one. -/
theorem lengths_cells {rows : List (List String)} {i : Nat} (h : ∀ row ∈ rows, i < row.length) :
    (rows.filterMap (·[i]?)).map String.length =
      (rows.map (·.map String.toList)).map fun row => (row[i]?.map List.length).getD 0 := by
  induction rows with
  | nil => rfl
  | cons row rows ih =>
    obtain ⟨hrow, hlater⟩ := List.forall_mem_cons.mp h
    have hcell : row[i]? = some row[i] := List.getElem?_eq_getElem hrow
    simp only [List.filterMap_cons, hcell, List.map_cons, List.getElem?_map, Option.map_some,
      Option.getD_some, String.length_toList, ih hlater]

/-- **A column is as wide as its longest text**, up to the limit. -/
theorem columnWidths_getElem? {table : QueryRows} (h : table.Rectangular) {i : Nat}
    (hi : i < table.columns.length) :
    ∃ longest, ((table.column i).map String.length).max? = some longest ∧
      (columnWidths table)[i]? = some (min maxWidth longest) := by
  have hheader : table.columns[i]? = some table.columns[i] := List.getElem?_eq_getElem hi
  have hcells : ∀ row ∈ table.rows, i < row.length := by
    intro row hrow
    rw [h row hrow]
    exact hi
  refine ⟨((rowTexts table).map fun row => (row[i]?.map List.length).getD 0).foldl max
    table.columns[i].length, ?_, ?_⟩
  · simp only [QueryRows.column, List.filterMap_cons, hheader, List.map_cons, lengths_cells hcells,
      List.max?_cons', rowTexts]
  · simp only [columnWidths, widths, naturalWidths, headerTexts, List.getElem?_map,
      List.getElem?_zipIdx, hheader, Option.map_some, List.foldl_map, Nat.zero_add,
      String.length_toList]

/-! ### Lines of the same length -/

/-- The length of a line of the box, before its end. -/
def boxWidth (widths : List Nat) : Nat :=
  1 + (widths.map (· + 3)).sum

/-- A line of the box: its text has a length and ends with a line feed. -/
def HasLength (n : Nat) (line : List Char) : Prop :=
  ∃ body, line = body ++ ['\n'] ∧ body.length = n

theorem length_dashes {widths : List Nat} (h : widths ≠ []) (middle : Char) :
    (List.intercalate [middle] (widths.map fun w => List.replicate (w + 2) '─')).length + 1 =
      (widths.map (· + 3)).sum := by
  induction widths with
  | nil => exact absurd rfl h
  | cons width widths ih =>
    cases widths with
    | nil => simp [List.intercalate_singleton]
    | cons next widths =>
      have hlater := ih (List.cons_ne_nil next widths)
      rw [List.map_cons] at hlater
      rw [List.map_cons, List.map_cons, List.intercalate_cons_cons, List.length_append,
        List.length_append, List.length_replicate, List.length_singleton, List.map_cons,
        List.sum_cons]
      omega

/-- **A horizontal line is as long as the box is wide.** -/
theorem border_hasLength {widths : List Nat} (h : widths ≠ []) (left middle right : Char) :
    HasLength (boxWidth widths) (border left middle right widths) := by
  refine ⟨left :: (List.intercalate [middle] (widths.map fun w => List.replicate (w + 2) '─') ++
    [right]), ?_, ?_⟩
  · simp [border]
  · have hdashes := length_dashes h middle
    rw [boxWidth, List.length_cons, List.length_append, List.length_singleton]
    omega

/-! ### Cells -/

/-- What a cell shows of a text: all of it, or the front of it and an ellipsis. -/
structure ShownAs (text : String) (shown : List Char) : Prop where
  whole : text.length ≤ 50 → shown = text.toList
  cut : 50 < text.length → shown = text.toList.take 49 ++ ['…']

/-- A cell of a width, with its right border: the text as it is shown, filled up with blanks. -/
def IsCell (text : String) (width : Nat) (cell : List Char) : Prop :=
  ∃ shown blanks, cell = ' ' :: (shown ++ blanks ++ [' ', '│']) ∧ ShownAs text shown ∧
    (∀ c ∈ blanks, c = ' ') ∧ shown.length + blanks.length = width

/-- A line of cells, one for each text. -/
def IsLine (widths : List Nat) (texts : List String) (line : List Char) : Prop :=
  ∃ cells, line = '│' :: (List.flatten cells ++ ['\n']) ∧
    List.Forall₂ (fun text cell => IsCell text.1 text.2 cell) (texts.zip widths) cells

/-- The width of a column leaves room for each of its texts. -/
def Fits (text : String) (width : Nat) : Prop :=
  ∃ longest, text.length ≤ longest ∧ width = min maxWidth longest

theorem shownAs_truncate {text : String} {width : Nat} (h : Fits text width) :
    ShownAs text (truncate width text.toList) := by
  obtain ⟨longest, hle, rfl⟩ := h
  have hlimit : maxWidth = 50 := rfl
  refine ⟨?_, ?_⟩
  · intro hshort
    rw [truncate, if_pos]
    rw [String.length_toList]
    omega
  · intro hlong
    have hwidth : min maxWidth longest = 50 := by omega
    rw [truncate, if_neg, hwidth]
    rw [String.length_toList]
    omega

theorem length_truncate_le {text : String} {width : Nat} (h : Fits text width) :
    (truncate width text.toList).length ≤ width := by
  rcases Nat.eq_zero_or_pos width with rfl | hpos
  · obtain ⟨longest, hle, hzero⟩ := h
    have hlimit : maxWidth = 50 := rfl
    have hempty : text.toList.length ≤ 0 := by
      rw [String.length_toList]
      omega
    rw [truncate, if_pos hempty]
    exact hempty
  · exact truncate_length hpos text.toList

/-- **A cell shows its text.** -/
theorem isCell_cell {text : String} {width : Nat} (h : Fits text width) :
    IsCell text width (cell text.toList width) := by
  have hle := length_truncate_le h
  refine ⟨_, _, rfl, shownAs_truncate h, ?_, ?_⟩
  · intro c hc
    exact List.eq_of_mem_replicate hc
  · rw [List.length_replicate]
    omega

theorem IsCell.length {text : String} {width : Nat} {cell : List Char} (h : IsCell text width cell) :
    cell.length = width + 3 := by
  obtain ⟨shown, blanks, rfl, -, -, hwidth⟩ := h
  simp only [List.length_cons, List.length_append, List.length_nil]
  omega

/-- The cells of a line together, whatever they show. -/
theorem length_flatten_cells {pairs : List (String × Nat)} {cells : List (List Char)}
    (h : List.Forall₂ (fun pair cell => IsCell pair.1 pair.2 cell) pairs cells) :
    cells.flatten.length = ((pairs.map Prod.snd).map (· + 3)).sum := by
  induction h with
  | nil => rfl
  | @cons pair cell pairs cells hcell hlater ih =>
    rw [List.flatten_cons, List.length_append, hcell.length, ih]
    rfl

/-- **A line of cells is as long as the box is wide.** -/
theorem IsLine.hasLength {widths : List Nat} {texts : List String} {line : List Char}
    (h : IsLine widths texts line) (hlength : texts.length = widths.length) :
    HasLength (boxWidth widths) line := by
  obtain ⟨cells, rfl, hcells⟩ := h
  refine ⟨'│' :: cells.flatten, rfl, ?_⟩
  rw [List.length_cons, length_flatten_cells hcells, List.map_snd_zip (Nat.le_of_eq hlength.symm),
    boxWidth, Nat.add_comm]

theorem isLine_line {widths : List Nat} {texts : List String}
    (h : ∀ pair ∈ texts.zip widths, Fits pair.1 pair.2) :
    IsLine widths texts (line widths (texts.map String.toList)) := by
  refine ⟨(texts.zip widths).map fun pair => cell pair.1.toList pair.2, ?_, ?_⟩
  · rw [line, List.zipWith_map_left, List.map_zip_eq_zipWith]
    rfl
  · rw [List.forall₂_map_right_iff, List.forall₂_same]
    intro pair hpair
    exact isCell_cell (h pair hpair)

/-- **The headers, and each row, are a line of cells.** -/
theorem isLine_of_mem {table : QueryRows} (h : table.Rectangular) {texts : List String}
    (htexts : texts ∈ table.columns :: table.rows) :
    IsLine (columnWidths table) texts (line (columnWidths table) (texts.map String.toList)) := by
  refine isLine_line ?_
  rintro ⟨text, width⟩ hpair
  obtain ⟨i, hi⟩ := List.mem_iff_getElem?.mp hpair
  obtain ⟨htext, hwidth⟩ := List.getElem?_zip_eq_some.mp hi
  have hlt : i < table.columns.length := by
    rw [← length_columnWidths table]
    exact (List.getElem?_eq_some_iff.mp hwidth).1
  obtain ⟨longest, hlongest, hmin⟩ := columnWidths_getElem? h hlt
  have hcolumn : text ∈ table.column i := List.mem_filterMap.mpr ⟨texts, htexts, htext⟩
  refine ⟨longest, ?_, Option.some.inj (hwidth.symm.trans hmin)⟩
  exact (List.max?_eq_some_iff.mp hlongest).2 _ (List.mem_map_of_mem hcolumn)

/-! ### The whole table -/

/-- **Tables are aligned and show what they hold.**  The rows that a query gives have a value for
each column.  Such a table with at least one column is drawn as a line above, the headers, a
line in the middle, one piece for each row, a line below, and the number of rows.  Each of
these lines and pieces but the last has the same length, which is one and three more than the
widths together; a width is the length of the longest text of its column, at most 50.  A
header or value of at most 50 characters stands in its cell as it is, and of a longer one the
first 49 characters and an ellipsis. -/
theorem render_aligned :
    (∀ {σ : Type} (engine : Engine σ) (text : String) (s : σ) (table : QueryRows),
      (engine.query text s).1 = .ok table → table.Rectangular) ∧
    ∀ table : QueryRows, table.columns ≠ [] → table.Rectangular →
      ∃ (widths : List Nat) (top header middle bottom : List Char) (pieces : List (List Char)),
        render table = top ++ header ++ middle ++ pieces.flatten ++ bottom ++
          (toString table.rows.length).toList ++
          (if table.rows.length = 1 then " row\n" else " rows\n").toList ∧
        top = border '┌' '┬' '┐' widths ∧ middle = border '├' '┼' '┤' widths ∧
        bottom = border '└' '┴' '┘' widths ∧
        IsLine widths table.columns header ∧ List.Forall₂ (IsLine widths) table.rows pieces ∧
        (∀ piece ∈ [top, header, middle, bottom] ++ pieces,
          HasLength (1 + (widths.map (· + 3)).sum) piece) ∧
        widths.length = table.columns.length ∧
        ∀ i < table.columns.length, ∃ longest,
          ((table.column i).map String.length).max? = some longest ∧
            widths[i]? = some (min 50 longest) := by
  refine ⟨fun engine text s table h => engine.query_rectangular text s h, ?_⟩
  intro table hcolumns hrows
  have hwidths := length_columnWidths table
  have hne : columnWidths table ≠ [] := by
    rintro hnil
    rw [hnil] at hwidths
    exact hcolumns (List.length_eq_zero_iff.mp hwidths.symm)
  have hline : ∀ texts ∈ table.columns :: table.rows,
      IsLine (columnWidths table) texts (line (columnWidths table) (texts.map String.toList)) :=
    fun texts htexts => isLine_of_mem hrows htexts
  have hpieces : List.Forall₂ (IsLine (columnWidths table)) table.rows
      ((rowTexts table).map (line (columnWidths table))) := by
    rw [rowTexts, List.map_map, List.forall₂_map_right_iff, List.forall₂_same]
    intro row hrow
    exact hline row (List.mem_cons_of_mem _ hrow)
  refine ⟨columnWidths table, _, _, _, _, _, ?_, rfl, rfl, rfl, hline _ List.mem_cons_self, hpieces,
    ?_, hwidths, ?_⟩
  · have hnonempty : table.columns.isEmpty = false := by simpa using hcolumns
    have hcount : countLine (rowTexts table).length =
        (toString table.rows.length).toList ++
          (if table.rows.length = 1 then " row\n" else " rows\n").toList := by
      rw [countLine, rowTexts, List.length_map, Nat.toString_eq_repr, Nat.repr, String.toList_ofList]
      rfl
    rw [render, hnonempty, List.append_assoc _ (toString _).toList, ← hcount]
    rfl
  · intro piece hpiece
    rcases List.mem_append.mp hpiece with hfixed | hrow
    · simp only [List.mem_cons, List.not_mem_nil, or_false] at hfixed
      rcases hfixed with rfl | rfl | rfl | rfl
      · exact border_hasLength hne _ _ _
      · exact (hline _ List.mem_cons_self).hasLength hwidths.symm
      · exact border_hasLength hne _ _ _
      · exact border_hasLength hne _ _ _
    · obtain ⟨texts, htexts, rfl⟩ := List.mem_map.mp hrow
      obtain ⟨row, hmem, rfl⟩ := List.mem_map.mp htexts
      exact (hline row (List.mem_cons_of_mem _ hmem)).hasLength ((hrows row hmem).trans hwidths.symm)
  · intro i hi
    exact columnWidths_getElem? hrows hi

/-- Of two columns one holds a text that is too long for it. -/
theorem render_aligned_long :
    let long := String.ofList (List.replicate 51 'ä')
    let table : QueryRows := { columns := ["id", "name"], rows := [["1", long], ["22", "NULL"]] }
    table.columns ≠ [] ∧ table.Rectangular ∧
      ∃ header first second : List Char,
        render table = border '┌' '┬' '┐' [2, 50] ++ header ++ border '├' '┼' '┤' [2, 50] ++
          [first, second].flatten ++ border '└' '┴' '┘' [2, 50] ++ "2 rows\n".toList ∧
        HasLength 59 first ∧ HasLength 59 second ∧ IsLine [2, 50] ["1", long] first := by
  intro long table
  have hrows : table.Rectangular := by
    intro row hrow
    rcases List.mem_pair.mp hrow with rfl | rfl
    · rfl
    · rfl
  refine ⟨List.cons_ne_nil _ _, hrows, ?_⟩
  obtain ⟨widths, top, header, middle, bottom, pieces, hrender, rfl, rfl, rfl, -, hpieces, hlength,
    htwo, hwidths⟩ := render_aligned.2 table (List.cons_ne_nil _ _) hrows
  obtain ⟨longest₀, hlongest₀, hwidth₀⟩ := hwidths 0 (by decide)
  obtain ⟨longest₁, hlongest₁, hwidth₁⟩ := hwidths 1 (by decide)
  have h₀ : longest₀ = 2 := by
    have hmax : ((table.column 0).map String.length).max? = some 2 := by decide +kernel
    exact Option.some.inj (hlongest₀.symm.trans hmax)
  have h₁ : longest₁ = 51 := by
    have hmax : ((table.column 1).map String.length).max? = some 51 := by decide +kernel
    exact Option.some.inj (hlongest₁.symm.trans hmax)
  match widths, htwo with
  | [width₀, width₁], _ =>
    obtain rfl : width₀ = 2 := by simpa [h₀] using hwidth₀
    obtain rfl : width₁ = 50 := by simpa [h₁] using hwidth₁
    obtain ⟨first, rest, hfirst, hrest, rfl⟩ := List.forall₂_cons_left_iff.mp hpieces
    obtain ⟨second, last, -, hlast, rfl⟩ := List.forall₂_cons_left_iff.mp hrest
    obtain rfl := List.forall₂_nil_left_iff.mp hlast
    refine ⟨header, first, second, ?_, hlength first (by simp), hlength second (by simp), hfirst⟩
    have hcount : (toString table.rows.length).toList ++
        (if table.rows.length = 1 then " row\n" else " rows\n").toList = "2 rows\n".toList := by
      decide +kernel
    rw [hrender, List.append_assoc _ (toString _).toList, hcount]

end Table

end SqlScript
