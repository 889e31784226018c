import OnboxFvt.Cli.Gaps

/-!
# Printed grids

Tables as `tabulate` prints them in its grid style, and which tables `parse_table`
reads back exactly in both styles.
-/

namespace OnboxFvt.Cli

open Library Python

/-- A line of a grid, between its bars. -/
def boxLine (bar : Char) (parts : List Text) : Text :=
  bar :: [bar].intercalate parts ++ [bar]

def Slot.boxed (slot : Slot) : Text :=
  ' ' :: slot.padded ++ [' ']

def gridLine (slots : List Slot) : Text :=
  boxLine '|' (slots.map Slot.boxed)

def border (c : Char) (widths : List Nat) : Text :=
  boxLine '+' (widths.map fun width => List.replicate (width + 2) c)

/-- The lines below the header. -/
def gridBody (widths : List Nat) : List (List Slot) → List Text
  | [] => [border '-' widths]
  | row :: rest => (row :: rest).flatMap fun slots => [gridLine slots, border '-' widths]

def Table.gridLines (table : Table) : List Text :=
  border '-' table.widths :: gridLine table.header :: border '=' table.widths ::
    gridBody table.widths table.rows

/-- The grid style. -/
def Table.grid (table : Table) : Text :=
  joinLines table.gridLines

/-! ## Lines -/

section BoxLine

variable {bar c : Char} {parts : List Text}

theorem mem_boxLine (member : c ∈ boxLine bar parts) : c = bar ∨ ∃ part ∈ parts, c ∈ part := by
  rcases List.mem_append.mp member with front | last
  · rcases List.mem_cons.mp front with first | inside
    · exact Or.inl first
    · exact mem_intercalate inside
  · exact Or.inl (List.mem_singleton.mp last)

theorem isBlank_boxLine (visible : isSpace bar = false) : isBlank (boxLine bar parts) = false := by
  rw [isBlank, decide_eq_false_iff_not, strip_eq_nil]
  intro blank
  have space := blank bar (List.mem_cons_self ..)
  rw [visible] at space
  cases space

theorem strip_boxLine (visible : isSpace bar = false) :
    strip (boxLine bar parts) = boxLine bar parts := by
  refine strip_of_ends ?_ ?_
  · intro first same
    obtain rfl : bar = first := Option.some.inj same
    exact visible
  · intro last same
    rw [boxLine, List.getLast?_concat] at same
    obtain rfl : bar = last := Option.some.inj same
    exact visible

end BoxLine

theorem mem_boxed {slot : Slot} {c : Char} (member : c ∈ slot.boxed) :
    c = ' ' ∨ c ∈ slot.text := by
  rcases List.mem_append.mp member with front | last
  · rcases List.mem_cons.mp front with first | inside
    · exact Or.inl first
    · exact Slot.mem_padded inside
  · exact Or.inl (List.mem_singleton.mp last)

theorem strip_boxed (slot : Slot) : strip slot.boxed = slot.text := by
  rw [Slot.boxed, strip_concat_blank (by decide), strip_cons_blank (by decide), slot.strip_padded]

theorem plain_gridLine (slots : List Slot) : Python.Plain (gridLine slots) := by
  intro c member
  rcases mem_boxLine member with rfl | ⟨part, listed, inside⟩
  · decide
  · obtain ⟨slot, -, rfl⟩ := List.mem_map.mp listed
    rcases mem_boxed inside with rfl | text
    · decide
    · exact slot.cell.plain c text

theorem plain_border {c : Char} (plain : isLineBreak c = false) (widths : List Nat) :
    Python.Plain (border c widths) := by
  intro d member
  rcases mem_boxLine member with rfl | ⟨part, listed, inside⟩
  · decide
  · obtain ⟨width, -, rfl⟩ := List.mem_map.mp listed
    rw [List.eq_of_mem_replicate inside]
    exact plain

/-- The lines of a grid that name no column and show no row. -/
theorem madeOf_gridLine (slots : List Slot) :
    madeOf ['|', '+', '-', '=', ' '] (gridLine slots) = true ↔
      ¬ Informative ['|', '+', '-', '=', ' '] slots := by
  rw [madeOf, List.all_eq_true, not_informative_iff]
  constructor
  · intro made slot listed c inside
    have boxed : c ∈ slot.boxed := by simp [Slot.boxed, Slot.padded, inside]
    have member : c ∈ gridLine slots := by
      refine List.mem_append_left _ (List.mem_cons_of_mem _ ?_)
      exact mem_intercalate_of_mem (List.mem_map_of_mem listed) boxed
    exact of_decide_eq_true (made c member)
  · intro made c member
    rw [decide_eq_true_iff]
    rcases mem_boxLine member with rfl | ⟨part, boxed, inside⟩
    · decide
    · obtain ⟨slot, listed, rfl⟩ := List.mem_map.mp boxed
      rcases mem_boxed inside with rfl | text
      · decide
      · exact made slot listed c text

/-- The cells found in a grid line. -/
theorem gridCells_gridLine {slots : List Slot} (some : slots ≠ []) :
    gridCells (gridLine slots) = slots.map Slot.text := by
  have filled : ∀ part ∈ slots.map Slot.boxed, part ≠ [] := by
    intro part listed
    obtain ⟨slot, -, rfl⟩ := List.mem_map.mp listed
    exact List.cons_ne_nil _ _
  have barless : ∀ part ∈ slots.map Slot.boxed, '|' ∉ part := by
    intro part listed bar
    obtain ⟨slot, -, rfl⟩ := List.mem_map.mp listed
    rcases mem_boxed bar with blank | inside
    · exact absurd blank (by decide)
    · exact slot.cell.bar inside
  have inner : stripChars ['|'] (gridLine slots) = ['|'].intercalate (slots.map Slot.boxed) := by
    obtain ⟨first, rest, rfl⟩ := List.exists_cons_of_ne_nil some
    refine stripChars_around (List.mem_singleton_self _) (List.mem_singleton_self _)
      (intercalate_ne_nil (List.cons_ne_nil _ _) _) ?_ ?_
    · intro c same
      have filled' : first.boxed ≠ [] := List.cons_ne_nil _ _
      rw [List.map_cons, head?_intercalate filled'] at same
      obtain rfl : ' ' = c := Option.some.inj same
      decide
    · intro c same
      obtain ⟨part, listed, ends⟩ := getLast?_intercalate filled same
      obtain ⟨slot, -, rfl⟩ := List.mem_map.mp listed
      rw [Slot.boxed, List.getLast?_concat] at ends
      obtain rfl : ' ' = c := Option.some.inj ends
      decide
  have parts : splitOn '|' (['|'].intercalate (slots.map Slot.boxed)) = slots.map Slot.boxed :=
    List.splitOn_intercalate '|' barless (mt List.map_eq_nil_iff.mp some)
  rw [gridCells, gridLine, strip_boxLine (by decide), ← gridLine, inner, parts, List.map_map]
  exact List.map_congr_left fun slot _ => strip_boxed slot

/-! ## The lines of a table -/

theorem mem_gridBody {widths : List Nat} {rows : List (List Slot)} {line : Text}
    (member : line ∈ gridBody widths rows) :
    line = border '-' widths ∨ ∃ row ∈ rows, line = gridLine row := by
  cases rows with
  | nil => exact Or.inl (List.mem_singleton.mp member)
  | cons row rest =>
      obtain ⟨slots, listed, inside⟩ := List.mem_flatMap.mp member
      rcases List.mem_cons.mp inside with shown | last
      · exact Or.inr ⟨slots, listed, shown⟩
      · exact Or.inl (List.mem_singleton.mp last)

/-- Every line of a grid is a line of cells or a border. -/
theorem mem_gridLines {table : Table} {line : Text} (member : line ∈ table.gridLines) :
    (∃ c ∈ ['-', '='], line = border c table.widths) ∨ ∃ slots, line = gridLine slots := by
  rcases List.mem_cons.mp member with first | later
  · exact Or.inl ⟨'-', by decide, first⟩
  · rcases List.mem_cons.mp later with header | below
    · exact Or.inr ⟨table.header, header⟩
    · rcases List.mem_cons.mp below with second | body
      · exact Or.inl ⟨'=', by decide, second⟩
      · rcases mem_gridBody body with last | ⟨row, -, shown⟩
        · exact Or.inl ⟨'-', by decide, last⟩
        · exact Or.inr ⟨row, shown⟩

theorem plain_gridLines {table : Table} {line : Text} (member : line ∈ table.gridLines) :
    Python.Plain line := by
  rcases mem_gridLines member with ⟨c, listed, rfl⟩ | ⟨slots, rfl⟩
  · have plain : ∀ d ∈ ['-', '='], isLineBreak d = false :=
      forall_of_all (by decide)
    exact plain_border (plain c listed) _
  · exact plain_gridLine slots

theorem isBlank_gridLines {table : Table} {line : Text} (member : line ∈ table.gridLines) :
    isBlank line = false := by
  rcases mem_gridLines member with ⟨c, -, rfl⟩ | ⟨slots, rfl⟩
  · exact isBlank_boxLine (by decide)
  · exact isBlank_boxLine (by decide)

theorem splitlines_grid (table : Table) : splitlines table.grid = table.gridLines := by
  rcases splitlines_joinLines fun _ member => plain_gridLines member with whole | short
  · exact whole
  · have blank : isBlank [] = false := by
      refine @isBlank_gridLines table [] ?_
      rw [← short]
      simp
    cases blank

theorem parseTable_grid (table : Table) :
    parseTable table.grid = gridRows table.gridLines := by
  have kept : table.gridLines.filter (!isBlank ·) = table.gridLines := by
    rw [List.filter_eq_self]
    intro line member
    rw [isBlank_gridLines member]
    rfl
  have bars : table.gridLines.any barred = true :=
    List.any_eq_true.mpr ⟨gridLine table.header, by simp [Table.gridLines], rfl⟩
  have some : table.gridLines ≠ [] := List.cons_ne_nil _ _
  rw [parseTable, splitlines_grid, kept, if_neg some, if_pos bars]

/-- Of a grid only the lines of cells can be kept. -/
theorem filter_gridLines (table : Table) {keep : Text → Bool}
    (dropped : ∀ c, keep (border c table.widths) = false) :
    table.gridLines.filter keep = ((table.header :: table.rows).map gridLine).filter keep := by
  have below (rows : List (List Slot)) :
      (rows.flatMap fun slots => [gridLine slots, border '-' table.widths]).filter keep =
        (rows.map gridLine).filter keep := by
    induction rows with
    | nil => rfl
    | cons row rest inductionHypothesis =>
        rw [List.flatMap_cons, List.filter_append, inductionHypothesis, List.map_cons,
          List.filter_cons, List.filter_cons, List.filter_cons, dropped]
        split <;> rfl
  have body : (gridBody table.widths table.rows).filter keep =
      (table.rows.map gridLine).filter keep := by
    cases table.rows with
    | nil => rw [gridBody, List.filter_cons, dropped]; rfl
    | cons row rest => exact below (row :: rest)
  rw [Table.gridLines, List.filter_cons, dropped, List.map_cons, List.filter_cons,
    List.filter_cons, List.filter_cons, dropped, body]
  rfl

/-! ## Rows -/

/-- The characters of which the borders of a grid are made. -/
abbrev borderChars : List Char :=
  ['|', '+', '-', '=', ' ']

theorem kept_gridLine_iff (slots : List Slot) :
    (barred (gridLine slots) && !madeOf borderChars (gridLine slots)) = true ↔
      Informative borderChars slots := by
  have bars : barred (gridLine slots) = true := rfl
  rw [bars, Bool.true_and, Bool.not_eq_true', ← Bool.not_eq_true, madeOf_gridLine, not_not]

/-- The first line that is kept is taken for the header. -/
theorem length_gridRows_le (lines : List Text) :
    (gridRows lines).length ≤
      (lines.filter fun line => barred line && !madeOf borderChars line).length - 1 := by
  rw [gridRows]
  cases lines.filter fun line => barred line && !madeOf borderChars line with
  | nil => exact Nat.zero_le _
  | cons first rest => exact List.length_filterMap_le _ rest

section Grid

variable {table : Table}

theorem ne_nil_header (table : Table) : table.header ≠ [] := by
  intro empty
  have two := table.two
  rw [empty] at two
  cases two

theorem ne_nil_row {row : List Slot} (member : row ∈ table.rows) : row ≠ [] := by
  intro empty
  have lengths := Table.length_row member
  rw [empty, List.length_nil] at lengths
  exact ne_nil_header table (List.length_eq_zero_iff.mp lengths.symm)

theorem gridRows_named (named : Informative borderChars table.header) :
    gridRows table.gridLines = table.rows.filterMap fun row =>
      if ¬ Informative borderChars row then none
      else
        if (gridCells (gridLine row)).length = table.names.length then
          some (rowDict table.names (gridCells (gridLine row)))
        else none := by
  have header : gridCells (gridLine table.header) = table.names :=
    gridCells_gridLine (ne_nil_header table)
  rw [gridRows, filter_gridLines table fun c => rfl, List.map_cons,
    List.filter_cons_of_pos (by rw [kept_gridLine_iff]; exact named)]
  simp only [header]
  rw [List.filterMap_filter, List.filterMap_map]
  refine List.filterMap_congr fun row _ => ?_
  simp only [Function.comp_apply, kept_gridLine_iff, ite_not]

theorem readAs_grid_iff (table : Table) :
    table.ReadAs (parseTable table.grid) ↔ ∀ row ∈ table.rows,
      Informative borderChars table.header ∧ Informative borderChars row := by
  rw [parseTable_grid]
  by_cases named : Informative borderChars table.header
  · rw [gridRows_named named, Table.ReadAs, forall₂_filterMap_iff]
    refine forall₂_congr fun row member => ?_
    have cells := gridCells_gridLine (ne_nil_row member)
    have lengths := length_cells member
    simp only [cells]
    rw [kept_row_iff table.nodup_names (fun _ => rfl) id lengths fun _ _ _ => lengths, not_not,
      and_iff_right named]
    simp only [and_true]
  · constructor
    · intro read row member
      have fewer := length_gridRows_le table.gridLines
      rw [filter_gridLines table fun c => rfl, List.map_cons,
        List.filter_cons_of_neg (by rw [kept_gridLine_iff]; exact named), read.length_eq] at fewer
      have atMost := List.length_filter_le
        (fun line => barred line && !madeOf borderChars line) (table.rows.map gridLine)
      rw [List.length_map] at atMost
      have positive := List.length_pos_of_mem member
      omega
    · intro all
      have none : table.rows = [] := by
        refine List.eq_nil_iff_forall_not_mem.mpr fun row member => ?_
        exact named (all row member).1
      have short := length_gridRows_le table.gridLines
      rw [filter_gridLines table fun c => rfl, List.map_cons,
        List.filter_cons_of_neg (by rw [kept_gridLine_iff]; exact named), none] at short
      rw [List.eq_nil_of_length_eq_zero (Nat.le_zero.mp short), Table.ReadAs, none]
      exact List.Forall₂.nil

end Grid

/-! ## Both styles -/

/-- The tables that the simple style loses nothing of. -/
def Table.LegibleColumns (table : Table) : Prop :=
  ∀ row ∈ table.rows, Informative ['-', '+', ' '] row ∧
    if table.DashHeader then
      (∀ slot ∈ table.header, Tight slot.text) ∧ ∀ slot ∈ row, slot.text ≠ [] ∧ Tight slot.text
    else InReach 0 table.header ∧ InReach 0 row

/-- The tables that the grid style loses nothing of. -/
def Table.LegibleBoxes (table : Table) : Prop :=
  ∀ row ∈ table.rows, Informative borderChars table.header ∧ Informative borderChars row

/-- A table is read back row by row when no row looks like a border, and in a grid the
header does not look like one either. -/
theorem table_read_back_iff (table : Table) :
    (table.ReadAs (parseTable table.simple) ↔ table.LegibleColumns) ∧
      (table.ReadAs (parseTable table.grid) ↔ table.LegibleBoxes) := by
  refine ⟨?_, readAs_grid_iff table⟩
  by_cases dashed : table.DashHeader
  · rw [readAs_loose_iff dashed, Table.LegibleColumns]
    simp only [if_pos dashed]
  · rw [readAs_fixed_iff dashed, Table.LegibleColumns]
    simp only [if_neg dashed]

/-- Two ports, of which the second has neither an admin nor an oper state. -/
def portStates : Table where
  widths := [5, 4]
  header := [⟨0, "Admin".toList, 0, by decide, by decide, by decide⟩,
    ⟨0, "Oper".toList, 0, by decide, by decide, by decide⟩]
  rows := [
    [⟨0, "up".toList, 3, by decide, by decide, by decide⟩,
      ⟨0, "up".toList, 2, by decide, by decide, by decide⟩],
    [⟨0, "-".toList, 4, by decide, by decide, by decide⟩,
      ⟨0, "-".toList, 3, by decide, by decide, by decide⟩]]
  aligned := by decide
  two := by decide
  named := by decide
  distinct := by decide

/-- A row of dashes is taken for a border and dropped in either style. -/
theorem row_of_dashes_dropped :
    portStates.simple = "Admin  Oper\n-----  ----\nup     up\n-      -".toList ∧
      parseTable portStates.simple =
        [[("Admin".toList, "up".toList), ("Oper".toList, "up".toList)]] ∧
      parseTable portStates.grid =
        [[("Admin".toList, "up".toList), ("Oper".toList, "up".toList)]] ∧
      ¬ portStates.ReadAs (parseTable portStates.simple) ∧
      ¬ portStates.ReadAs (parseTable portStates.grid) := by
  have simple : parseTable portStates.simple =
      [[("Admin".toList, "up".toList), ("Oper".toList, "up".toList)]] := by decide
  have grid : parseTable portStates.grid =
      [[("Admin".toList, "up".toList), ("Oper".toList, "up".toList)]] := by decide
  refine ⟨by decide, simple, grid, ?_, ?_⟩
  · intro read
    rw [simple] at read
    exact absurd read.length_eq (by decide)
  · intro read
    rw [grid] at read
    exact absurd read.length_eq (by decide)

end OnboxFvt.Cli
