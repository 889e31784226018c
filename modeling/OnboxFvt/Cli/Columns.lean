import OnboxFvt.Cli.Rendering

/-!
# Columns under dashes

The cut at the separator line, and the tables of the simple style that it reads back.
-/

namespace OnboxFvt.Cli

open Library Python

/-! ## The separator line -/

/-- The starts of columns with two blanks between them. -/
def offsets (start : Nat) : List Nat → List Nat
  | [] => []
  | width :: rest => start :: offsets (start + width + 2) rest

section Starts

variable (position : Nat)

theorem dashStartsFrom_inside (width : Nat) (rest : Text) :
    dashStartsFrom position true (List.replicate width '-' ++ rest) =
      dashStartsFrom (position + width) true rest := by
  induction width generalizing position with
  | zero => rfl
  | succ width inductionHypothesis =>
      rw [List.replicate_succ, List.cons_append, dashStartsFrom, if_pos rfl, if_pos rfl,
        inductionHypothesis, Nat.add_right_comm]
      rfl

theorem dashStartsFrom_run (width : Nat) (rest : Text) :
    dashStartsFrom position false (List.replicate (width + 1) '-' ++ rest) =
      position :: dashStartsFrom (position + (width + 1)) true rest := by
  rw [List.replicate_succ, List.cons_append, dashStartsFrom, if_pos rfl,
    if_neg Bool.false_ne_true, dashStartsFrom_inside, Nat.add_right_comm]
  rfl

theorem dashStartsFrom_dashes {widths : List Nat} (positive : ∀ width ∈ widths, 0 < width) :
    dashStartsFrom position false (dashes widths) = offsets position widths := by
  induction widths generalizing position with
  | nil => rfl
  | cons width rest inductionHypothesis =>
      rw [List.forall_mem_cons] at positive
      obtain ⟨smaller, rfl⟩ := Nat.exists_eq_succ_of_ne_zero positive.1.ne'
      cases rest with
      | nil =>
          have run := dashStartsFrom_run position smaller []
          rw [List.append_nil] at run
          have alone : dashes [smaller + 1] = List.replicate (smaller + 1) '-' := by simp [dashes]
          rw [alone, run]
          rfl
      | cons next others =>
          rw [dashes_cons_cons, List.append_assoc, dashStartsFrom_run, offsets,
            ← inductionHypothesis _ positive.2]
          rfl

/-- The runs on both sides of a blank. -/
theorem dashStartsFrom_blank (inside : Bool) (first second : Text) :
    dashStartsFrom position inside (first ++ ' ' :: second) =
      dashStartsFrom position inside first ++
        dashStartsFrom (position + first.length + 1) false second := by
  induction first generalizing position inside with
  | nil => rfl
  | cons c rest inductionHypothesis =>
      have moved : position + 1 + rest.length + 1 = position + (c :: rest).length + 1 := by
        rw [List.length_cons]
        omega
      rw [List.cons_append, dashStartsFrom, dashStartsFrom]
      simp only [inductionHypothesis, moved]
      split
      next => split <;> rfl
      next => rfl

theorem dashStartsFrom_dashless (inside : Bool) {text : Text} (dashless : '-' ∉ text) :
    dashStartsFrom position inside text = [] := by
  induction text generalizing position inside with
  | nil => rfl
  | cons c rest inductionHypothesis =>
      obtain ⟨different, later⟩ := not_or.mp (mt List.mem_cons.mpr dashless)
      rw [dashStartsFrom, if_neg (Ne.symm different), inductionHypothesis _ _ later]

theorem dashStartsFrom_append_dashless (inside : Bool) (text : Text) {blanks : Text}
    (dashless : '-' ∉ blanks) :
    dashStartsFrom position inside (text ++ blanks) = dashStartsFrom position inside text := by
  induction text generalizing position inside with
  | nil => exact dashStartsFrom_dashless position inside dashless
  | cons c rest inductionHypothesis =>
      rw [List.cons_append, dashStartsFrom, dashStartsFrom]
      simp only [inductionHypothesis]

theorem dashStartsFrom_ne_nil {text : Text} (dash : '-' ∈ text) :
    dashStartsFrom position false text ≠ [] := by
  induction text generalizing position with
  | nil => cases dash
  | cons c rest inductionHypothesis =>
      rw [dashStartsFrom]
      by_cases here : c = '-'
      · rw [if_pos here, if_neg Bool.false_ne_true]
        exact List.cons_ne_nil _ _
      · rw [if_neg here]
        exact inductionHypothesis _ ((List.mem_cons.mp dash).resolve_left (Ne.symm here))

end Starts

theorem length_offsets (start : Nat) (widths : List Nat) :
    (offsets start widths).length = widths.length := by
  induction widths generalizing start with
  | nil => rfl
  | cons width rest inductionHypothesis =>
      rw [offsets, List.length_cons, inductionHypothesis, List.length_cons]

theorem isSeparator_dashes {widths : List Nat} (two : 2 ≤ widths.length)
    (positive : ∀ width ∈ widths, 0 < width) : isSeparator (dashes widths) = true := by
  have starts : dashStarts (dashes widths) = offsets 0 widths := dashStartsFrom_dashes 0 positive
  have made : madeOf ['-', ' '] (strip (dashes widths)) = true := by
    rw [madeOf, List.all_eq_true]
    intro c member
    exact decide_eq_true (mem_dashes ((strip_inside _).subset member))
  have filled : isBlank (dashes widths) = false := by
    rw [isBlank, decide_eq_false_iff_not, strip_eq_nil]
    intro blank
    obtain ⟨width, rest, rfl⟩ := List.exists_cons_of_length_pos (by omega : 0 < widths.length)
    rw [List.forall_mem_cons] at positive
    have dash : '-' ∈ List.replicate width '-' := List.mem_replicate.mpr ⟨positive.1.ne', rfl⟩
    have inside : '-' ∈ dashes (width :: rest) := by
      cases rest with
      | nil => simpa [dashes] using dash
      | cons next others =>
          rw [dashes_cons_cons]
          simp [dash]
    exact absurd (blank '-' inside) (by decide)
  rw [isSeparator, filled, made, starts, length_offsets, decide_eq_true two]
  rfl

/-! ## Cutting a line at the columns -/

/-- The cells that `cut` finds in a line; of the last one only what is within reach. -/
def seenCells (start : Nat) : List Slot → List Text
  | [] => []
  | [slot] => [strip (slot.padded.take (10 ^ 9 - start))]
  | slot :: next :: rest => slot.text :: seenCells (start + slot.width + 2) (next :: rest)

/-- The text of the last cell ends within the first `10 ** 9` characters. -/
def InReach (start : Nat) : List Slot → Prop
  | [] => True
  | [slot] => slot.text = [] ∨ start + slot.before + slot.text.length ≤ 10 ^ 9
  | slot :: next :: rest => InReach (start + slot.width + 2) (next :: rest)

theorem strip_take_padded (slot : Slot) (count : Nat) :
    strip (slot.padded.take count) = slot.text ↔
      slot.text = [] ∨ slot.before + slot.text.length ≤ count := by
  have cut : strip (slot.padded.take count) = strip (slot.text.take (count - slot.before)) := by
    rw [Slot.padded, List.take_append, List.take_append, strip_append_blanks, strip_blanks_append,
      List.length_replicate]
    · exact fun c member => Slot.blank_replicate _ c (List.mem_of_mem_take member)
    · exact fun c member => Slot.blank_replicate _ c (List.mem_of_mem_take member)
  rw [cut]
  constructor
  · intro same
    by_contra neither
    rw [not_or, not_le] at neither
    have shorter := (strip_inside (slot.text.take (count - slot.before))).length_le
    have positive := List.length_pos_iff.mpr neither.1
    rw [same, List.length_take] at shorter
    omega
  · rintro (empty | whole)
    · rw [empty, List.take_nil]
      rfl
    · rw [List.take_of_length_le (by omega), slot.cell.trimmed]

theorem seenCells_eq_iff (start : Nat) (slots : List Slot) :
    seenCells start slots = slots.map Slot.text ↔ InReach start slots := by
  induction slots generalizing start with
  | nil => exact iff_of_true rfl trivial
  | cons slot rest inductionHypothesis =>
      cases rest with
      | nil =>
          rw [seenCells, InReach, List.map_singleton, List.singleton_inj, strip_take_padded]
          refine or_congr_right' fun nonempty => ?_
          have := List.length_pos_iff.mpr nonempty
          omega
      | cons next others =>
          rw [seenCells, InReach, List.map_cons, List.cons.injEq, and_iff_right rfl,
            inductionHypothesis]

/-- Only the last cell can be cut off. -/
theorem seenCells_shape (start : Nat) (slot : Slot) (rest : List Slot) :
    ∃ init seen text, seenCells start (slot :: rest) = init ++ [seen] ∧
      (slot :: rest).map Slot.text = init ++ [text] := by
  induction rest generalizing start slot with
  | nil => exact ⟨[], _, slot.text, rfl, rfl⟩
  | cons next others inductionHypothesis =>
      obtain ⟨init, seen, text, cells, texts⟩ :=
        inductionHypothesis (start + slot.width + 2) next
      refine ⟨slot.text :: init, seen, text, ?_, ?_⟩
      · rw [seenCells, cells]
        rfl
      · rw [List.map_cons, texts]
        rfl

/-- Blanks at the end of a line are not seen. -/
theorem strip_slice_append (first last : Nat) (line : Text) {blanks : Text}
    (blank : ∀ c ∈ blanks, isSpace c = true) :
    strip (slice first last (line ++ blanks)) = strip (slice first last line) := by
  rw [slice, slice, List.drop_append, List.take_append, strip_append_blanks]
  exact fun c member => blank c (List.mem_of_mem_drop (List.mem_of_mem_take member))

theorem cut_joinSlots (front : Text) (slots : List Slot) :
    cut (offsets front.length (slots.map Slot.width)) (front ++ joinSlots slots) =
      seenCells front.length slots := by
  induction slots generalizing front with
  | nil => rfl
  | cons slot rest inductionHypothesis =>
      cases rest with
      | nil =>
          simp only [cut, offsets, List.map_cons, List.map_nil, List.tail_cons, List.nil_append,
            List.zip_cons_cons, List.zip_nil_left, slice, List.drop_left, joinSlots_singleton,
            seenCells]
      | cons next others =>
          have deeper := inductionHypothesis (front ++ (slot.padded ++ [' ', ' ']))
          have start : (front ++ (slot.padded ++ [' ', ' '])).length =
              front.length + slot.width + 2 := by
            simp only [List.length_append, slot.length_padded, List.length_cons, List.length_nil]
            omega
          have column : slice front.length (front.length + slot.width + 2)
              (front ++ (slot.padded ++ [' ', ' '] ++ joinSlots (next :: others))) =
                slot.padded ++ [' ', ' '] := by
            rw [slice, List.drop_left]
            apply List.take_left'
            simp only [List.length_append, slot.length_padded, List.length_cons, List.length_nil]
            omega
          have blank : ∀ c ∈ [' ', ' '], isSpace c = true := Slot.blank_replicate 2
          have gap : strip (slot.padded ++ [' ', ' ']) = slot.text := by
            rw [strip_append_blanks _ blank, slot.strip_padded]
          rw [start, List.append_assoc] at deeper
          rw [joinSlots_cons_cons, seenCells, ← deeper]
          simp only [cut, offsets, List.map_cons, List.tail_cons, List.cons_append,
            List.zip_cons_cons]
          rw [column, gap]

/-- The cells found in a printed line. -/
theorem cut_simpleLine (slots : List Slot) :
    cut (offsets 0 (slots.map Slot.width)) (simpleLine slots) = seenCells 0 slots := by
  obtain ⟨blanks, blank, whole⟩ := exists_blanks slots
  have joined := cut_joinSlots [] slots
  rw [List.length_nil, List.nil_append, ← whole] at joined
  rw [← joined, cut, cut]
  refine List.map_congr_left fun bounds _ => ?_
  exact (strip_slice_append _ _ _ blank).symm

/-! ## Lines of a table -/

theorem plain_simpleLine (slots : List Slot) : Python.Plain (simpleLine slots) := by
  intro c member
  rcases mem_simpleLine member with rfl | ⟨slot, _, inside⟩
  · decide
  · exact slot.cell.plain c inside

theorem plain_dashes (widths : List Nat) : Python.Plain (dashes widths) := by
  intro c member
  have plain : ∀ d ∈ ['-', ' '], isLineBreak d = false :=
      forall_of_all (by decide)
  exact plain c (mem_dashes member)

theorem barred_iff {line : Text} (barless : '|' ∉ line) : barred line = false := by
  rw [barred, ← Bool.not_eq_true, startsWith_iff]
  intro begins
  exact barless ((List.dropWhile_suffix _).subset (begins.subset (List.mem_singleton_self _)))

theorem bar_notMem_simpleLine (slots : List Slot) : '|' ∉ simpleLine slots := by
  intro member
  rcases mem_simpleLine member with blank | ⟨slot, _, inside⟩
  · exact absurd blank (by decide)
  · exact slot.cell.bar inside

/-- A line that `parse_table` keeps, as a row of its own or as none. -/
theorem filterMap_rows {f : Text → Option TableRow} (empty : f [] = none) {kept lines : List Text}
    (same : kept = lines ∨ kept ++ [[]] = lines) : kept.filterMap f = lines.filterMap f := by
  rcases same with rfl | rfl
  · rfl
  · rw [List.filterMap_append, List.filterMap_cons, empty]
    simp

theorem not_isBlank {row : List Slot} (some : ∃ slot ∈ row, slot.text ≠ []) :
    isBlank (simpleLine row) = false := by
  obtain ⟨slot, listed, filled⟩ := some
  rw [← Bool.not_eq_true, isBlank_simpleLine]
  exact fun empty => filled (empty slot listed)

section Simple

variable (table : Table)

theorem raw_simple : ∃ after, splitlines table.simple =
    simpleLine table.header :: dashes table.widths :: after ∧
      (after = table.rows.map simpleLine ∨ after ++ [[]] = table.rows.map simpleLine) := by
  have plain : ∀ line ∈ simpleLine table.header :: dashes table.widths ::
      table.rows.map simpleLine, Python.Plain line := by
    rw [List.forall_mem_cons, List.forall_mem_cons]
    refine ⟨plain_simpleLine _, plain_dashes _, fun line member => ?_⟩
    obtain ⟨row, -, rfl⟩ := List.mem_map.mp member
    exact plain_simpleLine row
  rcases splitlines_joinLines plain with whole | short
  · exact ⟨_, whole, Or.inl rfl⟩
  · cases kept : splitlines table.simple with
    | nil =>
        rw [Table.simple] at kept
        rw [kept] at short
        exact absurd (List.cons.inj short).2 (List.cons_ne_nil _ _).symm
    | cons first rest =>
        rw [Table.simple] at kept
        rw [kept] at short
        obtain ⟨rfl, later⟩ := List.cons.inj short
        cases rest with
        | nil =>
            have separator := isSeparator_dashes table.length_widths table.positive_widths
            rw [← (List.cons.inj later).1] at separator
            cases separator
        | cons second after =>
            obtain ⟨rfl, rows⟩ := List.cons.inj later
            exact ⟨after, rfl, Or.inr rows⟩

theorem isBlank_header : isBlank (simpleLine table.header) = false :=
  not_isBlank (exists_named table)

/-- There is no grid in the simple style. -/
theorem any_barred_simple {after : List Text}
    (rows : after = table.rows.map simpleLine ∨ after ++ [[]] = table.rows.map simpleLine) :
    ((simpleLine table.header :: dashes table.widths :: after).filter (!isBlank ·)).any barred =
      false := by
  rw [List.any_eq_false]
  intro line member
  rw [Bool.not_eq_true]
  apply barred_iff
  have among : ∀ line ∈ after, line ∈ table.rows.map simpleLine := by
    rcases rows with rfl | whole
    · exact fun line member => member
    · exact fun line member => whole ▸ List.mem_append_left _ member
  rcases List.mem_cons.mp (List.mem_filter.mp member).1 with rfl | later
  · exact bar_notMem_simpleLine _
  · rcases List.mem_cons.mp later with rfl | row
    · intro bar
      exact absurd (mem_dashes bar) (by decide)
    · obtain ⟨slots, -, rfl⟩ := List.mem_map.mp (among line row)
      exact bar_notMem_simpleLine slots

theorem parseTable_fixed (named : isSeparator (simpleLine table.header) = false) :
    parseTable table.simple =
      fixedRows (dashes table.widths) (simpleLine table.header) (table.rows.map simpleLine) := by
  obtain ⟨after, raw, rows⟩ := raw_simple table
  have separator := isSeparator_dashes table.length_widths table.positive_widths
  have unbarred := any_barred_simple table rows
  have kept :
      (simpleLine table.header :: dashes table.widths :: after).filter (!isBlank ·) ≠ [] := by
    rw [List.filter_cons_of_pos (by rw [isBlank_header]; rfl)]
    exact List.cons_ne_nil _ _
  rw [parseTable, raw, if_neg kept, if_neg (by rw [unbarred]; exact Bool.false_ne_true),
    List.dropWhile_cons_of_pos (by rw [named]; rfl),
    List.dropWhile_cons_of_neg (by simp [separator]),
    List.takeWhile_cons_of_pos (by rw [named]; rfl),
    List.takeWhile_cons_of_neg (by simp [separator])]
  simp only [List.reverse_singleton, List.find?_singleton, isBlank_header, Bool.not_false, if_true]
  exact filterMap_rows rfl rows

end Simple

/-- Every column name is of dashes and blanks. -/
def Table.DashHeader (table : Table) : Prop :=
  ∀ slot ∈ table.header, ∀ c ∈ slot.text, c ∈ ['-', ' ']

instance (table : Table) : Decidable table.DashHeader :=
  inferInstanceAs (Decidable (∀ slot ∈ table.header, ∀ c ∈ slot.text, c ∈ ['-', ' ']))

theorem dash_mem_slot {slot : Slot} (nonempty : slot.text ≠ [])
    (made : ∀ c ∈ slot.text, c ∈ ['-', ' ']) : '-' ∈ slot.text := by
  by_contra dashless
  have blank : ∀ c ∈ slot.text, isSpace c = true := by
    intro c member
    rcases List.mem_cons.mp (made c member) with rfl | space
    · exact absurd member dashless
    · rw [List.mem_singleton.mp space]
      decide
  exact nonempty (slot.cell.trimmed.symm.trans (strip_eq_nil.mpr blank))

/-- Dashes on both sides of a blank are two runs at least. -/
theorem two_le_dashStarts {first second : Text} (before : '-' ∈ first) (after : '-' ∈ second) :
    2 ≤ (dashStarts (first ++ ' ' :: second)).length := by
  have one := List.length_pos_iff.mpr (dashStartsFrom_ne_nil 0 before)
  have other := List.length_pos_iff.mpr (dashStartsFrom_ne_nil (0 + first.length + 1) after)
  rw [dashStarts, dashStartsFrom_blank, List.length_append]
  omega

theorem dashStarts_header {table : Table} (made : table.DashHeader) :
    2 ≤ (dashStarts (joinSlots table.header)).length := by
  have two := table.two
  have named := table.named
  rw [Table.DashHeader] at made
  cases header : table.header with
  | nil =>
      rw [header] at two
      cases two
  | cons first rest =>
      cases rest with
      | nil =>
          rw [header, List.length_singleton] at two
          omega
      | cons second others =>
          rw [header, List.forall_mem_cons] at made named
          have listed : second ∈ second :: others := List.mem_cons_self ..
          have firstDash : '-' ∈ first.padded := by
            simp [Slot.padded, dash_mem_slot named.1 made.1]
          have secondDash : '-' ∈ ' ' :: joinSlots (second :: others) := by
            obtain ⟨front, back, split⟩ := joinSlots_split listed
            rw [split]
            simp [dash_mem_slot (named.2 second listed) (made.2 second listed)]
          rw [joinSlots_cons_cons, List.append_assoc]
          exact two_le_dashStarts firstDash secondDash

theorem isSeparator_header (table : Table) :
    isSeparator (simpleLine table.header) = true ↔ table.DashHeader := by
  have blank : ' ' ∈ ['-', ' '] := by decide
  rw [isSeparator, isBlank_header, Bool.and_eq_true, Bool.and_eq_true, madeOf_strip blank,
    decide_eq_true_iff]
  refine ⟨fun both => both.1.2, fun made => ⟨⟨rfl, made⟩, ?_⟩⟩
  obtain ⟨blanks, spaces, whole⟩ := exists_blanks table.header
  have dashless : '-' ∉ blanks := fun dash => absurd (spaces '-' dash) (by decide)
  have starts : dashStarts (simpleLine table.header) = dashStarts (joinSlots table.header) := by
    rw [← whole]
    exact (dashStartsFrom_append_dashless 0 false _ dashless).symm
  rw [starts]
  exact dashStarts_header made

/-! ## Rows that are read back -/

section Fixed

variable {table : Table}

theorem length_seenCells (start : Nat) (slots : List Slot) :
    (seenCells start slots).length = slots.length := by
  cases slots with
  | nil => rfl
  | cons slot rest =>
      obtain ⟨init, seen, text, cells, texts⟩ := seenCells_shape start slot rest
      have lengths := congrArg List.length texts
      rw [List.length_map] at lengths
      rw [cells, lengths]
      simp

/-- The names are among the cells found in the header line only if they are these cells. -/
theorem seen_header (complete : ∀ name ∈ table.names, name ∈ seenCells 0 table.header) :
    seenCells 0 table.header = table.names := by
  cases header : table.header with
  | nil => rw [Table.names, header]; rfl
  | cons slot rest =>
      obtain ⟨init, seen, text, cells, texts⟩ := seenCells_shape 0 slot rest
      have distinct := table.distinct
      rw [Table.names, header, texts, cells] at complete
      rw [header, texts] at distinct
      rw [Table.names, header, texts, cells]
      rcases List.mem_append.mp (complete text (by simp)) with again | same
      · exact absurd rfl ((List.nodup_append.mp distinct).2.2 text again text (by simp))
      · rw [List.mem_singleton.mp same]

/-- The lines that are no rows. -/
theorem not_madeOf_iff (row : List Slot) :
    ¬ madeOf ['-', '+', ' '] (strip (simpleLine row)) = true ↔
      Informative ['-', '+', ' '] row := by
  rw [madeOf_strip (by decide), ← not_informative_iff, not_not]

theorem not_dropped_iff (row : List Slot) :
    ¬ (isBlank (simpleLine row) || madeOf ['-', '+', ' '] (strip (simpleLine row))) = true ↔
      Informative ['-', '+', ' '] row := by
  rw [Bool.or_eq_true, not_or, not_madeOf_iff]
  refine and_iff_right_of_imp fun informative => ?_
  rw [not_isBlank (exists_filled informative)]
  exact Bool.false_ne_true

theorem readAs_fixed_iff (named : ¬ table.DashHeader) :
    table.ReadAs (parseTable table.simple) ↔ ∀ row ∈ table.rows,
      Informative ['-', '+', ' '] row ∧ InReach 0 table.header ∧ InReach 0 row := by
  have separated : isSeparator (simpleLine table.header) = false := by
    rw [← Bool.not_eq_true, isSeparator_header]
    exact named
  have starts : dashStarts (dashes table.widths) = offsets 0 table.widths :=
    dashStartsFrom_dashes 0 table.positive_widths
  have header : cut (offsets 0 table.widths) (simpleLine table.header) =
      seenCells 0 table.header := by
    rw [← table.widths_header, cut_simpleLine]
  rw [parseTable_fixed table separated, fixedRows, starts]
  simp only [header]
  rw [List.filterMap_map, Table.ReadAs, forall₂_filterMap_iff]
  refine forall₂_congr fun row member => ?_
  have cells : cut (offsets 0 table.widths) (simpleLine row) = seenCells 0 row := by
    rw [← Table.widths_row member, cut_simpleLine]
  have lengths : (seenCells 0 row).length = (seenCells 0 table.header).length := by
    rw [length_seenCells, length_seenCells, Table.length_row member]
  simp only [Function.comp_apply, cells]
  rw [kept_row_iff table.nodup_names seen_header (fun _ => lengths) (length_cells member),
    not_dropped_iff]
  · exact and_congr_right fun _ => and_congr (seenCells_eq_iff 0 table.header)
      (seenCells_eq_iff 0 row)
  · intro notDropped _ same
    obtain ⟨slot, listed, filled⟩ := exists_filled ((not_dropped_iff row).mp notDropped)
    rw [same, List.any_eq_true]
    exact ⟨slot.text, List.mem_map_of_mem listed, by simpa using filled⟩

end Fixed

end OnboxFvt.Cli
