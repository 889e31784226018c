import Mathlib.Data.List.DropRight
import Mathlib.Data.List.Forall2
import OnboxFvt.Cli.Table
import OnboxFvt.Python.Lines
import OnboxFvt.Python.TextFacts

/-!
# Printed tables

Tables as `tabulate` prints them in its simple style, and what it is to read one back
row by row.
-/

namespace OnboxFvt.Cli

open Library Python

/-! ## Slots -/

/-- What a cell may hold. -/
structure Cell (text : Text) : Prop where
  bar : '|' ∉ text
  plain : Python.Plain text
  trimmed : strip text = text

/-- A cell padded to the width of its column. -/
structure Slot where
  before : Nat
  text : Text
  after : Nat
  cell : Cell text

namespace Slot

def padded (slot : Slot) : Text :=
  List.replicate slot.before ' ' ++ slot.text ++ List.replicate slot.after ' '

def width (slot : Slot) : Nat :=
  slot.before + slot.text.length + slot.after

theorem length_padded (slot : Slot) : slot.padded.length = slot.width := by
  simp [padded, width, Nat.add_assoc]

theorem mem_padded {slot : Slot} {c : Char} (member : c ∈ slot.padded) :
    c = ' ' ∨ c ∈ slot.text := by
  rcases List.mem_append.mp member with front | back
  · exact (List.mem_append.mp front).imp_left List.eq_of_mem_replicate
  · exact Or.inl (List.eq_of_mem_replicate back)

theorem blank_replicate (count : Nat) : ∀ c ∈ List.replicate count ' ', isSpace c = true := by
  intro c member
  rw [List.eq_of_mem_replicate member]
  decide

theorem strip_padded (slot : Slot) : strip slot.padded = slot.text := by
  rw [padded, strip_append_blanks _ (blank_replicate _), strip_blanks_append (blank_replicate _),
    slot.cell.trimmed]

end Slot

/-- The slots of a line with two blanks between them. -/
def joinSlots (slots : List Slot) : Text :=
  [' ', ' '].intercalate (slots.map Slot.padded)

/-- A line of the simple style; blanks at its end are cut off. -/
def simpleLine (slots : List Slot) : Text :=
  List.rdropWhile isSpace (joinSlots slots)

section Lines

variable {slots : List Slot} {c : Char}

theorem joinSlots_cons_cons (slot next : Slot) (rest : List Slot) :
    joinSlots (slot :: next :: rest) = slot.padded ++ [' ', ' '] ++ joinSlots (next :: rest) := by
  rw [joinSlots, List.map_cons, List.map_cons, List.intercalate_cons_cons, ← List.map_cons]
  rfl

theorem joinSlots_singleton (slot : Slot) : joinSlots [slot] = slot.padded := by
  simp [joinSlots]

theorem mem_joinSlots (member : c ∈ joinSlots slots) : c = ' ' ∨ ∃ slot ∈ slots, c ∈ slot.text := by
  induction slots with
  | nil => cases member
  | cons slot rest inductionHypothesis =>
      have own : c ∈ slot.padded → c = ' ' ∨ ∃ other ∈ slot :: rest, c ∈ other.text := fun inside =>
        (Slot.mem_padded inside).imp_right fun text => ⟨slot, List.mem_cons_self .., text⟩
      cases rest with
      | nil =>
          rw [joinSlots_singleton] at member
          exact own member
      | cons next others =>
          rw [joinSlots_cons_cons, List.mem_append, List.mem_append] at member
          rcases member with (inside | gap) | later
          · exact own inside
          · exact Or.inl (by simpa using gap)
          · refine (inductionHypothesis later).imp_right ?_
            rintro ⟨other, listed, text⟩
            exact ⟨other, List.mem_cons_of_mem slot listed, text⟩

/-- Every cell stands somewhere in its line. -/
theorem joinSlots_split {slot : Slot} (listed : slot ∈ slots) :
    ∃ front back, joinSlots slots = front ++ slot.text ++ back := by
  induction slots with
  | nil => cases listed
  | cons first rest inductionHypothesis =>
      have own : ∃ front back, first.padded = front ++ first.text ++ back :=
        ⟨_, _, rfl⟩
      cases rest with
      | nil =>
          rw [List.mem_singleton.mp listed, joinSlots_singleton]
          exact own
      | cons next others =>
          rw [joinSlots_cons_cons]
          rcases List.mem_cons.mp listed with rfl | later
          · obtain ⟨front, back, split⟩ := own
            exact ⟨front, back ++ [' ', ' '] ++ joinSlots (next :: others), by rw [split]; simp⟩
          · obtain ⟨front, back, split⟩ := inductionHypothesis later
            exact ⟨first.padded ++ [' ', ' '] ++ front, back, by rw [split]; simp⟩

/-- The blanks cut off the end. -/
theorem exists_blanks (slots : List Slot) :
    ∃ blanks, (∀ c ∈ blanks, isSpace c = true) ∧ simpleLine slots ++ blanks = joinSlots slots :=
  ⟨List.rtakeWhile isSpace (joinSlots slots), fun _ => List.mem_rtakeWhile_imp,
    List.rdropWhile_append_rtakeWhile⟩

theorem strip_simpleLine (slots : List Slot) :
    strip (simpleLine slots) = strip (joinSlots slots) := by
  obtain ⟨blanks, blank, whole⟩ := exists_blanks slots
  rw [← whole, strip_append_blanks _ blank]

theorem mem_simpleLine (member : c ∈ simpleLine slots) : c = ' ' ∨ ∃ slot ∈ slots, c ∈ slot.text :=
  mem_joinSlots ((List.rdropWhile_prefix _ _).subset member)

/-- What is left of a line when the blanks around it are gone. -/
theorem madeOf_strip {chars : List Char} (blank : ' ' ∈ chars) (slots : List Slot) :
    madeOf chars (strip (simpleLine slots)) = true ↔
      ∀ slot ∈ slots, ∀ c ∈ slot.text, c ∈ chars := by
  rw [madeOf, List.all_eq_true, strip_simpleLine]
  constructor
  · intro made slot listed c inside
    obtain ⟨front, back, split⟩ := joinSlots_split listed
    obtain ⟨front', back', kept⟩ :=
      strip_around (List.ne_nil_of_mem inside) slot.cell.trimmed front back
    have member : c ∈ strip (joinSlots slots) := by
      rw [split, kept]
      simp [inside]
    simpa using made c member
  · intro made c member
    rw [decide_eq_true_iff]
    rcases mem_joinSlots ((strip_inside _).subset member) with rfl | ⟨slot, listed, inside⟩
    · exact blank
    · exact made slot listed c inside

theorem isBlank_simpleLine (slots : List Slot) :
    isBlank (simpleLine slots) = true ↔ ∀ slot ∈ slots, slot.text = [] := by
  rw [isBlank, decide_eq_true_iff, strip_simpleLine]
  constructor
  · intro empty slot listed
    by_contra nonempty
    obtain ⟨front, back, split⟩ := joinSlots_split listed
    obtain ⟨front', back', kept⟩ := strip_around nonempty slot.cell.trimmed front back
    rw [split, kept] at empty
    simp [nonempty] at empty
  · intro empty
    rw [strip_eq_nil]
    intro c member
    rcases mem_joinSlots member with rfl | ⟨slot, listed, inside⟩
    · decide
    · rw [empty slot listed] at inside
      cases inside

end Lines

/-! ## Tables -/

def dashes (widths : List Nat) : Text :=
  [' ', ' '].intercalate (widths.map (List.replicate · '-'))

theorem dashes_cons_cons (width next : Nat) (rest : List Nat) :
    dashes (width :: next :: rest) =
      List.replicate width '-' ++ [' ', ' '] ++ dashes (next :: rest) := by
  rw [dashes, List.map_cons, List.map_cons, List.intercalate_cons_cons]
  rfl

theorem mem_dashes {widths : List Nat} {c : Char} (member : c ∈ dashes widths) :
    c ∈ ['-', ' '] := by
  induction widths with
  | nil => cases member
  | cons width rest inductionHypothesis =>
      have own : c ∈ List.replicate width '-' → c ∈ ['-', ' '] := fun inside => by
        rw [List.eq_of_mem_replicate inside]
        simp
      cases rest with
      | nil => exact own (by simpa [dashes] using member)
      | cons next others =>
          rw [dashes_cons_cons, List.mem_append, List.mem_append] at member
          rcases member with (inside | gap) | later
          · exact own inside
          · have blank : c = ' ' := by simpa using gap
            rw [blank]
            simp
          · exact inductionHypothesis later

structure Table where
  widths : List Nat
  header : List Slot
  rows : List (List Slot)
  aligned : ∀ line ∈ header :: rows, line.map Slot.width = widths
  two : 2 ≤ header.length
  named : ∀ slot ∈ header, slot.text ≠ []
  distinct : (header.map Slot.text).Nodup

namespace Table

variable (table : Table)

def names : List Text :=
  table.header.map Slot.text

/-- The simple style. -/
def simple : Text :=
  joinLines (simpleLine table.header :: dashes table.widths :: table.rows.map simpleLine)

/-- The rows are those of the table, in their order. -/
def ReadAs (parsed : List TableRow) : Prop :=
  List.Forall₂ (fun dict row => ∀ name, dict.lookup name =
    (table.names.zip (row.map Slot.text)).lookup name) parsed table.rows

theorem nodup_names : table.names.Nodup :=
  table.distinct

theorem widths_header : table.header.map Slot.width = table.widths :=
  table.aligned _ (List.mem_cons_self ..)

variable {table}

theorem widths_row {row : List Slot} (member : row ∈ table.rows) :
    row.map Slot.width = table.widths :=
  table.aligned row (List.mem_cons_of_mem _ member)

theorem length_row {row : List Slot} (member : row ∈ table.rows) :
    row.length = table.header.length := by
  have lengths := congrArg List.length ((widths_row member).trans table.widths_header.symm)
  rwa [List.length_map, List.length_map] at lengths

theorem positive_widths : ∀ width ∈ table.widths, 0 < width := by
  intro width member
  rw [← table.widths_header] at member
  obtain ⟨slot, listed, rfl⟩ := List.mem_map.mp member
  have := List.length_pos_iff.mpr (table.named slot listed)
  rw [Slot.width]
  omega

theorem length_widths : 2 ≤ table.widths.length := by
  rw [← table.widths_header, List.length_map]
  exact table.two

end Table

theorem exists_named (table : Table) : ∃ slot ∈ table.header, slot.text ≠ [] := by
  obtain ⟨slot, rest, split⟩ := List.exists_cons_of_length_pos
    (show 0 < table.header.length from lt_of_lt_of_le (by decide) table.two)
  have listed : slot ∈ table.header := by
    rw [split]
    exact List.mem_cons_self ..
  exact ⟨slot, listed, table.named slot listed⟩

theorem length_cells {table : Table} {row : List Slot} (member : row ∈ table.rows) :
    (row.map Slot.text).length = table.names.length := by
  rw [Table.names, List.length_map, List.length_map, Table.length_row member]

/-! ## Rows -/

/-- A dictionary has the fields of a row only under the row's own names. -/
theorem rowDict_same_iff {names header cols cells : List Text} (distinct : names.Nodup)
    (complete : (∀ name ∈ names, name ∈ header) → header = names)
    (lengths : cols.length = header.length) (lengths' : cells.length = names.length) :
    (∀ name, (rowDict header cols).lookup name = (names.zip cells).lookup name) ↔
      header = names ∧ cols = cells := by
  have plain : ∀ row : List Text, row.length = names.length →
      rowDict names row = names.zip row := by
    intro row length
    rw [rowDict, Dict.setAll_of_nodup (by rwa [List.nil_append, Dict.keys_zip length]),
      List.nil_append]
  constructor
  · intro same
    have listed : header = names := by
      refine complete fun name member => ?_
      rw [← Dict.keys_zip lengths', Dict.keys, List.mem_map] at member
      obtain ⟨entry, inside, rfl⟩ := member
      have found := same entry.1
      rw [rowDict, Dict.lookup_setAll, List.lookup_nil, Option.or_none,
        Dict.lookup_of_nodup (by rwa [Dict.keys_zip lengths']) inside] at found
      exact (List.of_mem_zip (mem_of_lastEntry found)).1
    subst listed
    rw [plain cols lengths] at same
    exact ⟨rfl, (Dict.zip_lookup_iff distinct lengths lengths').mp same⟩
  · rintro ⟨rfl, rfl⟩ name
    rw [plain cols lengths]

/-- A row that may be dropped, and is kept where its cells fit the header. -/
theorem kept_row_iff {dropped fits : Prop} [Decidable dropped] [Decidable fits]
    {names header cols cells : List Text} (distinct : names.Nodup)
    (complete : (∀ name ∈ names, name ∈ header) → header = names)
    (lengths : fits → cols.length = header.length) (lengths' : cells.length = names.length)
    (whole : ¬ dropped → header = names → cols = cells → fits) :
    (∃ entry, (if dropped then none else if fits then some (rowDict header cols) else none) =
        some entry ∧ ∀ name, entry.lookup name = (names.zip cells).lookup name) ↔
      ¬ dropped ∧ header = names ∧ cols = cells := by
  constructor
  · rintro ⟨entry, kept, right⟩
    split at kept
    next => cases kept
    next notDropped =>
      split at kept
      next fit =>
        cases kept
        exact ⟨notDropped, (rowDict_same_iff distinct complete (lengths fit) lengths').mp right⟩
      next => cases kept
  · rintro ⟨notDropped, same⟩
    have fit := whole notDropped same.1 same.2
    refine ⟨rowDict header cols, by rw [if_neg notDropped, if_pos fit], ?_⟩
    exact (rowDict_same_iff distinct complete (lengths fit) lengths').mpr same

/-- A list that may drop rows is the list of rows exactly when each row is kept right. -/
theorem forall₂_filterMap_iff {Row Entry : Type} {same : Entry → Row → Prop}
    {read : Row → Option Entry} {rows : List Row} :
    List.Forall₂ same (rows.filterMap read) rows ↔
      ∀ row ∈ rows, ∃ entry, read row = some entry ∧ same entry row := by
  constructor
  · intro all
    have lengths := all.length_eq
    have kept : ∀ row ∈ rows, (read row).isSome := List.filterMap_length_eq_length.mp lengths
    clear lengths
    induction rows with
    | nil => exact nofun
    | cons row rest inductionHypothesis =>
        rw [List.forall_mem_cons] at kept
        obtain ⟨entry, found⟩ := Option.isSome_iff_exists.mp kept.1
        rw [List.filterMap_cons, found] at all
        obtain ⟨right, later⟩ := List.forall₂_cons.mp all
        rw [List.forall_mem_cons]
        exact ⟨⟨entry, found, right⟩, inductionHypothesis later kept.2⟩
  · intro kept
    induction rows with
    | nil => exact List.Forall₂.nil
    | cons row rest inductionHypothesis =>
        rw [List.forall_mem_cons] at kept
        obtain ⟨⟨entry, found, right⟩, later⟩ := kept
        rw [List.filterMap_cons, found]
        exact List.Forall₂.cons right (inductionHypothesis later)

/-- Some cell of the line has a character that is not among the ignored ones. -/
def Informative (ignored : List Char) (line : List Slot) : Prop :=
  ∃ slot ∈ line, ∃ c ∈ slot.text, c ∉ ignored

instance (ignored : List Char) (line : List Slot) : Decidable (Informative ignored line) :=
  inferInstanceAs (Decidable (∃ slot ∈ line, ∃ c ∈ slot.text, c ∉ ignored))

theorem not_informative_iff {ignored : List Char} {line : List Slot} :
    ¬ Informative ignored line ↔ ∀ slot ∈ line, ∀ c ∈ slot.text, c ∈ ignored := by
  simp [Informative]

theorem exists_filled {ignored : List Char} {row : List Slot}
    (informative : Informative ignored row) : ∃ slot ∈ row, slot.text ≠ [] := by
  obtain ⟨slot, listed, c, inside, -⟩ := informative
  exact ⟨slot, listed, List.ne_nil_of_mem inside⟩

end OnboxFvt.Cli
