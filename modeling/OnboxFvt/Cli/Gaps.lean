import Mathlib.Data.List.Chain
import OnboxFvt.Cli.Columns

/-!
# Columns with two blanks between them

The split of a line at its wide gaps, which is what is left of the simple style when the
header itself looks like a separator line.
-/

namespace OnboxFvt.Cli

open Library Python

/-! ## The split -/

/-- No two blanks stand next to each other. -/
def Tight (text : Text) : Prop :=
  text.IsChain fun c d => isSpace c = false ∨ isSpace d = false

instance (text : Text) : Decidable (Tight text) :=
  inferInstanceAs (Decidable (text.IsChain _))

theorem tight_singleton (c : Char) : Tight [c] :=
  List.IsChain.singleton c

theorem tight_of_short {gap : Text} (short : gap.length < 2) : Tight gap := by
  cases gap with
  | nil => exact List.IsChain.nil
  | cons first others =>
      cases others with
      | nil => exact tight_singleton first
      | cons second more =>
          rw [List.length_cons, List.length_cons] at short
          omega

/-- A piece may grow by a short gap and a character that is no blank. -/
theorem Tight.grow {piece gap : Text} (tight : Tight piece)
    (solid : ∀ c ∈ piece.getLast?, isSpace c = false) (short : gap.length < 2) {c : Char}
    (visible : isSpace c = false) : Tight (piece ++ gap ++ [c]) := by
  have joined : Tight (piece ++ gap) :=
    tight.append (tight_of_short short) fun d last _ _ => Or.inl (solid d last)
  refine joined.append (tight_singleton c) fun _ _ d same => Or.inr ?_
  obtain rfl : c = d := Option.some.inj same
  exact visible

/-- Blanks at the end of a text that ends without one. -/
theorem gap_eq_nil {gap : Text} (blank : ∀ c ∈ gap, isSpace c = true)
    (ends : ∀ c ∈ gap.getLast?, isSpace c = false) : gap = [] := by
  rw [← List.getLast?_eq_none_iff, Option.eq_none_iff_forall_not_mem]
  intro c last
  have visible := ends c last
  rw [blank c (List.mem_of_getLast? last)] at visible
  cases visible

/-- What the split gives of a text that ends without a blank. -/
theorem splitWideFrom_tight {piece gap rest : Text} (tight : Tight piece) (nonempty : piece ≠ [])
    (solid : ∀ c ∈ piece.getLast?, isSpace c = false) (blank : ∀ c ∈ gap, isSpace c = true)
    (ends : ∀ c ∈ (gap ++ rest).getLast?, isSpace c = false) :
    ∀ part ∈ splitWideFrom piece gap rest, part ≠ [] ∧ Tight part := by
  induction rest generalizing piece gap with
  | nil =>
      rw [List.append_nil] at ends
      rw [gap_eq_nil blank ends, splitWideFrom, if_neg (by decide), List.append_nil,
        List.forall_mem_singleton]
      exact ⟨nonempty, tight⟩
  | cons c rest inductionHypothesis =>
      have later : ∀ d ∈ ([] ++ rest).getLast?, isSpace d = false := fun d last =>
        ends d (List.mem_getLast?_append_of_mem_getLast? (List.mem_getLast?_cons last))
      rw [splitWideFrom]
      split
      next space =>
        refine inductionHypothesis tight nonempty solid ?_ ?_
        · intro d member
          rcases List.mem_append.mp member with before | same
          · exact blank d before
          · rw [List.mem_singleton.mp same]
            exact space
        · rw [List.append_assoc, List.singleton_append]
          exact ends
      next visible =>
        rw [Bool.not_eq_true] at visible
        split
        next wide =>
          rw [List.forall_mem_cons]
          exact ⟨⟨nonempty, tight⟩, inductionHypothesis (tight_singleton c)
            (List.cons_ne_nil c []) (by simpa using visible) nofun later⟩
        next narrow =>
          exact inductionHypothesis (tight.grow solid (by omega) visible) (by simp)
            (by simpa using visible) nofun later

/-- Every column of a trimmed line is filled and has no wide gap. -/
theorem splitWide_tight {text : Text} (nonempty : text ≠ []) (trimmed : strip text = text) :
    ∀ part ∈ splitWide text, part ≠ [] ∧ Tight part := by
  obtain ⟨front, back⟩ := @ends_of_strip (fun _ => true) text (by rw [trimmed])
  obtain ⟨c, rest, rfl⟩ := List.exists_cons_of_ne_nil nonempty
  have visible : isSpace c = false := front c rfl rfl
  have start : splitWide (c :: rest) = splitWideFrom [c] [] rest := by
    rw [splitWide, splitWideFrom, if_neg (by rw [visible]; exact Bool.false_ne_true),
      if_neg (by decide)]
    rfl
  rw [start]
  exact splitWideFrom_tight (tight_singleton c) (List.cons_ne_nil c [])
    (by simpa using visible) nofun fun d last => back d (List.mem_getLast?_cons last) rfl

theorem splitWideFrom_blanks (piece gap rest : Text) (count : Nat) :
    splitWideFrom piece gap (List.replicate count ' ' ++ rest) =
      splitWideFrom piece (gap ++ List.replicate count ' ') rest := by
  induction count generalizing gap with
  | zero => simp
  | succ count inductionHypothesis =>
      rw [List.replicate_succ, List.cons_append, splitWideFrom, if_pos (by decide),
        inductionHypothesis, List.append_assoc]
      rfl

/-- A text without a wide gap is read on as one piece. -/
theorem splitWideFrom_text {text : Text} (nonempty : text ≠ []) {piece gap : Text}
    (blank : ∀ c ∈ gap, isSpace c = true) (tight : Tight (gap ++ text))
    (short : gap.length < 2) (ends : ∀ c ∈ text.getLast?, isSpace c = false) (rest : Text) :
    splitWideFrom piece gap (text ++ rest) = splitWideFrom (piece ++ gap ++ text) [] rest := by
  induction text generalizing piece gap with
  | nil => exact absurd rfl nonempty
  | cons c text inductionHypothesis =>
      have endsLater : ∀ d ∈ text.getLast?, isSpace d = false := fun d last =>
        ends d (List.mem_getLast?_cons last)
      rw [List.cons_append, splitWideFrom]
      split
      next space =>
        have none : gap = [] := by
          rcases List.eq_nil_or_concat gap with empty | ⟨init, g, rfl⟩
          · exact empty
          · have apart := (List.isChain_append.mp tight).2.2 g (by simp) c rfl
            rw [blank g (by simp), space] at apart
            simp at apart
        subst none
        have filled : text ≠ [] := by
          rintro rfl
          have visible := ends c rfl
          rw [space] at visible
          cases visible
        rw [inductionHypothesis filled (by simpa using space) tight (by simp) endsLater]
        simp
      next visible =>
        rw [if_neg (by omega)]
        by_cases filled : text = []
        · rw [filled]
          rfl
        · have later : Tight text := tight.right_of_append.tail
          have read := @inductionHypothesis filled (piece ++ gap ++ [c]) [] nofun later (by simp)
            endsLater
          rw [read]
          simp

/-- A line from its first cell to its last. -/
def core : List Slot → Text
  | [] => []
  | [slot] => slot.text
  | slot :: next :: rest =>
      slot.text ++ (List.replicate (slot.after + 2 + next.before) ' ' ++ core (next :: rest))

theorem joinSlots_core (slot : Slot) (rest : List Slot) :
    ∃ after, joinSlots (slot :: rest) =
      List.replicate slot.before ' ' ++ core (slot :: rest) ++ List.replicate after ' ' := by
  induction rest generalizing slot with
  | nil => exact ⟨slot.after, by rw [joinSlots_singleton]; rfl⟩
  | cons next others inductionHypothesis =>
      obtain ⟨after, later⟩ := inductionHypothesis next
      have gap : [' ', ' '] = List.replicate 2 ' ' := rfl
      refine ⟨after, ?_⟩
      rw [joinSlots_cons_cons, later, core, Slot.padded, gap, List.replicate_add,
        List.replicate_add]
      simp only [List.append_assoc]

section Loose

variable {slots : List Slot} (filled : ∀ slot ∈ slots, slot.text ≠ [])

include filled

theorem core_ends (nonempty : slots ≠ []) :
    core slots ≠ [] ∧ (∀ c ∈ (core slots).head?, isSpace c = false) ∧
      ∀ c ∈ (core slots).getLast?, isSpace c = false := by
  induction slots with
  | nil => exact absurd rfl nonempty
  | cons slot rest inductionHypothesis =>
      rw [List.forall_mem_cons] at filled
      obtain ⟨front, back⟩ := @ends_of_strip (fun _ => true) slot.text
        (by rw [slot.cell.trimmed])
      cases rest with
      | nil => exact ⟨filled.1, fun c first => front c first rfl, fun c last => back c last rfl⟩
      | cons next others =>
          obtain ⟨some, -, ends⟩ := inductionHypothesis filled.2 (List.cons_ne_nil _ _)
          rw [core]
          refine ⟨List.append_ne_nil_of_left_ne_nil filled.1 _, ?_, ?_⟩
          · rw [List.head?_append_of_ne_nil _ filled.1]
            exact fun c first => front c first rfl
          · rw [← List.append_assoc, List.getLast?_append_of_ne_nil _ some]
            exact ends

theorem strip_simpleLine_core : strip (simpleLine slots) = core slots := by
  rw [strip_simpleLine]
  cases slots with
  | nil => rfl
  | cons slot rest =>
      obtain ⟨after, split⟩ := joinSlots_core slot rest
      obtain ⟨-, front, back⟩ := core_ends filled (List.cons_ne_nil slot rest)
      rw [split, strip_append_blanks _ (Slot.blank_replicate _),
        strip_blanks_append (Slot.blank_replicate _), strip_of_ends front back]

/-- Filled cells without a wide gap are the columns found. -/
theorem splitWide_core (nonempty : slots ≠ []) (tight : ∀ slot ∈ slots, Tight slot.text) :
    splitWide (core slots) = slots.map Slot.text := by
  induction slots with
  | nil => exact absurd rfl nonempty
  | cons slot rest inductionHypothesis =>
      rw [List.forall_mem_cons] at tight
      have filled' := List.forall_mem_cons.mp filled
      obtain ⟨-, back⟩ := @ends_of_strip (fun _ => true) slot.text (by rw [slot.cell.trimmed])
      have read (rest : Text) : splitWide (slot.text ++ rest) = splitWideFrom slot.text [] rest :=
        @splitWideFrom_text slot.text filled'.1 [] [] nofun tight.1 (by decide)
          (fun c last => back c last rfl) rest
      cases rest with
      | nil =>
          have alone := read []
          rw [List.append_nil] at alone
          rw [core, alone, splitWideFrom, if_neg (by decide), List.append_nil]
          rfl
      | cons next others =>
          obtain ⟨some, front, -⟩ := core_ends filled'.2 (List.cons_ne_nil next others)
          obtain ⟨c, more, split⟩ := List.exists_cons_of_ne_nil some
          have visible : isSpace c = false := front c (by rw [split]; rfl)
          have later := inductionHypothesis filled'.2 (List.cons_ne_nil _ _) tight.2
          rw [split, splitWide, splitWideFrom, if_neg (by rw [visible]; exact Bool.false_ne_true),
            if_neg (by decide)] at later
          rw [core, read, splitWideFrom_blanks, split, splitWideFrom,
            if_neg (by rw [visible]; exact Bool.false_ne_true), if_pos (by simp; omega),
            List.map_cons, ← later]
          rfl

end Loose

/-! ## Tables named by dashes -/

section LooseTable

variable (table : Table)

theorem looseRows_filter (first : Text) (lines : List Text) :
    looseRows (first :: lines.filter (!isBlank ·)) = looseRows (first :: lines) := by
  rw [looseRows, looseRows, List.filterMap_filter]
  refine List.filterMap_congr fun line _ => ?_
  split
  next => rfl
  next blank =>
    have empty : strip line = [] := by simpa [isBlank] using blank
    rw [empty]
    rfl

theorem parseTable_loose (separated : isSeparator (simpleLine table.header) = true) :
    parseTable table.simple =
      looseRows (simpleLine table.header :: table.rows.map simpleLine) := by
  obtain ⟨after, raw, rows⟩ := raw_simple table
  have unbarred := any_barred_simple table rows
  have kept : (simpleLine table.header :: dashes table.widths :: after).filter (!isBlank ·) =
      simpleLine table.header :: (dashes table.widths :: after).filter (!isBlank ·) :=
    List.filter_cons_of_pos (by rw [isBlank_header]; rfl)
  have made : madeOf ['-', '+', ' '] (strip (dashes table.widths)) = true := by
    rw [madeOf, List.all_eq_true]
    intro c member
    have listed := mem_dashes ((strip_inside _).subset member)
    revert listed
    simp only [List.mem_cons, decide_eq_true_eq]
    tauto
  rw [kept] at unbarred
  rw [parseTable, raw, kept, if_neg (List.cons_ne_nil _ _),
    if_neg (by rw [unbarred]; exact Bool.false_ne_true),
    List.dropWhile_cons_of_neg (by simp [separated]),
    List.takeWhile_cons_of_neg (by simp [separated])]
  simp only [List.reverse_nil, List.find?_nil]
  rw [looseRows_filter, looseRows, looseRows, List.filterMap_cons, made]
  simp only [if_true]
  exact filterMap_rows rfl rows

variable {table}

theorem columns_iff {slots : List Slot} (some : ∃ slot ∈ slots, slot.text ≠ []) :
    splitWide (strip (simpleLine slots)) = slots.map Slot.text ↔
      ∀ slot ∈ slots, slot.text ≠ [] ∧ Tight slot.text := by
  constructor
  · intro same slot listed
    have nonempty : strip (simpleLine slots) ≠ [] := by
      have visible := not_isBlank some
      rwa [isBlank, decide_eq_false_iff_not] at visible
    refine splitWide_tight nonempty (strip_strip _) slot.text ?_
    rw [same]
    exact List.mem_map_of_mem listed
  · intro both
    obtain ⟨slot, listed, -⟩ := some
    have filled : ∀ slot ∈ slots, slot.text ≠ [] := fun slot listed => (both slot listed).1
    rw [strip_simpleLine_core filled]
    exact splitWide_core filled (List.ne_nil_of_mem listed) fun slot listed => (both slot listed).2

theorem columns_header (complete : ∀ name ∈ table.names,
    name ∈ splitWide (strip (simpleLine table.header))) :
    splitWide (strip (simpleLine table.header)) = table.names := by
  have visible := not_isBlank (exists_named table)
  rw [isBlank, decide_eq_false_iff_not] at visible
  refine (columns_iff (exists_named table)).mpr fun slot listed => ?_
  exact splitWide_tight visible (strip_strip _) slot.text
    (complete slot.text (List.mem_map_of_mem listed))

theorem readAs_loose_iff (dashed : table.DashHeader) :
    table.ReadAs (parseTable table.simple) ↔ ∀ row ∈ table.rows,
      Informative ['-', '+', ' '] row ∧ (∀ slot ∈ table.header, Tight slot.text) ∧
        ∀ slot ∈ row, slot.text ≠ [] ∧ Tight slot.text := by
  rw [parseTable_loose table ((isSeparator_header table).mpr dashed), looseRows]
  rw [List.filterMap_map, Table.ReadAs, forall₂_filterMap_iff]
  refine forall₂_congr fun row member => ?_
  simp only [Function.comp_apply]
  rw [kept_row_iff table.nodup_names columns_header id (length_cells member), not_madeOf_iff]
  · refine and_congr_right fun informative => and_congr ?_ (columns_iff (exists_filled informative))
    refine (columns_iff (exists_named table)).trans (forall₂_congr fun slot listed => ?_)
    exact and_iff_right (table.named slot listed)
  · intro _ names cells
    rw [names, cells, length_cells member]

end LooseTable

end OnboxFvt.Cli
