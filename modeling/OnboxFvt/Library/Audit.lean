import Mathlib.Data.List.Basic
import OnboxFvt.Library.Dict

/-!
# Audits of a table

An audit goes through the rows it expects, counts those that can be checked, and lists the
rows whose entry in a table is missing or not as wanted.  A table that loses entries has the
rows of those entries listed in addition, and no others.
-/

namespace OnboxFvt.Library

variable {Row Key Want Entry Finding : Type*}

/-- What an audit checks of a row.  A missing entry is always found. -/
structure Check (Row Key Want Entry Finding : Type*) where
  key? : Row → Option Key
  want? : Row → Option Want
  finding? : Want → Option Entry → Option Finding
  absent : ∀ want, (finding? want none).isSome = true

structure Tally (Row Finding : Type*) where
  missing : List (Row × Finding)
  checked : Nat

namespace Tally

def nothing : Tally Row Finding :=
  { missing := [], checked := 0 }

def rows (tally : Tally Row Finding) : List Row :=
  tally.missing.map Prod.fst

end Tally

/-- `table[key] = entry` for every entry with a key: the last one of a key stays. -/
def index [DecidableEq Key] (entryKey? : Entry → Option Key) (entries : List Entry) :
    Dict Key Entry :=
  Dict.setAll [] (entries.filterMap fun entry => (entryKey? entry).map fun key => (key, entry))

/-- A table whose keys are unique. -/
structure KeyedTable (entryKey? : Entry → Option Key) where
  entries : List Entry
  distinct : (entries.filterMap entryKey?).Nodup

namespace Check

variable (check : Check Row Key Want Entry Finding) [DecidableEq Key]

/-- A round of the loop. -/
def round (ents : Dict Key Entry) (tally : Tally Row Finding) (row : Row) : Tally Row Finding :=
  match check.key? row with
  | none => tally
  | some key =>
      match check.want? row with
      | none => tally
      | some want =>
          match check.finding? want (ents.lookup key) with
          | none => { tally with checked := tally.checked + 1 }
          | some finding =>
              { missing := tally.missing ++ [(row, finding)], checked := tally.checked + 1 }

def run (ents : Dict Key Entry) (rows : List Row) : Tally Row Finding :=
  rows.foldl (check.round ents) .nothing

/-! ## The loop -/

/-- Whether the row can be checked. -/
def checkable (row : Row) : Bool :=
  (check.key? row).isSome && (check.want? row).isSome

/-- What is listed for a row. -/
def flagged? (ents : Dict Key Entry) (row : Row) : Option (Row × Finding) :=
  (check.key? row).bind fun key => (check.want? row).bind fun want =>
    (check.finding? want (ents.lookup key)).map fun finding => (row, finding)

theorem round_eq (ents : Dict Key Entry) (tally : Tally Row Finding) (row : Row) :
    check.round ents tally row =
      { missing := tally.missing ++ (check.flagged? ents row).toList
        checked := tally.checked + if check.checkable row then 1 else 0 } := by
  rw [round, flagged?, checkable]
  cases check.key? row with
  | none => simp
  | some key =>
      cases check.want? row with
      | none => simp
      | some want => cases found : check.finding? want (ents.lookup key) <;> simp [found]

theorem foldl_round (ents : Dict Key Entry) (rows : List Row) (tally : Tally Row Finding) :
    rows.foldl (check.round ents) tally =
      { missing := tally.missing ++ rows.filterMap (check.flagged? ents)
        checked := tally.checked + rows.countP check.checkable } := by
  induction rows generalizing tally with
  | nil => simp
  | cons row rest inductionHypothesis =>
      rw [List.foldl_cons, inductionHypothesis, round_eq, List.countP_cons]
      cases found : check.flagged? ents row <;>
        simp [found, Nat.add_comm, Nat.add_left_comm]

theorem run_missing (ents : Dict Key Entry) (rows : List Row) :
    (check.run ents rows).missing = rows.filterMap (check.flagged? ents) := by
  rw [run, foldl_round]
  rfl

theorem run_checked (ents : Dict Key Entry) (rows : List Row) :
    (check.run ents rows).checked = rows.countP check.checkable := by
  rw [run, foldl_round]
  exact Nat.zero_add _

omit [DecidableEq Key] in
theorem checkable_iff {row : Row} : check.checkable row = true ↔
    ∃ key want, check.key? row = some key ∧ check.want? row = some want := by
  rw [checkable, Bool.and_eq_true, Option.isSome_iff_exists, Option.isSome_iff_exists]
  simp

/-- A row is listed where it can be checked and its entry is not as wanted. -/
theorem mem_rows {ents : Dict Key Entry} {rows : List Row} {row : Row} :
    row ∈ (check.run ents rows).rows ↔ row ∈ rows ∧
      ∃ key want, check.key? row = some key ∧ check.want? row = some want ∧
        (check.finding? want (ents.lookup key)).isSome = true := by
  rw [Tally.rows, run_missing, List.mem_map]
  constructor
  · rintro ⟨flagged, member, rfl⟩
    obtain ⟨own, listed, found⟩ := List.mem_filterMap.mp member
    obtain ⟨key, keyed, rest⟩ := Option.bind_eq_some_iff.mp found
    obtain ⟨want, wanted, rest⟩ := Option.bind_eq_some_iff.mp rest
    obtain ⟨finding, here, rfl⟩ := Option.map_eq_some_iff.mp rest
    exact ⟨listed, key, want, keyed, wanted, Option.isSome_iff_exists.mpr ⟨finding, here⟩⟩
  · rintro ⟨listed, key, want, keyed, wanted, here⟩
    obtain ⟨finding, here⟩ := Option.isSome_iff_exists.mp here
    refine ⟨(row, finding), List.mem_filterMap.mpr ⟨row, listed, ?_⟩, rfl⟩
    rw [flagged?, keyed, wanted, Option.bind_some, Option.bind_some, here]
    rfl

/-- An empty table has every row listed that can be checked. -/
theorem run_nil (rows : List Row) :
    (check.run [] rows).missing.length = rows.countP check.checkable := by
  rw [run_missing, List.length_filterMap_eq_countP]
  refine List.countP_congr fun row _ => ?_
  rw [checkable_iff, Option.isSome_iff_exists, flagged?]
  constructor
  · rintro ⟨flagged, found⟩
    obtain ⟨key, keyed, rest⟩ := Option.bind_eq_some_iff.mp found
    obtain ⟨want, wanted, -⟩ := Option.bind_eq_some_iff.mp rest
    exact ⟨key, want, keyed, wanted⟩
  · rintro ⟨key, want, keyed, wanted⟩
    obtain ⟨finding, here⟩ := Option.isSome_iff_exists.mp (check.absent want)
    refine ⟨(row, finding), ?_⟩
    rw [keyed, wanted, Option.bind_some, Option.bind_some]
    exact Option.map_eq_some_iff.mpr ⟨finding, here, rfl⟩

end Check

/-! ## Tables -/

section Tables

variable [DecidableEq Key] {entryKey? : Entry → Option Key}

omit [DecidableEq Key] in
theorem keys_entries (entryKey? : Entry → Option Key) (entries : List Entry) :
    Dict.keys (entries.filterMap fun entry => (entryKey? entry).map fun key => (key, entry)) =
      entries.filterMap entryKey? := by
  rw [Dict.keys, List.map_filterMap]
  refine List.filterMap_congr fun entry _ => ?_
  cases entryKey? entry <;> rfl

theorem lookup_index {entries : List Entry} (distinct : (entries.filterMap entryKey?).Nodup)
    {key : Key} {entry : Entry} : (index entryKey? entries).lookup key = some entry ↔
      entry ∈ entries ∧ entryKey? entry = some key := by
  have unique := distinct
  rw [← keys_entries entryKey? entries] at unique
  rw [index, Dict.setAll_of_nodup (by simpa using unique), List.nil_append,
    Dict.lookup_eq_some_iff unique, List.mem_filterMap]
  constructor
  · rintro ⟨own, listed, same⟩
    obtain ⟨found, keyed, equal⟩ := Option.map_eq_some_iff.mp same
    cases equal
    exact ⟨listed, keyed⟩
  · rintro ⟨listed, keyed⟩
    exact ⟨entry, listed, by rw [keyed]; rfl⟩

namespace KeyedTable

variable (table : KeyedTable entryKey?)

omit [DecidableEq Key] in
theorem distinct_filter (keep : Entry → Bool) :
    ((table.entries.filter keep).filterMap entryKey?).Nodup :=
  table.distinct.sublist (List.filter_sublist.filterMap entryKey?)

theorem lookup_filter (keep : Entry → Bool) (key : Key) :
    (index entryKey? (table.entries.filter keep)).lookup key =
      ((index entryKey? table.entries).lookup key).filter keep := by
  refine Option.ext fun entry => ?_
  rw [lookup_index (table.distinct_filter keep), Option.filter_eq_some_iff,
    lookup_index table.distinct, List.mem_filter]
  exact and_right_comm

end KeyedTable

/-- The table has an entry of the key, and it is not kept. -/
def KeyedTable.Loses (table : KeyedTable entryKey?) (keep : Entry → Bool) (key : Key) : Prop :=
  ∃ entry ∈ table.entries, keep entry = false ∧ entryKey? entry = some key

/-- After a loss the rows listed are those of before and, of the rows that can be checked, those
whose entries were lost. -/
theorem Check.rows_after_loss (check : Check Row Key Want Entry Finding)
    (table : KeyedTable entryKey?) (keep : Entry → Bool) (rows : List Row) (row : Row) :
    row ∈ (check.run (index entryKey? (table.entries.filter keep)) rows).rows ↔
      row ∈ (check.run (index entryKey? table.entries) rows).rows ∨
        row ∈ (check.run [] rows).rows ∧
          ∃ key, check.key? row = some key ∧ table.Loses keep key := by
  rw [check.mem_rows, check.mem_rows, check.mem_rows]
  constructor
  · rintro ⟨listed, key, want, keyed, wanted, found⟩
    rw [table.lookup_filter] at found
    cases entry : (index entryKey? table.entries).lookup key with
    | none =>
        rw [entry] at found
        exact Or.inl ⟨listed, key, want, keyed, wanted, by rw [entry]; exact found⟩
    | some entry' =>
        rw [entry] at found
        cases kept : keep entry' with
        | true =>
            rw [Option.filter_some_pos kept] at found
            exact Or.inl ⟨listed, key, want, keyed, wanted, by rw [entry]; exact found⟩
        | false =>
            obtain ⟨inside, own⟩ := (lookup_index table.distinct).mp entry
            exact Or.inr ⟨⟨listed, key, want, keyed, wanted, check.absent want⟩,
              key, keyed, entry', inside, kept, own⟩
  · rintro (⟨listed, key, want, keyed, wanted, found⟩ |
      ⟨⟨listed, key, want, keyed, wanted, -⟩, key', same, entry, inside, lost, own⟩)
    · refine ⟨listed, key, want, keyed, wanted, ?_⟩
      rw [table.lookup_filter]
      cases entry : (index entryKey? table.entries).lookup key with
      | none => rwa [entry] at found
      | some entry' =>
          rw [entry] at found
          cases kept : keep entry' with
          | true => rwa [Option.filter_some_pos kept]
          | false =>
              rw [Option.filter_some_neg (by simp [kept])]
              exact check.absent want
    · refine ⟨listed, key, want, keyed, wanted, ?_⟩
      rw [keyed] at same
      cases same
      have here := (lookup_index table.distinct).mpr ⟨inside, own⟩
      rw [table.lookup_filter, here, Option.filter_some_neg (by simp [lost])]
      exact check.absent want

end Tables

end OnboxFvt.Library
