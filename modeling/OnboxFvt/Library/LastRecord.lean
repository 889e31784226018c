import Mathlib.Data.List.Induction
import Mathlib.Logic.Function.Basic

/-!
# Undoing only the last entry

A program enters one value under several keys of a table, remembers the last key and
in the end removes the entry under that key.
-/

namespace OnboxFvt.Library

variable {Key Value : Type*} [DecidableEq Key]

/-- The table with the value entered under every key of the list. -/
def entered (table : Key → Option Value) (value : Value) (keys : List Key) : Key → Option Value :=
  keys.foldl (fun table key => Function.update table key (some value)) table

/-- The table after the entry under the last key is removed. -/
def undoLast (table : Key → Option Value) (keys : List Key) : Key → Option Value :=
  match keys.getLast? with
  | none => table
  | some last => Function.update table last none

/-- There was no entry under the last key, and under the other keys the one that is entered. -/
def Undone (table : Key → Option Value) (value : Value) (keys : List Key) : Prop :=
  ∀ last ∈ keys.getLast?, table last = none ∧ ∀ key ∈ keys, key ≠ last → table key = some value

theorem entered_concat (table : Key → Option Value) (value : Value) (keys : List Key) (key : Key) :
    entered table value (keys ++ [key]) =
      Function.update (entered table value keys) key (some value) := by
  unfold entered
  rw [List.foldl_append]
  rfl

theorem entered_apply (table : Key → Option Value) (value : Value) (keys : List Key) (key : Key) :
    entered table value keys key = if key ∈ keys then some value else table key := by
  induction keys using List.reverseRecOn with
  | nil => rfl
  | append_singleton others last inductionHypothesis =>
      rw [entered_concat]
      by_cases same : key = last
      · subst same
        simp
      · rw [Function.update_of_ne same, inductionHypothesis]
        simp [same]

theorem undoLast_entered_iff (table : Key → Option Value) (value : Value) (keys : List Key) :
    undoLast (entered table value keys) keys = table ↔ Undone table value keys := by
  cases ended : keys.getLast? with
  | none =>
      have empty : keys = [] := List.getLast?_eq_none_iff.mp ended
      subst empty
      simp [undoLast, Undone, entered]
  | some last =>
      have removed : undoLast (entered table value keys) keys =
          Function.update (entered table value keys) last none := by
        rw [undoLast, ended]
      have undone : Undone table value keys ↔
          table last = none ∧ ∀ key ∈ keys, key ≠ last → table key = some value := by
        simp [Undone, ended]
      rw [removed, undone]
      constructor
      · intro restored
        refine ⟨?_, ?_⟩
        · rw [← congrFun restored last, Function.update_self]
        · intro key inKeys different
          rw [← congrFun restored key, Function.update_of_ne different, entered_apply,
            if_pos inKeys]
      · rintro ⟨absent, same⟩
        funext key
        by_cases different : key = last
        · rw [different, Function.update_self, absent]
        · rw [Function.update_of_ne different, entered_apply]
          split
          · next inKeys => exact (same key inKeys different).symm
          · rfl

end OnboxFvt.Library
