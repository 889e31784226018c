import Mathlib.Data.List.TakeDrop

/-!
# Slices

`items[start:stop]` and the assignment to it.  Assigning as many items as the slice has
changes that slice and no other.
-/

namespace OnboxFvt.Library

variable {Item : Type*}

/-- `items[start:stop]`. -/
def slice (start stop : Nat) (items : List Item) : List Item :=
  (items.drop start).take (stop - start)

/-- `items[start:stop] = fresh`. -/
def splice (start stop : Nat) (fresh items : List Item) : List Item :=
  items.take start ++ fresh ++ items.drop stop

theorem length_slice {start stop : Nat} {items : List Item} (fits : stop ≤ items.length) :
    (slice start stop items).length = stop - start := by
  rw [slice, List.length_take, List.length_drop]
  omega

/-- Slices of one size, one after another, make up a front part. -/
theorem flatten_slices (size : Nat) (items : List Item) (count : Nat) :
    ((List.range count).map fun i => slice (i * size) ((i + 1) * size) items).flatten =
      items.take (count * size) := by
  induction count with
  | zero => simp
  | succ count inductionHypothesis =>
      have width : (count + 1) * size - count * size = size := by
        rw [Nat.succ_mul, Nat.add_sub_cancel_left]
      rw [List.range_succ, List.map_append, List.flatten_append, inductionHypothesis,
        List.map_singleton, List.flatten_singleton, slice, width, Nat.succ_mul, List.take_add]

section Splice

variable {start stop : Nat} {fresh items : List Item} (length : fresh.length = stop - start)
  (order : start ≤ stop) (fits : stop ≤ items.length)
include length order fits

theorem length_splice : (splice start stop fresh items).length = items.length := by
  simp only [splice, List.length_append, List.length_take, List.length_drop]
  omega

theorem getElem?_splice (index : Nat) :
    (splice start stop fresh items)[index]? =
      if index < start then items[index]?
      else if index < stop then fresh[index - start]? else items[index]? := by
  have first : (items.take start).length = start := by
    rw [List.length_take]
    omega
  rw [splice, List.append_assoc]
  split
  next before =>
      rw [List.getElem?_append_left (by omega), List.getElem?_take_of_lt before]
  next later =>
      rw [List.getElem?_append_right (by omega), first]
      split
      next inside => rw [List.getElem?_append_left (by omega)]
      next after =>
          rw [List.getElem?_append_right (by omega), List.getElem?_drop]
          exact congrArg (items[·]?) (by omega)

theorem slice_splice : slice start stop (splice start stop fresh items) = fresh := by
  rw [slice, splice, List.append_assoc, List.drop_append_of_le_length (by simp; omega),
    List.drop_take, Nat.sub_self, List.take_zero, List.nil_append, ← length, List.take_left]

theorem slice_splice_of_disjoint {first last : Nat} (apart : last ≤ start ∨ stop ≤ first) :
    slice first last (splice start stop fresh items) = slice first last items := by
  apply List.ext_getElem?
  intro index
  simp only [slice, List.getElem?_take]
  split
  next inside =>
      rw [List.getElem?_drop, List.getElem?_drop, getElem?_splice length order fits]
      rcases apart with before | after
      · rw [if_pos (by omega)]
      · rw [if_neg (by omega), if_neg (by omega)]
  next => rfl

end Splice

end OnboxFvt.Library
