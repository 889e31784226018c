import Mathlib.Data.List.Basic

/-!
# Edits of a shared list

Items are put at an end of a list that has several writers, or their first occurrence is taken out.
What the list has of some items depends on the edits of these items alone.
-/

namespace OnboxFvt.Library

variable {Item : Type*} [BEq Item]

inductive Edit (Item : Type*)
  | append (item : Item)
  | prepend (item : Item)
  | remove (item : Item)

namespace Edit

def item : Edit Item → Item
  | append item | prepend item | remove item => item

def apply (list : List Item) : Edit Item → List Item
  | append item => list ++ [item]
  | prepend item => item :: list
  | remove item => list.erase item

variable [LawfulBEq Item]

theorem filter_apply_of_neg {kept : Item → Bool} {edit : Edit Item} (other : kept edit.item = false)
    (list : List Item) : (edit.apply list).filter kept = list.filter kept := by
  have other' : ¬ kept edit.item = true := Bool.eq_false_iff.mp other
  cases edit with
  | append own =>
      have gone : kept own = false := other
      simp [apply, gone]
  | prepend item => exact List.filter_cons_of_neg other'
  | remove item =>
      refine List.erase_filter.symm.trans (List.erase_of_not_mem fun member => other' ?_)
      exact (List.mem_filter.mp member).2

theorem filter_apply_of_pos {kept : Item → Bool} {edit : Edit Item} (own : kept edit.item = true)
    (list : List Item) : (edit.apply list).filter kept = edit.apply (list.filter kept) := by
  cases edit with
  | append item =>
      have stays : kept item = true := own
      simp [apply, stays]
  | prepend item => exact List.filter_cons_of_pos own
  | remove item => exact List.erase_filter.symm

theorem count_apply_of_ne {edit : Edit Item} {item : Item} (other : item ≠ edit.item)
    (list : List Item) : (edit.apply list).count item = list.count item := by
  cases edit with
  | append own =>
      refine List.count_append.trans (Nat.add_eq_left.mpr ?_)
      exact List.count_eq_zero_of_not_mem fun member => other (List.mem_singleton.mp member)
  | prepend own => exact List.count_cons_of_ne other.symm
  | remove own => exact List.count_erase_of_ne other

end Edit

omit [BEq Item] in
/-- Lists with the same items of one kind and none of the other are the same. -/
theorem eq_of_filter {kept : Item → Bool} {list other : List Item}
    (same : list.filter kept = other.filter kept) (all : ∀ item ∈ list, kept item = true)
    (all' : ∀ item ∈ other, kept item = true) : list = other :=
  (List.filter_eq_self.mpr all).symm.trans (same.trans (List.filter_eq_self.mpr all'))

end OnboxFvt.Library
