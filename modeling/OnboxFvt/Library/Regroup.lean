import Mathlib.Data.List.Nodup

/-!
# Items regrouped by a key that comes back

A key that is in the group already begins the next group.
-/

namespace OnboxFvt.Library

variable {Item Key : Type*} [DecidableEq Key]

section Regroup

variable (key : Item → Key)

/-- The finished groups and the one that is being filled. -/
def regroupStep (groups : List (List Item) × List Item) (item : Item) :
    List (List Item) × List Item :=
  if key item ∈ groups.2.map key then (groups.1 ++ [groups.2], [item])
  else (groups.1, groups.2 ++ [item])

def regroup (items : List Item) : List (List Item) :=
  let groups := items.foldl (regroupStep key) ([], [])
  if groups.2 = [] then groups.1 else groups.1 ++ [groups.2]

variable {key}

/-- Items with keys of their own stay in the group. -/
theorem foldl_regroupStep {done : List (List Item)} {group items : List Item}
    (distinct : ((group ++ items).map key).Nodup) :
    items.foldl (regroupStep key) (done, group) = (done, group ++ items) := by
  induction items generalizing group with
  | nil => rw [List.append_nil]; rfl
  | cons item rest inductionHypothesis =>
      have fresh : key item ∉ group.map key := by
        rw [List.map_append] at distinct
        intro member
        exact (List.nodup_append.mp distinct).2.2 _ member _ (by simp) rfl
      rw [List.foldl_cons, regroupStep, if_neg fresh]
      rw [List.append_cons group item rest] at distinct ⊢
      exact inductionHypothesis distinct

/-- The groups after the first, each of them begun by its first key. -/
theorem foldl_regroup {first : Key} {groups : List (List Item)} (done : List (List Item))
    {group : List Item} (current : first ∈ group.map key)
    (keyed : ∀ next ∈ groups, (next.map key).head? = some first ∧ (next.map key).Nodup) :
    ∃ init last, group :: groups = init ++ [last] ∧
      groups.flatten.foldl (regroupStep key) (done, group) = (done ++ init, last) := by
  induction groups generalizing done group with
  | nil => exact ⟨[], group, rfl, by rw [List.append_nil]; rfl⟩
  | cons next rest inductionHypothesis =>
      obtain ⟨⟨begins, distinct⟩, keyedRest⟩ := List.forall_mem_cons.mp keyed
      cases next with
      | nil => cases begins
      | cons item items =>
          have same : key item = first := Option.some.inj begins
          have listed : first ∈ (item :: items).map key := List.mem_of_head? begins
          have turned : regroupStep key (done, group) item = (done ++ [group], [item]) := by
            rw [regroupStep, if_pos (by rw [same]; exact current)]
          have filled : items.foldl (regroupStep key) (done ++ [group], [item]) =
              (done ++ [group], item :: items) :=
            @foldl_regroupStep _ _ _ key (done ++ [group]) [item] items distinct
          obtain ⟨init, last, split, run⟩ :=
            inductionHypothesis (done ++ [group]) listed keyedRest
          refine ⟨group :: init, last, by rw [split]; rfl, ?_⟩
          rw [List.flatten_cons, List.foldl_append, List.foldl_cons, turned, filled, run,
            List.append_assoc]
          rfl

/-- Groups that begin with the same key and have no key twice are found again. -/
theorem regroup_flatten {first : Key} {groups : List (List Item)}
    (keyed : ∀ group ∈ groups, (group.map key).head? = some first ∧ (group.map key).Nodup) :
    regroup key groups.flatten = groups := by
  cases groups with
  | nil => rfl
  | cons group rest =>
      obtain ⟨⟨begins, distinct⟩, keyedRest⟩ := List.forall_mem_cons.mp keyed
      have filled : group.foldl (regroupStep key) ([], []) = ([], group) :=
        @foldl_regroupStep _ _ _ key [] [] group distinct
      obtain ⟨init, last, split, run⟩ := foldl_regroup [] (List.mem_of_head? begins) keyedRest
      have nonempty : last ≠ [] := by
        rintro rfl
        have member : [] ∈ group :: rest := by
          rw [split]
          simp
        have headless := (keyed [] member).1
        cases headless
      rw [regroup, List.flatten_cons, List.foldl_append, filled, run]
      dsimp only
      rw [if_neg nonempty, List.nil_append, split]

end Regroup

end OnboxFvt.Library
