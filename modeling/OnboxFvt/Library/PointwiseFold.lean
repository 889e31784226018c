import Mathlib.Data.List.Nodup

/-!
# Folding actions that act on one point each

A loop over distinct keys in which every round touches only what belongs to its
own key acts on each key at most once.
-/

namespace OnboxFvt.Library

variable {Key State View : Type*}

/-- A fold none of whose rounds is visible through `look` is not either. -/
theorem look_foldl_of_unseen (act : State → Key → State) (look : State → View)
    {keys : List Key} (unseen : ∀ key ∈ keys, ∀ state, look (act state key) = look state)
    (state : State) : look (keys.foldl act state) = look state := by
  induction keys generalizing state with
  | nil => rfl
  | cons key rest inductionHypothesis =>
      rw [List.foldl_cons, inductionHypothesis fun key member =>
        unseen key (List.mem_cons_of_mem _ member)]
      exact unseen key (List.mem_cons_self ..) state

theorem foldl_preserves {act : State → Key → State} (Holds : State → Prop)
    (preserved : ∀ state key, Holds state → Holds (act state key)) (keys : List Key)
    {state : State} (holds : Holds state) : Holds (keys.foldl act state) := by
  induction keys generalizing state with
  | nil => exact holds
  | cons key rest inductionHypothesis => exact inductionHypothesis (preserved state key holds)

/-- Seen through `look`, a fold over distinct keys is its round at `here`, if it
has one. -/
theorem look_foldl [DecidableEq Key] (act : State → Key → State) (look : State → View)
    (change : View → View) (here : Key) {keys : List Key} (distinct : keys.Nodup)
    (elsewhere : ∀ key ∈ keys, key ≠ here → ∀ state, look (act state key) = look state)
    (atHere : ∀ state, look (act state here) = change (look state)) (state : State) :
    look (keys.foldl act state) = if here ∈ keys then change (look state) else look state := by
  induction keys generalizing state with
  | nil => simp
  | cons key rest inductionHypothesis =>
      have fresh : key ∉ rest := (List.nodup_cons.mp distinct).1
      have later : ∀ other ∈ rest, other ≠ here → ∀ state, look (act state other) = look state :=
        fun other member => elsewhere other (List.mem_cons_of_mem _ member)
      by_cases same : key = here
      · subst same
        rw [List.foldl_cons, look_foldl_of_unseen act look fun other member =>
          later other member fun equal => fresh (equal ▸ member)]
        simpa using atHere state
      · have different : here ≠ key := fun equal => same equal.symm
        rw [List.foldl_cons, inductionHypothesis (List.nodup_cons.mp distinct).2 later,
          elsewhere key (List.mem_cons_self ..) same]
        simp [different]

/-- Rounds that hit all do the same, and doing it once more shows nothing new. -/
theorem look_foldl_of_hits (act : State → Key → State) (look : State → View)
    (change : View → View) (Hits : Key → Prop) [DecidablePred Hits] {keys : List Key}
    (round : ∀ key ∈ keys, ∀ state,
      look (act state key) = if Hits key then change (look state) else look state)
    (idempotent : ∀ view, change (change view) = change view) (state : State) :
    look (keys.foldl act state) =
      if ∃ key ∈ keys, Hits key then change (look state) else look state := by
  induction keys generalizing state with
  | nil => simp
  | cons key rest inductionHypothesis =>
      rw [List.foldl_cons, inductionHypothesis fun other member =>
        round other (List.mem_cons_of_mem _ member), round key (List.mem_cons_self ..)]
      by_cases hit : Hits key
      · simp [hit, idempotent]
      · simp [hit]

end OnboxFvt.Library
