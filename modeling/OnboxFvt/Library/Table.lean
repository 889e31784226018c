import Mathlib.Data.List.Induction
import Mathlib.Logic.Function.Basic

/-!
# Tables kept by a stream of updates

A receiver folds puts and drops into a table; a list of entries read last entry
first is a table too.  Putting the entries of a list one after another overlays
the table of the list on the one there is.
-/

namespace OnboxFvt.Library

variable {Key Value : Type*} [DecidableEq Key]

/-- `none` drops the key. -/
structure Update (Key Value : Type*) where
  key : Key
  value : Option Value

def replay (updates : List (Update Key Value)) : Key → Option Value :=
  updates.foldl (fun table update => Function.update table update.key update.value) fun _ => none

def lastEntry (entries : List (Key × Value)) (key : Key) : Option Value :=
  entries.foldl (fun found entry => if entry.1 = key then some entry.2 else found) none

@[simp]
theorem replay_nil (key : Key) : replay ([] : List (Update Key Value)) key = none :=
  rfl

theorem replay_concat (updates : List (Update Key Value)) (update : Update Key Value)
    (key : Key) :
    replay (updates ++ [update]) key =
      if key = update.key then update.value else replay updates key := by
  simp [replay, Function.update_apply]

@[simp]
theorem lastEntry_nil (key : Key) : lastEntry ([] : List (Key × Value)) key = none :=
  rfl

theorem lastEntry_concat (entries : List (Key × Value)) (entry : Key × Value) (key : Key) :
    lastEntry (entries ++ [entry]) key =
      if entry.1 = key then some entry.2 else lastEntry entries key := by
  simp [lastEntry]

theorem lastEntry_cons (entry : Key × Value) (entries : List (Key × Value)) (key : Key) :
    lastEntry (entry :: entries) key =
      (lastEntry entries key).or (if entry.1 = key then some entry.2 else none) := by
  induction entries using List.reverseRecOn with
  | nil => simp [lastEntry]
  | append_singleton rest last inductionHypothesis =>
      rw [← List.cons_append, lastEntry_concat, lastEntry_concat, inductionHypothesis]
      by_cases same : last.1 = key <;> simp [same]

theorem lastEntry_append (first second : List (Key × Value)) (key : Key) :
    lastEntry (first ++ second) key = (lastEntry second key).or (lastEntry first key) := by
  induction first with
  | nil => simp
  | cons entry rest inductionHypothesis =>
      rw [List.cons_append, lastEntry_cons, inductionHypothesis, lastEntry_cons, Option.or_assoc]

theorem mem_of_lastEntry {entries : List (Key × Value)} {key : Key} {value : Value}
    (found : lastEntry entries key = some value) : (key, value) ∈ entries := by
  induction entries with
  | nil => cases found
  | cons entry rest inductionHypothesis =>
      rw [lastEntry_cons, Option.or_eq_some_iff] at found
      rcases found with later | ⟨-, here⟩
      · exact List.mem_cons_of_mem _ (inductionHypothesis later)
      · split at here
        next same =>
            cases here
            subst same
            exact List.mem_cons_self ..
        next => cases here

theorem lastEntry_of_notMem {entries : List (Key × Value)} {key : Key}
    (missing : key ∉ entries.map Prod.fst) : lastEntry entries key = none := by
  cases found : lastEntry entries key with
  | none => rfl
  | some value => exact absurd (List.mem_map_of_mem (mem_of_lastEntry found)) missing

theorem lastEntry_of_nodup {entries : List (Key × Value)} {entry : Key × Value}
    (distinct : (entries.map Prod.fst).Nodup) (member : entry ∈ entries) :
    lastEntry entries entry.1 = some entry.2 := by
  induction entries with
  | nil => cases member
  | cons first rest inductionHypothesis =>
      obtain ⟨fresh, later⟩ := List.nodup_cons.mp distinct
      rw [lastEntry_cons]
      rcases List.mem_cons.mp member with rfl | inRest
      · rw [lastEntry_of_notMem fresh, if_pos rfl]
        rfl
      · rw [inductionHypothesis later inRest]
        rfl

theorem lastEntry_drop (entries : List (Key × Value)) (dropped key : Key) :
    lastEntry (entries.filter fun entry => entry.1 ≠ dropped) key =
      if key = dropped then none else lastEntry entries key := by
  induction entries with
  | nil => simp
  | cons entry rest inductionHypothesis =>
      by_cases gone : entry.1 = dropped
      · rw [List.filter_cons_of_neg (by simpa using gone), inductionHypothesis, lastEntry_cons]
        by_cases same : key = dropped
        · simp [same]
        · have other : entry.1 ≠ key := fun equal => same (equal.symm.trans gone)
          simp [same, other]
      · rw [List.filter_cons_of_pos (by simpa using gone), lastEntry_cons, lastEntry_cons,
          inductionHypothesis]
        by_cases same : key = dropped
        · have other : entry.1 ≠ key := fun equal => gone (equal.trans same)
          simp [same, gone]
        · simp [same]

/-- The table after all of `pending` has been put into it. -/
def overlay (pending : List (Key × Value)) (table : Key → Option Value) (key : Key) :
    Option Value :=
  (lastEntry pending key).or (table key)

@[simp]
theorem overlay_nil (table : Key → Option Value) : overlay [] table = table := by
  funext key
  simp [overlay]

/-- Putting the first pending entry does not change what will come out. -/
theorem overlay_put (entry : Key × Value) (pending : List (Key × Value))
    (updates : List (Update Key Value)) :
    overlay pending (replay (updates ++ [⟨entry.1, some entry.2⟩])) =
      overlay (entry :: pending) (replay updates) := by
  funext key
  simp only [overlay, lastEntry_cons, replay_concat]
  by_cases same : entry.1 = key
  · simp [same]
  · simp [same, Ne.symm same]

end OnboxFvt.Library
