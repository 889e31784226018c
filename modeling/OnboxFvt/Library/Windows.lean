import Mathlib.Data.List.Chain
import Mathlib.Tactic.TypeStar

/-!
# What a monitor reports between its observations

A monitor observes a state now and then.  Between one observation and the next
lies a window; of a window it may make a report.  If the report of every window
leads from what was seen before it to what is seen after it, the reports of a
whole run lead from the first observation to the last.
-/

namespace OnboxFvt.Library

variable {Tag State Report View : Type*}

structure Window (Tag State : Type*) where
  tag : Tag
  before : State
  after : State

def windows (first : State) : List (Tag × State) → List (Window Tag State)
  | [] => []
  | observation :: rest =>
      ⟨observation.1, first, observation.2⟩ :: windows observation.2 rest

def latest (first : State) : List (Tag × State) → State
  | [] => first
  | observation :: rest => latest observation.2 rest

theorem windows_concat (first : State) (observations : List (Tag × State))
    (observation : Tag × State) :
    windows first (observations ++ [observation]) =
      windows first observations ++
        [⟨observation.1, latest first observations, observation.2⟩] := by
  induction observations generalizing first with
  | nil => rfl
  | cons head rest inductionHypothesis =>
      rw [List.cons_append, windows, windows, inductionHypothesis, latest, List.cons_append]

@[simp]
theorem latest_concat (first : State) (observations : List (Tag × State))
    (observation : Tag × State) :
    latest first (observations ++ [observation]) = observation.2 := by
  induction observations generalizing first with
  | nil => rfl
  | cons head rest inductionHypothesis => exact inductionHypothesis head.2

/-- Folding the reports over the first view gives the last one. -/
theorem replay_windows (view : State → View) {report : Window Tag State → Option Report}
    {apply : View → Report → View}
    (exact : ∀ window,
      (report window).elim (view window.before) (apply (view window.before)) =
        view window.after)
    (first : State) (observations : List (Tag × State)) :
    ((windows first observations).filterMap report).foldl apply (view first) =
      view (latest first observations) := by
  induction observations generalizing first with
  | nil => rfl
  | cons observation rest inductionHypothesis =>
      have moved := exact ⟨observation.1, first, observation.2⟩
      rw [windows, latest, ← inductionHypothesis observation.2]
      cases reported : report ⟨observation.1, first, observation.2⟩ with
      | none =>
          rw [reported, Option.elim_none] at moved
          rw [List.filterMap_cons_none reported, moved]
      | some made =>
          rw [reported, Option.elim_some] at moved
          rw [List.filterMap_cons_some reported, List.foldl_cons, moved]

/-- A two-valued view of the state: the marks the reports make of it alternate, and the
first one differs from the first view. -/
theorem marks_alternate (view : State → Bool) {report : Window Tag State → Option Report}
    {marks : Report → List Bool}
    (exact : ∀ window, ((report window).elim [] marks) =
      if view window.before = view window.after then [] else [view window.after])
    (first : State) (observations : List (Tag × State)) :
    List.IsChain (· ≠ ·)
      (view first :: ((windows first observations).filterMap report).flatMap marks) := by
  induction observations generalizing first with
  | nil => exact List.isChain_singleton _
  | cons observation rest inductionHypothesis =>
      have marked := exact ⟨observation.1, first, observation.2⟩
      have continued := inductionHypothesis observation.2
      have split : ((windows first (observation :: rest)).filterMap report).flatMap marks =
          ((report ⟨observation.1, first, observation.2⟩).elim [] marks) ++
            ((windows observation.2 rest).filterMap report).flatMap marks := by
        rw [windows]
        cases reported : report ⟨observation.1, first, observation.2⟩ with
        | none => rw [List.filterMap_cons_none reported, Option.elim_none, List.nil_append]
        | some made =>
            rw [List.filterMap_cons_some reported, List.flatMap_cons, Option.elim_some]
      rw [split, marked]
      by_cases same : view first = view observation.2
      · rw [if_pos same, List.nil_append, same]
        exact continued
      · rw [if_neg same]
        exact List.isChain_cons_cons.mpr ⟨same, continued⟩

end OnboxFvt.Library
