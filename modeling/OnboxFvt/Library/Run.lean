import Mathlib.Tactic.TypeStar

/-!
# Runs of a machine with partial steps

An action that is not enabled in a state has no step.  A condition on steps is
met along a run when every step of it is taken from a state that meets it.
-/

namespace OnboxFvt.Library

structure Machine (State Action : Type*) where
  step : State → Action → Option State

namespace Machine

variable {State Action : Type*} (machine : Machine State Action)

def run : State → List Action → Option State
  | state, [] => some state
  | state, action :: rest => (machine.step state action).bind fun next => run next rest

def Along (Allowed : State → Action → Prop) : State → List Action → Prop
  | _, [] => True
  | state, action :: rest =>
      Allowed state action ∧ ∀ next ∈ machine.step state action, Along Allowed next rest

theorem run_cons {state last : State} {action : Action} {rest : List Action} :
    machine.run state (action :: rest) = some last ↔
      ∃ next, machine.step state action = some next ∧ machine.run next rest = some last :=
  Option.bind_eq_some_iff

theorem run_append {first last : State} {before after : List Action} :
    machine.run first (before ++ after) = some last ↔
      ∃ middle, machine.run first before = some middle ∧ machine.run middle after = some last := by
  induction before generalizing first with
  | nil =>
      constructor
      · exact fun reached => ⟨first, rfl, reached⟩
      · rintro ⟨middle, here, reached⟩
        cases here
        exact reached
  | cons action rest inductionHypothesis =>
      rw [List.cons_append, run_cons]
      constructor
      · rintro ⟨next, stepped, continued⟩
        obtain ⟨middle, reached, ended⟩ := inductionHypothesis.mp continued
        exact ⟨middle, machine.run_cons.mpr ⟨next, stepped, reached⟩, ended⟩
      · rintro ⟨middle, reached, ended⟩
        obtain ⟨next, stepped, continued⟩ := machine.run_cons.mp reached
        exact ⟨next, stepped, inductionHypothesis.mpr ⟨middle, continued, ended⟩⟩

/-- An invariant of the state and the actions so far. -/
theorem invariant_of_history {Invariant : List Action → State → Prop}
    (preserved : ∀ {history state action next}, Invariant history state →
      machine.step state action = some next → Invariant (history ++ [action]) next)
    {history actions : List Action} {first last : State} (initially : Invariant history first)
    (reached : machine.run first actions = some last) : Invariant (history ++ actions) last := by
  induction actions generalizing history first with
  | nil =>
      cases reached
      rw [List.append_nil]
      exact initially
  | cons action rest inductionHypothesis =>
      obtain ⟨next, stepped, continued⟩ := machine.run_cons.mp reached
      have later := inductionHypothesis (preserved initially stepped) continued
      rwa [List.append_assoc, List.singleton_append] at later

/-- What every allowed step preserves holds at the end of every run of allowed steps. -/
theorem invariant_of_run {Allowed : State → Action → Prop} {Invariant : State → Prop}
    (preserved : ∀ {state action next}, Invariant state → Allowed state action →
      machine.step state action = some next → Invariant next)
    {actions : List Action} {first last : State} (initially : Invariant first)
    (allowed : machine.Along Allowed first actions)
    (reached : machine.run first actions = some last) : Invariant last := by
  induction actions generalizing first with
  | nil =>
      cases reached
      exact initially
  | cons action rest inductionHypothesis =>
      obtain ⟨next, stepped, continued⟩ := machine.run_cons.mp reached
      exact inductionHypothesis (preserved initially allowed.1 stepped) (allowed.2 next stepped)
        continued

/-- What every step preserves holds at the end of every run. -/
theorem preserved_of_run {Invariant : State → Prop}
    (preserved : ∀ {state action next}, Invariant state →
      machine.step state action = some next → Invariant next)
    {actions : List Action} {first last : State} (initially : Invariant first)
    (reached : machine.run first actions = some last) : Invariant last := by
  induction actions generalizing first with
  | nil =>
      cases reached
      exact initially
  | cons action rest inductionHypothesis =>
      obtain ⟨next, stepped, continued⟩ := machine.run_cons.mp reached
      exact inductionHypothesis (preserved initially stepped) continued

/-- Without a bad step the invariant holds at the end of a run, and the first bad step of a run
seals its fate. -/
theorem spared_or_fated (Bad : State → Action → Prop) (Invariant Fate : State → Prop)
    (preserved : ∀ {state action next}, Invariant state → ¬Bad state action →
      machine.step state action = some next → Invariant next)
    (broken : ∀ {state action next}, Invariant state → Bad state action →
      machine.step state action = some next → Fate next)
    (fated : ∀ {state action next}, Fate state → machine.step state action = some next → Fate next)
    {actions : List Action} {first last : State} (initially : Invariant first)
    (reached : machine.run first actions = some last) :
    machine.Along (fun state action => ¬Bad state action) first actions ∧ Invariant last ∨
      ¬machine.Along (fun state action => ¬Bad state action) first actions ∧ Fate last := by
  induction actions generalizing first with
  | nil =>
      cases reached
      exact Or.inl ⟨trivial, initially⟩
  | cons action rest inductionHypothesis =>
      obtain ⟨next, stepped, continued⟩ := machine.run_cons.mp reached
      by_cases bad : Bad first action
      · have sealed := broken initially bad stepped
        exact Or.inr ⟨fun along => along.1 bad, machine.preserved_of_run fated sealed continued⟩
      · have kept := preserved initially bad stepped
        apply (inductionHypothesis kept continued).imp
        · rintro ⟨along, ended⟩
          refine ⟨⟨bad, fun other same => ?_⟩, ended⟩
          cases stepped.symm.trans same
          exact along
        · rintro ⟨stopped, ended⟩
          exact ⟨fun along => stopped (along.2 next stepped), ended⟩

theorem along_and {Always : Action → Prop} {Allowed : State → Action → Prop} {state : State}
    {actions : List Action} (always : ∀ action ∈ actions, Always action)
    (allowed : machine.Along Allowed state actions) :
    machine.Along (fun state action => Always action ∧ Allowed state action) state actions := by
  induction actions generalizing state with
  | nil => trivial
  | cons action rest inductionHypothesis =>
      refine ⟨⟨always action (List.mem_cons_self ..), allowed.1⟩, fun next stepped => ?_⟩
      exact inductionHypothesis (fun other member => always other (List.mem_cons_of_mem _ member))
        (allowed.2 next stepped)

theorem along_of_forall {Allowed : State → Action → Prop} {actions : List Action}
    (free : ∀ action ∈ actions, ∀ state, Allowed state action) (state : State) :
    machine.Along Allowed state actions := by
  induction actions generalizing state with
  | nil => trivial
  | cons action rest inductionHypothesis =>
      refine ⟨free action (List.mem_cons_self ..) state, fun next _ => ?_⟩
      apply inductionHypothesis
      exact fun other member => free other (List.mem_cons_of_mem _ member)

theorem along_append {Allowed : State → Action → Prop} {state : State}
    {first second : List Action} (allowed : machine.Along Allowed state first)
    (rest : ∀ middle, machine.run state first = some middle →
      machine.Along Allowed middle second) :
    machine.Along Allowed state (first ++ second) := by
  induction first generalizing state with
  | nil => exact rest state rfl
  | cons action others inductionHypothesis =>
      refine ⟨allowed.1, fun next stepped => ?_⟩
      refine inductionHypothesis (allowed.2 next stepped) ?_
      intro middle reached
      exact rest middle (machine.run_cons.mpr ⟨next, stepped, reached⟩)

end Machine

end OnboxFvt.Library
