import Mathlib.Tactic.TypeStar

/-!
# Programs that change a state and may stop

A program returns a value or stops for a reason; what it changed until then stays
changed.  Two programs are compared from the states of a precondition on: they do
the same there, and a postcondition holds of the value and the state they end with,
or another one of the reason they stop for.  A program compared with itself is a
triple of the usual kind.
-/

namespace OnboxFvt.Library

def Program (State Stop Value : Type) : Type :=
  State → Except Stop Value × State

namespace Program

variable {State Stop Value Other : Type}

instance : Monad (Program State Stop) where
  pure value := fun state => (.ok value, state)
  bind program rest := fun state =>
    match program state with
    | (.ok value, next) => rest value next
    | (.error reason, next) => (.error reason, next)

instance : LawfulMonad (Program State Stop) :=
  LawfulMonad.mk' _
    (by
      intro Value program
      funext state
      change (match program state with
        | (.ok value, next) => (.ok value, next)
        | (.error reason, next) => (.error reason, next)) = program state
      rcases program state with ⟨_ | _, _⟩ <;> rfl)
    (fun _ _ => rfl)
    (by
      intro Value Other Last program rest last
      funext state
      simp only [Bind.bind]
      rcases program state with ⟨_ | _, _⟩ <;> rfl)

def stop (reason : Stop) : Program State Stop Value :=
  fun state => (.error reason, state)

/-- Read a part of the state. -/
def view (part : State → Value) : Program State Stop Value :=
  fun state => (.ok (part state), state)

def update (change : State → State) : Program State Stop Unit :=
  fun state => (.ok (), change state)

def each (work : Value → Program State Stop Unit) : List Value → Program State Stop Unit
  | [] => pure ()
  | item :: rest => do
      work item
      each work rest

/-- Ask at most so many times, until the answer is yes. -/
def poll (question : Program State Stop Bool) : Nat → Program State Stop Bool
  | 0 => pure false
  | times + 1 => do
      if ← question then pure true else poll question times

/-! ## Comparing programs -/

section Rules

variable {failing : Stop → State → Prop}

def Ends (failing : Stop → State → Prop) (after : Value → State → Prop) :
    Except Stop Value × State → Prop
  | (.ok value, last) => after value last
  | (.error reason, last) => failing reason last

/-- From the states of `before` on both programs do the same, and end as said. -/
def Agree (failing : Stop → State → Prop) (before : State → Prop)
    (first second : Program State Stop Value) (after : Value → State → Prop) : Prop :=
  ∀ state, before state → first state = second state ∧ Ends failing after (first state)

/-- The triple of one program. -/
abbrev Meets (failing : Stop → State → Prop) (before : State → Prop)
    (program : Program State Stop Value) (after : Value → State → Prop) : Prop :=
  Agree failing before program program after

variable {before before' : State → Prop} {after after' : Value → State → Prop}
  {first second : Program State Stop Value}

theorem Agree.pure {value : Value} (holds : ∀ state, before state → after value state) :
    Agree failing before (pure value) (pure value) after :=
  fun state here => ⟨rfl, holds state here⟩

theorem Agree.stop {reason : Stop} (fails : ∀ state, before state → failing reason state) :
    Agree failing before (stop reason) (stop reason) after :=
  fun state here => ⟨rfl, fails state here⟩

theorem Agree.view {part : State → Value}
    (holds : ∀ state, before state → after (part state) state) :
    Agree failing before (view part) (view part) after :=
  fun state here => ⟨rfl, holds state here⟩

theorem Agree.update {change : State → State} {after : Unit → State → Prop}
    (holds : ∀ state, before state → after () (change state)) :
    Agree failing before (update change) (update change) after :=
  fun state here => ⟨rfl, holds state here⟩

theorem Agree.weaken (agree : Agree failing before first second after)
    (stronger : ∀ state, before' state → before state)
    (weaker : ∀ value state, after value state → after' value state) :
    Agree failing before' first second after' := by
  intro state here
  obtain ⟨same, ends⟩ := agree state (stronger state here)
  refine ⟨same, ?_⟩
  rcases ended : first state with ⟨reason | value, last⟩ <;> rw [ended] at ends
  · exact ends
  · exact weaker value last ends

theorem Agree.congr {first' second' : Program State Stop Value}
    (agree : Agree failing before first second after)
    (left : ∀ state, before state → first' state = first state)
    (right : ∀ state, before state → second' state = second state) :
    Agree failing before first' second' after := by
  intro state here
  rw [left state here, right state here]
  exact agree state here

theorem Agree.and (agree : Agree failing before first second after)
    (agree' : Agree failing before first second after') :
    Agree failing before first second fun value state =>
      after value state ∧ after' value state := by
  intro state here
  obtain ⟨same, ends⟩ := agree state here
  have ends' := (agree' state here).2
  refine ⟨same, ?_⟩
  rcases ended : first state with ⟨reason | value, last⟩ <;> rw [ended] at ends ends'
  · exact ends
  · exact ⟨ends, ends'⟩

theorem Agree.bind {middle : Other → State → Prop} {start start' : Program State Stop Other}
    {rest rest' : Other → Program State Stop Value}
    (starts : Agree failing before start start' middle)
    (continues : ∀ value, Agree failing (middle value) (rest value) (rest' value) after) :
    Agree failing before (start >>= rest) (start' >>= rest') after := by
  intro state here
  obtain ⟨same, ends⟩ := starts state here
  simp only [Bind.bind, ← same]
  rcases ended : start state with ⟨reason | value, next⟩ <;> rw [ended] at ends
  · exact ⟨rfl, ends⟩
  · exact continues value next ends

/-- What is said of the value alone is at hand in the rest. -/
theorem Agree.bind_knowing {fact : Other → Prop} {middle : State → Prop}
    {start start' : Program State Stop Other} {rest rest' : Other → Program State Stop Value}
    (starts : Agree failing before start start' fun value state => fact value ∧ middle state)
    (continues : ∀ value, fact value → Agree failing middle (rest value) (rest' value) after) :
    Agree failing before (start >>= rest) (start' >>= rest') after := by
  refine Agree.bind starts fun value state here => ?_
  exact continues value here.1 state here.2

theorem Agree.ite {condition : Prop} [Decidable condition]
    {yes yes' no no' : Program State Stop Value}
    (positive : condition → Agree failing before yes yes' after)
    (negative : ¬condition → Agree failing before no no' after) :
    Agree failing before (if condition then yes else no) (if condition then yes' else no')
      after := by
  by_cases here : condition
  · rw [if_pos here, if_pos here]
    exact positive here
  · rw [if_neg here, if_neg here]
    exact negative here

/-- A loop keeps what every turn of it keeps. -/
theorem Agree.each {work work' : Value → Program State Stop Unit}
    (turn : ∀ item, Agree failing before (work item) (work' item) fun _ => before)
    (items : List Value) :
    Agree failing before (each work items) (each work' items) fun _ => before := by
  induction items with
  | nil => exact Agree.pure fun _ here => here
  | cons item rest inductionHypothesis => exact Agree.bind (turn item) fun _ => inductionHypothesis

/-- Polling keeps what the question keeps, and a yes at the end is a yes of the question. -/
theorem Agree.poll {question question' : Program State Stop Bool} {answered : State → Prop}
    (asks : Agree failing before question question' fun answer state =>
      before state ∧ (answer = true → answered state)) (times : Nat) :
    Agree failing before (poll question times) (poll question' times) fun answer state =>
      before state ∧ (answer = true → answered state) := by
  induction times with
  | zero => exact Agree.pure fun _ here => ⟨here, fun no => nomatch no⟩
  | succ times inductionHypothesis =>
      refine Agree.bind asks fun answer => ?_
      cases answer with
      | true => exact Agree.pure fun _ here => here
      | false => exact inductionHypothesis.weaken (fun _ here => here.1) fun _ _ ends => ends

end Rules

end Program

end OnboxFvt.Library
