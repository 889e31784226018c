import Mathlib.Data.Fintype.EquivFin
import Mathlib.Data.List.Sort
import OnboxFvt.ConfigGuard.Exit
import OnboxFvt.Library.RetryPass

/-!
# Registration-order dependencies

A device on which an undo is rejected until the undos that block it have
succeeded.  Reverse registration order need not be a topological order, and one
retry pass heals one inversion: an undo is restored exactly when no chain of
blockers ending at it contains two that were registered before the undo they
block, and so run after it.
-/

namespace OnboxFvt.ConfigGuard

open Library Python

/-- A result `_run_undo` takes for a failure. -/
structure Rejection where
  result : Result
  failing : result.rc ≠ 0
  visible : benign result = false

variable {n : Nat}

/-- Undo `cmd` succeeds when its blockers have; the state is the succeeded set. -/
def dependencyCli (blockers : Fin n → Finset (Fin n)) (rejection : Fin n → Rejection) :
    Transport (Finset (Fin n)) (Fin n) (Fin n) Empty where
  configRaw cmd done :=
    if blockers cmd ⊆ done then (.ok { rc := 0, out := [], err := [] }, insert cmd done)
    else (.ok (rejection cmd).result, done)
  verify cmd done := (.ok (decide (cmd ∈ done)), done)

/-- Undo number `i` of the registration order, with a `verify` where `verified` says so. -/
def registeredUndo (verified : Fin n → Bool) (i : Fin n) : Undo (Fin n) (Fin n) where
  cmd := some i
  verify := if verified i then some i else none

def registered (verified : Fin n → Bool) : List (Undo (Fin n) (Fin n)) :=
  (List.finRange n).map (registeredUndo verified)

def Acyclic (blockers : Fin n → Finset (Fin n)) : Prop :=
  ∀ i, ¬ Relation.TransGen (fun blocker item => blocker ∈ blockers item) i i

variable {blockers : Fin n → Finset (Fin n)} {rejection : Fin n → Rejection}
  {verified : Fin n → Bool}

theorem Acyclic.wellFounded (acyclic : Acyclic blockers) :
    WellFounded fun blocker item => blocker ∈ blockers item := by
  have irreflexive : Std.Irrefl (Relation.TransGen fun blocker item => blocker ∈ blockers item) :=
    ⟨acyclic⟩
  exact (Finite.wellFounded_of_trans_of_irrefl
    (Relation.TransGen fun blocker item => blocker ∈ blockers item)).mono
      fun _ _ blocking => .single blocking

variable (rejection verified)

/-- Whichever way success is judged, an undo counts as done when it succeeded. -/
theorem runUndo_dependencyCli {done : Finset (Fin n)} (settled : Settled blockers done)
    (i : Fin n) :
    runUndo (dependencyCli blockers rejection) i (registeredUndo verified i).verify done =
      (.ok (decide (blockers i ⊆ done)),
        if blockers i ⊆ done then insert i done else done) := by
  by_cases ready : blockers i ⊆ done
  · cases judged : verified i <;>
      simp [runUndo, dependencyCli, registeredUndo, ready, judged]
  · have absent : i ∉ done := fun member => ready (settled i member)
    have failing := (rejection i).failing
    have visible := (rejection i).visible
    cases judged : verified i <;>
      simp [runUndo, dependencyCli, registeredUndo, ready, judged, absent, failing, visible]

/-- A loop over distinct undos is a sweep, and it reports those still not done. -/
theorem runAll_dependencyCli {order : List (Fin n)} (distinct : order.Nodup)
    {done : Finset (Fin n)} (settled : Settled blockers done) :
    runAll (dependencyCli blockers rejection) (order.map (registeredUndo verified)) done =
      (.ok ((order.filter (· ∉ sweep blockers order done)).map (registeredUndo verified)),
        sweep blockers order done) := by
  induction order generalizing done with
  | nil => rfl
  | cons i rest inductionHypothesis =>
      have fresh : i ∉ rest := (List.nodup_cons.mp distinct).1
      have attempt := runUndo_dependencyCli rejection verified
        settled i
      have later := inductionHypothesis (List.nodup_cons.mp distinct).2 (settled.attempt i)
      simp only [List.map_cons, runAll, registeredUndo] at attempt ⊢
      rw [attempt]
      by_cases ready : blockers i ⊆ done
      · simp only [ready, decide_true, if_true] at later ⊢
        have member : i ∈ sweep blockers rest (insert i done) :=
          subset_sweep _ _ (Finset.mem_insert_self i done)
        rw [later, sweep, if_pos ready, List.filter_cons_of_neg (by simpa using member)]
      · simp only [ready, decide_false, if_false] at later ⊢
        have absent : i ∉ sweep blockers rest done := by
          intro member
          rcases mem_or_mem_of_mem_sweep member with earlier | inRest
          · exact ready (settled i earlier)
          · exact fresh inRest
        rw [later, sweep, if_neg ready, List.filter_cons_of_pos (by simpa using absent)]
        rfl

/-- `__exit__` restores what two sweeps in reverse registration order do. -/
theorem exit_dependencyCli :
    exit (dependencyCli blockers rejection) (registered verified) ∅ =
      (.ok false, [], sweeps blockers (List.finRange n).reverse 2) := by
  have distinct : (List.finRange n).reverse.Nodup :=
    List.nodup_reverse.mpr (List.nodup_finRange n)
  have initial : Settled blockers ∅ := settled_sweeps [] 0
  have first := runAll_dependencyCli rejection verified
    distinct initial
  have second := runAll_dependencyCli rejection verified
    (distinct.filter (· ∉ sweep blockers (List.finRange n).reverse ∅))
    (initial.sweep (List.finRange n).reverse)
  rw [sweep_filter_notMem _ _ _ (Finset.Subset.refl _)] at second
  simp only [exit, registered, ← List.map_reverse, first, second]
  rfl

theorem sublist_reverse_finRange_iff (blocker item : Fin n) :
    [blocker, item].Sublist (List.finRange n).reverse ↔ item < blocker := by
  have sorted : (List.finRange n).reverse.Pairwise (· > ·) :=
    List.pairwise_reverse.mpr (List.pairwise_lt_finRange n)
  constructor
  · intro before
    simpa using sorted.sublist before
  · intro later
    have pair : [blocker, item].Pairwise (· > ·) := by simpa using later
    exact List.sublist_of_subperm_of_pairwise
      (List.subperm_of_subset pair.nodup (by simp)) pair sorted

def routerInterface : Rejection where
  result := { rc := 1, out := [], err := "is a router interface".toList }
  failing := by decide
  visible := by decide

/-- Every undo is blocked by the one registered just before it. -/
def chain (n : Nat) (i : Fin n) : Finset (Fin n) :=
  Finset.univ.filter fun blocker => blocker.val + 1 = i.val

theorem chain_acyclic (n : Nat) : Acyclic (chain n) := by
  have smaller : ∀ {blocker item : Fin n},
      Relation.TransGen (fun blocker item => blocker ∈ chain n item) blocker item →
        blocker < item := by
    intro blocker item path
    induction path with
    | single blocking =>
        simp only [chain, Finset.mem_filter, Finset.mem_univ, true_and] at blocking
        omega
    | tail _ blocking inductionHypothesis =>
        simp only [chain, Finset.mem_filter, Finset.mem_univ, true_and] at blocking
        omega
  exact fun i path => lt_irrefl i (smaller path)

end OnboxFvt.ConfigGuard
