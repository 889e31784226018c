import Mathlib.Algebra.BigOperators.Group.Finset.Basic
import Mathlib.Algebra.Order.BigOperators.Group.Finset

/-!
# Accumulated counter reads

`tx_delta` of `framework/l3probe.py`, `VrfHairpin.forward_tx` and `Traffic.smoke_check`.  Each
clears the counters, sends, and adds up what it reads until nearly all frames are seen or the
deadline has passed, and adds one read more.
-/

namespace OnboxFvt.Counters

/-- What a counter displays: the frames since it was last shown, or all since the clear. -/
inductive Display
  | difference
  | cumulative
  deriving DecidableEq

/-- What follows a clear: the frames the chip counts before the first read and from each read
to the next one, and the number of rounds that start before the deadline. -/
structure Schedule where
  arrivals : Nat → Nat
  rounds : Nat

namespace Schedule

/-- The frames counted until a number of reads has been made. -/
def counted (schedule : Schedule) (reads : Nat) : Nat :=
  ∑ i ∈ Finset.range reads, schedule.arrivals i

end Schedule

/-- What the read after `i` others gives. -/
def Display.read (display : Display) (schedule : Schedule) (i : Nat) : Nat :=
  match display with
  | difference => schedule.arrivals i
  | cumulative => schedule.counted (i + 1)

/-- A total, and the number of reads it was made from. -/
structure Total where
  total : Nat
  reads : Nat
  deriving DecidableEq

section Accumulate

variable (display : Display) (schedule : Schedule) (n : Nat)

/-- `while total < n * 0.9 and time.time() < deadline`. -/
def accumulate : Nat → Total → Total
  | 0, sofar => sofar
  | rounds + 1, sofar =>
      if 10 * sofar.total < 9 * n then
        accumulate rounds
          { total := sofar.total + display.read schedule sofar.reads, reads := sofar.reads + 1 }
      else sofar

/-- The loop, and the confirming read. -/
def readTotal : Total :=
  let sofar := accumulate display schedule n schedule.rounds { total := 0, reads := 0 }
  { total := sofar.total + display.read schedule sofar.reads, reads := sofar.reads + 1 }

/-- `tx_delta`. -/
def txDelta : Total :=
  readTotal display schedule n

/-- `VrfHairpin.forward_tx`. -/
def forwardTx : Total :=
  readTotal display schedule n

end Accumulate

/-- What `smoke_check` sends. -/
def smokeCount : Nat :=
  50

def smokeOk (total : Nat) : Bool :=
  decide (9 * smokeCount ≤ 10 * total) && decide (total < 1000000)

/-- `Traffic.smoke_check` with a schedule for each of its attempts: its answer, and the totals it
judged. -/
def smokeCheck (display : Display) (first second : Schedule) : Bool × List (Schedule × Total) :=
  let total := readTotal display first smokeCount
  if smokeOk total.total then (true, [(first, total)])
  else
    let again := readTotal display second smokeCount
    (smokeOk again.total, [(first, total), (second, again)])

/-- The total is the number of frames counted until the last read it was made from. -/
def Exact (schedule : Schedule) (made : Total) : Prop :=
  made.total = schedule.counted made.reads

/-! ## Both displays -/

theorem counted_succ (schedule : Schedule) (reads : Nat) :
    schedule.counted (reads + 1) = schedule.counted reads + schedule.arrivals reads :=
  Finset.sum_range_succ schedule.arrivals reads

theorem counted_mono (schedule : Schedule) {first last : Nat} (le : first ≤ last) :
    schedule.counted first ≤ schedule.counted last :=
  Finset.sum_le_sum_of_subset (Finset.range_mono le)

section Loop

variable {display : Display} {schedule : Schedule} {n : Nat}

/-- With differences the total follows the count. -/
theorem exact_accumulate_difference (rounds : Nat) {sofar : Total}
    (exact : Exact schedule sofar) :
    Exact schedule (accumulate .difference schedule n rounds sofar) := by
  induction rounds generalizing sofar with
  | zero => exact exact
  | succ rounds inductionHypothesis =>
      rw [accumulate]
      split
      next =>
          refine inductionHypothesis ?_
          rw [Exact, counted_succ, ← exact]
          rfl
      next => exact exact

theorem exact_readTotal_difference : Exact schedule (readTotal .difference schedule n) := by
  have loop := @exact_accumulate_difference schedule n schedule.rounds ⟨0, 0⟩ rfl
  rw [Exact, readTotal, counted_succ, ← loop]
  rfl

theorem le_accumulate (rounds : Nat) (sofar : Total) :
    sofar.total ≤ (accumulate display schedule n rounds sofar).total := by
  induction rounds generalizing sofar with
  | zero => exact Nat.le_refl _
  | succ rounds inductionHypothesis =>
      rw [accumulate]
      split
      next =>
          have later := inductionHypothesis
            ⟨sofar.total + display.read schedule sofar.reads, sofar.reads + 1⟩
          exact (Nat.le_add_right _ _).trans later
      next => exact Nat.le_refl _

/-- As long as no frame is counted, every round reads nothing. -/
theorem accumulate_of_silent (positive : 0 < n) (rounds reads : Nat)
    (silent : schedule.counted (reads + rounds) = 0) :
    accumulate .cumulative schedule n rounds ⟨0, reads⟩ = ⟨0, reads + rounds⟩ := by
  induction rounds generalizing reads with
  | zero => rfl
  | succ rounds inductionHypothesis =>
      have first : schedule.counted (reads + 1) = 0 :=
        Nat.eq_zero_of_le_zero ((counted_mono schedule (by omega)).trans_eq silent)
      rw [Nat.add_left_comm, Nat.add_comm] at silent
      rw [accumulate, if_pos (by dsimp only; omega), Display.read, first,
        inductionHypothesis (reads + 1) silent, Nat.add_right_comm, Nat.add_assoc]

theorem accumulate_pos (positive : 0 < n) {rounds reads : Nat}
    (before : schedule.counted reads = 0) (heard : schedule.counted (reads + rounds) ≠ 0) :
    0 < (accumulate .cumulative schedule n rounds ⟨0, reads⟩).total := by
  induction rounds generalizing reads with
  | zero => exact absurd before heard
  | succ rounds inductionHypothesis =>
      rw [accumulate, if_pos (by dsimp only; omega)]
      dsimp only [Display.read]
      by_cases silent : schedule.counted (reads + 1) = 0
      · rw [silent]
        refine inductionHypothesis silent ?_
        rwa [Nat.add_assoc, Nat.add_comm 1]
      · refine Nat.lt_of_lt_of_le ?_ (le_accumulate rounds _)
        dsimp only
        omega

theorem exact_readTotal_iff : Exact schedule (readTotal display schedule n) ↔
    display = .difference ∨ n = 0 ∨ schedule.counted schedule.rounds = 0 := by
  cases display with
  | difference => exact iff_of_true exact_readTotal_difference (Or.inl rfl)
  | cumulative =>
      have doubled : Exact schedule (readTotal .cumulative schedule n) ↔
          (accumulate .cumulative schedule n schedule.rounds ⟨0, 0⟩).total = 0 := by
        rw [Exact, readTotal]
        exact Nat.add_eq_right
      rw [doubled]
      rcases Nat.eq_zero_or_pos n with rfl | positive
      · refine iff_of_true ?_ (Or.inr (Or.inl rfl))
        cases schedule.rounds with
        | zero => rfl
        | succ rounds => rw [accumulate, if_neg (by dsimp only; omega)]
      · rw [or_iff_right (by nofun), or_iff_right (Nat.ne_of_gt positive)]
        constructor
        · intro nothing
          by_contra heard
          rw [← Nat.zero_add schedule.rounds] at heard
          have some := accumulate_pos positive rfl heard
          omega
        · intro silent
          rw [← Nat.zero_add schedule.rounds] at silent
          have loop := accumulate_of_silent positive schedule.rounds 0 silent
          rw [loop]

theorem readTotal_of_silent (positive : 0 < n) (silent : schedule.counted schedule.rounds = 0) :
    readTotal .cumulative schedule n =
      ⟨schedule.counted (schedule.rounds + 1), schedule.rounds + 1⟩ := by
  rw [← Nat.zero_add schedule.rounds] at silent
  rw [readTotal, accumulate_of_silent positive schedule.rounds 0 silent, Nat.zero_add]
  simp [Display.read]

end Loop

theorem smokeCheck_exact_iff (display : Display) (first second : Schedule) :
    (∀ judged ∈ (smokeCheck display first second).2, Exact judged.1 judged.2) ↔
      display = .difference ∨ first.counted first.rounds = 0 ∧
        (smokeOk (first.counted (first.rounds + 1)) = true ∨
          second.counted second.rounds = 0) := by
  cases display with
  | difference =>
      refine iff_of_true ?_ (Or.inl rfl)
      rw [smokeCheck]
      split
      next => exact List.forall_mem_singleton.mpr exact_readTotal_difference
      next =>
          rw [List.forall_mem_cons, List.forall_mem_singleton]
          exact ⟨exact_readTotal_difference, exact_readTotal_difference⟩
  | cumulative =>
      have sent : smokeCount ≠ 0 := by decide
      have exact_iff (schedule : Schedule) : Exact schedule
          (readTotal .cumulative schedule smokeCount) ↔ schedule.counted schedule.rounds = 0 := by
        rw [exact_readTotal_iff, or_iff_right (by nofun), or_iff_right sent]
      rw [or_iff_right (by nofun)]
      by_cases silent : first.counted first.rounds = 0
      · rw [and_iff_right silent, smokeCheck,
          readTotal_of_silent (Nat.pos_of_ne_zero sent) silent]
        dsimp only
        have once : Exact first ⟨first.counted (first.rounds + 1), first.rounds + 1⟩ := rfl
        by_cases ok : smokeOk (first.counted (first.rounds + 1)) = true
        · rw [if_pos ok]
          exact iff_of_true (List.forall_mem_singleton.mpr once) (Or.inl ok)
        · rw [if_neg ok, List.forall_mem_cons, List.forall_mem_singleton, exact_iff,
            and_iff_right once, or_iff_right ok]
      · refine iff_of_false (fun exact => silent ?_) (fun both => silent both.1)
        rw [← exact_iff]
        refine exact (first, _) ?_
        rw [smokeCheck]
        split
        next => exact List.mem_singleton_self _
        next => exact List.mem_cons_self ..

/-- The totals count every frame once when differences are displayed; with cumulative counters
only if no frame is counted while the loop still reads. -/
theorem totals_exact_iff (display : Display) (schedule first second : Schedule) (n : Nat) :
    (Exact schedule (txDelta display schedule n) ↔
      display = .difference ∨ n = 0 ∨ schedule.counted schedule.rounds = 0) ∧
    (Exact schedule (forwardTx display schedule n) ↔
      display = .difference ∨ n = 0 ∨ schedule.counted schedule.rounds = 0) ∧
    ((∀ judged ∈ (smokeCheck display first second).2, Exact judged.1 judged.2) ↔
      display = .difference ∨ first.counted first.rounds = 0 ∧
        (smokeOk (first.counted (first.rounds + 1)) = true ∨
          second.counted second.rounds = 0)) :=
  ⟨exact_readTotal_iff, exact_readTotal_iff, smokeCheck_exact_iff display first second⟩

/-- As many frames as are sent, all before the first read. -/
def allAtOnce (n : Nat) : Schedule where
  arrivals i := if i = 0 then n else 0
  rounds := 7

/-- With cumulative counters all three count every frame twice. -/
theorem frames_counted_twice :
    (txDelta .cumulative (allAtOnce 30) 30 = ⟨60, 2⟩ ∧
      (allAtOnce 30).counted 2 = 30 ∧
      ¬ Exact (allAtOnce 30) (txDelta .cumulative (allAtOnce 30) 30)) ∧
    ¬ Exact (allAtOnce 30) (forwardTx .cumulative (allAtOnce 30) 30) ∧
    ¬ ∀ judged ∈ (smokeCheck .cumulative (allAtOnce 50) (allAtOnce 50)).2,
      Exact judged.1 judged.2 := by
  have total : readTotal .cumulative (allAtOnce 30) 30 = ⟨60, 2⟩ := by decide
  have count : (allAtOnce 30).counted 2 = 30 := by decide
  have doubled : ¬ Exact (allAtOnce 30) (readTotal .cumulative (allAtOnce 30) 30) := by
    rw [total, Exact, count]
    decide
  refine ⟨⟨total, count, doubled⟩, doubled, fun exact => ?_⟩
  have judged := exact (allAtOnce 50, ⟨100, 2⟩) (by
    have total : readTotal .cumulative (allAtOnce 50) smokeCount = ⟨100, 2⟩ := by decide
    rw [smokeCheck, total]
    exact List.mem_cons_self ..)
  revert judged
  rw [Exact]
  decide

end OnboxFvt.Counters
