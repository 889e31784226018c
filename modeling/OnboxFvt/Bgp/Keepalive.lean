import Mathlib.Order.Lattice
import OnboxFvt.Bgp.Session

/-!
# When KEEPALIVEs are sent

The loop of `_run` with the clock.  Ticks pass only while `recv` waits: five at a timeout, fewer
where something arrives.  `_recv_n` goes on after a timeout, so the test at the top of the loop is
only reached with a message.
-/

namespace OnboxFvt.Bgp

open Library

inductive LoopPc where
  | testing
  | waiting
  | closed
  deriving DecidableEq

/-- `lastSent` is when the last KEEPALIVE went out; the reply to an OPEN counts, but is not noted
in `last_ka`.  `waited` is the time since the test at the top of the loop. -/
structure Clocked where
  pc : LoopPc
  now : Nat
  lastKa : Nat
  lastSent : Option Nat
  waited : Nat
  deriving DecidableEq

/-- What happens to the loop.  A `recv` that ends with octets took less than its timeout; they
may be a part of a message only. -/
inductive Tick where
  | test
  | timeout
  | chunk (delay : Fin 5)
  | message (delay : Fin 5) (msg : Received)
  | ends

def Tick.ticks : Tick → Nat
  | .timeout => 5
  | .chunk delay | .message delay _ => delay.val
  | .test | .ends => 0

def kaInterval (holdTime : Nat) : Nat :=
  max (holdTime / 3) 5

namespace Clocked

/-- After the OPEN has been sent. -/
def initial (now : Nat) : Clocked where
  pc := .testing
  now := now
  lastKa := 0
  lastSent := none
  waited := 0

def pass (state : Clocked) (ticks : Nat) : Clocked :=
  { state with now := state.now + ticks, waited := state.waited + ticks }

def sendKeepalive (state : Clocked) : Clocked :=
  { state with lastSent := some state.now }

def test (holdTime : Nat) (state : Clocked) : Clocked :=
  if state.now - state.lastKa ≥ kaInterval holdTime then
    { state.sendKeepalive with lastKa := state.now, pc := .waiting, waited := 0 }
  else { state with pc := .waiting, waited := 0 }

def handle (state : Clocked) : Received → Clocked
  | .openMsg => { state.sendKeepalive with pc := .testing }
  | .notification => { state with pc := .closed }
  | .keepalive | .update => { state with pc := .testing }

/-- As long as the session is open, a KEEPALIVE has been sent in the last `holdTime` ticks. -/
def Alive (holdTime : Nat) (state : Clocked) : Prop :=
  state.pc ≠ .closed → ∀ sent, state.lastSent = some sent → state.now - sent ≤ holdTime

end Clocked

def clockedMachine (holdTime : Nat) : Machine Clocked Tick where
  step state
    | .test => if state.pc = .testing then some (state.test holdTime) else none
    | .timeout => if state.pc = .waiting then some (state.pass 5) else none
    | .chunk delay => if state.pc = .waiting then some (state.pass delay.val) else none
    | .message delay msg =>
        if state.pc = .waiting then some ((state.pass delay.val).handle msg) else none
    | .ends => if state.pc = .closed then none else some { state with pc := .closed }

/-- The peer's next message is complete at most `gap` ticks after the test. -/
def WaitsAtMost (gap : Nat) (state : Clocked) (tick : Tick) : Prop :=
  tick = .test ∨ state.waited + tick.ticks ≤ gap

/-! ## Short waits -/

/-- At the last test a KEEPALIVE was sent or none was due. -/
structure Paced (holdTime gap : Nat) (state : Clocked) : Prop where
  past : state.lastKa ≤ state.now
  order : ∀ sent, state.lastSent = some sent → state.lastKa ≤ sent
  waited : state.waited ≤ gap
  recent : state.pc = .waiting ∨ state.lastSent ≠ none →
    state.now < state.lastKa + kaInterval holdTime + state.waited

variable {holdTime gap : Nat} {state next : Clocked}

theorem kaInterval_pos (holdTime : Nat) : 0 < kaInterval holdTime :=
  Nat.lt_of_lt_of_le (by decide) (Nat.le_max_right (holdTime / 3) 5)

theorem Paced.initial (holdTime gap now : Nat) : Paced holdTime gap (Clocked.initial now) := by
  refine ⟨Nat.zero_le _, ?_, Nat.zero_le _, ?_⟩ <;> simp [Clocked.initial]

theorem Paced.test (paced : Paced holdTime gap state) :
    Paced holdTime gap (state.test holdTime) := by
  have positive := kaInterval_pos holdTime
  unfold Clocked.test
  split
  next due =>
    refine ⟨Nat.le_refl _, ?_, Nat.zero_le _, fun _ => ?_⟩
    · intro sent equal
      cases equal
      exact Nat.le_refl _
    · change state.now < state.now + kaInterval holdTime + 0
      omega
  next early =>
    refine ⟨paced.past, paced.order, Nat.zero_le _, fun _ => ?_⟩
    change state.now < state.lastKa + kaInterval holdTime + 0
    omega

theorem Paced.pass (paced : Paced holdTime gap state) {ticks : Nat}
    (short : state.waited + ticks ≤ gap) : Paced holdTime gap (state.pass ticks) := by
  refine ⟨Nat.le_add_right_of_le paced.past, paced.order, short, fun started => ?_⟩
  have recent := paced.recent started
  change state.now + ticks < state.lastKa + kaInterval holdTime + (state.waited + ticks)
  omega

theorem Paced.handle (paced : Paced holdTime gap state) (here : state.pc = .waiting)
    (msg : Received) : Paced holdTime gap (state.handle msg) := by
  have recent := paced.recent (Or.inl here)
  cases msg with
  | openMsg =>
      refine ⟨paced.past, ?_, paced.waited, fun _ => recent⟩
      intro sent equal
      cases equal
      exact paced.past
  | update | keepalive | notification =>
      exact ⟨paced.past, paced.order, paced.waited, fun _ => recent⟩

theorem Paced.step (paced : Paced holdTime gap state) {tick : Tick}
    (short : WaitsAtMost gap state tick)
    (stepped : (clockedMachine holdTime).step state tick = some next) :
    Paced holdTime gap next := by
  have waits : tick ≠ .test → state.waited + tick.ticks ≤ gap := short.resolve_left
  cases tick with
  | test =>
      simp only [clockedMachine, Option.ite_none_right_eq_some, Option.some.injEq] at stepped
      obtain ⟨_, rfl⟩ := stepped
      exact paced.test
  | timeout =>
      simp only [clockedMachine, Option.ite_none_right_eq_some, Option.some.injEq] at stepped
      obtain ⟨_, rfl⟩ := stepped
      exact paced.pass (waits (by simp))
  | chunk delay =>
      simp only [clockedMachine, Option.ite_none_right_eq_some, Option.some.injEq] at stepped
      obtain ⟨_, rfl⟩ := stepped
      exact paced.pass (waits (by simp))
  | message delay msg =>
      simp only [clockedMachine, Option.ite_none_right_eq_some, Option.some.injEq] at stepped
      obtain ⟨here, rfl⟩ := stepped
      exact (paced.pass (waits (by simp))).handle here msg
  | ends =>
      simp only [clockedMachine, Option.ite_none_left_eq_some, Option.some.injEq] at stepped
      obtain ⟨_, rfl⟩ := stepped
      refine ⟨paced.past, paced.order, paced.waited, fun started => ?_⟩
      exact paced.recent (started.resolve_left (by simp) |> Or.inr)

theorem Paced.alive (paced : Paced holdTime gap state)
    (small : kaInterval holdTime + gap ≤ holdTime + 1) : state.Alive holdTime := by
  intro _ sent equal
  have order := paced.order sent equal
  have waited := paced.waited
  have recent := paced.recent (Or.inr (by rw [equal]; exact Option.some_ne_none sent))
  omega

theorem alive_of_short (small : kaInterval holdTime + gap ≤ holdTime + 1) {now : Nat}
    {ticks : List Tick}
    (short : (clockedMachine holdTime).Along (WaitsAtMost gap) (Clocked.initial now) ticks)
    (reached : (clockedMachine holdTime).run (Clocked.initial now) ticks = some state) :
    state.Alive holdTime := by
  have paced : Paced holdTime gap state :=
    (clockedMachine holdTime).invariant_of_run (fun paced short stepped => paced.step short stepped)
      (Paced.initial holdTime gap now) short reached
  exact paced.alive small

/-! ## Long waits -/

/-- A KEEPALIVE went out at `start`, and no other since. -/
def listening (start elapsed waited : Nat) : Clocked where
  pc := .waiting
  now := start + elapsed
  lastKa := start
  lastSent := some start
  waited := waited

theorem run_first {start : Nat} (clock : kaInterval holdTime ≤ start) :
    (clockedMachine holdTime).step (Clocked.initial start) .test = some (listening start 0 0) := by
  simp [clockedMachine, Clocked.initial, Clocked.test, Clocked.sendKeepalive, listening, clock]

/-- A message that is not answered, one tick after the test, and the next test. -/
def chatter (messages : Nat) : List Tick :=
  (List.replicate messages [.message 1 .update, .test]).flatten

theorem run_chatter (positive : 0 < gap) {start elapsed messages : Nat}
    (early : elapsed + messages < kaInterval holdTime) :
    (clockedMachine holdTime).run (listening start elapsed 0) (chatter messages) =
        some (listening start (elapsed + messages) 0) ∧
      (clockedMachine holdTime).Along (WaitsAtMost gap) (listening start elapsed 0)
        (chatter messages) := by
  induction messages generalizing elapsed with
  | zero => exact ⟨rfl, trivial⟩
  | succ messages inductionHypothesis =>
      have heard : (clockedMachine holdTime).step (listening start elapsed 0) (.message 1 .update) =
          some { listening start (elapsed + 1) 1 with pc := .testing } := rfl
      have notDue : ¬ kaInterval holdTime ≤ elapsed + 1 := by omega
      have tested : (clockedMachine holdTime).step
          { listening start (elapsed + 1) 1 with pc := .testing } .test =
            some (listening start (elapsed + 1) 0) := by
        simp [clockedMachine, Clocked.test, listening, notDue]
      obtain ⟨reached, short⟩ := @inductionHypothesis (elapsed + 1) (by omega)
      have unfolded : chatter (messages + 1) =
          .message 1 .update :: .test :: chatter messages := rfl
      rw [unfolded]
      constructor
      · rw [Machine.run_cons]
        refine ⟨_, heard, Machine.run_cons _ |>.mpr ⟨_, tested, ?_⟩⟩
        rw [reached]
        congr 2
        omega
      · refine ⟨Or.inr (by change 0 + 1 ≤ gap; omega), fun first stepped => ?_⟩
        cases heard.symm.trans stepped
        refine ⟨Or.inl rfl, fun second stepped => ?_⟩
        cases tested.symm.trans stepped
        exact short

/-- No message is complete for so many ticks. -/
def silence (ticks : Nat) : List Tick :=
  List.replicate (ticks / 5) .timeout ++ [.chunk ⟨ticks % 5, Nat.mod_lt ticks (by decide)⟩]

theorem run_timeouts {start elapsed waited count : Nat} (short : waited + 5 * count ≤ gap) :
    (clockedMachine holdTime).run (listening start elapsed waited)
          (List.replicate count .timeout) =
        some (listening start (elapsed + 5 * count) (waited + 5 * count)) ∧
      (clockedMachine holdTime).Along (WaitsAtMost gap) (listening start elapsed waited)
        (List.replicate count .timeout) := by
  induction count generalizing elapsed waited with
  | zero => exact ⟨rfl, trivial⟩
  | succ count inductionHypothesis =>
      have passed : (clockedMachine holdTime).step (listening start elapsed waited) .timeout =
          some (listening start (elapsed + 5) (waited + 5)) := rfl
      obtain ⟨reached, others⟩ :=
        @inductionHypothesis (elapsed + 5) (waited + 5) (by omega)
      constructor
      · rw [List.replicate_succ, Machine.run_cons]
        refine ⟨_, passed, ?_⟩
        rw [reached]
        congr 2 <;> omega
      · refine ⟨Or.inr (by change waited + 5 ≤ gap; omega), fun next stepped => ?_⟩
        cases passed.symm.trans stepped
        exact others

theorem run_silence {start elapsed : Nat} :
    (clockedMachine holdTime).run (listening start elapsed 0) (silence gap) =
        some (listening start (elapsed + gap) gap) ∧
      (clockedMachine holdTime).Along (WaitsAtMost gap) (listening start elapsed 0)
        (silence gap) := by
  have whole : 5 * (gap / 5) + gap % 5 = gap := Nat.div_add_mod gap 5
  obtain ⟨reached, short⟩ :=
    @run_timeouts holdTime gap start elapsed 0 (gap / 5) (by omega)
  have heard : (clockedMachine holdTime).step
      (listening start (elapsed + 5 * (gap / 5)) (0 + 5 * (gap / 5)))
      (.chunk ⟨gap % 5, Nat.mod_lt gap (by decide)⟩) =
        some (listening start (elapsed + gap) gap) := by
    simp only [clockedMachine, listening, Clocked.pass, if_true, Option.some.injEq,
      Clocked.mk.injEq, true_and]
    omega
  constructor
  · rw [silence, Machine.run_append]
    exact ⟨_, reached, Machine.run_cons _ |>.mpr ⟨_, heard, rfl⟩⟩
  · refine Machine.along_append _ short fun middle ended => ?_
    cases reached.symm.trans ended
    refine ⟨Or.inr ?_, fun _ _ => trivial⟩
    change 0 + 5 * (gap / 5) + gap % 5 ≤ gap
    omega

/-- A message each tick until just before the next KEEPALIVE is due, then a long wait. -/
def starving (holdTime gap : Nat) : List Tick :=
  .test :: chatter (kaInterval holdTime - 1) ++ silence gap

theorem run_starving (positive : 0 < gap) {start : Nat} (clock : kaInterval holdTime ≤ start) :
    (clockedMachine holdTime).run (Clocked.initial start) (starving holdTime gap) =
        some (listening start (kaInterval holdTime - 1 + gap) gap) ∧
      (clockedMachine holdTime).Along (WaitsAtMost gap) (Clocked.initial start)
        (starving holdTime gap) := by
  have interval := kaInterval_pos holdTime
  have first := run_first clock
  obtain ⟨reached, short⟩ :=
    @run_chatter holdTime gap positive start 0 (kaInterval holdTime - 1) (by omega)
  rw [Nat.zero_add] at reached
  obtain ⟨ended, quiet⟩ := @run_silence holdTime gap start (kaInterval holdTime - 1)
  constructor
  · rw [starving, List.cons_append, Machine.run_cons]
    exact ⟨_, first, Machine.run_append _ |>.mpr ⟨_, reached, ended⟩⟩
  · rw [starving, List.cons_append]
    refine ⟨Or.inl rfl, fun next stepped => ?_⟩
    cases first.symm.trans stepped
    refine Machine.along_append _ short fun middle heard => ?_
    cases reached.symm.trans heard
    exact quiet

/-- In every run whose waits are at most `gap` ticks, no KEEPALIVE comes too late. -/
def KeptAlive (holdTime gap start : Nat) : Prop :=
  ∀ ticks state, (clockedMachine holdTime).Along (WaitsAtMost gap) (Clocked.initial start) ticks →
    (clockedMachine holdTime).run (Clocked.initial start) ticks = some state → state.Alive holdTime

/-- With waits of at most `gap` ticks the session is kept alive if and only if the interval and
the longest wait together fit into the hold time. -/
theorem keepalive_iff (holdTime gap start : Nat) (positive : 0 < gap)
    (clock : kaInterval holdTime ≤ start) :
    KeptAlive holdTime gap start ↔ kaInterval holdTime + gap ≤ holdTime + 1 := by
  constructor
  · intro always
    obtain ⟨reached, short⟩ := @run_starving holdTime gap positive start clock
    have alive := always _ _ short reached
    have elapsed : start + (kaInterval holdTime - 1 + gap) - start ≤ holdTime :=
      alive (by simp [listening]) start rfl
    have interval := kaInterval_pos holdTime
    omega
  · intro small ticks state short reached
    exact alive_of_short small short reached

/-- The default hold time with waits of at most a minute. -/
theorem keepalive_iff_default :
    KeptAlive 90 60 1700000000 ↔ kaInterval 90 + 60 ≤ 90 + 1 :=
  keepalive_iff 90 60 1700000000 (by decide) (by decide)

/-- A peer that is silent for 95 ticks after its connection is up. -/
theorem silent_peer_starved :
    ¬ ∀ holdTime start ticks state, 3 ≤ holdTime → kaInterval holdTime ≤ start →
      (clockedMachine holdTime).run (Clocked.initial start) ticks = some state →
      state.Alive holdTime := by
  intro always
  have alive := always 90 1700000000 (.test :: List.replicate 19 .timeout)
    (listening 1700000000 95 95) (by decide) (by decide) (by decide)
  have elapsed := alive (by decide) 1700000000 rfl
  revert elapsed
  decide

end OnboxFvt.Bgp
