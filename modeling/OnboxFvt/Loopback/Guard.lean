import OnboxFvt.Loopback.Cleanup

/-!
# The guard after every test

`_per_test_lb_guard` of `conftest.py` sweeps the loopbacks a test leaks, but not
while a port is held and not when the test set no `_touched` flag.  It resets the
flag in both cases, so a leak it skipped is not swept after a later test either.
-/

namespace OnboxFvt.Loopback

variable {Port Bcm : Type} [DecidableEq Port] [DecidableEq Bcm]

/-- What a test does with the manager. -/
inductive TestOp (Port : Type) where
  | manager (op : Op Port)
  | useTestVlan (vid : Vid) (ports : List Port) (restoreVid : Vid)
  | dropTestVlan

/-- The fixtures of a group of tests: set-up enables and holds a port, teardown
releases and disables it.  They run between two tests. -/
inductive GroupOp (Port : Type) where
  | setUp (port : Port) (mode : Option LbMode) (discard : Bool)
  | tearDown (port : Port)

def GroupOp.port : GroupOp Port → Port
  | .setUp port _ _ => port
  | .tearDown port => port

/-- A test with the group fixtures set up and torn down just before it. -/
structure TestRun (Port : Type) where
  groups : List (GroupOp Port)
  ops : List (TestOp Port)

namespace State

variable (device : Device Port Bcm)

def testOp (state : State Port Bcm) : TestOp Port → State Port Bcm
  | .manager op => apply device state op
  | .useTestVlan vid ports restoreVid => state.useTestVlan device vid ports restoreVid
  | .dropTestVlan => state.dropTestVlan

def groupOp (state : State Port Bcm) : GroupOp Port → State Port Bcm
  | .setUp port mode discard => (state.enable device port mode discard).hold device port mode
  | .tearDown port => (state.release port).disable device port

/-- The teardown of `_per_test_lb_guard`. -/
def guard (state : State Port Bcm) : State Port Bcm :=
  let used := state.touched
  let state := { state with touched := false }
  if state.held.keys ≠ [] then state
  else if used then (state.forceClearAll device).2
  else state

/-- A new manager after the sweep at the start of the session. -/
def sessionStart (chip : Chip Bcm) : State Port Bcm :=
  ({ on := ∅, floodSafe := ∅, held := ∅, touched := false, testVlan := none, chip := chip } :
    State Port Bcm).forceClearAll device |>.2

def startOf (state : State Port Bcm) (test : TestRun Port) : State Port Bcm :=
  test.groups.foldl (groupOp device) state

def endOf (state : State Port Bcm) (test : TestRun Port) : State Port Bcm :=
  test.ops.foldl (testOp device) (state.startOf device test)

def afterTest (state : State Port Bcm) (test : TestRun Port) : State Port Bcm :=
  (state.endOf device test).guard device

/-- A port the manager has looped without its being held. -/
def Leaked (state : State Port Bcm) (port : Port) : Prop :=
  port ∈ state.on ∧ port ∉ state.held

end State

/-- Every looped port is held at the start of every test. -/
def CleanStarts (device : Device Port Bcm) : State Port Bcm → List (TestRun Port) → Prop
  | _, [] => True
  | state, test :: rest =>
      (∀ port, ¬ (state.startOf device test).Leaked port) ∧
        CleanStarts device (state.afterTest device test) rest

/-- At the end of a test, before the guard: the guard will sweep, or each looped port is
held or taken over by the group fixtures that come next. -/
def Covered (ending : State Port Bcm) (groups : List (GroupOp Port)) : Prop :=
  (ending.held.keys = [] ∧ ending.touched = true) ∨
    ∀ port ∈ ending.on, port ∈ ending.held ∨ ∃ op ∈ groups, op.port = port

def AllCovered (device : Device Port Bcm) : State Port Bcm → List (TestRun Port) → Prop
  | state, test :: next :: rest =>
      Covered (state.endOf device test) next.groups ∧
        AllCovered device (state.afterTest device test) (next :: rest)
  | _, _ => True

variable (device : Device Port Bcm)

/-! ## What each step does to leaks -/

theorem leaked_groupOp (state : State Port Bcm) (op : GroupOp Port) (port : Port) :
    (state.groupOp device op).Leaked port ↔ state.Leaked port ∧ op.port ≠ port := by
  cases op with
  | setUp own mode discard =>
      have on : ((state.enable device own mode discard).hold device own mode).on =
          state.on.insert own (mode.getD device.mode, discard) := by
        cases discard <;> rfl
      have held : ((state.enable device own mode discard).hold device own mode).held =
          state.held.insert own (mode.getD device.mode) := by
        cases discard <;> rfl
      rw [State.Leaked, State.groupOp, on, held, AList.mem_insert, AList.mem_insert, State.Leaked,
        GroupOp.port]
      by_cases same : port = own
      · simp [same]
      · simp [same, Ne.symm same]
  | tearDown own =>
      rw [State.Leaked, State.groupOp, disable_eq, State.Leaked, GroupOp.port]
      simp only [State.release, AList.mem_erase]
      by_cases same : port = own
      · simp [same]
      · simp [same, Ne.symm same]

theorem leaked_startOf (state : State Port Bcm) (test : TestRun Port) (port : Port) :
    (state.startOf device test).Leaked port ↔
      state.Leaked port ∧ ∀ op ∈ test.groups, op.port ≠ port := by
  rw [State.startOf]
  induction test.groups generalizing state with
  | nil => simp
  | cons op rest inductionHypothesis =>
      rw [List.foldl_cons, inductionHypothesis, leaked_groupOp, List.forall_mem_cons, and_assoc]

theorem forceClearAll_on (state : State Port Bcm) (unheld : state.held.keys = []) :
    (state.forceClearAll device).2.on = ∅ := by
  rw [forceClearAll_snd, swept_held, unheld]
  rfl

theorem leaked_guard (state : State Port Bcm) (port : Port) :
    (state.guard device).Leaked port ↔
      state.Leaked port ∧ ¬ (state.held.keys = [] ∧ state.touched = true) := by
  by_cases unheld : state.held.keys = []
  · cases used : state.touched with
    | true =>
        have swept := forceClearAll_on device { state with touched := false } unheld
        simp [State.guard, unheld, used, State.Leaked, swept]
    | false => simp [State.guard, unheld, used, State.Leaked]
  · simp [State.guard, unheld, State.Leaked]

theorem clean_start_iff (state : State Port Bcm) (test next : TestRun Port) :
    (∀ port, ¬ ((state.afterTest device test).startOf device next).Leaked port) ↔
      Covered (state.endOf device test) next.groups := by
  generalize ended : state.endOf device test = ending
  simp only [leaked_startOf, State.afterTest, ended, leaked_guard]
  by_cases swept : ending.held.keys = [] ∧ ending.touched = true
  · simp [Covered, swept]
  · simp only [swept, not_false_iff, and_true, Covered, false_or, State.Leaked]
    refine forall_congr' fun port => ?_
    constructor
    · intro covered looped
      by_contra neither
      rw [not_or, not_exists] at neither
      exact covered ⟨⟨looped, neither.1⟩, fun op member equal => neither.2 op ⟨member, equal⟩⟩
    · rintro covered ⟨⟨looped, unheld⟩, elsewhere⟩
      rcases covered looped with held | ⟨op, member, equal⟩
      · exact unheld held
      · exact elsewhere op member equal

/-! ## Whole sessions -/

theorem cleanStarts_cons_iff (state : State Port Bcm) (test : TestRun Port)
    (rest : List (TestRun Port)) :
    CleanStarts device state (test :: rest) ↔
      (∀ port, ¬ (state.startOf device test).Leaked port) ∧
        AllCovered device state (test :: rest) := by
  induction rest generalizing state test with
  | nil => simp [CleanStarts, AllCovered]
  | cons next rest inductionHypothesis =>
      rw [CleanStarts, inductionHypothesis, clean_start_iff, AllCovered]

/-- Tests start clean exactly when the guard sweeps after every test that leaves a loopback
neither held nor taken over. -/
theorem cleanStarts_iff (chip : Chip Bcm) (tests : List (TestRun Port)) :
    CleanStarts device (State.sessionStart device chip) tests ↔
      AllCovered device (State.sessionStart device chip) tests := by
  cases tests with
  | nil => simp [CleanStarts, AllCovered]
  | cons test rest =>
      rw [cleanStarts_cons_iff]
      refine and_iff_right fun port leaked => ?_
      have nothing := ((leaked_startOf device _ test port).mp leaked).1.1
      rw [State.sessionStart, forceClearAll_on device _ rfl] at nothing
      exact AList.notMem_empty port nothing

def twoPorts : Device Bool Bool where
  bcmOf := id
  injective := Function.injective_id
  mode := .mac
  defaultVlan := 1000
  isSwitchportOs := false
  worker := 0
  workerPbm := none

def idleChip : Chip Bool where
  lb := fun _ => none
  discard := fun _ => false
  pvid := fun _ => 1000
  vlans := {1000}

/-- A test leaks one port while a group holds the other. -/
def leakWhileHeld : List (TestRun Bool) :=
  [{ groups := [.setUp false none false], ops := [.manager (.enable true none false)] },
    { groups := [], ops := [] }]

theorem leak_survives_while_held :
    ¬ ∀ (device : Device Bool Bool) (chip : Chip Bool) (tests : List (TestRun Bool)),
      CleanStarts device (State.sessionStart device chip) tests := by
  intro always
  have clean := (always twoPorts idleChip leakWhileHeld).2.1 true
  rw [State.Leaked] at clean
  revert clean
  decide

end OnboxFvt.Loopback
