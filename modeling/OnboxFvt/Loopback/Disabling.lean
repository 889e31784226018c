import OnboxFvt.Loopback.Cleanup

/-!
# What `disable` undoes

`disable` turns the ingress discard off only if the `_on` entry of the port says
that it was turned on.  There is one entry for each port and every enabling call
writes it, so the entry has the flag of the last call, while the chip keeps the
discard of any call before.
-/

namespace OnboxFvt.Loopback

variable {Port Bcm : Type} [DecidableEq Port] [DecidableEq Bcm]

/-- The two entry points that loop a port. -/
inductive Enabling where
  | loop (mode : Option LbMode) (discard : Bool)
  | floodSafe (isolateVid : Int)

namespace Enabling

def call (port : Port) : Enabling → Op Port
  | .loop mode discard => .enable port mode discard
  | .floodSafe isolateVid => .enableFloodSafe port isolateVid

/-- A call that turns the ingress discard on; what it writes to `_on` says so. -/
def discards : Enabling → Bool
  | .loop _ discard => discard
  | .floodSafe _ => false

end Enabling

/-- A call of the history of `port`: one that loops it, or any on another port. -/
inductive Step (port : Port) where
  | own (call : Enabling)
  | other (op : Op Port) (apart : op.touches ≠ some port)

namespace Step

variable {port : Port}

def op : Step port → Op Port
  | .own call => call.call port
  | .other op _ => op

def ownCall : Step port → Option Enabling
  | .own call => some call
  | .other _ _ => none

end Step

def ownCalls {port : Port} (history : List (Step port)) : List Enabling :=
  history.filterMap Step.ownCall

/-- How a port is turned off: `restore_pvid` where an isolation is pending, then `disable`. -/
def State.turnOff (device : Device Port Bcm) (state : State Port Bcm) (port : Port) :
    State Port Bcm :=
  (if port ∈ state.floodSafe then state.restorePvid port else state).disable device port

/-- The port is back to no loopback and no ingress discard. -/
structure Off (device : Device Port Bcm) (port : Port) (state : State Port Bcm) : Prop where
  lb : state.chip.lb (device.bcmOf port) = none
  discard : state.chip.discard (device.bcmOf port) = false

/-! ## Calls on other ports -/

/-- Every record is about its own port. -/
def Named (device : Device Port Bcm) (state : State Port Bcm) : Prop :=
  ∀ port info, state.floodSafe.lookup port = some info → info.bcm = device.bcmOf port

variable {device : Device Port Bcm} {state next : State Port Bcm}

omit [DecidableEq Bcm] in
theorem Named.insert (named : Named device state) {port : Port} {added : FloodSafe Bcm}
    (own : added.bcm = device.bcmOf port)
    (floodSafe : next.floodSafe = state.floodSafe.insert port added) : Named device next := by
  rw [Named, floodSafe]
  exact forall_record_insert named own

omit [DecidableEq Bcm] in
theorem Named.erase (named : Named device state) {port : Port}
    (floodSafe : next.floodSafe = state.floodSafe.erase port) : Named device next := by
  rw [Named, floodSafe]
  exact forall_record_erase named

theorem Named.apply (named : Named device state) (op : Op Port) :
    Named device (apply device state op) := by
  cases op with
  | enable port mode discard => cases discard <;> exact named
  | disable port =>
      rw [Loopback.apply, disable_eq]
      exact named
  | enableFloodSafe port isolateVid => exact named.insert rfl rfl
  | disableFloodSafe port =>
      cases found : state.floodSafe.lookup port with
      | none =>
          rw [Loopback.apply, disableFloodSafe_of_absent state port found, disable_eq]
          exact named
      | some info =>
          rw [Loopback.apply, disableFloodSafe_of_record state port found, disable_eq]
          exact named.erase rfl
  | isolatePvid port isolateVid =>
      cases flavour : device.isSwitchportOs <;>
        simp only [Loopback.apply, State.isolatePvid, flavour, Bool.false_eq_true, if_false,
          if_true] <;>
        exact named.insert rfl rfl
  | restorePvid port =>
      cases found : state.floodSafe.lookup port with
      | none =>
          rw [Loopback.apply, restorePvid_of_absent state port found]
          exact named
      | some info => exact named.erase (restorePvid_floodSafe_of_record state port found)
  | hold port mode => exact named
  | release port => exact named

theorem look_restorePvid_elsewhere (named : Named device state) {here port : Port}
    (different : port ≠ here) :
    (state.restorePvid port).look device here = state.look device here := by
  cases found : state.floodSafe.lookup port with
  | none => rw [restorePvid_of_absent state port found]
  | some info =>
      have apart : device.bcmOf here ≠ info.bcm := fun equal =>
        different (device.injective (equal.trans (named port info found))).symm
      cases isolated : info.iso with
      | none =>
          rw [restorePvid_of_discarding state port found isolated]
          simp [State.look, Chip.exec, apart, AList.lookup_erase_ne different.symm]
      | some iso =>
          rw [restorePvid_of_isolated state port found isolated]
          simp [State.look, AList.lookup_erase_ne different.symm]

/-- A call on another port changes nothing of this one. -/
theorem look_apply_elsewhere (named : Named device state) {here : Port} {op : Op Port}
    (elsewhere : op.touches ≠ some here) :
    (apply device state op).look device here = state.look device here := by
  have apart : ∀ port, port ≠ here → device.bcmOf here ≠ device.bcmOf port :=
    fun port different equal => different (device.injective equal).symm
  cases op with
  | enable port mode discard =>
      have different : port ≠ here := fun same => elsewhere (congrArg some same)
      cases discard <;>
        simp [apply, State.look, State.enable, State.cmd, Chip.exec, apart port different,
          AList.lookup_insert_ne different.symm]
  | disable port =>
      exact look_disable_elsewhere state fun same => elsewhere (congrArg some same)
  | enableFloodSafe port isolateVid =>
      have different : port ≠ here := fun same => elsewhere (congrArg some same)
      simp [apply, State.look, State.enableFloodSafe, State.cmd, Chip.exec, apart port different,
        AList.lookup_insert_ne different.symm]
  | disableFloodSafe port =>
      exact look_disableFloodSafe_elsewhere state fun same => elsewhere (congrArg some same)
  | isolatePvid port isolateVid =>
      have different : port ≠ here := fun same => elsewhere (congrArg some same)
      cases flavour : device.isSwitchportOs <;>
        simp [apply, State.look, State.isolatePvid, flavour, State.cmd, Chip.exec,
          apart port different, AList.lookup_insert_ne different.symm]
  | restorePvid port =>
      exact look_restorePvid_elsewhere named fun same => elsewhere (congrArg some same)
  | hold port mode => rfl
  | release port => rfl

/-! ## The history of a port -/

/-- What the manager and the chip know of a port after its calls: the chip has the
discard of any of them, the manager the flag of the last, and an isolation is by PVID. -/
structure Followed (initial : Bool) (calls : List Enabling) (view : PortView Bcm) : Prop where
  discard : view.discard = (initial || calls.any Enabling.discards)
  flag : view.flag = (calls.getLast?.map Enabling.discards).getD false
  isolated : ∀ info, view.record = some info → info.iso ≠ none

variable {port : Port} {initial : Bool} {calls : List Enabling}

theorem Followed.call (followed : Followed initial calls (state.look device port))
    (call : Enabling) :
    Followed initial (calls ++ [call])
      ((apply device state (call.call port)).look device port) := by
  have before := followed.discard
  rw [State.look] at before
  cases call with
  | loop mode discard =>
      refine ⟨?_, ?_, ?_⟩
      · cases discard <;>
          simp [apply, Enabling.call, Enabling.discards, State.look, State.enable, State.cmd,
            Chip.exec, before]
      · cases discard <;>
          simp [apply, Enabling.call, Enabling.discards, State.look, State.enable, PortView.flag]
      · cases discard <;> exact followed.isolated
  | floodSafe isolateVid =>
      refine ⟨?_, ?_, ?_⟩
      · simp [apply, Enabling.call, Enabling.discards, State.look, State.enableFloodSafe,
          State.cmd, Chip.exec, before]
      · simp [apply, Enabling.call, Enabling.discards, State.look, State.enableFloodSafe,
          PortView.flag]
      · intro info found
        have written := (AList.lookup_insert ..).symm.trans found
        cases written
        exact Option.some_ne_none _

theorem run_snoc (device : Device Port Bcm) (start : State Port Bcm) (ops : List (Op Port))
    (op : Op Port) : run device start (ops ++ [op]) = apply device (run device start ops) op := by
  simp [run]

/-- Induction from the last call: calls on other ports are not seen. -/
theorem followed_run (device : Device Port Bcm) (start : State Port Bcm) (fresh : Fresh start)
    (history : List (Step port)) :
    Named device (run device start (history.map Step.op)) ∧
      Followed (start.chip.discard (device.bcmOf port)) (ownCalls history)
        ((run device start (history.map Step.op)).look device port) := by
  induction history using List.reverseRecOn with
  | nil =>
      have unlooped : start.on.lookup port = none := by rw [fresh.on, AList.lookup_empty]
      have unrecorded : ∀ port, start.floodSafe.lookup port = none := fun port => by
        rw [fresh.floodSafe, AList.lookup_empty]
      refine ⟨fun other info found => ?_, ?_, ?_, fun info found => ?_⟩
      · rw [List.map_nil, run, List.foldl_nil, unrecorded] at found
        cases found
      · simp [run, State.look, ownCalls]
      · simp [run, State.look, PortView.flag, unlooped, ownCalls]
      · rw [List.map_nil, run, List.foldl_nil, State.look, unrecorded] at found
        cases found
  | append_singleton history step inductionHypothesis =>
      obtain ⟨named, followed⟩ := inductionHypothesis
      rw [List.map_append, List.map_singleton, run_snoc]
      refine ⟨named.apply step.op, ?_⟩
      cases step with
      | own call =>
          have calls : ownCalls (history ++ [Step.own call]) = ownCalls history ++ [call] := by
            simp [ownCalls, Step.ownCall]
          rw [calls]
          exact followed.call call
      | other op elsewhere =>
          have calls : ownCalls (history ++ [Step.other op elsewhere]) = ownCalls history := by
            simp [ownCalls, Step.ownCall]
          rw [calls, Step.op, look_apply_elsewhere named elsewhere]
          exact followed

/-! ## Turning the port off -/

/-- An isolation by PVID leaves the discard and the entry of `_on` to `disable`. -/
theorem turnOff_discard (isolated : ∀ info, (state.look device port).record = some info →
      info.iso ≠ none) :
    (state.turnOff device port).chip.discard (device.bcmOf port) =
      ((state.look device port).discard && !(state.look device port).flag) := by
  rw [State.turnOff, disable_eq]
  by_cases pending : port ∈ state.floodSafe
  · obtain ⟨info, found⟩ := Option.isSome_iff_exists.mp (AList.lookup_isSome.mpr pending)
    obtain ⟨iso, byPvid⟩ := Option.ne_none_iff_exists'.mp (isolated info found)
    rw [if_pos pending, restorePvid_of_isolated state port found byPvid]
    simp [State.look, PortView.flag, State.discardFlag]
  · simp [pending, State.look, PortView.flag, State.discardFlag]

theorem turnOff_lb (state : State Port Bcm) (port : Port) :
    (state.turnOff device port).chip.lb (device.bcmOf port) = none := by
  rw [State.turnOff, disable_eq]
  exact Function.update_self ..

/-- The last call discards, or there is no discard to turn off. -/
def Remembered (initial : Bool) (calls : List Enabling) : Prop :=
  calls.getLast?.map Enabling.discards = some true ∨
    initial = false ∧ ∀ call ∈ calls, call.discards = false

/-- Turning a port off undoes its enabling calls exactly when the last of them
discards or none does: an earlier discard is forgotten by a later call without. -/
theorem turnOff_undoes_iff (device : Device Port Bcm) (start : State Port Bcm)
    (fresh : Fresh start) (port : Port) (history : List (Step port)) :
    Off device port ((run device start (history.map Step.op)).turnOff device port) ↔
      Remembered (start.chip.discard (device.bcmOf port)) (ownCalls history) := by
  obtain ⟨_, followed⟩ := followed_run device start fresh history
  have left := turnOff_discard followed.isolated
  rw [followed.discard, followed.flag] at left
  generalize ownCalls history = calls at left
  generalize start.chip.discard (device.bcmOf port) = initial at left ⊢
  have flagged : (calls.getLast?.map Enabling.discards).getD false = true ↔
      calls.getLast?.map Enabling.discards = some true := by
    cases calls.getLast?.map Enabling.discards <;> simp
  have quiet : (initial || calls.any Enabling.discards) = false ↔
      initial = false ∧ ∀ call ∈ calls, call.discards = false := by
    simp
  rw [Remembered, ← flagged, ← quiet]
  constructor
  · intro off
    have undone := left.symm.trans off.discard
    rw [Bool.and_eq_false_iff, Bool.not_eq_false'] at undone
    exact undone.symm
  · intro remembered
    refine ⟨turnOff_lb _ port, left.trans ?_⟩
    rw [Bool.and_eq_false_iff, Bool.not_eq_false']
    exact remembered.symm

/-- A flood-safe port that is then looped with its discard. -/
theorem turnOff_undoes_last_discard :
    Off (onePort false) ()
      ((run (onePort false) quiet [.enableFloodSafe () 3990, .enable () none true]).turnOff
        (onePort false) ()) :=
  (turnOff_undoes_iff (onePort false) quiet fresh_quiet ()
    [.own (.floodSafe 3990), .own (.loop none true)]).mpr (Or.inl rfl)

/-- The second call forgets the discard of the first, and the port keeps dropping. -/
theorem turnOff_forgets_discard :
    ¬ ∀ (device : Device Unit Unit) (start : State Unit Unit) (history : List (Step ())),
      Fresh start → start.chip.discard (device.bcmOf ()) = false →
        Off device () ((run device start (history.map Step.op)).turnOff device ()) := by
  intro always
  have off := always (onePort false) quiet [.own (.loop none true), .own (.floodSafe 3990)]
    fresh_quiet rfl
  have undone := off.discard
  revert undone
  decide

end OnboxFvt.Loopback
