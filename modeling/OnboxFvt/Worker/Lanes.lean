import Mathlib.Logic.Function.Basic
import OnboxFvt.Library.Run
import OnboxFvt.Worker.Vlans

/-!
# Parallel workers on one device

The session fixture `_suite_baseline` of `conftest.py` in the processes `tools/run_lanes.sh`
starts.  A worker from 2 on moves its role ports from the default VLAN of the device into a VLAN of
its own, tests, resets the ports and moves them back.  The commands of the workers meet the device
in any order.  The device may refuse a configuration command; a diag command takes effect.
-/

namespace OnboxFvt.Worker

open Library Python

/-- A row of the VLAN_MEMBER table. -/
structure Member where
  vid : Int
  port : Text
  untagged : Bool
  deriving DecidableEq

structure Device where
  vlans : List Int
  members : List Member
  looped : Text → Bool

inductive Command
  | vlanAdd (vid : Int)
  | vlanDel (vid : Int)
  | memberAdd (vid : Int) (port : Text) (untagged : Bool)
  | memberDel (vid : Int) (port : Text)
  | loopback (port : Text) (on : Bool)

def Command.isDiag : Command → Bool
  | loopback .. => true
  | _ => false

def Command.ports : Command → List Text
  | vlanAdd _ | vlanDel _ => []
  | memberAdd _ port _ | memberDel _ port | loopback port _ => [port]

namespace Device

/-- The checks of the device: a port is an untagged member of one VLAN at most, and a VLAN with
members is not deleted. -/
def accepts (device : Device) : Command → Bool
  | .vlanAdd vid => decide (vid ∉ device.vlans)
  | .vlanDel vid => decide (vid ∈ device.vlans) && device.members.all fun m => decide (m.vid ≠ vid)
  | .memberAdd vid port untagged =>
      decide (vid ∈ device.vlans) && device.members.all fun m =>
        decide (m.port ≠ port) || (decide (m.vid ≠ vid) && !(untagged && m.untagged))
  | .memberDel vid port => device.members.any fun m => decide (m.vid = vid ∧ m.port = port)
  | .loopback .. => true

def exec (device : Device) : Command → Device
  | .vlanAdd vid => { device with vlans := vid :: device.vlans }
  | .vlanDel vid => { device with vlans := device.vlans.filter fun v => decide (v ≠ vid) }
  | .memberAdd vid port untagged =>
      { device with members := device.members ++ [⟨vid, port, untagged⟩] }
  | .memberDel vid port =>
      { device with
        members := device.members.filter fun m => decide (¬ (m.vid = vid ∧ m.port = port)) }
  | .loopback port on => { device with looped := Function.update device.looped port on }

/-- Whether a command comes back with success, and the device behind it. -/
def answer (device : Device) (granted : Bool) (command : Command) : Bool × Device :=
  if (granted || command.isDiag) && device.accepts command then (true, device.exec command)
  else (false, device)

end Device

/-! ## A session -/

/-- What a worker process has of the profile. -/
structure Lane where
  wid : Int
  topo : Topology
  view : List Int
  roles : List Text

namespace Lane

/-- The VLANs the tests of the worker put their ports into. -/
def domain (lane : Lane) : List Int :=
  lane.topo.defaultVlan :: lane.view

end Lane

/-- What the fixture does next, on which port, and with which ports it goes on. -/
inductive Stage
  | creating
  | homing (port : Text) (todo : List Text)
  | moving (port : Text) (todo : List Text)
  | testing
  | resetting (port : Text) (todo : List Text)
  | rehoming (port : Text) (todo : List Text)
  | clearing (vid : Int) (todo : List Int)
  | leaving (port : Text) (todo : List Text)
  | rejoining (port : Text) (todo : List Text)
  | dropping
  | ended
  | exited
  deriving DecidableEq

namespace Lane

variable (lane : Lane)

def start : Stage :=
  if lane.wid ≥ 2 then .creating else .testing

def home : List Text → Stage
  | [] => .testing
  | port :: todo => .homing port todo

def leave : List Text → Stage
  | [] => .dropping
  | port :: todo => .leaving port todo

/-- Behind `suite_reset`. -/
def restore : Stage :=
  if lane.wid ≥ 2 then leave lane.roles else .ended

def clear : List Int → Stage
  | [] => lane.restore
  | vid :: todo => .clearing vid todo

def reset : List Text → Stage
  | [] => lane.clear [lane.topo.hpVlanA, lane.topo.hpVlanB]
  | port :: todo => .resetting port todo

/-- A port that is a member already is not added again; the device would refuse it. -/
def command? : Stage → Option Command
  | .creating => some (.vlanAdd lane.topo.defaultVlan)
  | .homing port _ => some (.memberDel lane.topo.baseDefaultVlan port)
  | .moving port _ => some (.memberAdd lane.topo.defaultVlan port true)
  | .resetting port _ => some (.loopback port false)
  | .rehoming port _ => some (.memberAdd lane.topo.defaultVlan port true)
  | .clearing vid _ => some (.vlanDel vid)
  | .leaving port _ => some (.memberDel lane.topo.defaultVlan port)
  | .rejoining port _ => some (.memberAdd lane.topo.baseDefaultVlan port true)
  | .dropping => some (.vlanDel lane.topo.defaultVlan)
  | .testing | .ended | .exited => none

/-- Only a refused move is fatal: `pytest.exit`. -/
def next (accepted : Bool) : Stage → Stage
  | .creating => home lane.roles
  | .homing port todo => .moving port todo
  | .moving _ todo => if accepted then home todo else .exited
  | .resetting port todo => .rehoming port todo
  | .rehoming _ todo => lane.reset todo
  | .clearing _ todo => lane.clear todo
  | .leaving port todo => .rejoining port todo
  | .rejoining _ todo => leave todo
  | .dropping => .ended
  | stage => stage

/-- A test handles the ports of its worker and the VLANs of its view. -/
def permits : Command → Bool
  | .vlanAdd vid | .vlanDel vid => decide (vid ∈ lane.view)
  | .memberAdd vid port _ | .memberDel vid port =>
      decide (vid ∈ lane.domain) && decide (port ∈ lane.roles)
  | .loopback port _ => decide (port ∈ lane.roles)

end Lane

inductive Action
  | session (w : Int) (granted : Bool)
  | test (w : Int) (granted : Bool) (command : Command)
  | finish (w : Int)
  /-- `suite_reset` raises, and the fixture goes on behind it. -/
  | cut (w : Int)

structure State where
  device : Device
  stage : Int → Stage

def State.proceed (state : State) (w : Int) (stage : Stage) : State :=
  { state with stage := Function.update state.stage w stage }

theorem State.stage_proceed (state : State) (w : Int) (stage : Stage) :
    (state.proceed w stage).stage w = stage :=
  Function.update_self ..

theorem State.stage_proceed_of_ne (state : State) {w w' : Int} (other : w' ≠ w) (stage : Stage) :
    (state.proceed w stage).stage w' = state.stage w' :=
  Function.update_of_ne other ..

/-- The workers of `lanes` on one device. -/
def workers (lanes : Int → Option Lane) : Machine State Action where
  step state
    | .session w granted => do
        let lane ← lanes w
        let command ← lane.command? (state.stage w)
        let (accepted, device) := state.device.answer granted command
        some (State.proceed ⟨device, state.stage⟩ w (lane.next accepted (state.stage w)))
    | .test w granted command => do
        let lane ← lanes w
        match state.stage w with
        | .testing =>
            if lane.permits command then
              some { state with device := (state.device.answer granted command).2 }
            else none
        | _ => none
    | .finish w => do
        let lane ← lanes w
        match state.stage w with
        | .testing => some (state.proceed w (lane.reset lane.roles))
        | _ => none
    | .cut w => do
        let lane ← lanes w
        match state.stage w with
        | .resetting .. | .rehoming .. | .clearing .. => some (state.proceed w lane.restore)
        | _ => none

/-! ## Steps -/

theorem Device.answer_cases (device : Device) (granted : Bool) (command : Command) :
    (device.accepts command = true ∧
        device.answer granted command = (true, device.exec command)) ∨
      device.answer granted command = (false, device) := by
  unfold Device.answer
  split
  next accepted => exact .inl ⟨(Bool.and_eq_true_iff.mp accepted).2, rfl⟩
  next => exact .inr rfl

theorem Device.answer_loopback (device : Device) (granted : Bool) (port : Text) (on : Bool) :
    device.answer granted (.loopback port on) = (true, device.exec (.loopback port on)) := by
  cases granted <;> rfl

/-- What a step of worker `w` is. -/
theorem step_cases {lanes : Int → Option Lane} {state next : State} {action : Action}
    (stepped : (workers lanes).step state action = some next) :
    ∃ w lane, lanes w = some lane ∧
      ((∃ granted command, action = .session w granted ∧
          lane.command? (state.stage w) = some command ∧
          next = State.proceed ⟨(state.device.answer granted command).2, state.stage⟩ w
            (lane.next (state.device.answer granted command).1 (state.stage w))) ∨
        (∃ granted command, state.stage w = .testing ∧ lane.permits command = true ∧
          next = ⟨(state.device.answer granted command).2, state.stage⟩) ∨
        (action = .finish w ∧ state.stage w = .testing ∧
          next = state.proceed w (lane.reset lane.roles)) ∨
        (action = .cut w ∧ next = state.proceed w lane.restore)) := by
  cases action with
  | session w granted =>
      obtain ⟨lane, known, stepped⟩ := Option.bind_eq_some_iff.mp stepped
      obtain ⟨command, given, stepped⟩ := Option.bind_eq_some_iff.mp stepped
      exact ⟨w, lane, known, .inl ⟨granted, command, rfl, given, (Option.some.inj stepped).symm⟩⟩
  | test w granted command =>
      obtain ⟨lane, known, stepped⟩ := Option.bind_eq_some_iff.mp stepped
      refine ⟨w, lane, known, .inr (.inl ⟨granted, command, ?_⟩)⟩
      split at stepped
      next testing =>
        split at stepped
        next permitted => exact ⟨testing, permitted, (Option.some.inj stepped).symm⟩
        next => cases stepped
      next => cases stepped
  | finish w =>
      obtain ⟨lane, known, stepped⟩ := Option.bind_eq_some_iff.mp stepped
      refine ⟨w, lane, known, .inr (.inr (.inl ⟨rfl, ?_⟩))⟩
      split at stepped
      next testing => exact ⟨testing, (Option.some.inj stepped).symm⟩
      next => cases stepped
  | cut w =>
      obtain ⟨lane, known, stepped⟩ := Option.bind_eq_some_iff.mp stepped
      refine ⟨w, lane, known, .inr (.inr (.inr ⟨rfl, ?_⟩))⟩
      split at stepped
      all_goals first | exact (Option.some.inj stepped).symm | cases stepped

/-! ## What a command leaves alone -/

section Frame

variable (device : Device) (granted : Bool) {command : Command} {port : Text}

theorem Device.looped_exec (other : port ∉ command.ports) :
    (device.exec command).looped port = device.looped port := by
  cases command with
  | loopback own on =>
      exact Function.update_of_ne (fun same => other (List.mem_singleton.mpr same)) _ _
  | _ => rfl

theorem Device.mem_exec {m : Member} (other : m.port ∉ command.ports) :
    m ∈ (device.exec command).members ↔ m ∈ device.members := by
  cases command with
  | memberAdd vid own untagged =>
      have different : m ≠ ⟨vid, own, untagged⟩ := by
        rintro rfl
        exact other (List.mem_singleton_self _)
      simp [Device.exec, different]
  | memberDel vid own =>
      have different : m.port ≠ own := fun same => other (List.mem_singleton.mpr same)
      simp [Device.exec, different]
  | _ => rfl

theorem Device.looped_answer (other : port ∉ command.ports) :
    (device.answer granted command).2.looped port = device.looped port := by
  rcases device.answer_cases granted command with ⟨-, answered⟩ | answered <;> rw [answered]
  exact device.looped_exec other

theorem Device.mem_answer {m : Member} (other : m.port ∉ command.ports) :
    m ∈ (device.answer granted command).2.members ↔ m ∈ device.members := by
  rcases device.answer_cases granted command with ⟨-, answered⟩ | answered <;> rw [answered]
  exact device.mem_exec other

end Frame

/-! ## The invariant -/

namespace Stage

/-- The ports the stage still has to handle. -/
def pending : Stage → List Text
  | homing port todo | moving port todo | resetting port todo | rehoming port todo |
    leaving port todo | rejoining port todo => port :: todo
  | _ => []

/-- The loopback of the port is off for sure. -/
def Quiet (port : Text) : Stage → Prop
  | testing => False
  | resetting first todo => port ∉ first :: todo
  | rehoming _ todo => port ∉ todo
  | _ => True

/-- The port is in VLANs of its worker only. -/
def Homed (port : Text) : Stage → Prop
  | homing first todo | moving first todo => port ∉ first :: todo
  | testing | resetting .. | rehoming .. | clearing .. => True
  | _ => False

/-- The port has not been moved yet. -/
def Early (port : Text) : Stage → Prop
  | creating => True
  | homing first todo | moving first todo => port ∈ first :: todo
  | _ => False

theorem homed_of_not_quiet {port : Text} {stage : Stage} (loud : ¬ stage.Quiet port) :
    stage.Homed port := by
  cases stage with
  | testing | resetting | rehoming => trivial
  | _ => exact absurd trivial loud

end Stage

section Continuations

variable (lane : Lane) (todo : List Text) (port : Text)

@[simp]
theorem Lane.pending_home : (Lane.home todo).pending = todo := by
  cases todo <;> rfl

@[simp]
theorem Lane.homed_home : (Lane.home todo).Homed port ↔ port ∉ todo := by
  cases todo with
  | nil => exact iff_of_true trivial List.not_mem_nil
  | cons => rfl

@[simp]
theorem Lane.early_home : (Lane.home todo).Early port ↔ port ∈ todo := by
  cases todo with
  | nil => exact iff_of_false id List.not_mem_nil
  | cons => rfl

@[simp]
theorem Lane.pending_leave : (Lane.leave todo).pending = todo := by
  cases todo <;> rfl

@[simp]
theorem Lane.homed_leave : ¬ (Lane.leave todo).Homed port := by
  cases todo <;> exact id

@[simp]
theorem Lane.early_leave : ¬ (Lane.leave todo).Early port := by
  cases todo <;> exact id

theorem Lane.pending_restore : ∀ port ∈ lane.restore.pending, port ∈ lane.roles := by
  unfold Lane.restore
  split
  · simp
  · exact fun port member => absurd member List.not_mem_nil

@[simp]
theorem Lane.early_restore : ¬ lane.restore.Early port := by
  unfold Lane.restore
  split
  · simp
  · exact id

@[simp]
theorem Lane.pending_reset : (lane.reset todo).pending = todo := by
  cases todo <;> rfl

@[simp]
theorem Lane.quiet_reset : (lane.reset todo).Quiet port ↔ port ∉ todo := by
  cases todo with
  | nil => exact iff_of_true trivial List.not_mem_nil
  | cons => rfl

@[simp]
theorem Lane.early_reset : ¬ (lane.reset todo).Early port := by
  cases todo <;> exact id

theorem Lane.pending_clear (vids : List Int) :
    ∀ port ∈ (lane.clear vids).pending, port ∈ lane.roles := by
  cases vids with
  | nil => exact lane.pending_restore
  | cons => exact fun port member => absurd member List.not_mem_nil

@[simp]
theorem Lane.early_clear (vids : List Int) : ¬ (lane.clear vids).Early port := by
  cases vids with
  | nil => exact lane.early_restore port
  | cons => exact id

end Continuations

structure Lane.Kept (lane : Lane) (device : Device) (stage : Stage) : Prop where
  pending : ∀ port ∈ stage.pending, port ∈ lane.roles
  quiet : ∀ port ∈ lane.roles, stage.Quiet port → device.looped port = false
  homed : ∀ m ∈ device.members, m.port ∈ lane.roles → stage.Homed m.port → m.vid ∈ lane.domain
  early : ∀ m ∈ device.members, m.port ∈ lane.roles → stage.Early m.port → m.untagged = true

namespace Lane.Kept

variable {lane : Lane} {device : Device} {stage : Stage}

/-- The commands of a worker with other ports change nothing for the lane. -/
theorem frame (kept : lane.Kept device stage) (granted : Bool) {command : Command}
    (others : ∀ port ∈ command.ports, port ∉ lane.roles) :
    lane.Kept (device.answer granted command).2 stage := by
  have apart : ∀ port ∈ lane.roles, port ∉ command.ports :=
    fun port own handled => others port handled own
  refine ⟨kept.pending, fun port own quiet => ?_, fun m listed own homed => ?_,
    fun m listed own early => ?_⟩
  · rw [device.looped_answer granted (apart port own)]
    exact kept.quiet port own quiet
  · exact kept.homed m ((device.mem_answer granted (apart _ own)).mp listed) own homed
  · exact kept.early m ((device.mem_answer granted (apart _ own)).mp listed) own early

theorem mem_add {granted : Bool} {vid : Int} {port : Text} {untagged : Bool} {m : Member}
    (listed : m ∈ (device.answer granted (.memberAdd vid port untagged)).2.members) :
    m ∈ device.members ∨ m = ⟨vid, port, untagged⟩ := by
  rcases device.answer_cases granted (.memberAdd vid port untagged) with ⟨-, answered⟩ | answered
  · rw [answered] at listed
    exact (List.mem_append.mp listed).imp_right List.mem_singleton.mp
  · rw [answered] at listed
    exact .inl listed

theorem mem_del {granted : Bool} {vid : Int} {port : Text} {m : Member}
    (listed : m ∈ (device.answer granted (.memberDel vid port)).2.members) :
    m ∈ device.members := by
  rcases device.answer_cases granted (.memberDel vid port) with ⟨-, answered⟩ | answered
  · rw [answered] at listed
    exact List.mem_of_mem_filter listed
  · rw [answered] at listed
    exact listed

/-- Commands on VLANs handle no port. -/
theorem vlans (kept : lane.Kept device stage) (granted : Bool) (command : Command)
    (portless : command.ports = []) : lane.Kept (device.answer granted command).2 stage := by
  apply kept.frame
  rw [portless]
  exact fun port none => absurd none List.not_mem_nil

/-- The untagged row of a moved port is the only one it has. -/
theorem moved {port : Text} {todo : List Text} (kept : lane.Kept device (.moving port todo))
    (accepted : device.accepts (.memberAdd lane.topo.defaultVlan port true) = true) :
    lane.Kept (device.exec (.memberAdd lane.topo.defaultVlan port true)) (home todo) := by
  have single : ∀ m ∈ device.members, m.port = port → m.untagged = false := by
    intro m listed same
    have checked := List.all_eq_true.mp (Bool.and_eq_true_iff.mp accepted).2 m listed
    have unlike := (Bool.or_eq_true_iff.mp checked).resolve_left (by simp [same])
    simpa using (Bool.and_eq_true_iff.mp unlike).2
  have mine : port ∈ lane.roles := kept.pending port (List.mem_cons_self ..)
  refine ⟨?_, fun other own _ => kept.quiet other own trivial, fun m listed own homed => ?_,
    fun m listed own early => ?_⟩
  · rw [pending_home]
    exact fun other member => kept.pending other (List.mem_cons_of_mem _ member)
  · rw [homed_home] at homed
    rcases List.mem_append.mp listed with old | new
    · by_cases same : m.port = port
      · have untagged := kept.early m old own (by simp [Stage.Early, same])
        rw [single m old same] at untagged
        cases untagged
      · exact kept.homed m old own (List.not_mem_cons_of_ne_of_not_mem same homed)
    · rw [List.mem_singleton.mp new]
      exact List.mem_cons_self ..
  · rw [early_home] at early
    rcases List.mem_append.mp listed with old | new
    · exact kept.early m old own (List.mem_cons_of_mem _ early)
    · rw [List.mem_singleton.mp new]

theorem session (kept : lane.Kept device stage) (granted : Bool) {command : Command}
    (given : lane.command? stage = some command) :
    lane.Kept (device.answer granted command).2
      (lane.next (device.answer granted command).1 stage) := by
  cases stage with
  | testing | ended | exited => cases given
  | creating =>
      cases given
      have framed := kept.vlans granted (.vlanAdd lane.topo.defaultVlan) rfl
      refine ⟨?_, fun port own _ => framed.quiet port own trivial, fun m _ own homed => ?_,
        fun m listed own _ => framed.early m listed own trivial⟩
      · rw [next, pending_home]
        exact fun port own => own
      · exact absurd own ((homed_home _ _).mp homed)
  | homing port todo =>
      cases given
      refine ⟨kept.pending, fun other own _ => ?_, fun m listed => kept.homed m (mem_del listed),
        fun m listed => kept.early m (mem_del listed)⟩
      rcases device.answer_cases granted (.memberDel lane.topo.baseDefaultVlan port) with
        ⟨-, answered⟩ | answered <;> rw [answered] <;> exact kept.quiet other own trivial
  | moving port todo =>
      cases given
      rcases device.answer_cases granted (.memberAdd lane.topo.defaultVlan port true) with
        ⟨accepted, answered⟩ | answered <;> rw [answered]
      · exact kept.moved accepted
      · exact ⟨fun _ none => absurd none List.not_mem_nil, fun other own _ => kept.quiet other own
          trivial, fun _ _ _ none => none.elim, fun _ _ _ none => none.elim⟩
  | resetting port todo =>
      cases given
      rw [device.answer_loopback]
      refine ⟨kept.pending, fun other own quiet => ?_, fun m listed own _ => ?_,
        fun _ _ _ none => none.elim⟩
      · by_cases same : other = port
        · subst other
          exact Function.update_self ..
        · refine (Function.update_of_ne same _ _).trans ?_
          exact kept.quiet other own (List.not_mem_cons_of_ne_of_not_mem same quiet)
      · exact kept.homed m listed own trivial
  | rehoming port todo =>
      cases given
      refine ⟨?_, fun other own quiet => ?_, fun m listed own _ => ?_, fun m _ _ early => ?_⟩
      · rw [next, pending_reset]
        exact fun other member => kept.pending other (List.mem_cons_of_mem _ member)
      · have off := kept.quiet other own ((quiet_reset ..).mp quiet)
        rcases device.answer_cases granted (.memberAdd lane.topo.defaultVlan port true) with
          ⟨-, answered⟩ | answered <;> rw [answered] <;> exact off
      · rcases mem_add listed with old | rfl
        · exact kept.homed m old own trivial
        · exact List.mem_cons_self ..
      · exact (early_reset _ _ _ early).elim
  | clearing vid todo =>
      cases given
      have framed := kept.vlans granted (.vlanDel vid) rfl
      exact ⟨lane.pending_clear todo, fun port own _ => framed.quiet port own trivial,
        fun m listed own _ => framed.homed m listed own trivial,
        fun m _ _ early => (early_clear _ _ _ early).elim⟩
  | leaving port todo =>
      cases given
      refine ⟨kept.pending, fun other own _ => ?_, fun _ _ _ none => none.elim,
        fun _ _ _ none => none.elim⟩
      rcases device.answer_cases granted (.memberDel lane.topo.defaultVlan port) with
        ⟨-, answered⟩ | answered <;> rw [answered] <;> exact kept.quiet other own trivial
  | rejoining port todo =>
      cases given
      refine ⟨?_, fun other own _ => ?_, fun m _ _ homed => (homed_leave _ _ homed).elim,
        fun m _ _ early => (early_leave _ _ early).elim⟩
      · rw [next, pending_leave]
        exact fun other member => kept.pending other (List.mem_cons_of_mem _ member)
      · rcases device.answer_cases granted (.memberAdd lane.topo.baseDefaultVlan port true) with
          ⟨-, answered⟩ | answered <;> rw [answered] <;> exact kept.quiet other own trivial
  | dropping =>
      cases given
      have framed := kept.vlans granted (.vlanDel lane.topo.defaultVlan) rfl
      exact ⟨fun _ none => absurd none List.not_mem_nil,
        fun port own _ => framed.quiet port own trivial, fun _ _ _ none => none.elim,
        fun _ _ _ none => none.elim⟩

theorem test (kept : lane.Kept device .testing) (granted : Bool) {command : Command}
    (permitted : lane.permits command = true) :
    lane.Kept (device.answer granted command).2 .testing := by
  refine ⟨kept.pending, fun _ _ none => none.elim, fun m listed own _ => ?_,
    fun _ _ _ none => none.elim⟩
  cases command with
  | memberAdd vid port untagged =>
      rcases mem_add listed with old | rfl
      · exact kept.homed m old own trivial
      · exact of_decide_eq_true (Bool.and_eq_true_iff.mp permitted).1
  | memberDel vid port => exact kept.homed m (mem_del listed) own trivial
  | loopback port on =>
      rw [device.answer_loopback] at listed
      exact kept.homed m listed own trivial
  | vlanAdd vid | vlanDel vid =>
      exact (kept.vlans granted _ rfl).homed m listed own trivial

theorem finish (kept : lane.Kept device .testing) :
    lane.Kept device (lane.reset lane.roles) := by
  refine ⟨?_, fun port own quiet => ?_, fun m listed own _ => kept.homed m listed own trivial,
    fun m _ _ early => (early_reset _ _ _ early).elim⟩
  · rw [pending_reset]
    exact fun port own => own
  · exact absurd own ((quiet_reset ..).mp quiet)

end Lane.Kept

/-! ## Runs -/

/-- No worker has ports or VLANs of another one. -/
structure Apart (lanes : Int → Option Lane) : Prop where
  roles : ∀ {w w' lane lane'}, lanes w = some lane → lanes w' = some lane' → w ≠ w' →
    ∀ port ∈ lane.roles, port ∉ lane'.roles
  domain : ∀ {w w' lane lane'}, lanes w = some lane → lanes w' = some lane' → w ≠ w' →
    ∀ vid ∈ lane.domain, vid ∉ lane'.domain

def Kept (lanes : Int → Option Lane) (state : State) : Prop :=
  ∀ w lane, lanes w = some lane → lane.Kept state.device (state.stage w)

theorem Lane.ports_of_command? {lane : Lane} {stage : Stage} {command : Command}
    (given : lane.command? stage = some command) :
    ∀ port ∈ command.ports, port ∈ stage.pending := by
  cases stage with
  | testing | ended | exited => cases given
  | creating | clearing | dropping =>
      cases given
      exact fun port none => absurd none List.not_mem_nil
  | homing | moving | resetting | rehoming | leaving | rejoining =>
      cases given
      rintro port member
      rw [List.mem_singleton.mp member]
      exact List.mem_cons_self ..

theorem Lane.ports_of_permits {lane : Lane} {command : Command}
    (permitted : lane.permits command = true) : ∀ port ∈ command.ports, port ∈ lane.roles := by
  cases command with
  | vlanAdd | vlanDel => exact fun port none => absurd none List.not_mem_nil
  | memberAdd vid own untagged | memberDel vid own =>
      rintro port member
      rw [List.mem_singleton.mp member]
      exact of_decide_eq_true (Bool.and_eq_true_iff.mp permitted).2
  | loopback own on =>
      rintro port member
      rw [List.mem_singleton.mp member]
      exact of_decide_eq_true permitted

theorem Kept.step {lanes : Int → Option Lane} (apart : Apart lanes) {state next : State}
    {action : Action} (kept : Kept lanes state) (whole : ∀ w, action ≠ .cut w)
    (stepped : (workers lanes).step state action = some next) : Kept lanes next := by
  intro other lane' known'
  obtain ⟨w, lane, known, own⟩ := step_cases stepped
  have mine := kept w lane known
  by_cases same : other = w
  · subst same
    cases known.symm.trans known'
    rcases own with ⟨granted, command, -, given, rfl⟩ |
      ⟨granted, command, testing, permitted, rfl⟩ | ⟨-, testing, rfl⟩ | ⟨cut, -⟩
    · rw [State.stage_proceed]
      exact mine.session granted given
    · dsimp only
      rw [testing] at mine ⊢
      exact mine.test granted permitted
    · rw [State.stage_proceed]
      rw [testing] at mine
      exact mine.finish
    · exact absurd cut (whole other)
  · have theirs := kept other lane' known'
    have foreign : ∀ {ports : List Text}, (∀ port ∈ ports, port ∈ lane.roles) →
        ∀ port ∈ ports, port ∉ lane'.roles :=
      fun handled port member =>
        apart.roles known known' (Ne.symm same) port (handled port member)
    rcases own with ⟨granted, command, -, given, rfl⟩ | ⟨granted, command, -, permitted, rfl⟩ |
      ⟨-, -, rfl⟩ | ⟨cut, -⟩
    · rw [State.stage_proceed_of_ne _ same]
      refine theirs.frame granted (foreign fun port member => ?_)
      exact mine.pending port (Lane.ports_of_command? given port member)
    · exact theirs.frame granted (foreign (Lane.ports_of_permits permitted))
    · rw [State.stage_proceed_of_ne _ same]
      exact theirs
    · exact absurd cut (whole w)

/-- Ports of two workers that are both looped share no VLAN. -/
theorem Kept.storm_free {lanes : Int → Option Lane} (apart : Apart lanes) {state : State}
    (kept : Kept lanes state) {w w' : Int} {lane lane' : Lane} (known : lanes w = some lane)
    (known' : lanes w' = some lane') (different : w ≠ w') {m m' : Member}
    (listed : m ∈ state.device.members) (listed' : m' ∈ state.device.members)
    (own : m.port ∈ lane.roles) (own' : m'.port ∈ lane'.roles)
    (looped : state.device.looped m.port = true) (looped' : state.device.looped m'.port = true) :
    m.vid ≠ m'.vid := by
  have homed : ∀ {w : Int} {lane : Lane}, lanes w = some lane → ∀ m ∈ state.device.members,
      m.port ∈ lane.roles → state.device.looped m.port = true → m.vid ∈ lane.domain := by
    intro w lane known m listed own looped
    have keeps := kept w lane known
    refine keeps.homed m listed own (Stage.homed_of_not_quiet fun quiet => ?_)
    rw [keeps.quiet _ own quiet] at looped
    cases looped
  intro same
  apply apart.domain known known' different m.vid (homed known m listed own looped)
  rw [same]
  exact homed known' m' listed' own' looped'

/-! ## The workers of a shipped profile -/

/-- `port_roles` of the defaults: a to h. -/
def roleCount : Nat := 8

/-- The topology of a worker, none where the port block is refused or has too few ports. -/
def lanesOf (profile : Profile) (ports : List Text) (w : Int) : Option Lane :=
  match workerBlock w profile ports with
  | .ok (some block) =>
      if block.length < roleCount then none
      else some
        { wid := w
          topo := Topology.ofProfile w profile
          view := vlanView w profile
          roles := block.take roleCount }
  | _ => none

theorem lanesOf_eq_some {profile : Profile} {ports : List Text} {w : Int} {lane : Lane}
    (known : lanesOf profile ports w = some lane) :
    Admitted profile ports w ∧ ∃ block, lookupBlock w profile.workers = some block ∧
      lane = ⟨w, Topology.ofProfile w profile, vlanView w profile, block.take roleCount⟩ := by
  unfold lanesOf at known
  split at known
  next block granted =>
    split at known
    next => cases known
    next =>
      refine ⟨⟨block, granted⟩, block, ?_, (Option.some.inj known).symm⟩
      unfold workerBlock at granted
      split at granted
      next =>
        split at granted
        next => cases granted
        next found =>
          split at granted
          next => exact (Except.ok.inj granted) ▸ found
          next => cases granted
      next => cases granted
  next => cases known

theorem blocks_apart : ∀ profile ∈ shippedProfiles, ∀ block ∈ lookupBlock 1 profile.workers,
    ∀ block' ∈ lookupBlock 2 profile.workers, ∀ port ∈ block, port ∉ block' := by
  decide

theorem vlanView_two : ∀ profile ∈ shippedProfiles,
    (Topology.ofProfile 2 profile).defaultVlan ∈ vlanView 2 profile ∧
      (Topology.ofProfile 2 profile).baseDefaultVlan ∉ vlanView 2 profile := by
  decide

theorem apart_one_two {profile : Profile} (shipped : profile ∈ shippedProfiles)
    {ports : List Text} {lane lane' : Lane} (known : lanesOf profile ports 1 = some lane)
    (known' : lanesOf profile ports 2 = some lane') :
    (∀ port ∈ lane.roles, port ∉ lane'.roles) ∧ ∀ vid ∈ lane.domain, vid ∉ lane'.domain := by
  obtain ⟨-, block, found, rfl⟩ := lanesOf_eq_some known
  obtain ⟨-, block', found', rfl⟩ := lanesOf_eq_some known'
  obtain ⟨ownVlan, notBase⟩ := vlanView_two profile shipped
  have separate : Separate profile 1 2 :=
    (separate_iff_of_lt shipped (by decide) (by decide) (by decide)).mpr (by decide)
  refine ⟨fun port member member' => ?_, fun vid member member' => ?_⟩
  · exact blocks_apart profile shipped block found block' found' port (List.mem_of_mem_take member)
      (List.mem_of_mem_take member')
  · have inView : vid ∈ vlanView 2 profile := by
      rcases List.mem_cons.mp member' with rfl | inView
      · exact ownVlan
      · exact inView
    rcases List.mem_cons.mp member with rfl | own
    · exact notBase inView
    · exact separate.1 vid own inView

theorem apart_of_shipped {profile : Profile} (shipped : profile ∈ shippedProfiles)
    (ports : List Text) : Apart (lanesOf profile ports) := by
  have ordered : ∀ {w w' lane lane'}, lanesOf profile ports w = some lane →
      lanesOf profile ports w' = some lane' → w ≠ w' → w = 1 ∧ w' = 2 ∨ w = 2 ∧ w' = 1 := by
    intro w w' lane lane' known known' different
    have bounds := (lanesOf_eq_some known).1.le_two shipped
    have bounds' := (lanesOf_eq_some known').1.le_two shipped
    omega
  constructor
  · intro w w' lane lane' known known' different port member member'
    rcases ordered known known' different with ⟨rfl, rfl⟩ | ⟨rfl, rfl⟩
    · exact (apart_one_two shipped known known').1 port member member'
    · exact (apart_one_two shipped known' known).1 port member' member
  · intro w w' lane lane' known known' different vid member member'
    rcases ordered known known' different with ⟨rfl, rfl⟩ | ⟨rfl, rfl⟩
    · exact (apart_one_two shipped known known').2 vid member member'
    · exact (apart_one_two shipped known' known).2 vid member' member

/-- Every session is about to start: loopbacks are off (the global initialisation turns them off),
and a role port is in the default VLAN of the device only, untagged, or in none. -/
structure Begins (lanes : Int → Option Lane) (state : State) : Prop where
  stage : ∀ {w lane}, lanes w = some lane → state.stage w = lane.start
  quiet : ∀ port, state.device.looped port = false
  based : ∀ {w lane}, lanes w = some lane → ∀ m ∈ state.device.members, m.port ∈ lane.roles →
    m.vid = lane.topo.baseDefaultVlan ∧ m.untagged = true

theorem Begins.kept {profile : Profile} {ports : List Text} {state : State}
    (begins : Begins (lanesOf profile ports) state) : Kept (lanesOf profile ports) state := by
  intro w lane known
  have based := begins.based known
  rw [begins.stage known]
  obtain ⟨-, block, -, rfl⟩ := lanesOf_eq_some known
  unfold Lane.start
  split
  next =>
    exact ⟨fun _ none => absurd none List.not_mem_nil, fun port _ _ => begins.quiet port,
      fun _ _ _ none => none.elim, fun m listed own _ => (based m listed own).2⟩
  next serial =>
    refine ⟨fun _ none => absurd none List.not_mem_nil, fun _ _ none => none.elim,
      fun m listed own _ => ?_, fun _ _ _ none => none.elim⟩
    have same : (Topology.ofProfile w profile).defaultVlan =
        (Topology.ofProfile w profile).baseDefaultVlan :=
      if_pos (by dsimp only at serial; omega)
    rw [(based m listed own).1, ← same]
    exact List.mem_cons_self ..

def devicePorts : List Text :=
  (load (some swA128Q)).workers.flatMap Prod.snd

/-- Every port in VLAN 1000. -/
def bothStart : State where
  device :=
    { vlans := [1000]
      members := devicePorts.map fun port => ⟨1000, port, true⟩
      looped := fun _ => false }
  stage := fun w => if w = 2 then .creating else .testing

def bothLanes : Int → Option Lane :=
  lanesOf (load (some swA128Q)) devicePorts

theorem shipped_swA128Q : load (some swA128Q) ∈ shippedProfiles :=
  List.mem_cons_of_mem _ (List.mem_cons_self ..)

/-- Worker 2 moves its ports, and both workers turn a loopback on. -/
def bothRun : List Action :=
  List.replicate 17 (.session 2 true) ++
    [.test 1 true (.loopback "Ethernet1".toList true),
      .test 2 true (.loopback "Ethernet9".toList true)]

theorem bothStart_begins : Begins bothLanes bothStart := by
  refine ⟨fun {w lane} known => ?_, fun port => rfl, fun {w lane} known m listed _ => ?_⟩
  · have bounds := (lanesOf_eq_some known).1.le_two shipped_swA128Q
    obtain ⟨-, block, -, rfl⟩ := lanesOf_eq_some known
    obtain rfl | rfl : w = 1 ∨ w = 2 := by omega
    · rfl
    · rfl
  · obtain ⟨-, block, -, rfl⟩ := lanesOf_eq_some known
    obtain ⟨port, -, rfl⟩ := List.mem_map.mp listed
    exact ⟨rfl, rfl⟩

theorem bothRun_isSome : ((workers bothLanes).run bothStart bothRun).isSome = true := by
  decide

/-- A port of each worker, in the VLAN the run leaves it in. -/
def portOne : Member :=
  ⟨1000, "Ethernet1".toList, true⟩

def portNine : Member :=
  ⟨1430, "Ethernet9".toList, true⟩

def bothLast : State :=
  ((workers bothLanes).run bothStart bothRun).get bothRun_isSome

end OnboxFvt.Worker
