import OnboxFvt.Library.LastRecord
import OnboxFvt.Library.PointwiseFold
import OnboxFvt.Topo.Hairpin
import OnboxFvt.Worker.Vlans

/-!
# Tearing the hairpin down

`teardown` puts both PVIDs to the default VLAN of the profile, which is the worker's
only for worker 1 and in single-process mode, turns both loopbacks off, whatever they
were before, and removes the last static FDB entry and the last chip L2 entry.
-/

namespace OnboxFvt.Topo

open Python
open Library (entered undoLast Undone)
open Worker (Profile Topology)

variable {Port Mac : Type} [DecidableEq Port] [Fintype Port]

/-! ## What the commands leave alone -/

namespace Device

/-- What no `config` command changes. -/
structure Kept (first second : Device Port Mac) : Prop where
  pvid : second.pvid = first.pvid
  loopback : second.loopback = first.loopback
  fdb : second.fdb = first.fdb
  l2 : second.l2 = first.l2
  chipMembers : second.chipMembers = first.chipMembers

omit [DecidableEq Port] [Fintype Port] in
theorem Kept.trans {first second third : Device Port Mac} (before : Kept first second)
    (after : Kept second third) : Kept first third where
  pvid := after.pvid.trans before.pvid
  loopback := after.loopback.trans before.loopback
  fdb := after.fdb.trans before.fdb
  l2 := after.l2.trans before.l2
  chipMembers := after.chipMembers.trans before.chipMembers

theorem kept_config (device : Device Port Mac) (command : Command Port) :
    Kept device (device.config command) := by
  cases command with
  | vlanAdd vid => constructor <;> rfl
  | vlanDel vid =>
      simp only [config]
      split <;> constructor <;> rfl
  | memberAdd vid port =>
      simp only [config]
      split <;> constructor <;> rfl
  | memberDel vid port =>
      simp only [config]
      split <;> constructor <;> rfl
  | ipAdd vid ip => constructor <;> rfl
  | ipRemove vid ip => constructor <;> rfl

theorem kept_foldl_config (commands : List (Command Port)) (device : Device Port Mac) :
    Kept device (commands.foldl (fun device command => device.config command) device) := by
  induction commands generalizing device with
  | nil => constructor <;> rfl
  | cons command rest inductionHypothesis =>
      exact (device.kept_config command).trans (inductionHypothesis (device.config command))

end Device

namespace Hairpin

variable (hairpin : Hairpin Port)

omit [DecidableEq Port] [Fintype Port] in
theorem mem_ports {hairpin : Hairpin Port} {port : Port} :
    port ∈ hairpin.ports ↔ port = hairpin.pIn ∨ port = hairpin.pOut := by
  simp [ports]

/-! ## Set-up and undo -/

def setupCommands : List (Command Port) :=
  [.vlanAdd hairpin.vlanA, .memberDel hairpin.defaultVlan hairpin.pIn,
    .memberAdd hairpin.vlanA hairpin.pIn, .memberDel hairpin.defaultVlan hairpin.pOut,
    .memberAdd hairpin.vlanA hairpin.pOut, .vlanAdd hairpin.vlanB] ++
      hairpin.sviIp.toList.map (.ipAdd hairpin.vlanB)

def undoCommands : List (Command Port) :=
  [.vlanDel hairpin.vlanA, .memberAdd hairpin.defaultVlan hairpin.pIn,
    .memberDel hairpin.vlanA hairpin.pIn, .memberAdd hairpin.defaultVlan hairpin.pOut,
    .memberDel hairpin.vlanA hairpin.pOut, .vlanDel hairpin.vlanB] ++
      hairpin.sviIp.toList.map (.ipRemove hairpin.vlanB)

theorem setup_eq (device : Device Port Mac) :
    hairpin.setup device =
      { device := hairpin.ports.foldl
          (fun device port => device.setLoopback port (some hairpin.mode))
          (hairpin.setupCommands.foldl (fun device command => device.config command)
            (hairpin.resetPvid device))
        undo := hairpin.undoCommands
        undoFdb := none
        undoL2cpu := none } := by
  unfold setup setupCommands undoCommands
  cases hairpin.sviIp with
  | none => rfl
  | some ip => rfl

omit [Fintype Port] in
theorem resetPvid_pvid (device : Device Port Mac) :
    (hairpin.resetPvid device).pvid =
      Function.update (Function.update device.pvid hairpin.pIn hairpin.defaultVlan) hairpin.pOut
        hairpin.defaultVlan :=
  rfl

/-! ## The memberships -/

/-- Both ports are untagged members of the worker's default VLAN, with that PVID, and VLANs A
and B do not exist; only existing VLANs have members and addresses. -/
structure Start (w : Int) (device : Device Port Mac) : Prop where
  members : ∀ port ∈ hairpin.ports,
    device.untagged port = some (Topology.ofProfile w hairpin.profile).defaultVlan
  pvids : ∀ port ∈ hairpin.ports,
    device.pvid port = (Topology.ofProfile w hairpin.profile).defaultVlan
  absentA : hairpin.vlanA ∉ device.vlans
  absentB : hairpin.vlanB ∉ device.vlans
  existing : ∀ port vid, device.untagged port = some vid → vid ∈ device.vlans
  addressed : ∀ address ∈ device.addresses, address.1 ∈ device.vlans
  chipAbsentB : ∀ member ∈ device.chipMembers, member.1 ≠ hairpin.vlanB

variable {hairpin} {w : Int} {device : Device Port Mac}

/-- The memberships while the hairpin is up. -/
structure Configured (device state : Device Port Mac) : Prop where
  vlans : state.vlans = insert hairpin.vlanB (insert hairpin.vlanA device.vlans)
  untagged : state.untagged = Function.update
    (Function.update device.untagged hairpin.pIn (some hairpin.vlanA)) hairpin.pOut
      (some hairpin.vlanA)
  addresses : state.addresses =
    device.addresses ∪ (hairpin.sviIp.toList.map (hairpin.vlanB, ·)).toFinset

/-- The hairpin's default VLAN is the one its ports are members of. -/
structure Homed (device : Device Port Mac) : Prop where
  pIn : device.untagged hairpin.pIn = some hairpin.defaultVlan
  pOut : device.untagged hairpin.pOut = some hairpin.defaultVlan

theorem configured_setupCommands (homed : hairpin.Homed device) :
    hairpin.Configured device
      (hairpin.setupCommands.foldl (fun device command => device.config command) device) := by
  have apart := hairpin.distinct
  have apart' := hairpin.distinct.symm
  unfold setupCommands
  cases svi : hairpin.sviIp with
  | none =>
      constructor
      · simp [Device.config, homed.pIn, homed.pOut, apart']
      · simp [Device.config, homed.pIn, homed.pOut, apart', Function.update_idem]
      · simp [Device.config, homed.pIn, homed.pOut, apart', svi]
  | some ip =>
      constructor
      · simp [Device.config, homed.pIn, homed.pOut, apart']
      · simp [Device.config, homed.pIn, homed.pOut, apart', Function.update_idem]
      · simp [Device.config, homed.pIn, homed.pOut, apart', svi]

/-- Undoing brings the memberships back. -/
structure Unconfigured (device state : Device Port Mac) : Prop where
  vlans : state.vlans = device.vlans
  untagged : state.untagged = device.untagged
  addresses : state.addresses = device.addresses

theorem foldl_config_append (first second : List (Command Port)) (device : Device Port Mac) :
    (first ++ second).foldl (fun device command => device.config command) device =
      second.foldl (fun device command => device.config command)
        (first.foldl (fun device command => device.config command) device) :=
  List.foldl_append

theorem config_memberMove (device : Device Port Mac) {port : Port} {source target : Int}
    (member : device.untagged port = some source) (existing : target ∈ device.vlans) :
    (device.config (.memberDel source port)).config (.memberAdd target port) =
      { device with untagged := Function.update device.untagged port (some target) } := by
  simp [Device.config, member, existing]

theorem config_vlanDel {device : Device Port Mac} {vid : Int} (idle : device.Idle vid) :
    device.config (.vlanDel vid) = { device with vlans := device.vlans.erase vid } := by
  simp [Device.config, idle]

theorem clear_address {state : Device Port Mac} (start : hairpin.Start w device)
    (configured : hairpin.Configured device state) :
    (hairpin.sviIp.toList.map (.ipRemove hairpin.vlanB)).foldl
        (fun device command => device.config command) state =
      { state with addresses := device.addresses } := by
  have absent : ∀ ip, (hairpin.vlanB, ip) ∉ device.addresses := fun ip member =>
    start.absentB (start.addressed _ member)
  have addresses := configured.addresses
  cases svi : hairpin.sviIp with
  | none =>
      rw [svi] at addresses
      simp only [Option.toList_none, List.map_nil, List.toFinset_nil, Finset.union_empty]
        at addresses
      rw [← addresses]
      rfl
  | some ip =>
      rw [svi] at addresses
      simp [Device.config, addresses, absent]

omit [DecidableEq Port] [Fintype Port] in
theorem Start.unaddressed (start : hairpin.Start w device) {vid : Int}
    (absent : vid ∉ device.vlans) : ∀ address ∈ device.addresses, address.1 ≠ vid := by
  intro address member same
  apply absent
  rw [← same]
  exact start.addressed address member

omit [Fintype Port] in
/-- The memberships once both ports are home. -/
theorem Homed.back (homed : hairpin.Homed device) {untagged : Port → Option Int}
    (moved : untagged = Function.update
      (Function.update device.untagged hairpin.pIn (some hairpin.vlanA)) hairpin.pOut
        (some hairpin.vlanA)) :
    Function.update (Function.update untagged hairpin.pOut (some hairpin.defaultVlan)) hairpin.pIn
      (some hairpin.defaultVlan) = device.untagged := by
  funext port
  rw [moved, Function.update_idem]
  by_cases first : port = hairpin.pIn
  · rw [first, Function.update_self, homed.pIn]
  · rw [Function.update_of_ne first]
    by_cases second : port = hairpin.pOut
    · rw [second, Function.update_self, homed.pOut]
    · rw [Function.update_of_ne second, Function.update_of_ne first]

/-- VLAN B is idle while the hairpin is up. -/
theorem Start.idle_vlanB {state : Device Port Mac} (start : hairpin.Start w device)
    (moved : state.untagged = Function.update
      (Function.update device.untagged hairpin.pIn (some hairpin.vlanA)) hairpin.pOut
        (some hairpin.vlanA))
    (cleared : state.addresses = device.addresses) : state.Idle hairpin.vlanB := by
  constructor
  · intro port member
    rw [moved] at member
    by_cases second : port = hairpin.pOut
    · rw [second, Function.update_self] at member
      exact hairpin.asymmetric (Option.some.inj member)
    · rw [Function.update_of_ne second] at member
      by_cases first : port = hairpin.pIn
      · rw [first, Function.update_self] at member
        exact hairpin.asymmetric (Option.some.inj member)
      · rw [Function.update_of_ne first] at member
        exact start.absentB (start.existing port _ member)
  · rw [cleared]
    exact start.unaddressed start.absentB

omit [DecidableEq Port] in
/-- VLAN A is idle once its ports are home. -/
theorem Start.idle_vlanA {state : Device Port Mac} (start : hairpin.Start w device)
    (untagged : state.untagged = device.untagged)
    (cleared : state.addresses = device.addresses) : state.Idle hairpin.vlanA := by
  constructor
  · intro port member
    rw [untagged] at member
    exact start.absentA (start.existing port _ member)
  · rw [cleared]
    exact start.unaddressed start.absentA

theorem undo_memberships {state : Device Port Mac} (start : hairpin.Start w device)
    (homed : hairpin.Homed device)
    (vlans : state.vlans = insert hairpin.vlanB (insert hairpin.vlanA device.vlans))
    (untagged : state.untagged = Function.update
      (Function.update device.untagged hairpin.pIn (some hairpin.vlanA)) hairpin.pOut
        (some hairpin.vlanA))
    (cleared : state.addresses = device.addresses) :
    Unconfigured device
      ([.vlanDel hairpin.vlanB, .memberDel hairpin.vlanA hairpin.pOut,
          .memberAdd hairpin.defaultVlan hairpin.pOut, .memberDel hairpin.vlanA hairpin.pIn,
          .memberAdd hairpin.defaultVlan hairpin.pIn, .vlanDel hairpin.vlanA].foldl
        (fun device command => device.config command) state) := by
  have distinct := hairpin.distinct
  have home : hairpin.defaultVlan ∈ device.vlans := start.existing _ _ homed.pIn
  have notB : hairpin.defaultVlan ≠ hairpin.vlanB := fun same => start.absentB (same ▸ home)
  have kept : hairpin.defaultVlan ∈ state.vlans.erase hairpin.vlanB := by
    rw [vlans]
    exact Finset.mem_erase.mpr ⟨notB, by simp [home]⟩
  have memberOut : state.untagged hairpin.pOut = some hairpin.vlanA := by
    rw [untagged, Function.update_self]
  have memberIn : Function.update state.untagged hairpin.pOut (some hairpin.defaultVlan)
      hairpin.pIn = some hairpin.vlanA := by
    rw [Function.update_of_ne distinct, untagged, Function.update_of_ne distinct,
      Function.update_self]
  have back := homed.back untagged
  simp only [List.foldl_cons, List.foldl_nil]
  rw [config_vlanDel (start.idle_vlanB untagged cleared),
    config_memberMove { state with vlans := state.vlans.erase hairpin.vlanB } memberOut kept,
    config_memberMove
      { state with
        vlans := state.vlans.erase hairpin.vlanB
        untagged := Function.update state.untagged hairpin.pOut (some hairpin.defaultVlan) }
      memberIn kept,
    config_vlanDel]
  · constructor
    · change (state.vlans.erase hairpin.vlanB).erase hairpin.vlanA = device.vlans
      rw [vlans, Finset.erase_insert, Finset.erase_insert start.absentA]
      simp [start.absentB, hairpin.asymmetric.symm]
    · exact back
    · exact cleared
  · exact start.idle_vlanA back cleared

theorem unconfigured_undoCommands {state : Device Port Mac} (start : hairpin.Start w device)
    (homed : hairpin.Homed device) (configured : hairpin.Configured device state) :
    Unconfigured device
      (hairpin.undoCommands.reverse.foldl (fun device command => device.config command) state) := by
  have order : hairpin.undoCommands.reverse =
      hairpin.sviIp.toList.map (.ipRemove hairpin.vlanB) ++
        [.vlanDel hairpin.vlanB, .memberDel hairpin.vlanA hairpin.pOut,
          .memberAdd hairpin.defaultVlan hairpin.pOut, .memberDel hairpin.vlanA hairpin.pIn,
          .memberAdd hairpin.defaultVlan hairpin.pIn, .vlanDel hairpin.vlanA] := by
    unfold undoCommands
    cases hairpin.sviIp with
    | none => rfl
    | some ip => rfl
  rw [order, foldl_config_append, clear_address start configured]
  exact undo_memberships start homed configured.vlans configured.untagged rfl

/-! ## The calls -/

section Calls

variable {Port Mac : Type} (hairpin : Hairpin Port)

def fdbKeys (calls : List (Call Mac)) : List (Int × Mac) :=
  calls.filterMap fun
    | .fdbToOut mac => some (hairpin.vlanA, mac)
    | _ => none

def l2Keys (calls : List (Call Mac)) : List (Mac × Int) :=
  calls.filterMap fun
    | .puntBToCpu mac => some (mac, hairpin.vlanB)
    | _ => none

theorem mem_l2Keys {calls : List (Call Mac)} {key : Mac × Int}
    (among : key ∈ hairpin.l2Keys calls) : key.2 = hairpin.vlanB := by
  unfold l2Keys at among
  rw [List.mem_filterMap] at among
  obtain ⟨call, -, found⟩ := among
  cases call with
  | arm => cases found
  | fdbToOut mac => cases found
  | puntBToCpu mac =>
      cases found
      rfl

variable [DecidableEq Port] [DecidableEq Mac]

/-- The members the punt adds to VLAN B on the chip. -/
def capture : Finset (Int × ChipPort Port) :=
  ([.port hairpin.pOut, .cpu0].map (hairpin.vlanB, ·)).toFinset

/-- The state the calls have led to. -/
structure Called (start : HairpinState Port Mac) (calls : List (Call Mac))
    (state : HairpinState Port Mac) : Prop where
  vlans : state.device.vlans = start.device.vlans
  untagged : state.device.untagged = start.device.untagged
  addresses : state.device.addresses = start.device.addresses
  loopback : state.device.loopback = start.device.loopback
  pvid : ∀ port ∉ hairpin.ports, state.device.pvid port = start.device.pvid port
  fdb : state.device.fdb = entered start.device.fdb hairpin.pOut (hairpin.fdbKeys calls)
  l2 : state.device.l2 = entered start.device.l2 .cpu0 (hairpin.l2Keys calls)
  chipMembers : state.device.chipMembers =
    if hairpin.l2Keys calls = [] then start.device.chipMembers
    else start.device.chipMembers ∪ hairpin.capture
  undo : state.undo = start.undo
  undoFdb : state.undoFdb = (hairpin.fdbKeys calls).getLast?
  undoL2cpu : state.undoL2cpu = (hairpin.l2Keys calls).getLast?

variable {hairpin} {start state : HairpinState Port Mac} {calls : List (Call Mac)}

theorem Called.arm (called : hairpin.Called start calls state) :
    hairpin.Called start (calls ++ [.arm]) (hairpin.call state .arm) := by
  have fdbKeys : hairpin.fdbKeys (calls ++ [.arm]) = hairpin.fdbKeys calls := by simp [fdbKeys]
  have l2Keys : hairpin.l2Keys (calls ++ [.arm]) = hairpin.l2Keys calls := by simp [l2Keys]
  refine { called with
    pvid := ?_, fdb := ?_, l2 := ?_, chipMembers := ?_, undoFdb := ?_, undoL2cpu := ?_ }
  · intro port other
    rw [← called.pvid port other]
    rw [mem_ports, not_or] at other
    simp [Hairpin.call, Device.pvlanSet, other]
  · rw [fdbKeys]
    exact called.fdb
  · rw [l2Keys]
    exact called.l2
  · rw [l2Keys]
    exact called.chipMembers
  · rw [fdbKeys]
    exact called.undoFdb
  · rw [l2Keys]
    exact called.undoL2cpu

theorem Called.fdbToOut (called : hairpin.Called start calls state) (mac : Mac) :
    hairpin.Called start (calls ++ [.fdbToOut mac]) (hairpin.call state (.fdbToOut mac)) := by
  have fdbKeys : hairpin.fdbKeys (calls ++ [.fdbToOut mac]) =
      hairpin.fdbKeys calls ++ [(hairpin.vlanA, mac)] := by
    simp [fdbKeys]
  have l2Keys : hairpin.l2Keys (calls ++ [.fdbToOut mac]) = hairpin.l2Keys calls := by
    simp [l2Keys]
  refine { called with
    fdb := ?_, l2 := ?_, chipMembers := ?_, undoFdb := ?_, undoL2cpu := ?_ }
  · rw [fdbKeys, Library.entered_concat, ← called.fdb]
    rfl
  · rw [l2Keys]
    exact called.l2
  · rw [l2Keys]
    exact called.chipMembers
  · rw [fdbKeys, List.getLast?_concat]
    rfl
  · rw [l2Keys]
    exact called.undoL2cpu

theorem Called.puntBToCpu (called : hairpin.Called start calls state) (mac : Mac) :
    hairpin.Called start (calls ++ [.puntBToCpu mac]) (hairpin.call state (.puntBToCpu mac)) := by
  have fdbKeys : hairpin.fdbKeys (calls ++ [.puntBToCpu mac]) = hairpin.fdbKeys calls := by
    simp [fdbKeys]
  have l2Keys : hairpin.l2Keys (calls ++ [.puntBToCpu mac]) =
      hairpin.l2Keys calls ++ [(mac, hairpin.vlanB)] := by
    simp [l2Keys]
  refine { called with
    fdb := ?_, l2 := ?_, chipMembers := ?_, undoFdb := ?_, undoL2cpu := ?_ }
  · rw [fdbKeys]
    exact called.fdb
  · rw [l2Keys, Library.entered_concat, ← called.l2]
    rfl
  · rw [l2Keys, if_neg (by simp)]
    change state.device.chipMembers ∪ _ = _
    rw [called.chipMembers]
    split
    · rfl
    · rw [Finset.union_assoc]
      exact congrArg _ (Finset.union_self hairpin.capture)
  · rw [fdbKeys]
    exact called.undoFdb
  · rw [l2Keys, List.getLast?_concat]
    rfl

theorem Called.call (called : hairpin.Called start calls state) (next : Call Mac) :
    hairpin.Called start (calls ++ [next]) (hairpin.call state next) := by
  cases next with
  | arm => exact called.arm
  | fdbToOut mac => exact called.fdbToOut mac
  | puntBToCpu mac => exact called.puntBToCpu mac

theorem called_foldl (calls : List (Call Mac)) {start : HairpinState Port Mac}
    (fdb : start.undoFdb = none) (l2 : start.undoL2cpu = none) :
    hairpin.Called start calls (calls.foldl hairpin.call start) := by
  induction calls using List.reverseRecOn with
  | nil => constructor <;> first | rfl | assumption | exact fun _ _ => rfl
  | append_singleton others last inductionHypothesis =>
      rw [List.foldl_append]
      exact inductionHypothesis.call last

end Calls

/-! ## A whole use of the hairpin -/

variable [DecidableEq Mac] (hairpin)

/-- The first part of `teardown`. -/
def dropL2cpu (state : HairpinState Port Mac) : Device Port Mac :=
  match state.undoL2cpu with
  | some key => (state.device.setL2 key none).chipRemove key.2 [.port hairpin.pOut, .cpu0]
  | none => state.device

/-- The second part of `teardown`. -/
def dropFdb (record : Option (Int × Mac)) (device : Device Port Mac) : Device Port Mac :=
  match record with
  | some key => device.setFdb key none
  | none => device

omit [Fintype Port] [DecidableEq Port] in
theorem dropFdb_entries (record : Option (Int × Mac)) (device : Device Port Mac) :
    ∃ fdb, dropFdb record device = { device with fdb := fdb } := by
  cases record with
  | none => exact ⟨device.fdb, rfl⟩
  | some key => exact ⟨Function.update device.fdb key none, rfl⟩

omit [Fintype Port] in
theorem dropL2cpu_chip (state : HairpinState Port Mac) :
    ∃ l2 chipMembers, hairpin.dropL2cpu state =
      { state.device with l2 := l2, chipMembers := chipMembers } := by
  unfold dropL2cpu
  cases state.undoL2cpu with
  | none => exact ⟨state.device.l2, state.device.chipMembers, rfl⟩
  | some key => exact ⟨_, _, rfl⟩

/-- The third part of `teardown`. -/
def resetPorts (device : Device Port Mac) : Device Port Mac :=
  hairpin.ports.foldl (fun device port => device.setLoopback port none) (hairpin.resetPvid device)

theorem teardown_device (state : HairpinState Port Mac) :
    (hairpin.teardown state).device =
      state.undo.reverse.foldl (fun device command => device.config command)
        (hairpin.resetPorts (dropFdb state.undoFdb (hairpin.dropL2cpu state))) :=
  rfl

/-- Only the memberships are left to undo. -/
structure Reset (start device : Device Port Mac) : Prop where
  vlans : device.vlans = start.vlans
  untagged : device.untagged = start.untagged
  addresses : device.addresses = start.addresses
  fdb : device.fdb = start.fdb
  l2 : device.l2 = start.l2
  chipMembers : device.chipMembers = start.chipMembers
  pvid : ∀ port,
    device.pvid port = if port ∈ hairpin.ports then hairpin.defaultVlan else start.pvid port
  loopback : ∀ port,
    device.loopback port = if port ∈ hairpin.ports then none else start.loopback port

omit [Fintype Port] [DecidableEq Mac] in
theorem reset_resetPorts (device : Device Port Mac) :
    hairpin.Reset device (hairpin.resetPorts device) where
  vlans := rfl
  untagged := rfl
  addresses := rfl
  fdb := rfl
  l2 := rfl
  chipMembers := rfl
  pvid port := by
    change (hairpin.resetPvid device).pvid port = _
    rw [resetPvid_pvid]
    simp only [mem_ports]
    by_cases second : port = hairpin.pOut
    · rw [second, Function.update_self, if_pos (Or.inr rfl)]
    · rw [Function.update_of_ne second, Function.update_apply]
      simp [second]
  loopback port := by
    change Function.update (Function.update device.loopback hairpin.pIn none) hairpin.pOut none
      port = _
    simp only [mem_ports]
    by_cases second : port = hairpin.pOut
    · rw [second, Function.update_self, if_pos (Or.inr rfl)]
    · rw [Function.update_of_ne second, Function.update_apply]
      simp [second]

/-- What the undo records of the calls leave behind. -/
structure Dropped (calls : List (Call Mac)) (start dropped : Device Port Mac) : Prop where
  vlans : dropped.vlans = start.vlans
  untagged : dropped.untagged = start.untagged
  addresses : dropped.addresses = start.addresses
  pvid : ∀ port ∉ hairpin.ports, dropped.pvid port = start.pvid port
  loopback : dropped.loopback = start.loopback
  fdb : dropped.fdb =
    undoLast (entered start.fdb hairpin.pOut (hairpin.fdbKeys calls)) (hairpin.fdbKeys calls)
  l2 : dropped.l2 =
    undoLast (entered start.l2 .cpu0 (hairpin.l2Keys calls)) (hairpin.l2Keys calls)
  chipMembers : dropped.chipMembers =
    if hairpin.l2Keys calls = [] then start.chipMembers else start.chipMembers \ hairpin.capture

section Dropped

variable {hairpin} {start state : HairpinState Port Mac} {calls : List (Call Mac)}

omit [Fintype Port] in
theorem Called.dropL2cpu_l2 (called : hairpin.Called start calls state) :
    (hairpin.dropL2cpu state).l2 =
      undoLast (entered start.device.l2 .cpu0 (hairpin.l2Keys calls)) (hairpin.l2Keys calls) := by
  unfold dropL2cpu undoLast
  rw [← called.undoL2cpu, ← called.l2]
  cases state.undoL2cpu with
  | none => rfl
  | some key => rfl

omit [Fintype Port] in
theorem Called.dropL2cpu_chipMembers (called : hairpin.Called start calls state) :
    (hairpin.dropL2cpu state).chipMembers =
      if hairpin.l2Keys calls = [] then start.device.chipMembers
      else start.device.chipMembers \ hairpin.capture := by
  unfold dropL2cpu
  rw [called.undoL2cpu]
  cases last : (hairpin.l2Keys calls).getLast? with
  | none =>
      rw [if_pos (List.getLast?_eq_none_iff.mp last)]
      simp [called.chipMembers, List.getLast?_eq_none_iff.mp last]
  | some key =>
      have punted : hairpin.l2Keys calls ≠ [] := by
        intro none
        simp [none] at last
      have vlan : key.2 = hairpin.vlanB := hairpin.mem_l2Keys (List.mem_of_getLast? last)
      rw [if_neg punted]
      change state.device.chipMembers \ _ = _
      rw [called.chipMembers, if_neg punted, vlan]
      exact Finset.union_sdiff_right start.device.chipMembers hairpin.capture

omit [Fintype Port] in
theorem Called.dropFdb_fdb (called : hairpin.Called start calls state)
    {device : Device Port Mac} (kept : device.fdb = state.device.fdb) :
    (dropFdb state.undoFdb device).fdb =
      undoLast (entered start.device.fdb hairpin.pOut (hairpin.fdbKeys calls))
        (hairpin.fdbKeys calls) := by
  unfold dropFdb undoLast
  rw [← called.undoFdb, ← called.fdb, ← kept]
  cases state.undoFdb with
  | none => rfl
  | some key => rfl

omit [Fintype Port] in
theorem dropped (called : hairpin.Called start calls state) :
    hairpin.Dropped calls start.device (dropFdb state.undoFdb (hairpin.dropL2cpu state)) := by
  have afterL2 := called.dropL2cpu_l2
  have afterChip := called.dropL2cpu_chipMembers
  obtain ⟨l2, chipMembers, chip⟩ := hairpin.dropL2cpu_chip state
  rw [chip] at afterL2 afterChip ⊢
  have afterFdb := called.dropFdb_fdb
    (show { state.device with l2 := l2, chipMembers := chipMembers }.fdb = _ from rfl)
  obtain ⟨fdb, entries⟩ := dropFdb_entries state.undoFdb
    { state.device with l2 := l2, chipMembers := chipMembers }
  rw [entries] at afterFdb ⊢
  constructor
  · exact called.vlans
  · exact called.untagged
  · exact called.addresses
  · exact called.pvid
  · exact called.loopback
  · exact afterFdb
  · exact afterL2
  · exact afterChip

end Dropped

/-! ## A whole use -/

/-- What `setup` leaves alone apart from the memberships. -/
structure Raised (before after : Device Port Mac) : Prop where
  pvid : ∀ port ∉ hairpin.ports, after.pvid port = before.pvid port
  loopback : ∀ port ∉ hairpin.ports, after.loopback port = before.loopback port
  fdb : after.fdb = before.fdb
  l2 : after.l2 = before.l2
  chipMembers : after.chipMembers = before.chipMembers

omit [DecidableEq Mac] in
theorem raised_setup (device : Device Port Mac) :
    hairpin.Raised device (hairpin.setup device).device := by
  have kept := Device.kept_foldl_config hairpin.setupCommands (hairpin.resetPvid device)
  rw [setup_eq]
  generalize hairpin.setupCommands.foldl (fun device command => device.config command)
    (hairpin.resetPvid device) = configured at kept
  constructor
  · intro port other
    rw [mem_ports, not_or] at other
    refine (congrFun kept.pvid port).trans ?_
    rw [resetPvid_pvid, Function.update_of_ne other.2, Function.update_of_ne other.1]
  · intro port other
    rw [mem_ports, not_or] at other
    refine Eq.trans ?_ (congrFun kept.loopback port)
    simp [ports, Device.setLoopback, other]
  · exact kept.fdb
  · exact kept.l2
  · exact kept.chipMembers

/-- The device when `teardown` comes to the recorded commands. -/
def unwound (calls : List (Call Mac)) (device : Device Port Mac) : Device Port Mac :=
  let state := calls.foldl hairpin.call (hairpin.setup device)
  hairpin.resetPorts (dropFdb state.undoFdb (hairpin.dropL2cpu state))

structure Unwound (calls : List (Call Mac)) (before after : Device Port Mac) : Prop where
  vlans : after.vlans = (hairpin.setup before).device.vlans
  untagged : after.untagged = (hairpin.setup before).device.untagged
  addresses : after.addresses = (hairpin.setup before).device.addresses
  pvid : ∀ port,
    after.pvid port = if port ∈ hairpin.ports then hairpin.defaultVlan else before.pvid port
  loopback : ∀ port,
    after.loopback port = if port ∈ hairpin.ports then none else before.loopback port
  fdb : after.fdb =
    undoLast (entered before.fdb hairpin.pOut (hairpin.fdbKeys calls)) (hairpin.fdbKeys calls)
  l2 : after.l2 =
    undoLast (entered before.l2 .cpu0 (hairpin.l2Keys calls)) (hairpin.l2Keys calls)
  chipMembers : after.chipMembers =
    if hairpin.l2Keys calls = [] then before.chipMembers else before.chipMembers \ hairpin.capture

theorem called_setup (calls : List (Call Mac)) (device : Device Port Mac) :
    hairpin.Called (hairpin.setup device) calls
      (calls.foldl hairpin.call (hairpin.setup device)) := by
  apply called_foldl
  · rw [setup_eq]
  · rw [setup_eq]

theorem unwound_unwound (calls : List (Call Mac)) (device : Device Port Mac) :
    hairpin.Unwound calls device (hairpin.unwound calls device) := by
  have raised := hairpin.raised_setup device
  have dropped := dropped (hairpin.called_setup calls device)
  have reset := hairpin.reset_resetPorts (dropFdb
    (calls.foldl hairpin.call (hairpin.setup device)).undoFdb
    (hairpin.dropL2cpu (calls.foldl hairpin.call (hairpin.setup device))))
  unfold unwound
  constructor
  · rw [reset.vlans, dropped.vlans]
  · rw [reset.untagged, dropped.untagged]
  · rw [reset.addresses, dropped.addresses]
  · intro port
    rw [reset.pvid]
    split
    · rfl
    · next other => rw [dropped.pvid port other, raised.pvid port other]
  · intro port
    rw [reset.loopback]
    split
    · rfl
    · next other => rw [dropped.loopback, raised.loopback port other]
  · rw [reset.fdb, dropped.fdb, raised.fdb]
  · rw [reset.l2, dropped.l2, raised.l2]
  · rw [reset.chipMembers, dropped.chipMembers, raised.chipMembers]

theorem run_eq (calls : List (Call Mac)) (device : Device Port Mac) :
    hairpin.run calls device =
      hairpin.undoCommands.reverse.foldl (fun device command => device.config command)
        (hairpin.unwound calls device) := by
  have undo : (calls.foldl hairpin.call (hairpin.setup device)).undo = hairpin.undoCommands := by
    rw [(hairpin.called_setup calls device).undo, setup_eq]
  unfold run
  rw [teardown_device, undo]
  rfl

variable {hairpin}

omit [DecidableEq Mac] in
theorem configured_setup (homed : hairpin.Homed device) :
    hairpin.Configured device (hairpin.setup device).device := by
  have reset : hairpin.Homed (hairpin.resetPvid device) := ⟨homed.pIn, homed.pOut⟩
  have configured := configured_setupCommands reset
  rw [setup_eq]
  generalize hairpin.setupCommands.foldl (fun device command => device.config command)
    (hairpin.resetPvid device) = state at configured
  exact ⟨configured.vlans, configured.untagged, configured.addresses⟩

theorem unconfigured_run (calls : List (Call Mac)) (start : hairpin.Start w device)
    (homed : hairpin.Homed device) : Unconfigured device (hairpin.run calls device) := by
  have unwound := hairpin.unwound_unwound calls device
  have configured := configured_setup homed
  rw [run_eq]
  apply unconfigured_undoCommands start homed
  constructor
  · rw [unwound.vlans, configured.vlans]
  · rw [unwound.untagged, configured.untagged]
  · rw [unwound.addresses, configured.addresses]

/-! ## What is restored -/

/-- The switch is as before. -/
structure Restored (before after : Device Port Mac) : Prop where
  vlans : after.vlans = before.vlans
  untagged : after.untagged = before.untagged
  pvid : after.pvid = before.pvid
  loopback : after.loopback = before.loopback
  fdb : after.fdb = before.fdb
  l2 : after.l2 = before.l2
  chipMembers : after.chipMembers = before.chipMembers

variable (hairpin) in
/-- The worker keeps the default VLAN of the profile, both loopbacks are off, and one static
FDB entry and one chip L2 entry are all there is to undo. -/
structure Restorable (w : Int) (calls : List (Call Mac)) (device : Device Port Mac) : Prop where
  worker : w ≤ 1
  loopback : ∀ port ∈ hairpin.ports, device.loopback port = none
  fdb : Undone device.fdb hairpin.pOut (hairpin.fdbKeys calls)
  l2 : Undone device.l2 .cpu0 (hairpin.l2Keys calls)

omit [DecidableEq Port] [Fintype Port] in
variable (hairpin) in
theorem defaultVlan_eq_iff :
    (Topology.ofProfile w hairpin.profile).defaultVlan = hairpin.defaultVlan ↔ w ≤ 1 := by
  change Worker.remapDefaultVlan w hairpin.defaultVlan = hairpin.defaultVlan ↔ w ≤ 1
  unfold Worker.remapDefaultVlan
  split
  · next serial => simp [serial]
  · next parallel => omega

omit [DecidableEq Port] [Fintype Port] [DecidableEq Mac] in
theorem homed (serial : w ≤ 1) (start : hairpin.Start w device) : hairpin.Homed device := by
  have same := (hairpin.defaultVlan_eq_iff).mpr serial
  constructor
  · rw [← same]
    exact start.members hairpin.pIn (by simp [ports])
  · rw [← same]
    exact start.members hairpin.pOut (by simp [ports])

variable (hairpin) in
theorem teardown_restores_iff (w : Int) (calls : List (Call Mac)) (device : Device Port Mac)
    (start : hairpin.Start w device) :
    Restored device (hairpin.run calls device) ↔ hairpin.Restorable w calls device := by
  have unwound := hairpin.unwound_unwound calls device
  have kept := Device.kept_foldl_config hairpin.undoCommands.reverse (hairpin.unwound calls device)
  rw [← run_eq] at kept
  constructor
  · intro restored
    have inPorts : hairpin.pIn ∈ hairpin.ports := by simp [ports]
    constructor
    · apply hairpin.defaultVlan_eq_iff.mp
      rw [← start.pvids hairpin.pIn inPorts, ← restored.pvid, kept.pvid, unwound.pvid,
        if_pos inPorts]
    · intro port among
      rw [← restored.loopback, kept.loopback, unwound.loopback, if_pos among]
    · apply (Library.undoLast_entered_iff _ _ _).mp
      rw [← unwound.fdb, ← kept.fdb, restored.fdb]
    · apply (Library.undoLast_entered_iff _ _ _).mp
      rw [← unwound.l2, ← kept.l2, restored.l2]
  · intro restorable
    have same := hairpin.defaultVlan_eq_iff.mpr restorable.worker
    have back := unconfigured_run calls start (homed restorable.worker start)
    constructor
    · exact back.vlans
    · exact back.untagged
    · funext port
      rw [kept.pvid, unwound.pvid]
      split
      · next among => rw [start.pvids port among, same]
      · rfl
    · funext port
      rw [kept.loopback, unwound.loopback]
      split
      · next among => rw [restorable.loopback port among]
      · rfl
    · rw [kept.fdb, unwound.fdb]
      exact (Library.undoLast_entered_iff _ _ _).mpr restorable.fdb
    · rw [kept.l2, unwound.l2]
      exact (Library.undoLast_entered_iff _ _ _).mpr restorable.l2
    · rw [kept.chipMembers, unwound.chipMembers]
      split
      · rfl
      · apply Finset.sdiff_eq_self_of_disjoint
        rw [Finset.disjoint_left]
        intro member among captured
        apply start.chipAbsentB member among
        simp only [capture, List.mem_toFinset, List.mem_map] at captured
        obtain ⟨port, -, same⟩ := captured
        rw [← same]

/-- The hairpin of worker `w` on two ports of a switch without a device section. -/
def twoPort (w : Int) : Hairpin Bool where
  profile := Worker.load none
  pIn := false
  pOut := true
  vlanA := Worker.remapVid w 110
  vlanB := Worker.remapVid w 120
  sviIp := none
  mode := ['m', 'a', 'c']
  distinct := Bool.false_ne_true
  asymmetric := by
    unfold Worker.remapVid
    split
    · decide
    · simp

/-- Both ports are members of the VLAN, and nothing else is configured. -/
def flat (vlan : Int) : Device Bool Bool where
  vlans := {vlan}
  untagged _ := some vlan
  addresses := ∅
  pvid _ := vlan
  loopback _ := none
  fdb _ := none
  l2 _ := none
  chipMembers := ∅

theorem start_flat (w : Int) (known : w = 1 ∨ w = 2) :
    (twoPort w).Start w (flat (Worker.remapDefaultVlan w 1000)) := by
  have absent : Worker.remapVid w 110 ≠ Worker.remapDefaultVlan w 1000 ∧
      Worker.remapVid w 120 ≠ Worker.remapDefaultVlan w 1000 := by
    obtain rfl | rfl := known <;> decide
  constructor
  · exact fun _ _ => rfl
  · exact fun _ _ => rfl
  · exact fun member => absent.1 (Finset.mem_singleton.mp member)
  · exact fun member => absent.2 (Finset.mem_singleton.mp member)
  · intro port vid member
    exact Finset.mem_singleton.mpr (Option.some.inj member).symm
  · simp [flat]
  · simp [flat]

/-- Worker 2 leaves the PVIDs at VLAN 1000, and a second `fdb_to_out` the entry of the first. -/
theorem teardown_keeps_changes :
    ((twoPort 2).Start 2 (flat 1430) ∧ ¬ Restored (flat 1430) ((twoPort 2).run [] (flat 1430))) ∧
    ((twoPort 1).Start 1 (flat 1000) ∧
      ¬ Restored (flat 1000) ((twoPort 1).run [.fdbToOut false, .fdbToOut true] (flat 1000))) := by
  refine ⟨⟨start_flat 2 (Or.inr rfl), ?_⟩, ⟨start_flat 1 (Or.inl rfl), ?_⟩⟩
  · intro restored
    exact absurd (congrFun restored.pvid false) (by decide)
  · intro restored
    exact absurd (congrFun restored.fdb (110, false)) (by decide)

theorem teardown_restores_iff_worker_one :
    Restored (flat 1000)
      ((twoPort 1).run [.arm, .fdbToOut false, .puntBToCpu true] (flat 1000)) := by
  apply (teardown_restores_iff (twoPort 1) 1 [.arm, .fdbToOut false, .puntBToCpu true] (flat 1000)
    (start_flat 1 (Or.inl rfl))).mpr
  constructor
  · decide
  · exact fun _ _ => rfl
  · simp [Undone, fdbKeys, flat]
  · simp [Undone, l2Keys, flat]

end Hairpin

end OnboxFvt.Topo
