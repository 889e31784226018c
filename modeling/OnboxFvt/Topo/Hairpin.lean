import Mathlib.Data.Fintype.Basic
import OnboxFvt.Worker.View

/-!
# The VLAN hairpin

`topo/hairpin.py` over the device it configures.  A port stands for its chip name as
well, and is an untagged member of at most one VLAN.  A command the CLI refuses
changes nothing; the untagged membership of a port leaves its PVID alone.
-/

namespace OnboxFvt.Topo

open Python
open Worker (Profile Topology)

inductive ChipPort (Port : Type) where
  | port (port : Port)
  | cpu0
  deriving DecidableEq

structure Device (Port Mac : Type) where
  vlans : Finset Int
  untagged : Port → Option Int
  addresses : Finset (Int × Text)
  pvid : Port → Int
  loopback : Port → Option Text
  fdb : Int × Mac → Option Port
  l2 : Mac × Int → Option (ChipPort Port)
  chipMembers : Finset (Int × ChipPort Port)

/-- The `config` commands of the hairpin. -/
inductive Command (Port : Type) where
  | vlanAdd (vid : Int)
  | vlanDel (vid : Int)
  | memberAdd (vid : Int) (port : Port)
  | memberDel (vid : Int) (port : Port)
  | ipAdd (vid : Int) (ip : Text)
  | ipRemove (vid : Int) (ip : Text)
  deriving DecidableEq

/-- The parameters of `Hairpin.__init__`, an empty `svi_ip` counting as none; `mode` is the
loopback mode of the device. -/
structure Hairpin (Port : Type) where
  profile : Profile
  pIn : Port
  pOut : Port
  vlanA : Int
  vlanB : Int
  sviIp : Option Text
  mode : Text
  distinct : pIn ≠ pOut
  asymmetric : vlanA ≠ vlanB

/-- The device, and what the hairpin has noted down to undo. -/
structure HairpinState (Port Mac : Type) where
  device : Device Port Mac
  undo : List (Command Port)
  undoFdb : Option (Int × Mac)
  undoL2cpu : Option (Mac × Int)

/-- The calls between `setup` and `teardown`. -/
inductive Call (Mac : Type) where
  | arm
  | fdbToOut (mac : Mac)
  | puntBToCpu (mac : Mac)
  deriving DecidableEq

variable {Port Mac : Type} [DecidableEq Port] [DecidableEq Mac]

namespace Device

variable (device : Device Port Mac)

/-- The VLAN has no member and no address, so that `vlan del` accepts it. -/
def Idle [Fintype Port] (vid : Int) : Prop :=
  (∀ port, device.untagged port ≠ some vid) ∧ ∀ address ∈ device.addresses, address.1 ≠ vid

instance [Fintype Port] (vid : Int) : Decidable (device.Idle vid) := by
  unfold Idle
  infer_instance

def config [Fintype Port] : Command Port → Device Port Mac
  | .vlanAdd vid => { device with vlans := insert vid device.vlans }
  | .vlanDel vid =>
      if device.Idle vid then { device with vlans := device.vlans.erase vid } else device
  | .memberAdd vid port =>
      if vid ∈ device.vlans ∧ device.untagged port = none then
        { device with untagged := Function.update device.untagged port (some vid) }
      else device
  | .memberDel vid port =>
      if device.untagged port = some vid then
        { device with untagged := Function.update device.untagged port none }
      else device
  | .ipAdd vid ip => { device with addresses := insert (vid, ip) device.addresses }
  | .ipRemove vid ip => { device with addresses := device.addresses.erase (vid, ip) }

/-- `pvlan set`. -/
def pvlanSet (port : Port) (vid : Int) : Device Port Mac :=
  { device with pvid := Function.update device.pvid port vid }

/-- `port .. lb=..`, as `lb.enable` and `lb.disable` send it. -/
def setLoopback (port : Port) (mode : Option Text) : Device Port Mac :=
  { device with loopback := Function.update device.loopback port mode }

/-- `fdb_static_add` and `fdb_static_del`. -/
def setFdb (key : Int × Mac) (port : Option Port) : Device Port Mac :=
  { device with fdb := Function.update device.fdb key port }

/-- `l2 add` and `l2 del`. -/
def setL2 (key : Mac × Int) (port : Option (ChipPort Port)) : Device Port Mac :=
  { device with l2 := Function.update device.l2 key port }

/-- `vlan add .. pbm=..`. -/
def chipAdd (vid : Int) (ports : List (ChipPort Port)) : Device Port Mac :=
  { device with chipMembers := device.chipMembers ∪ (ports.map (vid, ·)).toFinset }

/-- `vlan remove .. pbm=..`. -/
def chipRemove (vid : Int) (ports : List (ChipPort Port)) : Device Port Mac :=
  { device with chipMembers := device.chipMembers \ (ports.map (vid, ·)).toFinset }

end Device

namespace Hairpin

variable (hairpin : Hairpin Port)

/-- `dut.profile.get("default_vlan", 1000)`. -/
def defaultVlan : Int :=
  hairpin.profile.defaultVlan.getD 1000

def ports : List Port :=
  [hairpin.pIn, hairpin.pOut]

variable [Fintype Port]

/-- A command of `setup`, with the one that is noted down to undo it. -/
def configUndo (state : HairpinState Port Mac) (command undo : Command Port) :
    HairpinState Port Mac :=
  { state with device := state.device.config command, undo := state.undo ++ [undo] }

/-- Moving a port from the default VLAN to VLAN A. -/
def move (state : HairpinState Port Mac) (port : Port) : HairpinState Port Mac :=
  let state := configUndo state (.memberDel hairpin.defaultVlan port)
    (.memberAdd hairpin.defaultVlan port)
  configUndo state (.memberAdd hairpin.vlanA port) (.memberDel hairpin.vlanA port)

/-- `pvlan set` of both ports to the default VLAN: `_preclean`, and a part of `teardown`. -/
def resetPvid (device : Device Port Mac) : Device Port Mac :=
  hairpin.ports.foldl (fun device port => device.pvlanSet port hairpin.defaultVlan) device

def setup (device : Device Port Mac) : HairpinState Port Mac :=
  let state : HairpinState Port Mac :=
    { device := hairpin.resetPvid device, undo := [], undoFdb := none, undoL2cpu := none }
  let state := configUndo state (.vlanAdd hairpin.vlanA) (.vlanDel hairpin.vlanA)
  let state := hairpin.ports.foldl hairpin.move state
  let state := configUndo state (.vlanAdd hairpin.vlanB) (.vlanDel hairpin.vlanB)
  let state := match hairpin.sviIp with
    | some ip => configUndo state (.ipAdd hairpin.vlanB ip) (.ipRemove hairpin.vlanB ip)
    | none => state
  { state with
    device := hairpin.ports.foldl (fun device port => device.setLoopback port (some hairpin.mode))
      state.device }

def call (state : HairpinState Port Mac) : Call Mac → HairpinState Port Mac
  | .arm =>
      { state with
        device := (state.device.pvlanSet hairpin.pIn hairpin.vlanA).pvlanSet hairpin.pOut
          hairpin.vlanB }
  | .fdbToOut mac =>
      { state with
        device := state.device.setFdb (hairpin.vlanA, mac) (some hairpin.pOut)
        undoFdb := some (hairpin.vlanA, mac) }
  | .puntBToCpu mac =>
      { state with
        device := (state.device.chipAdd hairpin.vlanB [.port hairpin.pOut, .cpu0]).setL2
          (mac, hairpin.vlanB) (some .cpu0)
        undoL2cpu := some (mac, hairpin.vlanB) }

def teardown (state : HairpinState Port Mac) : HairpinState Port Mac :=
  let device := match state.undoL2cpu with
    | some key =>
        (state.device.setL2 key none).chipRemove key.2 [.port hairpin.pOut, .cpu0]
    | none => state.device
  let device := match state.undoFdb with
    | some key => device.setFdb key none
    | none => device
  let device := hairpin.resetPvid device
  let device := hairpin.ports.foldl (fun device port => device.setLoopback port none) device
  { state with
    device := state.undo.reverse.foldl (fun device command => device.config command) device
    undo := [] }

/-- A whole use of the hairpin. -/
def run (calls : List (Call Mac)) (device : Device Port Mac) : Device Port Mac :=
  (hairpin.teardown (calls.foldl hairpin.call (hairpin.setup device))).device

end Hairpin

end OnboxFvt.Topo
