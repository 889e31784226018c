import Mathlib.Logic.Function.Basic
import OnboxFvt.Python.Text

/-!
# The VRF hairpin

`framework/vrfhairpin.py` and its fixture: ports leave the default VLAN for a VRF of
their own, and `cleanup` undoes what the handle has recorded.  How each command of
the set-up ends is given by a script; the commands of `cleanup` take effect.
-/

namespace OnboxFvt.VrfHairpin

open Python

/-- What a port is configured as; `member` is its untagged membership in the default VLAN. -/
structure PortConfig where
  member : Bool
  vrf : Option Text
  addresses : List Text
  loopback : Bool
  deriving DecidableEq

/-- The device and the records of the handle. -/
structure State (Port : Type) where
  config : Port → PortConfig
  vrfTable : List Text
  vrfs : List Text
  bound : List (Port × Text × Text)

/-- How `interface vrf bind` ends: with an error, without any effect, with an effect that the
read-back does not live to see, or well. -/
inductive VrfBind where
  | refused
  | lost
  | late
  | done
  deriving DecidableEq

/-- How `lb.enable` ends: it raises before or after the loopback is set, or it returns. -/
inductive Enable where
  | refused
  | interrupted
  | done
  deriving DecidableEq

/-- How the steps of one `bind` end.  Before `vrf bind` and `ip add` the wrapper may take the
port out of its VLANs on its own, as it does to switch a port to routing. -/
structure BindScript where
  memberDel : Bool
  memberPoll : Bool
  vrfBindLeaves : Bool
  vrfBind : VrfBind
  readBack : Bool
  ipAddLeaves : Bool
  ipAdd : Bool
  startup : Bool
  enable : Enable
  deriving DecidableEq

/-- What `bind` answers, and the exceptions it lets through. -/
inductive BindResult where
  | ok
  | vrfBindFailed
  | notSet
  | ipAddFailed
  | raised
  deriving DecidableEq

namespace PortConfig

@[simp]
def leave (leaves : Bool) (config : PortConfig) : PortConfig :=
  { config with member := config.member && !leaves }

@[simp]
def bindVrf (leaves : Bool) (outcome : VrfBind) (vrf : Text) (config : PortConfig) : PortConfig :=
  match outcome with
  | .refused | .lost => config.leave leaves
  | .late | .done => { config.leave leaves with vrf := some vrf }

@[simp]
def addIp (leaves succeeds : Bool) (cidr : Text) (config : PortConfig) : PortConfig :=
  if succeeds then
    { config.leave leaves with addresses := config.addresses ++ [cidr] }
  else
    config.leave leaves

@[simp]
def loop (outcome : Enable) (config : PortConfig) : PortConfig :=
  match outcome with
  | .refused => config
  | .interrupted | .done => { config with loopback := true }

def unloop (config : PortConfig) : PortConfig :=
  { config with loopback := false }

def removeIp (cidr : Text) (config : PortConfig) : PortConfig :=
  { config with addresses := config.addresses.filter (· ≠ cidr) }

def unbindVrf (config : PortConfig) : PortConfig :=
  { config with vrf := none }

def join (config : PortConfig) : PortConfig :=
  { config with member := true }

/-- The port loses its VRF and its addresses if `vrf` is the one it is bound to. -/
def dropVrf (vrf : Text) (config : PortConfig) : PortConfig :=
  if config.vrf = some vrf then { config with vrf := none, addresses := [] } else config

end PortConfig

variable {Port : Type} [DecidableEq Port]

namespace State

def cmd (state : State Port) (port : Port) (change : PortConfig → PortConfig) : State Port :=
  { state with config := Function.update state.config port (change (state.config port)) }

/-- `add_vrf`; it raises where the command fails. -/
def addVrf (state : State Port) (name : Text) : State Port :=
  { state with vrfTable := state.vrfTable ++ [name], vrfs := state.vrfs ++ [name] }

/-- `bind`.  The result of `vlan member del` is not looked at, and polling in vain for the end
of the membership does not stop the set-up. -/
def bind (state : State Port) (script : BindScript) (vrf : Text) (port : Port) (cidr : Text) :
    State Port × BindResult :=
  let state := state.cmd port (PortConfig.leave script.memberDel)
  if !script.memberPoll then (state, .raised)
  else
    let state := state.cmd port (PortConfig.bindVrf script.vrfBindLeaves script.vrfBind vrf)
    match script.vrfBind with
    | .refused => (state, .vrfBindFailed)
    | .lost | .late => (state, if script.readBack then .notSet else .raised)
    | .done =>
        if !script.readBack then (state, .raised)
        else
          let state := state.cmd port (PortConfig.addIp script.ipAddLeaves script.ipAdd cidr)
          if !script.ipAdd then (state, .ipAddFailed)
          else if !script.startup then (state, .raised)
          else
            let state := state.cmd port (PortConfig.loop script.enable)
            match script.enable with
            | .refused | .interrupted => (state, .raised)
            | .done => ({ state with bound := state.bound ++ [(port, vrf, cidr)] }, .ok)

/-- What `cleanup` does for a recorded bind. -/
def unbind (state : State Port) (record : Port × Text × Text) : State Port :=
  let state := state.cmd record.1 PortConfig.unloop
  let state := state.cmd record.1 (PortConfig.removeIp record.2.2)
  let state := state.cmd record.1 PortConfig.unbindVrf
  state.cmd record.1 PortConfig.join

/-- `vrf del`; whether it unbinds the ports that are still bound depends on the image. -/
def vrfDel (unbinds : Bool) (state : State Port) (vrf : Text) : State Port :=
  { state with
    vrfTable := state.vrfTable.erase vrf
    config := fun port =>
      if unbinds then (state.config port).dropVrf vrf else state.config port }

/-- `cleanup`, without the routes, of which the set-up has none. -/
def cleanup (state : State Port) (unbinds : Bool) : State Port :=
  let state := { state.bound.reverse.foldl unbind state with bound := [] }
  { state.vrfs.reverse.foldl (vrfDel unbinds) state with vrfs := [] }

end State

/-- The two binds of the fixture, which has one address for both. -/
structure Fixture (Port : Type) where
  vrfA : Text
  vrfB : Text
  portA : Port
  portB : Port
  cidrA : Text
  cidrB : Text
  distinct : portA ≠ portB

/-- How the steps of the set-up end; `addA` and `addB` are the creations of the two VRFs. -/
structure SetupScript where
  addA : Bool
  addB : Bool
  bindA : BindScript
  bindB : BindScript
  deriving DecidableEq

/-- The `vrf_hairpin` fixture up to its `yield`; what fails ends it. -/
def Fixture.setup (fixture : Fixture Port) (script : SetupScript) (state : State Port) :
    State Port :=
  if !script.addA then state
  else
    let state := state.addVrf fixture.vrfA
    if !script.addB then state
    else
      let state := state.addVrf fixture.vrfB
      match state.bind script.bindA fixture.vrfA fixture.portA fixture.cidrA with
      | (state, .ok) => (state.bind script.bindB fixture.vrfB fixture.portB fixture.cidrB).1
      | (state, _) => state

end OnboxFvt.VrfHairpin
