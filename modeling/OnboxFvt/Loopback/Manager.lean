import Mathlib.Data.List.AList
import Mathlib.Data.Finset.Basic
import Mathlib.Logic.Function.Basic
import OnboxFvt.Worker.View

/-!
# The loopback manager and the chip it drives

`LoopbackManager` of `framework/loopback.py`.  A diag command takes effect when
it is sent; the chip keeps, for each port, the loopback mode, the ingress
discard and the PVID, and the set of VLANs.  The dictionaries of the manager are
association lists with distinct keys, so a loop over `list(d)` is a fold over
the keys.  Waiting for link-up and logging have no effect here.
-/

namespace OnboxFvt.Loopback

open Worker

abbrev Vid := Int

inductive LbMode where
  | mac | phy | edb
  deriving DecidableEq

variable (Port Bcm : Type) [DecidableEq Port] [DecidableEq Bcm]

/-- What the manager knows of the device; distinct ports are distinct on the chip. -/
structure Device where
  bcmOf : Port → Bcm
  injective : Function.Injective bcmOf
  mode : LbMode
  defaultVlan : Vid
  isSwitchportOs : Bool
  worker : Int
  workerPbm : Option (List Bcm)

structure Chip where
  lb : Bcm → Option LbMode
  discard : Bcm → Bool
  pvid : Bcm → Vid
  vlans : Finset Vid

/-- Diag commands.  `pvlan set` and `vlan destroy` print their argument, so a
Python `None` reaches the shell as the text "None", which it rejects. -/
inductive Diag where
  | portLb (bcm : Bcm) (mode : Option LbMode)
  | portRangeLbNone (pbm : Option (List Bcm))
  | portDiscard (bcm : Bcm) (all : Bool)
  | pvlanSet (bcm : Bcm) (vid : Option Vid)
  | vlanCreate (vid : Vid)
  | vlanDestroy (vid : Option Vid)

/-- A record of `_flood_safe`: `(bcm, isolate_vid, orig_pvid)`; the discard mode
of the switchport OS stores `(bcm, None, None)`. -/
structure FloodSafe where
  bcm : Bcm
  iso : Option Vid
  orig : Option Vid

/-- `_test_vlan`; its tuple also has the port names where the VLAN was made through
the CLI, on the switchport OS. -/
structure TestVlan where
  vid : Vid
  bcms : List Bcm
  restoreVid : Vid
  throughCli : Bool

/-- The manager's dictionaries and flags together with the chip. -/
structure State where
  on : AList fun _ : Port => LbMode × Bool
  floodSafe : AList fun _ : Port => FloodSafe Bcm
  held : AList fun _ : Port => LbMode
  touched : Bool
  testVlan : Option (TestVlan Bcm)
  chip : Chip Bcm

variable {Port Bcm}

def Chip.exec (chip : Chip Bcm) : Diag Bcm → Chip Bcm
  | .portLb bcm mode => { chip with lb := Function.update chip.lb bcm mode }
  | .portRangeLbNone none => { chip with lb := fun _ => none }
  | .portRangeLbNone (some pbm) =>
      { chip with lb := fun bcm => if bcm ∈ pbm then none else chip.lb bcm }
  | .portDiscard bcm all => { chip with discard := Function.update chip.discard bcm all }
  | .pvlanSet _ none => chip
  | .pvlanSet bcm (some vid) => { chip with pvid := Function.update chip.pvid bcm vid }
  | .vlanCreate vid => { chip with vlans := insert vid chip.vlans }
  | .vlanDestroy none => chip
  | .vlanDestroy (some vid) => { chip with vlans := chip.vlans.erase vid }

/-- `pvlan show`, parsed; it always answers when diag commands take effect. -/
def Chip.pvlanShow (chip : Chip Bcm) (bcm : Bcm) : Option Vid :=
  some (chip.pvid bcm)

namespace State

def cmd (state : State Port Bcm) (diag : Diag Bcm) : State Port Bcm :=
  { state with chip := state.chip.exec diag }

variable (device : Device Port Bcm)

def hold (state : State Port Bcm) (port : Port) (mode : Option LbMode) : State Port Bcm :=
  { state with held := state.held.insert port (mode.getD device.mode) }

def release (state : State Port Bcm) (port : Port) : State Port Bcm :=
  { state with held := state.held.erase port }

def enable (state : State Port Bcm) (port : Port) (mode : Option LbMode) (discard : Bool) :
    State Port Bcm :=
  let mode := mode.getD device.mode
  let bcm := device.bcmOf port
  let state := state.cmd (.portLb bcm (some mode))
  let state := if discard then state.cmd (.portDiscard bcm true) else state
  { state with on := state.on.insert port (mode, discard), touched := true }

def disable (state : State Port Bcm) (port : Port) : State Port Bcm :=
  let bcm := device.bcmOf port
  let discard := ((state.on.lookup port).map Prod.snd).getD false
  let state := if discard then state.cmd (.portDiscard bcm false) else state
  let state := state.cmd (.portLb bcm none)
  { state with on := state.on.erase port }

def enableFloodSafe (state : State Port Bcm) (port : Port) (isolateVid : Vid) :
    State Port Bcm :=
  let isolateVid := remapVid device.worker isolateVid
  let bcm := device.bcmOf port
  let orig := (state.chip.pvlanShow bcm).getD device.defaultVlan
  let state := state.cmd (.vlanCreate isolateVid)
  let state := state.cmd (.portLb bcm (some device.mode))
  let state := state.cmd (.pvlanSet bcm (some isolateVid))
  { state with
    on := state.on.insert port (.mac, false)
    touched := true
    floodSafe := state.floodSafe.insert port
      { bcm := bcm, iso := some isolateVid, orig := some orig } }

/-- On the switchport OS the re-ingress loop is broken with `discard=all`, and
neither the PVID nor a VLAN is touched.  The `_touched` flag is not set. -/
def isolatePvid (state : State Port Bcm) (port : Port) (isolateVid : Vid) : State Port Bcm :=
  let isolateVid := remapVid device.worker isolateVid
  let bcm := device.bcmOf port
  if device.isSwitchportOs then
    let state := state.cmd (.portDiscard bcm true)
    { state with
      floodSafe := state.floodSafe.insert port { bcm := bcm, iso := none, orig := none } }
  else
    let orig := (state.chip.pvlanShow bcm).getD device.defaultVlan
    let state := state.cmd (.vlanCreate isolateVid)
    let state := state.cmd (.pvlanSet bcm (some isolateVid))
    { state with
      floodSafe := state.floodSafe.insert port
        { bcm := bcm, iso := some isolateVid, orig := some orig } }

def restorePvid (state : State Port Bcm) (port : Port) : State Port Bcm :=
  match state.floodSafe.lookup port with
  | none => state
  | some info =>
      let state := { state with floodSafe := state.floodSafe.erase port }
      match info.iso with
      | none => state.cmd (.portDiscard info.bcm false)
      | some iso => (state.cmd (.pvlanSet info.bcm info.orig)).cmd (.vlanDestroy (some iso))

/-- Unlike `restore_pvid`, it has no branch for the discard mode. -/
def disableFloodSafe (state : State Port Bcm) (port : Port) : State Port Bcm :=
  let state := match state.floodSafe.lookup port with
    | none => state
    | some info =>
        let state := { state with floodSafe := state.floodSafe.erase port }
        (state.cmd (.pvlanSet info.bcm info.orig)).cmd (.vlanDestroy info.iso)
  state.disable device port

/-- On the switchport OS the VLAN and its members are made by configuration commands,
and no diag command is sent. -/
def useTestVlan (state : State Port Bcm) (vid : Vid) (ports : List Port) (restoreVid : Vid) :
    State Port Bcm :=
  let vid := remapVid device.worker vid
  let bcms := ports.map device.bcmOf
  let state :=
    if device.isSwitchportOs then state
    else bcms.foldl (fun state bcm => state.cmd (.pvlanSet bcm (some vid)))
      (state.cmd (.vlanCreate vid))
  { state with
    testVlan := some
      { vid := vid, bcms := bcms, restoreVid := restoreVid, throughCli := device.isSwitchportOs }
    touched := true }

def dropTestVlan (state : State Port Bcm) : State Port Bcm :=
  match state.testVlan with
  | none => state
  | some info =>
      let state := { state with testVlan := none }
      if info.throughCli then state
      else (info.bcms.foldl (fun state bcm => state.cmd (.pvlanSet bcm (some info.restoreVid)))
        state).cmd (.vlanDestroy (some info.vid))

def cleanup (state : State Port Bcm) : State Port Bcm :=
  let state := state.floodSafe.keys.foldl (disableFloodSafe device) state
  state.on.keys.foldl (disable device) state

/-- A round of the first loop of `force_clear_all`, over a copy of the records;
like `disable_flood_safe` it prints the record of the discard mode. -/
def restoreIsolated (records : AList fun _ : Port => FloodSafe Bcm) (state : State Port Bcm)
    (port : Port) : State Port Bcm :=
  match records.lookup port with
  | none => state
  | some info => (state.cmd (.pvlanSet info.bcm info.orig)).cmd (.vlanDestroy info.iso)

/-- A round of the loop that reopens the held ports. -/
def reopen (held : AList fun _ : Port => LbMode) (state : State Port Bcm) (port : Port) :
    State Port Bcm :=
  match held.lookup port with
  | none => state
  | some mode =>
      let state := state.cmd (.portLb (device.bcmOf port) (some mode))
      { state with on := state.on.insert port (mode, false) }

/-- `force_clear_all`: the ports actually cleared, and the state after it. -/
def forceClearAll (state : State Port Bcm) : List Port × State Port Bcm :=
  let cleared := (state.on.keys ++ state.floodSafe.keys).dedup.filter (· ∉ state.held)
  let state := state.floodSafe.keys.foldl (restoreIsolated state.floodSafe) state
  let state := { state with floodSafe := ∅ }
  let state := state.cmd (.portRangeLbNone device.workerPbm)
  let state := { state with on := ∅ }
  (cleared, state.held.keys.foldl (reopen device state.held) state)

end State

/-- The calls tests make on the manager between two sweeps. -/
inductive Op (Port : Type) where
  | enable (port : Port) (mode : Option LbMode) (discard : Bool)
  | disable (port : Port)
  | enableFloodSafe (port : Port) (isolateVid : Vid)
  | disableFloodSafe (port : Port)
  | isolatePvid (port : Port) (isolateVid : Vid)
  | restorePvid (port : Port)
  | hold (port : Port) (mode : Option LbMode)
  | release (port : Port)

def apply (device : Device Port Bcm) (state : State Port Bcm) : Op Port → State Port Bcm
  | .enable port mode discard => state.enable device port mode discard
  | .disable port => state.disable device port
  | .enableFloodSafe port isolateVid => state.enableFloodSafe device port isolateVid
  | .disableFloodSafe port => state.disableFloodSafe device port
  | .isolatePvid port isolateVid => state.isolatePvid device port isolateVid
  | .restorePvid port => state.restorePvid port
  | .hold port mode => state.hold device port mode
  | .release port => state.release port

def run (device : Device Port Bcm) (state : State Port Bcm) (ops : List (Op Port)) :
    State Port Bcm :=
  ops.foldl (apply device) state

end OnboxFvt.Loopback
