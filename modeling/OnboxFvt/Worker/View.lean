import Mathlib.Data.List.Lemmas
import OnboxFvt.Python.Text

/-!
# Parallel workers and their VLAN ids

`framework/worker.py` offsets the resources of worker `w`, `framework/topology.py`
applies the offsets to the device profile, and `Dut.worker_block` refuses a
worker number for which the profile declares no port block.  Only the parts of
the profile that produce VLAN ids or port blocks are kept.
-/

namespace OnboxFvt.Worker

open Python

/-- `wid()`: the worker number in `FVT_WORKER`, 0 being single-process mode. -/
def wid (environment : Option Text) : Int :=
  (int? (environment.getD ['0'])).getD 0

def isParallel (w : Int) : Bool :=
  w > 0

/-- `remap_vid`: regular ids move up by 430 a worker, the high isolation range
(from 3900) moves down by 10 a worker. -/
def remapVid (w v : Int) : Int :=
  if w ≤ 1 then v
  else if v ≥ 3900 then v - 10 * (w - 1)
  else v + 430 * (w - 1)

/-- `remap_default_vlan`: the private flood domain of workers from 2 on. -/
def remapDefaultVlan (w dv : Int) : Int :=
  if w ≤ 1 then dv else dv + 430 * (w - 1)

/-- Single-process mode and worker 1 keep every id. -/
@[simp]
theorem remapVid_of_le_one {w : Int} (serial : w ≤ 1) (v : Int) : remapVid w v = v := by
  simp [remapVid, serial]

/-- A key of the profile's `workers` section: YAML gives numbers, JSON text. -/
inductive WorkerKey where
  | number (w : Int)
  | text (w : Text)
  deriving DecidableEq

structure Hairpin where
  vlanA : Option Int
  vlanB : Option Int
  deriving DecidableEq

structure Profile where
  vlans : List (Text × Int)
  hairpin : Option Hairpin
  defaultVlan : Option Int
  workers : List (WorkerKey × List Text)
  deriving DecidableEq

/-- The worker view of a profile, as `Topology.__init__` builds it. -/
structure Topology where
  vlans : List (Text × Int)
  baseDefaultVlan : Int
  defaultVlan : Int
  hairpin : Option Hairpin

def Topology.ofProfile (w : Int) (profile : Profile) : Topology :=
  let baseDefaultVlan := profile.defaultVlan.getD 1000
  { vlans := profile.vlans.map fun role => (role.1, remapVid w role.2)
    baseDefaultVlan := baseDefaultVlan
    defaultVlan := remapDefaultVlan w baseDefaultVlan
    hairpin := profile.hairpin.map fun params =>
      { vlanA := some (remapVid w (params.vlanA.getD 110))
        vlanB := some (remapVid w (params.vlanB.getD 120)) } }

def Topology.hpVlanA (topo : Topology) : Int :=
  (topo.hairpin.bind (·.vlanA)).getD 110

def Topology.hpVlanB (topo : Topology) : Int :=
  (topo.hairpin.bind (·.vlanB)).getD 120

/-- The ids tests pass as literals. -/
def testVlans : List Int := [200, 300, 2000]

/-- The ids tests pass to `enable_flood_safe` and `isolate_pvid`. -/
def isolationVlans : List Int := [3990, 3991, 3992, 3993]

/-- The VLANs `suite_reset` deletes (the two hairpin ones, through the
configuration) or destroys on the chip. -/
def suiteResetVlans (w : Int) (topo : Topology) : List Int :=
  [topo.hpVlanA, topo.hpVlanB] ++ (testVlans ++ isolationVlans).map (remapVid w)

/-- Every VLAN id worker `w` creates or destroys. -/
def vlanView (w : Int) (profile : Profile) : List Int :=
  let topo := Topology.ofProfile w profile
  topo.vlans.map Prod.snd ++ [topo.hpVlanA, topo.hpVlanB] ++
    (if w ≥ 2 then [topo.defaultVlan] else []) ++
    testVlans.map (remapVid w) ++ isolationVlans.map (remapVid w) ++
    suiteResetVlans w topo

/-- Why `Dut.worker_block` raises. -/
inductive BlockError where
  | undeclared (w : Int)
  | missing (names : List Text)
  deriving DecidableEq

/-- `blocks.get(wid) or blocks.get(str(wid))`; a block without ports is refused. -/
def lookupBlock (w : Int) (blocks : List (WorkerKey × List Text)) : Option (List Text) :=
  (blocks.lookup (.number w) <|> blocks.lookup (.text (toString w).toList)).filter
    (!·.isEmpty)

/-- `Dut.worker_block`: no block in single-process mode, otherwise the declared
ports, all of which have to exist on the device. -/
def workerBlock (w : Int) (profile : Profile) (ports : List Text) :
    Except BlockError (Option (List Text)) :=
  if isParallel w then
    match lookupBlock w profile.workers with
    | none => .error (.undeclared w)
    | some block =>
        match block.filter (· ∉ ports) with
        | [] => .ok (some block)
        | missing => .error (.missing missing)
  else
    .ok none

end OnboxFvt.Worker
