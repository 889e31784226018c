import OnboxFvt.Library.Collect
import OnboxFvt.Python.Decimal
import OnboxFvt.Python.Hexadecimal

/-!
# Parallel workers and their addresses

The address and AS-number offsets of `framework/worker.py` and the part of the
worker view of `framework/topology.py` they produce.  `none` is the `ValueError`
of an `int` call.
-/

namespace OnboxFvt.Worker

open Python
open Library (collect?)

/-- `remap_ip4`: 100 a worker is added to the second octet of a 10.x address, or
taken from it where the sum leaves the octet. -/
def remapIp4 (w : Int) (ip : Text) : Option Text :=
  if w ≤ 1 ∨ ip = [] ∨ ':' ∈ ip then some ip
  else
    match splitOn '.' ip with
    | [first, second, third, fourth] =>
        if first ≠ "10".toList then some ip
        else
          (int? second).map fun octet =>
            let o2 := octet + 100 * (w - 1)
            let o2 := if o2 > 255 then octet - 100 * (w - 1) else o2
            ['.'].intercalate [first, integer o2, third, fourth]
    | _ => some ip

/-- `remap_ip6`: 0x100 a worker is added to the third hextet of a documentation address. -/
def remapIp6 (w : Int) (ip : Text) : Text :=
  if w ≤ 1 ∨ ip = [] ∨ ':' ∉ ip then ip
  else if !startsWith "2001:db8:".toList (lower ip) then ip
  else
    match splitOn ':' ip with
    | first :: second :: third :: rest =>
        if third = [] then ip
        else
          match hexInt? third with
          | some hextet =>
              [':'].intercalate (first :: second :: hexadecimal (hextet + 0x100 * (w - 1)) :: rest)
          | none => ip
    | _ => ip

def remapAddress (w : Int) (addr : Text) : Option Text :=
  if ':' ∈ addr then some (remapIp6 w addr) else remapIp4 w addr

/-- `remap_cidr`. -/
def remapCidr (w : Int) (cidr : Text) : Option Text :=
  if w ≤ 1 ∨ cidr = [] then some cidr
  else
    match cutLast? '/' cidr with
    | some (addr, plen) => (remapAddress w addr).map (· ++ '/' :: plen)
    | none => remapAddress w cidr

/-- `remap_asn` of a number. -/
def remapAsn (w asn : Int) : Int :=
  if w ≥ 2 then asn + 10 * (w - 1) else asn

/-- An entry of the `subnets` section; `prefix`, like MACs and DSCP values, is not remapped. -/
structure Subnet where
  dut : Text
  peer : Text
  peer2 : Option Text
  plen : Int
  dutAs : Option Int
  peerAs : Option Int
  deriving DecidableEq

/-- The sections of a profile that hold addresses, and the hairpin SVI. -/
structure AddressPlan where
  subnets : List (Text × Subnet)
  routes : List (Text × Text)
  servers : List (Text × Text)
  loopbacks : List (Text × Text)
  svi : Option Text
  deriving DecidableEq

/-- The remapped address of a field that may be absent. -/
def remapOptional (w : Int) : Option Text → Option (Option Text)
  | none => some none
  | some cidr => (remapCidr w cidr).map some

def Subnet.view (w : Int) (subnet : Subnet) : Option Subnet :=
  (remapCidr w subnet.dut).bind fun dut =>
    (remapCidr w subnet.peer).bind fun peer =>
      (remapOptional w subnet.peer2).map fun peer2 =>
        { dut := dut
          peer := peer
          peer2 := peer2
          plen := subnet.plen
          dutAs := subnet.dutAs.map (remapAsn w)
          peerAs := subnet.peerAs.map (remapAsn w) }

/-- The value of one item of a section, under the item's name. -/
def viewItem {Value : Type} (view : Value → Option Value) (item : Text × Value) :
    Option (Text × Value) :=
  (view item.2).map fun value => (item.1, value)

/-- The addresses of the worker view, as `Topology.__init__` builds them. -/
def AddressPlan.view (w : Int) (plan : AddressPlan) : Option AddressPlan :=
  (collect? (viewItem (Subnet.view w)) plan.subnets).bind fun subnets =>
    (collect? (viewItem (remapCidr w)) plan.routes).bind fun routes =>
      (collect? (viewItem (remapCidr w)) plan.servers).bind fun servers =>
        (collect? (viewItem (remapCidr w)) plan.loopbacks).bind fun loopbacks =>
          (remapOptional w plan.svi).map fun svi =>
            { subnets := subnets
              routes := routes
              servers := servers
              loopbacks := loopbacks
              svi := svi }

def Subnet.addresses (subnet : Subnet) : List Text :=
  subnet.dut :: subnet.peer :: subnet.peer2.toList

/-- Every address of the plan, section by section. -/
def AddressPlan.addresses (plan : AddressPlan) : List Text :=
  plan.subnets.flatMap (·.2.addresses) ++ plan.routes.map Prod.snd ++
    plan.servers.map Prod.snd ++ plan.loopbacks.map Prod.snd ++ plan.svi.toList

end OnboxFvt.Worker
