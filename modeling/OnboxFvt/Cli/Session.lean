import OnboxFvt.Cli.Fixup
import OnboxFvt.Library.Program

/-!
# A `Cli` object at work

`Cli._cmdline`, `Cli._fixup` and what they run on the way, of `framework/cli.py`: the
probes with their caches, the conversions of a port between L2 and L3, the hybrid
ladder.  The helpers issue commands through `config` again; every such call opens one
more activation of `_cmdline` and `_fixup`, and `configAt` has room for so many of them
inside each other.  Every database read is of CONFIG_DB.  Logging and sleeping have no
counterpart.
-/

namespace OnboxFvt.Cli

open Python Library Program

/-- `shell.Result`; nothing here reads `err`. -/
structure Result where
  rc : Int
  out : Text

/-- What the commands and the database reads answer.  No answer is an exception. -/
structure Host (World : Type) where
  run : Text → World → Option Result × World
  keys : Text → World → Option (List Text) × World
  hgetall : Text → World → Option (Text → Option Text) × World

/-- The attributes of a `Cli` object that a command reads or writes. -/
structure Attributes where
  isSwpOs : Option Bool := none
  stplock : Option Bool := none
  aclTbl : Option Bool := none
  spandir : Option Bool := none
  mirdel : Option Bool := none
  ipdel : Option Bool := none
  vmFlag : Option Text := none
  bridged : List Text := []

structure State (World : Type) where
  world : World
  self : Attributes

inductive Stop where
  | raised
  | tooDeep
  deriving DecidableEq

abbrev Action (World : Type) : Type → Type :=
  Program (State World) Stop

variable {World : Type}

def setSelf (change : Attributes → Attributes) : Action World Unit :=
  update fun state => { state with self := change state.self }

/-- `_bridged.discard(name)`. -/
def discard (name : Text) : Action World Unit :=
  setSelf fun self => { self with bridged := self.bridged.filter (· ≠ name) }

/-- `_bridged.add(name)`. -/
def addBridged (name : Text) : Action World Unit :=
  setSelf fun self => { self with bridged := self.bridged.insert name }

/-- A cached probe: asked only while the attribute is `None`. -/
def cached {Value : Type} (read : Attributes → Option Value)
    (write : Value → Attributes → Attributes) (probe : Action World Value) :
    Action World Value := do
  match ← view fun state => read state.self with
  | some value => pure value
  | none => do
      let value ← probe
      setSelf (write value)
      pure value

/-- The other VLANs in the member keys of a port; `none` is an `IndexError`. -/
def otherVlans (vid : Text) (keys : List Text) : Option (List Text) :=
  (keys.mapM fun k => (splitOn '|' k)[1]?).map fun vlans =>
    (vlans.filter (· ≠ "Vlan".toList ++ vid)).map (replaceAll "Vlan".toList [])

/-- The loop of `_ensure_l2_for_member_add` over the tokens. -/
def memberPositionals (skip : Bool) : List Text → List Text
  | [] => []
  | t :: rest =>
      if skip then memberPositionals false rest
      else if t = "-m".toList ∨ t = "--mode".toList then memberPositionals true rest
      else if startsWith "-".toList t then memberPositionals false rest
      else t :: memberPositionals false rest

/-- The VLAN of a member key, where the key has its three parts. -/
def memberVid (k : Text) : Option Text :=
  match splitOn '|' k with
  | [_, vlan, _] => some (replaceAll "Vlan".toList [] vlan)
  | _ => none

/-- `k.split("|")[-1]`. -/
def lastPart (k : Text) : Text :=
  (splitOn '|' k).getLast?.getD []

/-- `toks[-1]` where there are two positional tokens, else the empty string. -/
def memberPort (args : Text) : Text :=
  if (positionals args).length ≥ 2 then (positionals args).getLast?.getD [] else []

/-- The direction of a span session as an option. -/
def directionOption (args : Text) : Text :=
  match (split args).getLast? with
  | some last =>
      if last ∈ directions then joinSpace (split args).dropLast ++ " -d ".toList ++ last else args
  | none => args

namespace Host

variable (host : Host World)

/-- `Shell.run`. -/
def shRun (cmd : Text) (check : Bool) : Action World Result := fun state =>
  match host.run cmd state.world with
  | (some result, world) =>
      if check && result.rc != 0 then (.error .raised, { state with world })
      else (.ok result, { state with world })
  | (none, world) => (.error .raised, { state with world })

def dbKeys (pattern : Text) : Action World (List Text) := fun state =>
  match host.keys pattern state.world with
  | (some keys, world) => (.ok keys, { state with world })
  | (none, world) => (.error .raised, { state with world })

def dbHgetall (key : Text) : Action World (Text → Option Text) := fun state =>
  match host.hgetall key state.world with
  | (some row, world) => (.ok row, { state with world })
  | (none, world) => (.error .raised, { state with world })

/-! ## Probes -/

def stpLocked : Action World Bool :=
  cached (·.stplock) (fun value self => { self with stplock := some value }) do
    let row ← host.dbHgetall "STP|GLOBAL".toList
    pure (row "enabled".toList = some "enable".toList)

def aclTableCli : Action World Bool :=
  cached (·.aclTbl) (fun value self => { self with aclTbl := some value }) do
    let r ← host.shRun "config acl-table add --help".toList false
    pure (r.rc = 0 && contains "acl".toList (lower r.out))

def spanDirOpt : Action World Bool :=
  cached (·.spandir) (fun value self => { self with spandir := some value }) do
    let h ← host.shRun "config mirror_session span add --help".toList false
    pure (contains "--direction".toList h.out)

def mirrorDelCli : Action World Bool :=
  cached (·.mirdel) (fun value self => { self with mirdel := some value }) do
    let d ← host.shRun "config mirror_session del --help".toList false
    let rm ← host.shRun "config mirror_session remove --help".toList false
    pure (d.rc = 0 && rm.rc ≠ 0)

def ipDelCli : Action World Bool :=
  cached (·.ipdel) (fun value self => { self with ipdel := some value }) do
    let d ← host.shRun "config interface ip del --help".toList false
    let rm ← host.shRun "config interface ip remove --help".toList false
    pure (d.rc = 0 && rm.rc ≠ 0)

/-! ## The hybrid ladder, which bypasses `_fixup` -/

def hybridLadderAdd (vid pname : Text) : Action World Bool := do
  let _ ← host.shRun ("config switchport mode hybrid ".toList ++ pname) false
  discard pname
  let _ ← host.shRun ("config vlan member add -m untagged ".toList ++ vid ++ [' '] ++ pname) false
  let ok ← poll (do
    let keys ← host.dbKeys ("VLAN_MEMBER|Vlan".toList ++ vid ++ ['|'] ++ pname)
    pure (!keys.isEmpty)) 5
  if ok then do
    let _ ← host.shRun ("config interface pvid ".toList ++ pname ++ [' '] ++ vid) false
    poll (do
      let row ← host.dbHgetall ("PORT|".toList ++ pname)
      pure (row "pvid".toList = some vid)) 5
  else pure false

/-- Point the pvid at a VLAN the port stays in. -/
def movePvid (pname : Text) : List Text → Action World Unit
  | vlan :: _ => do
      let _ ← host.shRun ("config interface pvid ".toList ++ pname ++ [' '] ++ vlan) false
      pure ()
  | [] => pure ()

def hybridLadderDel (vid pname : Text) : Action World Unit := do
  let keys ← host.dbKeys ("VLAN_MEMBER|*|".toList ++ pname)
  match otherVlans vid keys with
  | none => stop .raised
  | some others => do
      host.movePvid pname others
      let _ ← host.shRun ("config vlan member del ".toList ++ vid ++ [' '] ++ pname) false
      let _ ← poll (do
        let keys ← host.dbKeys ("VLAN_MEMBER|Vlan".toList ++ vid ++ ['|'] ++ pname)
        pure keys.isEmpty) 5
      let _ ← host.shRun ("config switchport mode access ".toList ++ pname) false
      discard pname

def isPortL2 (name : Text) : Action World Bool := do
  let home ← host.dbKeys ("VLAN_MEMBER|Vlan1|".toList ++ name)
  if home.isEmpty then do
    let pm ← host.dbHgetall ("PORT|".toList ++ name)
    if pm "link_mode".toList ∈
        [some "access".toList, some "trunk".toList, some "hybrid".toList] then do
      let marker ← host.dbKeys ("INTERFACE|".toList ++ name)
      pure marker.isEmpty
    else pure false
  else pure true

/-! ## What issues commands again -/

section Nested

/- `self.config`, one activation further in. -/
variable (call : Text → Bool → Action World Result)

def askSwitchportOs : Action World Bool := do
  let h ← call "interface link-mode --help".toList false
  pure (contains "bridge".toList h.out && contains "route".toList h.out)

def isSwitchportOs : Action World Bool :=
  cached (·.isSwpOs) (fun value self => { self with isSwpOs := some value }) (askSwitchportOs call)

def askUntaggedFlag : Action World Text := do
  let h ← call "vlan member add --help".toList false
  pure (if contains "--untagged".toList h.out then "-u".toList
    else if contains "--mode".toList h.out then "-m untagged".toList
    else [])

def vlanUntaggedFlag : Action World Text := do
  if ← isSwitchportOs call then pure "-u".toList
  else
    cached (·.vmFlag) (fun value self => { self with vmFlag := some value }) (askUntaggedFlag call)

/-- Take a port out of the VLAN of a member key; whether Vlan1 was refused. -/
def leaveVlan (name k : Text) : Action World Bool :=
  match memberVid k with
  | some vid => do
      let r ← call ("vlan member del ".toList ++ vid ++ [' '] ++ name) false
      pure (vid = "1".toList && r.rc ≠ 0)
  | none => pure false

def leaveVlans (name : Text) : List Text → Action World Bool
  | [] => pure false
  | k :: rest => do
      let refused ← leaveVlan call name k
      let later ← leaveVlans name rest
      pure (refused || later)

/-- The part of `_restore_bridge_home` that clears what blocks a conversion. -/
def clearPort (name : Text) : Action World Unit := do
  let members ← host.dbKeys ("VLAN_MEMBER|*|".toList ++ name)
  let _ ← leaveVlans call name members
  let neighbors ← host.dbKeys ("NEIGH|".toList ++ name ++ "|*".toList)
  each (fun k => do
    let _ ← call ("arp static del ".toList ++ name ++ [' '] ++ lastPart k) false
    pure ()) neighbors
  let addresses ← host.dbKeys ("INTERFACE|".toList ++ name ++ "|*".toList)
  each (fun k => do
    let _ ← call ("interface ip remove ".toList ++ name ++ [' '] ++ lastPart k) false
    pure ()) addresses
  let row ← host.dbHgetall ("INTERFACE|".toList ++ name)
  if ((row "vrf_name".toList).getD []).isEmpty then pure ()
  else do
    let _ ← call ("interface vrf unbind ".toList ++ name) false
    pure ()

/-- The part of `_restore_bridge_home` for a hybrid or trunk port. -/
def leaveMultiVlan (name : Text) : Action World Bool := do
  let row ← host.dbHgetall ("PORT|".toList ++ name)
  if multiVlan ((row "link_mode".toList).getD []) then do
    let _ ← call ("switchport mode access ".toList ++ name) false
    poll (host.isPortL2 name) 6
  else pure false

/-- The part of `_restore_bridge_home` that sets the marker and converts. -/
def cyclePort (name : Text) : Action World Bool := do
  let _ ← call ("interface link-mode ".toList ++ name ++ " route".toList) false
  let _ ← call ("interface link-mode ".toList ++ name ++ " bridge".toList) false
  poll (host.isPortL2 name) 8

def restoreBridgeHome (name : Text) : Action World Bool := do
  host.clearPort call name
  if ← host.leaveMultiVlan call name then pure true else host.cyclePort call name

def ensurePortL2 (name : Text) : Action World Unit := do
  if ← isSwitchportOs call then do
    if ← view fun state => decide (name ∈ state.self.bridged) then pure ()
    else do
      if ← host.restoreBridgeHome call name then addBridged name else pure ()
  else pure ()

/-- The self-heal of `restore_port_l3`. -/
def healWedge (name : Text) (vlan1DelRefused : Bool) : Action World Unit :=
  if vlan1DelRefused then do
    let left ← poll (do
      let home ← host.dbKeys ("VLAN_MEMBER|Vlan1|".toList ++ name)
      pure home.isEmpty) 6
    if left then pure ()
    else do
      let marker ← host.dbKeys ("INTERFACE|".toList ++ name)
      if marker.isEmpty then pure ()
      else do
        let _ ← host.shRun
          ("sonic-db-cli CONFIG_DB DEL 'INTERFACE|".toList ++ name ++ "'".toList) false
        let _ ← call ("interface link-mode ".toList ++ name ++ " route".toList) false
        pure ()
  else pure ()

def restorePortL3 (name : Text) : Action World Unit := do
  if ← isSwitchportOs call then do
    let members ← host.dbKeys ("VLAN_MEMBER|*|".toList ++ name)
    let refused ← leaveVlans call name members
    let _ ← call ("interface link-mode ".toList ++ name ++ " route".toList) false
    host.healWedge call name refused
    discard name
  else pure ()

def ensureL2ForMemberAdd (args : Text) : Action World Unit :=
  let pos := memberPositionals false ((split args).drop 3)
  if pos.length ≥ 2 then host.ensurePortL2 call (pos.getLast?.getD []) else pure ()

/-! ## The rules of `_fixup` -/

/-- Rule (3). -/
def routeFirst (args : Text) : Action World Unit :=
  if startsWith "interface ip add".toList args || startsWith "interface vrf bind".toList args then
    match (split args).drop 3 with
    | port :: _ =>
        if startsWith "Ethernet".toList port then do
          if ← isSwitchportOs call then host.restorePortL3 call port else pure ()
        else pure ()
    | [] => pure ()
  else pure ()

/-- Rule (5). -/
def ipRemove (args : Text) : Action World Text :=
  if startsWith "interface ip remove".toList args then do
    if ← host.ipDelCli then
      pure (replaceFirst "interface ip remove".toList "interface ip del".toList args)
    else pure args
  else pure args

/-- Rule (6). -/
def mirrorRemove (args : Text) : Action World Text :=
  if startsWith "mirror_session remove".toList args then do
    if ← host.mirrorDelCli then
      pure (replaceFirst "mirror_session remove".toList "mirror_session del".toList args)
    else pure args
  else pure args

/-- Rule (7). -/
def spanAdd (args : Text) : Action World Text :=
  if startsWith "mirror_session span add".toList args then do
    if ← host.spanDirOpt then pure (directionOption args) else pure args
  else pure args

/-- Rule (4). -/
def aclTable (args : Text) : Action World Text :=
  if startsWith "acl add table".toList args then do
    if ← host.aclTableCli then pure (rewriteAclAdd args) else pure args
  else if startsWith "acl remove table".toList args then do
    if ← host.aclTableCli then
      match (split args).drop 3 with
      | name :: _ => pure ("acl-table del ".toList ++ name)
      | [] => pure args
    else pure args
  else pure args

/-- Rule (8): whether the command was answered by bringing the port home to Vlan1. -/
def goesHome (args : Text) : Action World Bool :=
  if ((split args).filter isDigit).head? = some "1".toList then do
    if ← isSwitchportOs call then
      let pname := (positionals args).getLast?.getD []
      if startsWith "Ethernet".toList pname then do
        let row ← host.dbHgetall ("PORT|".toList ++ pname)
        let home ← host.dbKeys ("VLAN_MEMBER|Vlan1|".toList ++ pname)
        if row "link_mode".toList = some "access".toList ∧ home ≠ [] then pure true
        else do
          let _ ← host.restoreBridgeHome call pname
          pure true
      else pure false
    else pure false
  else pure false

/-- A tagged member needs a hybrid port. -/
def hybridPort (args : Text) : Action World Unit :=
  if (positionals args).length ≥ 2 then do
    let port := (positionals args).getLast?.getD []
    let _ ← call ("switchport mode hybrid ".toList ++ port) false
    discard port
  else pure ()

/-- Rule (2) on the switchport OS. -/
def switchportMember (args : Text) : Action World Text := do
  host.ensureL2ForMemberAdd call args
  if untaggedIntent args then pure args
  else do
    hybridPort call args
    pure (tagged args)

/-- Rule (2). -/
def memberMode (args : Text) : Action World Text := do
  if ← isSwitchportOs call then host.switchportMember call args else pure args

/-- Rule (1) on the switchport OS, where the flag follows the mode of the port. -/
def portFlag (args : Text) : Action World Text := do
  let pname := memberPort args
  let row ← host.dbHgetall ("PORT|".toList ++ pname)
  if multiVlan ((row "link_mode".toList).getD []) then pure (untagged args)
  else do
    let locked ← host.stpLocked
    match positionals args with
    | vid :: _ =>
        if locked && isDigit vid then do
          let _ ← host.hybridLadderAdd vid pname
          pure harmless
        else pure (dropFlag args)
    | [] => pure (dropFlag args)

/-- Rule (1). -/
def memberFlag (args : Text) : Action World Text :=
  if hasFlag args then do
    if ← isSwitchportOs call then host.portFlag args
    else do
      let flag ← vlanUntaggedFlag call
      pure (if flag = "-m untagged".toList then untagged args else args)
  else pure args

/-- Rules (8), (2) and (1). -/
def memberAdd (args : Text) : Action World Text :=
  if startsWith "vlan member add".toList args then do
    if ← host.goesHome call args then pure harmless
    else do
      let args ← host.memberMode call args
      host.memberFlag call args
  else pure args

/-- Rule (9) on a port that the ladder may have taken into the VLAN. -/
def ladderDel (args : Text) : Action World Text :=
  match positionals args with
  | vid :: second :: rest => do
      let port := (second :: rest).getLast?.getD []
      if isDigit vid && vid ≠ "1".toList && startsWith "Ethernet".toList port then do
        let row ← host.dbHgetall ("PORT|".toList ++ port)
        if multiVlan ((row "link_mode".toList).getD []) then do
          host.hybridLadderDel vid port
          pure harmless
        else pure args
      else pure args
  | _ => pure args

/-- Rule (9). -/
def memberDel (args : Text) : Action World Text :=
  if startsWith "vlan member del".toList args then do
    if ← isSwitchportOs call then do
      if ← host.stpLocked then host.ladderDel args else pure args
    else pure args
  else pure args

/-- `_fixup`.  Where the source returns early, with the harmless command, no rule that
is left looks at it. -/
def fixup (args : Text) : Action World Text := do
  host.routeFirst call args
  let args ← host.ipRemove args
  let args ← host.mirrorRemove args
  let args ← host.spanAdd args
  let args ← host.aclTable args
  let args ← host.memberAdd call args
  host.memberDel call args

def cmdline (args : Text) : Action World Text :=
  if startsWith "__toplevel__ ".toList args then pure (args.drop "__toplevel__ ".toList.length)
  else do
    let fixed ← host.fixup call args
    let cmd := "config ".toList ++ fixed
    pure (if startsWith "interface ip add".toList args then "echo y | ".toList ++ cmd else cmd)

def vlanMemberAdd (vid port : Text) (tagged : Bool) : Action World Result := do
  let untagged ← vlanUntaggedFlag call
  let flag :=
    if tagged then if startsWith "-m".toList untagged then "-m tagged".toList else []
    else untagged
  call ("vlan member add ".toList ++ flag ++ [' '] ++ vid ++ [' '] ++ port) true

end Nested

/-- `config`, with room for so many activations of `_cmdline` and `_fixup` inside each
other. -/
def configAt : Nat → Text → Bool → Action World Result
  | 0, _, _ => stop .tooDeep
  | depth + 1, args, check => do
      let cmd ← host.cmdline (configAt depth) args
      host.shRun cmd check

/-- `config`; `config_raw` is `config` unchecked.  No command needs room for more than two
activations. -/
def config (args : Text) (check : Bool) : Action World Result :=
  host.configAt 2 args check

end Host

end OnboxFvt.Cli
