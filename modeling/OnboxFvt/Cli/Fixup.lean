import OnboxFvt.Python.Text

/-!
# The rewriting of configuration commands

`Cli._fixup` of `framework/cli.py`, as the text it returns.  The probes and the
database reads it makes are the answers of a fixed device.  The conversions it
runs on the device on the way (`restore_port_l3`, `_restore_bridge_home`, the
hybrid ladder and so on) do not change those answers and are left out; with them
`_fixup` is in `Session`, and `Answers` compares the two.
-/

namespace OnboxFvt.Cli

open Python

/-- What the probes and the CONFIG_DB reads of `_fixup` answer. -/
structure Device where
  ipDelCli : Bool
  mirrorDelCli : Bool
  spanDirOpt : Bool
  aclTableCli : Bool
  isSwitchportOs : Bool
  stpLocked : Bool
  /-- `link_mode` of `PORT|name`. -/
  linkMode : Text → Option Text
  /-- The output of `vlan member add --help`. -/
  memberAddHelp : Text

/-- The answer to a command whose work was done on the way. -/
def harmless : Text :=
  "switchport mode -h".toList

/-- `_ACL_TYPE_MAP`. -/
def aclTypeMap : List (Text × Text) :=
  [("L3".toList, "L3V4".toList), ("L3V4".toList, "L3V4".toList), ("L3V6".toList, "L3V6".toList),
    ("L2".toList, "L2".toList), ("L2L3MIX".toList, "L2L3MIX".toList)]

/-- The loop of `_rewrite_acl_add` over the options: the stage and the ports. -/
def aclOptions (stage : Text) (ports : Option Text) : List Text → Text × Option Text
  | t :: value :: rest =>
      if t = "-s".toList ∨ t = "--stage".toList then aclOptions value ports rest
      else if t = "-p".toList ∨ t = "--ports".toList then aclOptions stage (some value) rest
      else aclOptions stage ports (value :: rest)
  | _ => (stage, ports)

def rewriteAclAdd (args : Text) : Text :=
  match (split args).drop 3 with
  | name :: typ :: rest =>
      let (stage, ports) := aclOptions "ingress".toList none rest
      let out := "acl-table add ".toList ++ name ++ " -s ".toList ++ stage ++ " -t ".toList ++
        (aclTypeMap.lookup typ).getD typ
      match ports with
      | some (c :: ports) => out ++ " -p ".toList ++ c :: ports
      | _ => out
  | _ => args

/-- The positional tokens after the first three. -/
def positionals (args : Text) : List Text :=
  ((split args).drop 3).filter fun t => !startsWith "-".toList t

def directions : List Text :=
  ["rx".toList, "tx".toList, "both".toList]

/-- ` -u ` in the text with a blank on either side. -/
def hasFlag (args : Text) : Bool :=
  contains " -u ".toList ([' '] ++ args ++ [' '])

def untaggedIntent (args : Text) : Bool :=
  hasFlag args || contains "untagged".toList args

def multiVlan (mode : Text) : Bool :=
  mode = "hybrid".toList || mode = "trunk".toList

/-- Without an untagged intent the switchport OS wants an explicit mode. -/
def tagged (args : Text) : Text :=
  replaceFirst "vlan member add ".toList "vlan member add -m tagged ".toList args

def untagged (args : Text) : Text :=
  replaceFirst " -u ".toList " -m untagged ".toList args

def dropFlag (args : Text) : Text :=
  replaceFirst " -u ".toList " ".toList args

namespace Device

variable (device : Device)

def vlanUntaggedFlag : Text :=
  if device.isSwitchportOs then "-u".toList
  else if contains "--untagged".toList device.memberAddHelp then "-u".toList
  else if contains "--mode".toList device.memberAddHelp then "-m untagged".toList
  else []

/-- Rule (5). -/
def ipRemove (args : Text) : Text :=
  if startsWith "interface ip remove".toList args && device.ipDelCli then
    replaceFirst "interface ip remove".toList "interface ip del".toList args
  else args

/-- Rule (6). -/
def mirrorRemove (args : Text) : Text :=
  if startsWith "mirror_session remove".toList args && device.mirrorDelCli then
    replaceFirst "mirror_session remove".toList "mirror_session del".toList args
  else args

/-- Rule (7). -/
def spanAdd (args : Text) : Text :=
  if startsWith "mirror_session span add".toList args && device.spanDirOpt then
    match (split args).getLast? with
    | some last =>
        if last ∈ directions then
          joinSpace (split args).dropLast ++ " -d ".toList ++ last
        else args
    | none => args
  else args

/-- Rule (4). -/
def aclTable (args : Text) : Text :=
  if startsWith "acl add table".toList args && device.aclTableCli then rewriteAclAdd args
  else if startsWith "acl remove table".toList args && device.aclTableCli then
    match (split args).drop 3 with
    | name :: _ => "acl-table del ".toList ++ name
    | [] => args
  else args

/-- Rule (8): an add to Vlan1 of a physical port is done by converting the port. -/
def goesHome (args : Text) : Bool :=
  ((split args).filter isDigit).head? = some "1".toList && device.isSwitchportOs &&
    startsWith "Ethernet".toList ((positionals args).getLast?.getD [])

/-- `link_mode` of the port a member is added for. -/
def memberMode (args : Text) : Text :=
  let toks := positionals args
  (device.linkMode (if toks.length ≥ 2 then toks.getLast?.getD [] else [])).getD []

def takesLadder (args : Text) : Bool :=
  device.stpLocked && ((positionals args).head?.map isDigit).getD false

/-- Rules (1) and (2) on a command with the flag. -/
def memberFlag (args : Text) : Text :=
  if device.isSwitchportOs then
    if multiVlan (device.memberMode args) then untagged args
    else if device.takesLadder args then harmless
    else dropFlag args
  else if device.vlanUntaggedFlag = "-m untagged".toList then untagged args
  else args

/-- Rules (8), (1) and (2). -/
def memberAdd (args : Text) : Text :=
  if startsWith "vlan member add".toList args then
    if device.goesHome args then harmless
    else
      let args := if device.isSwitchportOs && !untaggedIntent args then tagged args else args
      if hasFlag args then device.memberFlag args else args
  else args

/-- Rule (9). -/
def memberDel (args : Text) : Text :=
  if startsWith "vlan member del".toList args && device.isSwitchportOs && device.stpLocked then
    let toks := positionals args
    match toks with
    | vid :: _ :: _ =>
        let port := toks.getLast?.getD []
        if isDigit vid && vid ≠ "1".toList && startsWith "Ethernet".toList port &&
            multiVlan ((device.linkMode port).getD []) then harmless
        else args
    | _ => args
  else args

/-- `_fixup`. -/
def fixup (args : Text) : Text :=
  let args := device.ipRemove args
  let args := device.mirrorRemove args
  let args := device.spanAdd args
  let args := device.aclTable args
  device.memberDel (device.memberAdd args)

end Device

end OnboxFvt.Cli
