import OnboxFvt.Cli.Nesting

/-!
# A device whose answers stay the same

Where the host answers every probe and every read as a `Device` does, and the caches
hold nothing else, `_fixup` at work returns the text of `Device.fixup`, whatever it runs
on the way.
-/

namespace OnboxFvt.Cli

open Python Library Program

variable {World : Type} {host : Host World} {device : Device}

namespace Host

variable (host)

/-- The host may answer a command like this. -/
def Answers (cmd : Text) (result : Result) : Prop :=
  ∃ world, (host.run cmd world).1 = some result

/-- The host may answer a read like this. -/
def Reads (key : Text) (row : Text → Option Text) : Prop :=
  ∃ world, (host.hgetall key world).1 = some row

/-- Every answer of the host is that of the device. -/
structure Tells (device : Device) : Prop where
  isSwitchportOs : ∀ h, host.Answers "config interface link-mode --help".toList h →
    (contains "bridge".toList h.out && contains "route".toList h.out) = device.isSwitchportOs
  stpLocked : ∀ row, host.Reads "STP|GLOBAL".toList row →
    decide (row "enabled".toList = some "enable".toList) = device.stpLocked
  aclTableCli : ∀ r, host.Answers "config acl-table add --help".toList r →
    (decide (r.rc = 0) && contains "acl".toList (lower r.out)) = device.aclTableCli
  spanDirOpt : ∀ h, host.Answers "config mirror_session span add --help".toList h →
    contains "--direction".toList h.out = device.spanDirOpt
  mirrorDelCli : ∀ d rm, host.Answers "config mirror_session del --help".toList d →
    host.Answers "config mirror_session remove --help".toList rm →
      (decide (d.rc = 0) && decide (rm.rc ≠ 0)) = device.mirrorDelCli
  ipDelCli : ∀ d rm, host.Answers "config interface ip del --help".toList d →
    host.Answers "config interface ip remove --help".toList rm →
      (decide (d.rc = 0) && decide (rm.rc ≠ 0)) = device.ipDelCli
  memberAddHelp : ∀ h, host.Answers "config vlan member add --help".toList h →
    h.out = device.memberAddHelp
  linkMode : ∀ name row, host.Reads ("PORT|".toList ++ name) row →
    row "link_mode".toList = device.linkMode name

/-- A host that answers everything with nothing. -/
example : (⟨fun _ world => (some ⟨0, []⟩, world), fun _ world => (some [], world),
    fun _ world => (some fun _ => none, world)⟩ : Host Unit).Tells
      { ipDelCli := false, mirrorDelCli := false, spanDirOpt := false, aclTableCli := false,
        isSwitchportOs := false, stpLocked := false, linkMode := fun _ => none,
        memberAddHelp := [] } := by
  constructor
  case mirrorDelCli | ipDelCli =>
    rintro _ _ ⟨_, ⟨⟩⟩ ⟨_, ⟨⟩⟩
    rfl
  case linkMode =>
    rintro _ _ ⟨_, ⟨⟩⟩
    rfl
  all_goals
    rintro _ ⟨_, ⟨⟩⟩
    rfl

end Host

/-- The command line for a command that `_fixup` looks at. -/
def Device.line (device : Device) (args : Text) : Text :=
  (if startsWith "interface ip add".toList args then "echo y | ".toList else []) ++
    ("config ".toList ++ device.fixup args)

/-- The caches hold nothing but what the device answers. -/
structure Device.Caches (device : Device) (attributes : Attributes) : Prop where
  isSwpOs : ∀ os, attributes.isSwpOs = some os → os = device.isSwitchportOs
  stplock : ∀ locked, attributes.stplock = some locked → locked = device.stpLocked
  aclTbl : ∀ cli, attributes.aclTbl = some cli → cli = device.aclTableCli
  spandir : ∀ option, attributes.spandir = some option → option = device.spanDirOpt
  mirdel : ∀ del, attributes.mirdel = some del → del = device.mirrorDelCli
  ipdel : ∀ del, attributes.ipdel = some del → del = device.ipDelCli
  vmFlag : ∀ flag, attributes.vmFlag = some flag → device.isSwitchportOs = false →
    flag = device.vlanUntaggedFlag

/-- Those of a new object hold nothing. -/
theorem Device.caches_new (device : Device) : device.Caches {} :=
  ⟨nofun, nofun, nofun, nofun, nofun, nofun, nofun⟩

namespace Host

section Reading

variable {known : Attributes → Prop}

theorem answered_shRun (cmd : Text) (check : Bool) :
    Agree (fun reason _ => reason ≠ .tooDeep) (Knows known) (host.shRun cmd check)
      (host.shRun cmd check) fun result state => host.Answers cmd result ∧ Knows known state := by
  intro state here
  refine ⟨rfl, ?_⟩
  rw [shRun]
  rcases answered : host.run cmd state.world with ⟨_ | result, world⟩
  · exact Stop.noConfusion
  · dsimp only
    split
    · exact Stop.noConfusion
    · exact ⟨⟨state.world, congrArg Prod.fst answered⟩, here⟩

theorem answered_dbHgetall (key : Text) :
    Agree (fun reason _ => reason ≠ .tooDeep) (Knows known) (host.dbHgetall key)
      (host.dbHgetall key) fun row state => host.Reads key row ∧ Knows known state := by
  intro state here
  refine ⟨rfl, ?_⟩
  rw [dbHgetall]
  rcases answered : host.hgetall key state.world with ⟨_ | row, world⟩
  · exact Stop.noConfusion
  · exact ⟨⟨state.world, congrArg Prod.fst answered⟩, here⟩

theorem returns_cached {Value : Type} {answer : Value} {read : Attributes → Option Value}
    {write : Value → Attributes → Attributes} {probe : Action World Value}
    (hit : ∀ self, known self → ∀ value, read self = some value → value = answer)
    (kept : ∀ self, known self → known (write answer self))
    (probes : Returns known answer probe probe) :
    Returns known answer (cached read write probe) (cached read write probe) := by
  have views : Agree (fun reason _ => reason ≠ Stop.tooDeep) (Knows known)
      (view fun state => read state.self) (view fun state => read state.self)
      fun value (state : State World) =>
        (∀ found, value = some found → found = answer) ∧ Knows known state :=
    Agree.view fun state here => ⟨hit state.self here, here⟩
  refine Agree.bind views fun value => ?_
  cases value with
  | some value => exact Agree.pure fun _ here => ⟨here.1 value rfl, here.2⟩
  | none =>
      have sets : Steady known (setSelf (write answer) : Action World Unit)
          (setSelf (write answer)) :=
        Agree.update fun state here => kept state.self here
      refine Agree.weaken ?_ (fun _ here => here.2) fun _ _ ends => ends
      exact Returns.bind probes (Agree.bind sets fun _ => Agree.pure fun _ here => ⟨rfl, here⟩)

end Reading

/-! ## Probes -/

section Probes

variable (tells : host.Tells device)

include tells

theorem returns_stpLocked :
    Returns device.Caches device.stpLocked host.stpLocked host.stpLocked := by
  refine returns_cached (fun _ here => here.stplock) (fun _ here => ?_) ?_
  · exact { here with stplock := fun _ same => (Option.some.inj same).symm }
  · refine Agree.bind (answered_dbHgetall _) fun row => Agree.pure fun _ here => ?_
    exact ⟨tells.stpLocked row here.1, here.2⟩

theorem returns_aclTableCli :
    Returns device.Caches device.aclTableCli host.aclTableCli host.aclTableCli := by
  refine returns_cached (fun _ here => here.aclTbl) (fun _ here => ?_) ?_
  · exact { here with aclTbl := fun _ same => (Option.some.inj same).symm }
  · refine Agree.bind (answered_shRun _ _) fun r => Agree.pure fun _ here => ?_
    exact ⟨tells.aclTableCli r here.1, here.2⟩

theorem returns_spanDirOpt :
    Returns device.Caches device.spanDirOpt host.spanDirOpt host.spanDirOpt := by
  refine returns_cached (fun _ here => here.spandir) (fun _ here => ?_) ?_
  · exact { here with spandir := fun _ same => (Option.some.inj same).symm }
  · refine Agree.bind (answered_shRun _ _) fun h => Agree.pure fun _ here => ?_
    exact ⟨tells.spanDirOpt h here.1, here.2⟩

theorem returns_mirrorDelCli :
    Returns device.Caches device.mirrorDelCli host.mirrorDelCli host.mirrorDelCli := by
  refine returns_cached (fun _ here => here.mirdel) (fun _ here => ?_) ?_
  · exact { here with mirdel := fun _ same => (Option.some.inj same).symm }
  · refine Agree.bind_knowing (answered_shRun _ _) fun d del => ?_
    refine Agree.bind (answered_shRun _ _) fun rm => Agree.pure fun _ here => ?_
    exact ⟨tells.mirrorDelCli d rm del here.1, here.2⟩

theorem returns_ipDelCli :
    Returns device.Caches device.ipDelCli host.ipDelCli host.ipDelCli := by
  refine returns_cached (fun _ here => here.ipdel) (fun _ here => ?_) ?_
  · exact { here with ipdel := fun _ same => (Option.some.inj same).symm }
  · refine Agree.bind_knowing (answered_shRun _ _) fun d del => ?_
    refine Agree.bind (answered_shRun _ _) fun rm => Agree.pure fun _ here => ?_
    exact ⟨tells.ipDelCli d rm del here.1, here.2⟩

theorem returns_isSwitchportOs_direct :
    Returns device.Caches device.isSwitchportOs (isSwitchportOs host.direct)
      (isSwitchportOs host.direct) := by
  refine returns_cached (fun _ here => here.isSwpOs) (fun _ here => ?_) ?_
  · exact { here with isSwpOs := fun _ same => (Option.some.inj same).symm }
  · refine Agree.bind (answered_shRun _ _) fun h => Agree.pure fun _ here => ?_
    exact ⟨tells.isSwitchportOs h here.1, here.2⟩

theorem returns_vlanUntaggedFlag_direct :
    Returns device.Caches device.vlanUntaggedFlag (vlanUntaggedFlag host.direct)
      (vlanUntaggedFlag host.direct) := by
  refine Returns.bind (returns_isSwitchportOs_direct tells) ?_
  cases os : device.isSwitchportOs with
  | true =>
      refine Agree.pure fun _ here => ⟨?_, here⟩
      rw [Device.vlanUntaggedFlag, os]
      rfl
  | false =>
      have hit (self : Attributes) (here : device.Caches self) (flag : Text)
          (found : self.vmFlag = some flag) : flag = device.vlanUntaggedFlag :=
        here.vmFlag flag found os
      refine returns_cached hit (fun _ here => ?_) ?_
      · exact { here with vmFlag := fun _ same _ => (Option.some.inj same).symm }
      · refine Agree.bind (answered_shRun _ _) fun h => Agree.pure fun _ here => ⟨?_, here.2⟩
        rw [Device.vlanUntaggedFlag, os, ← tells.memberAddHelp h here.1]
        rfl

theorem lasting_caches : Lasting host device.Caches where
  bridged _ _ here := { here with }
  stpLocked := (returns_stpLocked tells).steady
  aclTableCli := (returns_aclTableCli tells).steady
  spanDirOpt := (returns_spanDirOpt tells).steady
  mirrorDelCli := (returns_mirrorDelCli tells).steady
  ipDelCli := (returns_ipDelCli tells).steady
  isSwitchportOs := (returns_isSwitchportOs_direct tells).steady
  vlanUntaggedFlag := (returns_vlanUntaggedFlag_direct tells).steady

end Probes

/-! ## Rules -/

section Rules

variable (tells : host.Tells device) {call : Text → Bool → Action World Result} (args : Text)

include tells

omit tells in
/-- A rule that looks for a text and asks a probe. -/
theorem returns_asking {known : Attributes → Prop} {answer : Bool} {probe : Action World Bool}
    (asks : Returns known answer probe probe) (head out : Text) :
    Returns known (if startsWith head args && answer then out else args)
      (if startsWith head args then do
        if ← probe then pure out else pure args
      else pure args)
      (if startsWith head args then do
        if ← probe then pure out else pure args
      else pure args) := by
  refine Agree.ite (fun here => ?_) fun other => ?_
  · rw [here, Bool.true_and]
    refine Returns.bind asks (Agree.ite (fun yes => ?_) fun no => ?_)
    · exact Agree.pure fun _ known => ⟨(if_pos yes).symm, known⟩
    · exact Agree.pure fun _ known => ⟨(if_neg no).symm, known⟩
  · rw [eq_false_of_ne_true other]
    exact Agree.pure fun _ known => ⟨rfl, known⟩

theorem returns_ipRemove :
    Returns device.Caches (device.ipRemove args) (host.ipRemove args) (host.ipRemove args) :=
  returns_asking args (returns_ipDelCli tells) _ _

theorem returns_mirrorRemove :
    Returns device.Caches (device.mirrorRemove args) (host.mirrorRemove args)
      (host.mirrorRemove args) :=
  returns_asking args (returns_mirrorDelCli tells) _ _

theorem returns_spanAdd :
    Returns device.Caches (device.spanAdd args) (host.spanAdd args) (host.spanAdd args) :=
  returns_asking args (returns_spanDirOpt tells) _ (directionOption args)

theorem returns_aclTable :
    Returns device.Caches (device.aclTable args) (host.aclTable args) (host.aclTable args) := by
  unfold aclTable Device.aclTable
  cases startsWith "acl add table".toList args with
  | true =>
      refine Returns.bind (returns_aclTableCli tells) ?_
      cases device.aclTableCli with
      | false => exact Agree.pure fun _ here => ⟨by simp, here⟩
      | true => exact Agree.pure fun _ here => ⟨rfl, here⟩
  | false =>
      cases startsWith "acl remove table".toList args with
      | false => exact Agree.pure fun _ here => ⟨rfl, here⟩
      | true =>
          refine Returns.bind (returns_aclTableCli tells) ?_
          cases device.aclTableCli with
          | false => exact Agree.pure fun _ here => ⟨rfl, here⟩
          | true =>
              cases (split args).drop 3 with
              | nil => exact Agree.pure fun _ here => ⟨rfl, here⟩
              | cons name rest => exact Agree.pure fun _ here => ⟨rfl, here⟩

theorem returns_portFlag (os : device.isSwitchportOs = true) :
    Returns device.Caches (device.memberFlag args) (host.portFlag args) (host.portFlag args) := by
  have mode : device.memberMode args = (device.linkMode (memberPort args)).getD [] := rfl
  unfold Device.memberFlag
  rw [os, if_pos rfl, mode]
  refine Agree.bind_knowing (answered_dbHgetall _) fun row reads => ?_
  rw [tells.linkMode _ row reads]
  cases multiVlan ((device.linkMode (memberPort args)).getD []) with
  | true => exact Agree.pure fun _ here => ⟨rfl, here⟩
  | false =>
      refine Returns.bind (returns_stpLocked tells) ?_
      unfold Device.takesLadder
      cases positionals args with
      | nil => exact Agree.pure fun _ here => ⟨by simp, here⟩
      | cons vid rest =>
          simp only [List.head?_cons, Option.map_some, Option.getD_some, Bool.false_eq_true,
            if_false]
          refine Agree.ite (fun ladder => ?_) fun flat => ?_
          · exact Agree.bind (steady_hybridLadderAdd (lasting_caches tells) vid _) fun _ =>
              Agree.pure fun _ here => ⟨(if_pos ladder).symm, here⟩
          · exact Agree.pure fun _ here => ⟨(if_neg flat).symm, here⟩

theorem returns_ladderDel (os : device.isSwitchportOs = true) (locked : device.stpLocked = true)
    (here : startsWith "vlan member del".toList args = true) :
    Returns device.Caches (device.memberDel args) (host.ladderDel args) (host.ladderDel args) := by
  unfold ladderDel Device.memberDel
  rw [here, os, locked]
  rcases positionals args with _ | ⟨vid, _ | ⟨second, rest⟩⟩
  · exact Agree.pure fun _ here => ⟨rfl, here⟩
  · exact Agree.pure fun _ here => ⟨rfl, here⟩
  simp only [Bool.and_self, if_true, List.getLast?_cons_cons]
  refine Agree.ite (fun vlan => ?_) fun other => ?_
  · rw [vlan, Bool.true_and]
    refine Agree.bind_knowing (answered_dbHgetall _) fun row reads => ?_
    rw [tells.linkMode _ row reads]
    refine Agree.ite (fun multi => ?_) fun single => ?_
    · exact Agree.bind (steady_hybridLadderDel (lasting_caches tells) vid _) fun _ =>
        Agree.pure fun _ here => ⟨(if_pos multi).symm, here⟩
    · exact Agree.pure fun _ here => ⟨(if_neg single).symm, here⟩
  · rw [eq_false_of_ne_true other]
    exact Agree.pure fun _ here => ⟨rfl, here⟩

variable (inner : Inner host call call)

include inner

/-- Whether this is the switchport OS is known from the question on. -/
theorem Tells.bind {Value : Type} {rest : Bool → Action World Value} {answer : Value}
    (continues : Agree (fun reason _ => reason ≠ .tooDeep)
      (Knows fun self => device.Caches self ∧ self.isSwpOs = some device.isSwitchportOs)
      (rest device.isSwitchportOs) (rest device.isSwitchportOs)
      fun out state => out = answer ∧ Knows device.Caches state) :
    Returns device.Caches answer (Host.isSwitchportOs call >>= rest)
      (Host.isSwitchportOs call >>= rest) := by
  have learns := (lasting_caches tells).learns inner.reaches inner.reaches
  refine Agree.bind learns fun os state here => ?_
  obtain rfl := here.1.isSwpOs os here.2
  exact continues state here

theorem returns_goesHome :
    Returns device.Caches (device.goesHome args) (host.goesHome call args)
      (host.goesHome call args) := by
  unfold goesHome Device.goesHome
  by_cases first : ((split args).filter isDigit).head? = some "1".toList
  · rw [if_pos first, decide_eq_true first, Bool.true_and]
    refine tells.bind inner ?_
    cases device.isSwitchportOs with
    | false => exact Agree.pure fun _ here => ⟨rfl, here.1⟩
    | true =>
        rw [if_pos rfl, Bool.true_and]
        refine Agree.ite (fun physical => ?_) fun other => ?_
        · rw [physical]
          have settled := (lasting_caches tells).settled true
          refine Agree.bind (steady_dbHgetall _) fun row => ?_
          refine Agree.bind (steady_dbKeys _) fun home => ?_
          refine Agree.ite (fun _ => Agree.pure fun _ here => ⟨rfl, here.1⟩) fun _ => ?_
          exact Agree.bind (steady_restoreBridgeHome settled inner _) fun _ =>
            Agree.pure fun _ here => ⟨rfl, here.1⟩
        · exact Agree.pure fun _ here => ⟨(eq_false_of_ne_true other).symm, here.1⟩
  · rw [if_neg first, decide_eq_false first]
    exact Agree.pure fun _ here => ⟨rfl, here⟩

theorem returns_memberMode :
    Returns device.Caches
      (if device.isSwitchportOs && !untaggedIntent args then tagged args else args)
      (host.memberMode call args) (host.memberMode call args) := by
  refine tells.bind inner ?_
  cases device.isSwitchportOs with
  | false => exact Agree.pure fun _ here => ⟨rfl, here.1⟩
  | true =>
      have member := returns_switchportMember ((lasting_caches tells).settled true) inner args
      refine Agree.weaken member (fun _ here => here) fun out _ ends => ⟨?_, ends.2.1⟩
      rw [ends.1]
      cases untaggedIntent args <;> rfl

theorem returns_memberFlag :
    Returns device.Caches (if hasFlag args then device.memberFlag args else args)
      (host.memberFlag call args) (host.memberFlag call args) := by
  refine Agree.ite (fun flagged => ?_) fun plain => ?_
  · rw [if_pos flagged]
    refine tells.bind inner (Agree.weaken ?_ (fun _ here => And.left here) fun _ _ ends => ends)
    cases os : device.isSwitchportOs with
    | true => exact returns_portFlag tells args os
    | false =>
        rw [if_neg Bool.false_ne_true, inner.reaches.vlanUntaggedFlag]
        refine Returns.bind (returns_vlanUntaggedFlag_direct tells) ?_
        unfold Device.memberFlag
        rw [os, if_neg Bool.false_ne_true]
        exact Agree.pure fun _ here => ⟨rfl, here⟩
  · exact Agree.pure fun _ here => ⟨(if_neg plain).symm, here⟩

theorem returns_memberAdd :
    Returns device.Caches (device.memberAdd args) (host.memberAdd call args)
      (host.memberAdd call args) := by
  unfold memberAdd Device.memberAdd
  cases startsWith "vlan member add".toList args with
  | false => exact Agree.pure fun _ here => ⟨rfl, here⟩
  | true =>
      refine Returns.bind (returns_goesHome tells args inner) ?_
      cases device.goesHome args with
      | true => exact Agree.pure fun _ here => ⟨rfl, here⟩
      | false =>
          refine Returns.bind (returns_memberMode tells args inner) ?_
          exact returns_memberFlag tells _ inner

theorem returns_memberDel :
    Returns device.Caches (device.memberDel args) (host.memberDel call args)
      (host.memberDel call args) := by
  refine Agree.ite (fun here => ?_) fun other => ?_
  · refine tells.bind inner (Agree.weaken ?_ (fun _ here => And.left here) fun _ _ ends => ends)
    cases os : device.isSwitchportOs with
    | false =>
        refine Agree.pure fun _ known => ⟨?_, known⟩
        rw [Device.memberDel, here, os]
        rfl
    | true =>
        refine Returns.bind (returns_stpLocked tells) ?_
        cases locked : device.stpLocked with
        | false =>
            refine Agree.pure fun _ known => ⟨?_, known⟩
            rw [Device.memberDel, here, os, locked]
            rfl
        | true => exact returns_ladderDel tells args os locked here
  · refine Agree.pure fun _ known => ⟨?_, known⟩
    rw [Device.memberDel, eq_false_of_ne_true other]
    rfl

/-- `_fixup` at work returns the text of `Device.fixup`. -/
theorem returns_fixup :
    Returns device.Caches (device.fixup args) (host.fixup call args) (host.fixup call args) := by
  refine Agree.bind (steady_routeFirst (lasting_caches tells) inner args) fun _ => ?_
  refine Returns.bind (returns_ipRemove tells args) ?_
  refine Returns.bind (returns_mirrorRemove tells _) ?_
  refine Returns.bind (returns_spanAdd tells _) ?_
  refine Returns.bind (returns_aclTable tells _) ?_
  exact Returns.bind (returns_memberAdd tells _ inner) (returns_memberDel tells _ inner)

end Rules

theorem returns_cmdline (tells : host.Tells device) (depth : Nat) {args : Text}
    (plain : startsWith "__toplevel__ ".toList args = false) :
    Returns device.Caches (device.line args) (host.cmdline (host.configAt (depth + 1)) args)
      (host.cmdline (host.configAt (depth + 1)) args) := by
  rw [cmdline, plain, if_neg Bool.false_ne_true]
  refine Returns.bind (returns_fixup tells args (inner_configAt depth depth)) ?_
  refine Agree.pure fun _ here => ⟨?_, here⟩
  unfold Device.line
  split <;> rfl

/-- What a new `Cli` object sends to such a device, unless something raises on the way, is
the text of `Device.fixup`. -/
theorem cmdline_new (tells : host.Tells device) (depth : Nat) {args cmd : Text}
    (plain : startsWith "__toplevel__ ".toList args = false) {world : World} {state : State World}
    (sent : host.cmdline (host.configAt (depth + 1)) args ⟨world, {}⟩ = (.ok cmd, state)) :
    cmd = device.line args := by
  have ends := (returns_cmdline tells depth plain ⟨world, {}⟩ device.caches_new).2
  rw [sent] at ends
  exact ends.1

end Host

end OnboxFvt.Cli
