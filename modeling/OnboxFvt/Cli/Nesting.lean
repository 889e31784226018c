import OnboxFvt.Cli.Issued

/-!
# How deep the activations nest

A command that `_fixup` issues on the way asks for nothing further: its text does not
begin with one of the commands whose rules issue commands, except for the help of
`vlan member add`, and whether this is the switchport OS is known by then.  On the way
a command keeps what its probes keep and what does not depend on the bridged ports.
-/

namespace OnboxFvt.Cli

open Python Library Program

/-- The commands that are issued on the way, the help of `vlan member add` apart. -/
def Issued (args : Text) : Prop :=
  Plain args ∨ startsWith "vlan member del".toList args = true ∨
    startsWith "interface ip remove".toList args = true

namespace Host

variable {World : Type} {host : Host World} {Value : Type}

/-- What is known of the attributes. -/
def Knows (known : Attributes → Prop) (state : State World) : Prop :=
  known state.self

/-- Both programs do the same, find room, and leave what is known. -/
abbrev Steady (known : Attributes → Prop) (first second : Action World Value) : Prop :=
  Agree (fun reason _ => reason ≠ .tooDeep) (Knows known) first second fun _ => Knows known

/-- Both programs return this answer as well. -/
abbrev Returns (known : Attributes → Prop) (answer : Value) (first second : Action World Value) :
    Prop :=
  Agree (fun reason _ => reason ≠ .tooDeep) (Knows known) first second fun value state =>
    value = answer ∧ Knows known state

variable (host) in
/-- Calls that no rule looks at. -/
def direct (args : Text) (check : Bool) : Action World Result :=
  host.shRun ("config ".toList ++ args) check

section Primitive

variable {known known' : Attributes → Prop}

theorem Returns.bind {Other : Type} {answer : Other} {start start' : Action World Other}
    {rest rest' : Other → Action World Value} {after : Value → State World → Prop}
    (returns : Returns known answer start start')
    (continues : Agree (fun reason _ => reason ≠ .tooDeep) (Knows known) (rest answer)
      (rest' answer) after) :
    Agree (fun reason _ => reason ≠ .tooDeep) (Knows known) (start >>= rest) (start' >>= rest')
      after :=
  Agree.bind_knowing returns fun _ same => same ▸ continues

theorem Returns.steady {answer : Value} {first second : Action World Value}
    (returns : Returns known answer first second) : Steady known first second :=
  returns.weaken (fun _ here => here) fun _ _ ends => ends.2

theorem Steady.and {first second : Action World Value} (steady : Steady known first second)
    (steady' : Steady known' first second) :
    Steady (fun self => known self ∧ known' self) first second :=
  (Agree.weaken steady (fun _ here => here.1) fun _ _ ends => ends).and
    (Agree.weaken steady' (fun _ here => here.2) fun _ _ ends => ends)

theorem steady_shRun (cmd : Text) (check : Bool) :
    Steady known (host.shRun cmd check) (host.shRun cmd check) := by
  intro state here
  refine ⟨rfl, ?_⟩
  rw [shRun]
  split
  · split
    · exact Stop.noConfusion
    · exact here
  · exact Stop.noConfusion

theorem steady_dbKeys (pattern : Text) :
    Steady known (host.dbKeys pattern) (host.dbKeys pattern) := by
  intro state here
  refine ⟨rfl, ?_⟩
  rw [dbKeys]
  split
  · exact here
  · exact Stop.noConfusion

theorem steady_dbHgetall (key : Text) :
    Steady known (host.dbHgetall key) (host.dbHgetall key) := by
  intro state here
  refine ⟨rfl, ?_⟩
  rw [dbHgetall]
  split
  · exact here
  · exact Stop.noConfusion

theorem steady_pure (value : Value) :
    Steady known (pure value : Action World Value) (pure value) :=
  Agree.pure fun _ here => here

theorem steady_view (part : State World → Value) :
    Steady known (view part : Action World Value) (view part) :=
  Agree.view fun _ here => here

theorem steady_cached {read : Attributes → Option Value}
    {write : Value → Attributes → Attributes} {probe probe' : Action World Value}
    (kept : ∀ value self, known self → known (write value self))
    (probes : Steady known probe probe') :
    Steady known (cached read write probe) (cached read write probe') := by
  refine Agree.bind (steady_view _) fun value => ?_
  cases value with
  | some value => exact steady_pure value
  | none =>
      refine Agree.bind probes fun value => ?_
      have sets : Steady known (setSelf (write value) : Action World Unit)
          (setSelf (write value)) :=
        Agree.update fun state here => kept value state.self here
      exact Agree.bind sets fun _ => steady_pure value

theorem steady_poll {question question' : Action World Bool}
    (asks : Steady known question question') (times : Nat) :
    Steady known (poll question times) (poll question' times) := by
  have asks' : Agree (fun reason _ => reason ≠ Stop.tooDeep) (Knows known) question question'
      fun answer state => Knows known state ∧ (answer = true → True) :=
    asks.weaken (fun _ here => here) fun _ _ ends => ⟨ends, fun _ => trivial⟩
  exact (Agree.poll asks' times).weaken (fun _ here => here) fun _ _ ends => ends.1

end Primitive

/-! ## What outlasts a command -/

/-- Kept by the probes, and by a change of the bridged ports. -/
structure Lasting (host : Host World) (known : Attributes → Prop) : Prop where
  bridged : ∀ self ports, known self → known { self with bridged := ports }
  stpLocked : Steady known host.stpLocked host.stpLocked
  aclTableCli : Steady known host.aclTableCli host.aclTableCli
  spanDirOpt : Steady known host.spanDirOpt host.spanDirOpt
  mirrorDelCli : Steady known host.mirrorDelCli host.mirrorDelCli
  ipDelCli : Steady known host.ipDelCli host.ipDelCli
  isSwitchportOs : Steady known (isSwitchportOs host.direct) (isSwitchportOs host.direct)
  vlanUntaggedFlag : Steady known (vlanUntaggedFlag host.direct) (vlanUntaggedFlag host.direct)

/-- The OS is known as well. -/
structure Settled (host : Host World) (known : Attributes → Prop) (os : Bool) : Prop
    extends Lasting host known where
  known_os : ∀ self, known self → self.isSwpOs = some os

section Lasting

variable {known known' : Attributes → Prop}

theorem Lasting.and (lasting : Lasting host known) (lasting' : Lasting host known') :
    Lasting host fun self => known self ∧ known' self where
  bridged self ports here := ⟨lasting.bridged self ports here.1, lasting'.bridged self ports here.2⟩
  stpLocked := Steady.and lasting.stpLocked lasting'.stpLocked
  aclTableCli := Steady.and lasting.aclTableCli lasting'.aclTableCli
  spanDirOpt := Steady.and lasting.spanDirOpt lasting'.spanDirOpt
  mirrorDelCli := Steady.and lasting.mirrorDelCli lasting'.mirrorDelCli
  ipDelCli := Steady.and lasting.ipDelCli lasting'.ipDelCli
  isSwitchportOs := Steady.and lasting.isSwitchportOs lasting'.isSwitchportOs
  vlanUntaggedFlag := Steady.and lasting.vlanUntaggedFlag lasting'.vlanUntaggedFlag

/-- What only depends on the attribute of the OS outlasts a command if the probe for the
OS keeps it. -/
theorem lasting_os {os : Option Bool → Prop}
    (asks : Steady (fun self => os self.isSwpOs) (isSwitchportOs host.direct)
      (isSwitchportOs host.direct)) :
    Lasting host fun self => os self.isSwpOs where
  bridged _ _ here := here
  stpLocked :=
    steady_cached (fun _ _ here => here) (Agree.bind (steady_dbHgetall _) fun _ => steady_pure _)
  aclTableCli :=
    steady_cached (fun _ _ here => here) (Agree.bind (steady_shRun _ _) fun _ => steady_pure _)
  spanDirOpt :=
    steady_cached (fun _ _ here => here) (Agree.bind (steady_shRun _ _) fun _ => steady_pure _)
  mirrorDelCli := steady_cached (fun _ _ here => here) <| Agree.bind (steady_shRun _ _) fun _ =>
    Agree.bind (steady_shRun _ _) fun _ => steady_pure _
  ipDelCli := steady_cached (fun _ _ here => here) <| Agree.bind (steady_shRun _ _) fun _ =>
    Agree.bind (steady_shRun _ _) fun _ => steady_pure _
  isSwitchportOs := asks
  vlanUntaggedFlag := Agree.bind asks fun _ => Agree.ite (fun _ => steady_pure _) fun _ =>
    steady_cached (fun _ _ here => here) (Agree.bind (steady_shRun _ _) fun _ => steady_pure _)

/-- Once the OS is known the command that asks for it is not issued. -/
theorem isSwitchportOs_known {os : Bool} {call : Text → Bool → Action World Result}
    {state : State World} (here : state.self.isSwpOs = some os) :
    isSwitchportOs call state = (.ok os, state) := by
  simp only [isSwitchportOs, cached, Bind.bind, view]
  rw [here]
  rfl

theorem returns_isSwitchportOs {os : Bool} (settled : ∀ self, known self → self.isSwpOs = some os)
    {call wider : Text → Bool → Action World Result} :
    Returns known os (isSwitchportOs call) (isSwitchportOs wider) := by
  intro state here
  have found := settled state.self here
  rw [isSwitchportOs_known found, isSwitchportOs_known found]
  exact ⟨rfl, rfl, here⟩

theorem lasting_any : Lasting host fun _ => True :=
  @lasting_os World host (fun _ => True) <|
    steady_cached (fun _ _ here => here) (Agree.bind (steady_shRun _ _) fun _ => steady_pure _)

theorem settled_os (os : Bool) : Settled host (·.isSwpOs = some os) os where
  toLasting := @lasting_os World host (· = some os)
    (returns_isSwitchportOs fun _ here => here).steady
  known_os _ here := here

theorem Lasting.settled (lasting : Lasting host known) (os : Bool) :
    Settled host (fun self => known self ∧ self.isSwpOs = some os) os where
  toLasting := lasting.and (settled_os os).toLasting
  known_os _ here := here.2

/-- After the OS is asked for it is known. -/
theorem isSwitchportOs_learns :
    Agree (fun reason _ => reason ≠ .tooDeep) (Knows fun _ => True)
      (isSwitchportOs host.direct) (isSwitchportOs host.direct) fun value =>
        Knows (·.isSwpOs = some value) := by
  have viewed : Agree (fun reason _ => reason ≠ Stop.tooDeep) (fun _ : State World => True)
      (view fun state => state.self.isSwpOs) (view fun state => state.self.isSwpOs)
      fun value => Knows (·.isSwpOs = value) :=
    Agree.view fun _ _ => rfl
  refine Agree.bind viewed fun value => ?_
  cases value with
  | some value => exact Agree.pure fun _ here => here
  | none =>
      have set (value : Bool) : Agree (fun reason _ => reason ≠ Stop.tooDeep)
          (fun _ : State World => True)
          (setSelf fun self => { self with isSwpOs := some value })
          (setSelf fun self => { self with isSwpOs := some value })
          fun _ => Knows (·.isSwpOs = some value) :=
        Agree.update fun _ _ => rfl
      have probed : Agree (fun reason _ => reason ≠ Stop.tooDeep) (Knows (·.isSwpOs = none))
          (askSwitchportOs host.direct) (askSwitchportOs host.direct) fun _ _ => True :=
        Agree.bind (steady_shRun _ _) fun _ => Agree.pure fun _ _ => trivial
      exact Agree.bind probed fun value => Agree.bind (set value) fun _ =>
        Agree.pure fun _ here => here

end Lasting

/-! ## What issues no command again -/

section Ladder

variable {known : Attributes → Prop}

theorem steady_isPortL2 (name : Text) : Steady known (host.isPortL2 name) (host.isPortL2 name) := by
  refine Agree.bind (steady_dbKeys _) fun home => Agree.ite (fun _ => ?_) fun _ => steady_pure _
  refine Agree.bind (steady_dbHgetall _) fun pm => Agree.ite (fun _ => ?_) fun _ => steady_pure _
  exact Agree.bind (steady_dbKeys _) fun _ => steady_pure _

theorem steady_movePvid (pname : Text) (others : List Text) :
    Steady known (host.movePvid pname others) (host.movePvid pname others) := by
  cases others with
  | nil => exact steady_pure _
  | cons vlan others => exact Agree.bind (steady_shRun _ _) fun _ => steady_pure _

variable (lasting : Lasting host known)

include lasting

theorem steady_discard (name : Text) :
    Steady known (discard name : Action World Unit) (discard name) :=
  Agree.update fun state here => lasting.bridged state.self _ here

theorem steady_addBridged (name : Text) :
    Steady known (addBridged name : Action World Unit) (addBridged name) :=
  Agree.update fun state here => lasting.bridged state.self _ here

theorem steady_hybridLadderAdd (vid pname : Text) :
    Steady known (host.hybridLadderAdd vid pname) (host.hybridLadderAdd vid pname) := by
  refine Agree.bind (steady_shRun _ _) fun _ => Agree.bind (steady_discard lasting _) fun _ => ?_
  refine Agree.bind (steady_shRun _ _) fun _ => Agree.bind (steady_poll ?_ 5) fun ok => ?_
  · exact Agree.bind (steady_dbKeys _) fun _ => steady_pure _
  · refine Agree.ite (fun _ => ?_) fun _ => steady_pure _
    refine Agree.bind (steady_shRun _ _) fun _ => steady_poll ?_ 5
    exact Agree.bind (steady_dbHgetall _) fun _ => steady_pure _

theorem steady_hybridLadderDel (vid pname : Text) :
    Steady known (host.hybridLadderDel vid pname) (host.hybridLadderDel vid pname) := by
  refine Agree.bind (steady_dbKeys _) fun keys => ?_
  cases otherVlans vid keys with
  | none => exact Agree.stop fun _ _ => Stop.noConfusion
  | some others =>
      refine Agree.bind (steady_movePvid _ _) fun _ => Agree.bind (steady_shRun _ _) fun _ => ?_
      refine Agree.bind (steady_poll ?_ 5) fun _ => Agree.bind (steady_shRun _ _) fun _ =>
        steady_discard lasting _
      exact Agree.bind (steady_dbKeys _) fun _ => steady_pure _

end Ladder

/-! ## The commands issued on the way -/

/-- The calls of the probes reach the device as they are. -/
structure Reaches (host : Host World) (call : Text → Bool → Action World Result) : Prop where
  linkMode : call "interface link-mode --help".toList false =
    host.direct "interface link-mode --help".toList false
  help : ∀ state, state.self.isSwpOs = some false →
    call "vlan member add --help".toList false state =
      host.direct "vlan member add --help".toList false state

/-- Calls one activation further in, on the commands that are issued there. -/
structure Inner (host : Host World) (call wider : Text → Bool → Action World Result) : Prop where
  reaches : Reaches host call
  reaches' : Reaches host wider
  issued : ∀ known os, Settled host known os → ∀ args, Issued args →
    Steady known (call args false) (wider args false)

section Nested

variable {call wider : Text → Bool → Action World Result} {known : Attributes → Prop} {os : Bool}

theorem Reaches.isSwitchportOs (reaches : Reaches host call) :
    isSwitchportOs call = isSwitchportOs host.direct := by
  rw [Host.isSwitchportOs, askSwitchportOs, reaches.linkMode]
  rfl

theorem Reaches.vlanUntaggedFlag (reaches : Reaches host call) :
    vlanUntaggedFlag call = vlanUntaggedFlag host.direct := by
  have asks : Steady (·.isSwpOs = some false) (askUntaggedFlag call)
      (askUntaggedFlag host.direct) :=
    Agree.bind (Agree.congr (steady_shRun _ _) reaches.help fun _ _ => rfl) fun _ => steady_pure _
  have flag : Agree (fun reason _ => reason ≠ Stop.tooDeep) (Knows fun _ => True)
      (Host.vlanUntaggedFlag call) (Host.vlanUntaggedFlag host.direct)
      fun _ => Knows fun _ => True := by
    rw [Host.vlanUntaggedFlag, reaches.isSwitchportOs]
    refine Agree.bind isSwitchportOs_learns fun os => ?_
    cases os with
    | true => exact Agree.pure fun _ _ => trivial
    | false =>
        exact Agree.weaken (steady_cached (fun _ _ here => here) asks) (fun _ here => here)
          fun _ _ _ => trivial
  funext state
  exact (flag state trivial).1

theorem Inner.bind (inner : Inner host call wider) (settled : Settled host known os) {args : Text}
    (issued : Issued args) {after : Value → State World → Prop}
    {rest rest' : Result → Action World Value}
    (continues : ∀ result, Agree (fun reason _ => reason ≠ .tooDeep) (Knows known)
      (rest result) (rest' result) after) :
    Agree (fun reason _ => reason ≠ .tooDeep) (Knows known)
      (call args false >>= rest) (wider args false >>= rest') after :=
  Agree.bind (inner.issued known os settled args issued) continues

variable (settled : Settled host known os) (inner : Inner host call wider) (name : Text)

include settled inner

theorem steady_leaveVlan (k : Text) :
    Steady known (leaveVlan call name k) (leaveVlan wider name k) := by
  unfold leaveVlan
  cases memberVid k with
  | none => exact steady_pure _
  | some vid => exact inner.bind settled (.inr (.inl rfl)) fun _ => steady_pure _

theorem steady_leaveVlans (keys : List Text) :
    Steady known (leaveVlans call name keys) (leaveVlans wider name keys) := by
  induction keys with
  | nil => exact steady_pure _
  | cons k rest inductionHypothesis =>
      exact Agree.bind (steady_leaveVlan settled inner name k) fun _ =>
        Agree.bind inductionHypothesis fun _ => steady_pure _

theorem steady_clearPort :
    Steady known (host.clearPort call name) (host.clearPort wider name) := by
  refine Agree.bind (steady_dbKeys _) fun members => ?_
  refine Agree.bind (steady_leaveVlans settled inner name members) fun _ => ?_
  refine Agree.bind (steady_dbKeys _) fun neighbors => ?_
  refine Agree.bind (Agree.each (fun k => ?_) neighbors) fun _ => ?_
  · exact inner.bind settled (.inl (Unruled.arpStaticDel.plain rfl)) fun _ => steady_pure _
  refine Agree.bind (steady_dbKeys _) fun addresses => ?_
  refine Agree.bind (Agree.each (fun k => ?_) addresses) fun _ => ?_
  · exact inner.bind settled (.inr (.inr rfl)) fun _ => steady_pure _
  refine Agree.bind (steady_dbHgetall _) fun row => Agree.ite (fun _ => steady_pure _) fun _ => ?_
  exact inner.bind settled (.inl (Unruled.vrfUnbind.plain rfl)) fun _ => steady_pure _

theorem steady_leaveMultiVlan :
    Steady known (host.leaveMultiVlan call name) (host.leaveMultiVlan wider name) := by
  refine Agree.bind (steady_dbHgetall _) fun row => Agree.ite (fun _ => ?_) fun _ => steady_pure _
  exact inner.bind settled (.inl (Unruled.switchportMode.plain rfl)) fun _ =>
    steady_poll (steady_isPortL2 name) 6

theorem steady_cyclePort :
    Steady known (host.cyclePort call name) (host.cyclePort wider name) := by
  refine inner.bind settled (.inl (Unruled.linkMode.plain rfl)) fun _ => ?_
  exact inner.bind settled (.inl (Unruled.linkMode.plain rfl)) fun _ =>
    steady_poll (steady_isPortL2 name) 8

theorem steady_restoreBridgeHome :
    Steady known (host.restoreBridgeHome call name) (host.restoreBridgeHome wider name) := by
  refine Agree.bind (steady_clearPort settled inner name) fun _ => ?_
  refine Agree.bind (steady_leaveMultiVlan settled inner name) fun home => ?_
  exact Agree.ite (fun _ => steady_pure _) fun _ => steady_cyclePort settled inner name

theorem steady_ensurePortL2 :
    Steady known (host.ensurePortL2 call name) (host.ensurePortL2 wider name) := by
  refine Returns.bind (returns_isSwitchportOs settled.known_os) ?_
  refine Agree.ite (fun _ => ?_) fun _ => steady_pure _
  refine Agree.bind (steady_view _) fun skip => Agree.ite (fun _ => steady_pure _) fun _ => ?_
  refine Agree.bind (steady_restoreBridgeHome settled inner name) fun home => ?_
  exact Agree.ite (fun _ => steady_addBridged settled.toLasting name) fun _ => steady_pure _

theorem steady_healWedge (refused : Bool) :
    Steady known (host.healWedge call name refused) (host.healWedge wider name refused) := by
  refine Agree.ite (fun _ => ?_) fun _ => steady_pure _
  refine Agree.bind (steady_poll ?_ 6) fun left => Agree.ite (fun _ => steady_pure _) fun _ => ?_
  · exact Agree.bind (steady_dbKeys _) fun _ => steady_pure _
  refine Agree.bind (steady_dbKeys _) fun marker => Agree.ite (fun _ => steady_pure _) fun _ => ?_
  refine Agree.bind (steady_shRun _ _) fun _ => ?_
  exact inner.bind settled (.inl (Unruled.linkMode.plain rfl)) fun _ => steady_pure _

theorem steady_restorePortL3 :
    Steady known (host.restorePortL3 call name) (host.restorePortL3 wider name) := by
  refine Returns.bind (returns_isSwitchportOs settled.known_os) ?_
  refine Agree.ite (fun _ => ?_) fun _ => steady_pure _
  refine Agree.bind (steady_dbKeys _) fun members => ?_
  refine Agree.bind (steady_leaveVlans settled inner name members) fun refused => ?_
  refine inner.bind settled (.inl (Unruled.linkMode.plain rfl)) fun _ => ?_
  exact Agree.bind (steady_healWedge settled inner name refused) fun _ =>
    steady_discard settled.toLasting name

theorem steady_hybridPort (args : Text) :
    Steady known (hybridPort call args) (hybridPort wider args) := by
  refine Agree.ite (fun _ => ?_) fun _ => steady_pure _
  exact inner.bind settled (.inl (Unruled.switchportMode.plain rfl)) fun _ =>
    steady_discard settled.toLasting _

theorem steady_ensureL2ForMemberAdd (args : Text) :
    Steady known (host.ensureL2ForMemberAdd call args) (host.ensureL2ForMemberAdd wider args) :=
  Agree.ite (fun _ => steady_ensurePortL2 settled inner _) fun _ => steady_pure _

theorem returns_switchportMember (args : Text) :
    Returns known (if untaggedIntent args then args else tagged args)
      (host.switchportMember call args) (host.switchportMember wider args) := by
  refine Agree.bind (steady_ensureL2ForMemberAdd settled inner args) fun _ => ?_
  refine Agree.ite (fun intent => ?_) fun none => ?_
  · exact Agree.pure fun _ here => ⟨(if_pos intent).symm, here⟩
  · exact Agree.bind (steady_hybridPort settled inner args) fun _ =>
      Agree.pure fun _ here => ⟨(if_neg none).symm, here⟩

end Nested

section Rules

variable {call wider : Text → Bool → Action World Result} {known : Attributes → Prop}
  (lasting : Lasting host known)

include lasting

omit lasting in
/-- A rule that looks for a text and asks a probe. -/
theorem steady_asking {probe : Action World Bool} (asks : Steady known probe probe)
    (head args out : Text) :
    Steady known
      (if startsWith head args then do
        if ← probe then pure out else pure args
      else pure args)
      (if startsWith head args then do
        if ← probe then pure out else pure args
      else pure args) := by
  refine Agree.ite (fun _ => ?_) fun _ => steady_pure _
  exact Agree.bind asks fun _ => Agree.ite (fun _ => steady_pure _) fun _ => steady_pure _

theorem steady_ipRemove (args : Text) :
    Steady known (host.ipRemove args) (host.ipRemove args) :=
  steady_asking lasting.ipDelCli _ args _

theorem steady_mirrorRemove (args : Text) :
    Steady known (host.mirrorRemove args) (host.mirrorRemove args) :=
  steady_asking lasting.mirrorDelCli _ args _

theorem steady_spanAdd (args : Text) :
    Steady known (host.spanAdd args) (host.spanAdd args) :=
  steady_asking lasting.spanDirOpt _ args _

theorem steady_aclTable (args : Text) :
    Steady known (host.aclTable args) (host.aclTable args) := by
  refine Agree.ite (fun _ => ?_) fun _ => Agree.ite (fun _ => ?_) fun _ => steady_pure _
  · exact Agree.bind lasting.aclTableCli fun _ => Agree.ite (fun _ => steady_pure _) fun _ =>
      steady_pure _
  · refine Agree.bind lasting.aclTableCli fun _ => Agree.ite (fun _ => ?_) fun _ => steady_pure _
    cases (split args).drop 3 with
    | nil => exact steady_pure _
    | cons name rest => exact steady_pure _

theorem steady_portFlag (args : Text) :
    Steady known (host.portFlag args) (host.portFlag args) := by
  refine Agree.bind (steady_dbHgetall _) fun row => Agree.ite (fun _ => steady_pure _) fun _ => ?_
  refine Agree.bind lasting.stpLocked fun locked => ?_
  cases positionals args with
  | nil => exact steady_pure _
  | cons vid rest =>
      refine Agree.ite (fun _ => ?_) fun _ => steady_pure _
      exact Agree.bind (steady_hybridLadderAdd lasting vid _) fun _ => steady_pure _

theorem steady_ladderDel (args : Text) :
    Steady known (host.ladderDel args) (host.ladderDel args) := by
  unfold ladderDel
  rcases positionals args with _ | ⟨vid, _ | ⟨second, rest⟩⟩
  · exact steady_pure _
  · exact steady_pure _
  · refine Agree.ite (fun _ => ?_) fun _ => steady_pure _
    refine Agree.bind (steady_dbHgetall _) fun row => Agree.ite (fun _ => ?_) fun _ => steady_pure _
    exact Agree.bind (steady_hybridLadderDel lasting vid _) fun _ => steady_pure _

theorem steady_switchportDel (os : Bool) (args : Text) :
    Steady known
      (if os then do
        if ← host.stpLocked then host.ladderDel args else pure args
      else pure args)
      (if os then do
        if ← host.stpLocked then host.ladderDel args else pure args
      else pure args) := by
  refine Agree.ite (fun _ => Agree.bind lasting.stpLocked fun _ => ?_) fun _ => steady_pure _
  exact Agree.ite (fun _ => steady_ladderDel lasting args) fun _ => steady_pure _

omit lasting

/-- A command issued on the way issues none. -/
theorem steady_fixup_issued {os : Bool} (settled : Settled host known os) {args : Text}
    (issued : Issued args) : Steady known (host.fixup call args) (host.fixup wider args) := by
  rcases issued with plain | memberDel | ipRemove
  · rw [fixup_plain plain, fixup_plain plain]
    exact steady_pure args
  · rw [fixup_memberDel memberDel, fixup_memberDel memberDel]
    refine Agree.ite (fun _ => ?_) fun _ => steady_pure _
    exact Returns.bind (returns_isSwitchportOs settled.known_os)
      (steady_switchportDel settled.toLasting os args)
  · rw [fixup_ipRemove ipRemove, fixup_ipRemove ipRemove]
    exact steady_ipRemove settled.toLasting args

/-- Where this is not the switchport OS no rule changes the help of `vlan member add`. -/
theorem fixup_help (state : State World) (plain : state.self.isSwpOs = some false) :
    host.fixup call "vlan member add --help".toList state =
      (.ok "vlan member add --help".toList, state) := by
  have stays : host.goesHome call "vlan member add --help".toList = pure false := by
    rw [goesHome, if_neg (by decide)]
  have unflagged : host.memberFlag call "vlan member add --help".toList =
      pure "vlan member add --help".toList := by
    rw [memberFlag, if_neg (by decide)]
  have mode : host.memberMode call "vlan member add --help".toList state =
      (.ok "vlan member add --help".toList, state) := by
    simp only [memberMode, Bind.bind, isSwitchportOs_known plain]
    rfl
  have add : host.memberAdd call "vlan member add --help".toList state =
      (.ok "vlan member add --help".toList, state) := by
    rw [memberAdd, if_pos (by decide), stays, pure_bind, if_neg Bool.false_ne_true]
    simp only [Bind.bind, mode, unflagged]
    rfl
  rw [fixup_member (by decide : "vlan member add".toList ∈ _) rfl]
  simp only [Bind.bind, add, memberDel_apart (rfl :
    startsWith "vlan member del".toList "vlan member add --help".toList = false)]
  rfl

theorem steady_cmdline {args : Text}
    (fixes : Steady known (host.fixup call args) (host.fixup wider args)) :
    Steady known (host.cmdline call args) (host.cmdline wider args) := by
  refine Agree.ite (fun _ => steady_pure _) fun _ => ?_
  exact Agree.bind fixes fun _ => steady_pure _

theorem steady_configAt {first second : Nat} {args : Text} {check : Bool}
    (fixes : Steady known (host.fixup (host.configAt first) args)
      (host.fixup (host.configAt second) args)) :
    Steady known (host.configAt (first + 1) args check) (host.configAt (second + 1) args check) :=
  Agree.bind (steady_cmdline fixes) fun _ => steady_shRun _ _

theorem reaches_configAt (depth : Nat) : Reaches host (host.configAt (depth + 1)) where
  linkMode := configAt_plain (Unruled.linkMode.plain rfl) (by decide)
  help state plain := by
    rw [configAt, cmdline, if_neg (by decide)]
    simp only [Bind.bind, fixup_help state plain]
    rfl

theorem inner_configAt (first second : Nat) :
    Inner host (host.configAt (first + 1)) (host.configAt (second + 1)) where
  reaches := reaches_configAt first
  reaches' := reaches_configAt second
  issued _ _ settled _ issued := steady_configAt (steady_fixup_issued settled issued)

end Rules

/-! ## The outermost activation -/

section Outermost

variable {call wider : Text → Bool → Action World Result} {known : Attributes → Prop}
  (lasting : Lasting host known) (inner : Inner host call wider) (args : Text)

include lasting

/-- From the question on whether this is the switchport OS it is known. -/
theorem Lasting.learns (reaches : Reaches host call) (reaches' : Reaches host wider) :
    Agree (fun reason _ => reason ≠ Stop.tooDeep) (Knows known) (Host.isSwitchportOs call)
      (Host.isSwitchportOs wider) fun value =>
        Knows fun self => known self ∧ self.isSwpOs = some value := by
  rw [reaches.isSwitchportOs, reaches'.isSwitchportOs]
  exact Agree.and lasting.isSwitchportOs
    (isSwitchportOs_learns.weaken (fun _ _ => trivial) fun _ _ ends => ends)

include inner

theorem Lasting.bind {rest rest' : Bool → Action World Value}
    (continues : ∀ os, Steady (fun self => known self ∧ self.isSwpOs = some os) (rest os)
      (rest' os)) :
    Steady known (Host.isSwitchportOs call >>= rest) (Host.isSwitchportOs wider >>= rest') :=
  Agree.bind (lasting.learns inner.reaches inner.reaches') fun os =>
    (continues os).weaken (fun _ here => here) fun _ _ ends => ends.1

theorem steady_routeFirst :
    Steady known (host.routeFirst call args) (host.routeFirst wider args) := by
  refine Agree.ite (fun _ => ?_) fun _ => steady_pure _
  cases (split args).drop 3 with
  | nil => exact steady_pure _
  | cons port rest =>
      refine Agree.ite (fun _ => lasting.bind inner fun os => ?_) fun _ => steady_pure _
      exact Agree.ite (fun _ => steady_restorePortL3 (lasting.settled os) inner port)
        fun _ => steady_pure _

theorem steady_goesHome :
    Steady known (host.goesHome call args) (host.goesHome wider args) := by
  refine Agree.ite (fun _ => lasting.bind inner fun os => ?_) fun _ => steady_pure _
  refine Agree.ite (fun _ => Agree.ite (fun _ => ?_) fun _ => steady_pure _) fun _ => steady_pure _
  refine Agree.bind (steady_dbHgetall _) fun row => Agree.bind (steady_dbKeys _) fun home => ?_
  refine Agree.ite (fun _ => steady_pure _) fun _ => ?_
  exact Agree.bind (steady_restoreBridgeHome (lasting.settled os) inner _) fun _ => steady_pure _

theorem steady_memberMode :
    Steady known (host.memberMode call args) (host.memberMode wider args) := by
  refine lasting.bind inner fun os => ?_
  exact Agree.ite (fun _ => (returns_switchportMember (lasting.settled os) inner args).steady)
    fun _ => steady_pure _

theorem steady_memberFlag :
    Steady known (host.memberFlag call args) (host.memberFlag wider args) := by
  refine Agree.ite (fun _ => lasting.bind inner fun os => ?_) fun _ => steady_pure _
  refine Agree.ite (fun _ => steady_portFlag (lasting.settled os).toLasting args) fun _ => ?_
  rw [inner.reaches.vlanUntaggedFlag, inner.reaches'.vlanUntaggedFlag]
  exact Agree.bind (lasting.settled os).vlanUntaggedFlag fun _ => steady_pure _

theorem steady_memberAdd :
    Steady known (host.memberAdd call args) (host.memberAdd wider args) := by
  refine Agree.ite (fun _ => ?_) fun _ => steady_pure _
  refine Agree.bind (steady_goesHome lasting inner args) fun home =>
    Agree.ite (fun _ => steady_pure _) fun _ => ?_
  exact Agree.bind (steady_memberMode lasting inner args) fun args =>
    steady_memberFlag lasting inner args

theorem steady_memberDel :
    Steady known (host.memberDel call args) (host.memberDel wider args) := by
  refine Agree.ite (fun _ => lasting.bind inner fun os => ?_) fun _ => steady_pure _
  exact steady_switchportDel (lasting.settled os).toLasting os args

theorem steady_fixup : Steady known (host.fixup call args) (host.fixup wider args) := by
  refine Agree.bind (steady_routeFirst lasting inner args) fun _ => ?_
  refine Agree.bind (steady_ipRemove lasting args) fun args => ?_
  refine Agree.bind (steady_mirrorRemove lasting args) fun args => ?_
  refine Agree.bind (steady_spanAdd lasting args) fun args => ?_
  refine Agree.bind (steady_aclTable lasting args) fun args => ?_
  exact Agree.bind (steady_memberAdd lasting inner args) fun args =>
    steady_memberDel lasting inner args

end Outermost

theorem not_stopped_of_ends {outcome : Except Stop Value × State World}
    {after : Value → State World → Prop}
    (ends : Ends (fun reason _ => reason ≠ .tooDeep) after outcome) :
    outcome.1 ≠ .error .tooDeep := by
  rcases outcome with ⟨reason | value, last⟩
  · exact fun same => ends (Except.error.inj same)
  · exact nofun

/-- Two activations inside each other are room enough for every command, whatever the
device answers and whatever is cached; with more room nothing is different. -/
theorem assembly_bounded (host : Host World) (depth : Nat) (args : Text) (check : Bool)
    (state : State World) :
    (host.configAt (depth + 2) args check state).1 ≠ .error .tooDeep ∧
      host.configAt (depth + 2) args check state = host.configAt 2 args check state := by
  have steady : Steady (fun _ => True) (host.configAt 2 args check)
      (host.configAt (depth + 2) args check) :=
    steady_configAt (steady_fixup lasting_any (inner_configAt 0 depth) args)
  obtain ⟨same, ends⟩ := steady state trivial
  refine ⟨?_, same.symm⟩
  rw [← same]
  exact not_stopped_of_ends ends

end Host

end OnboxFvt.Cli
