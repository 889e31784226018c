import OnboxFvt.Cli.MemberAdd
import OnboxFvt.Cli.Switchport

/-!
# The ports recorded as bridged

On the switchport OS a port in `_bridged` is in access mode, as long as no caller
converts it behind the back of `Cli`.
-/

namespace OnboxFvt.Cli

open Python Library Program

variable {World Port Value : Type} (switch : Switchport World Port)

/-- A property of the recorded ports and of the modes. -/
def At (holds : List Text → (Port → Mode) → Prop) (state : State World) : Prop :=
  holds state.self.bridged (switch.mode state.world)

def Switchport.Bridged (bridged : List Text) (mode : Port → Mode) : Prop :=
  ∀ port, switch.name port ∈ bridged → mode port = .switchport .access

/-- Every recorded port is in access mode. -/
def Coherent : State World → Prop :=
  At switch switch.Bridged

/-- Every recorded port but those with this name. -/
def Switchport.BridgedBut (name : Text) (bridged : List Text) (mode : Port → Mode) : Prop :=
  ∀ port, switch.name port ∈ bridged → switch.name port ≠ name → mode port = .switchport .access

/-- The program leads from one property to the other, and leaves the recorded ports
coherent when it stops. -/
abbrev Leads (before : List Text → (Port → Mode) → Prop) (program : Action World Value)
    (after : Value → List Text → (Port → Mode) → Prop) : Prop :=
  Meets (fun _ => Coherent switch) (At switch before) program fun value => At switch (after value)

abbrev Keeps (program : Action World Value) : Prop :=
  Leads switch switch.Bridged program fun _ => switch.Bridged

variable {switch}

namespace Leads

variable {before after' : List Text → (Port → Mode) → Prop}
  {after : Value → List Text → (Port → Mode) → Prop}

theorem pure {value : Value}
    (holds : ∀ bridged mode, before bridged mode → after value bridged mode) :
    Leads switch before (pure value) after :=
  Agree.pure fun _ here => holds _ _ here

theorem same (value : Value) : Leads switch before (Pure.pure value) fun _ => before :=
  Agree.pure fun _ here => here

theorem weaken {program : Action World Value} {before' : List Text → (Port → Mode) → Prop}
    {after' : Value → List Text → (Port → Mode) → Prop} (leads : Leads switch before program after)
    (stronger : ∀ bridged mode, before' bridged mode → before bridged mode)
    (weaker : ∀ value bridged mode, after value bridged mode → after' value bridged mode) :
    Leads switch before' program after' :=
  Agree.weaken leads (fun _ here => stronger _ _ here) fun value _ ends => weaker value _ _ ends

/-! ## Reads -/

theorem keys {pattern : Text} {told : List Text → (Port → Mode) → Prop}
    (truth : ∀ world keys, (switch.host.keys pattern world).1 = some keys →
      told keys (switch.mode world)) :
    Leads switch before (switch.host.dbKeys pattern) fun keys bridged mode =>
      before bridged mode ∧ told keys mode := by
  intro state here
  refine ⟨rfl, ?_⟩
  obtain ⟨keys, answer⟩ := switch.keys_answers pattern state.world
  have same := switch.keys_mode pattern state.world
  have tells := truth state.world keys answer
  rw [Host.dbKeys]
  rcases answered : switch.host.keys pattern state.world with ⟨result, world⟩
  rw [answered] at answer same
  obtain rfl : result = some keys := answer
  simp only [Ends, At, same]
  exact ⟨here, tells⟩

theorem row {key : Text} {told : (Text → Option Text) → (Port → Mode) → Prop}
    (truth : ∀ world row, (switch.host.hgetall key world).1 = some row →
      told row (switch.mode world)) :
    Leads switch before (switch.host.dbHgetall key) fun row bridged mode =>
      before bridged mode ∧ told row mode := by
  intro state here
  refine ⟨rfl, ?_⟩
  obtain ⟨row, answer⟩ := switch.hgetall_answers key state.world
  have same := switch.hgetall_mode key state.world
  have tells := truth state.world row answer
  rw [Host.dbHgetall]
  rcases answered : switch.host.hgetall key state.world with ⟨result, world⟩
  rw [answered] at answer same
  obtain rfl : result = some row := answer
  simp only [Ends, At, same]
  exact ⟨here, tells⟩

theorem anyKeys (pattern : Text) :
    Leads switch before (switch.host.dbKeys pattern) fun _ => before := by
  have told := @keys _ _ switch before pattern (fun _ _ => True) fun _ _ _ => trivial
  exact told.weaken (fun _ _ here => here) fun _ _ _ ends => ends.1

theorem anyRow (key : Text) :
    Leads switch before (switch.host.dbHgetall key) fun _ => before := by
  have told := @row _ _ switch before key (fun _ _ => True) fun _ _ _ => trivial
  exact told.weaken (fun _ _ here => here) fun _ _ _ ends => ends.1

theorem poll {question : Action World Bool} {answered : (Port → Mode) → Prop}
    (asks : Leads switch before question fun answer bridged mode =>
      before bridged mode ∧ (answer = true → answered mode)) (times : Nat) :
    Leads switch before (poll question times) fun answer bridged mode =>
      before bridged mode ∧ (answer = true → answered mode) :=
  Agree.poll asks times

theorem anyPoll {question : Action World Bool}
    (asks : Leads switch before question fun _ => before) (times : Nat) :
    Leads switch before (Program.poll question times) fun _ => before := by
  have asks' : Leads switch before question fun answer bridged mode =>
      before bridged mode ∧ (answer = true → True) :=
    asks.weaken (fun _ _ here => here) fun _ _ _ ends => ⟨ends, fun _ => trivial⟩
  exact (Agree.poll asks' times).weaken (fun _ here => here) fun _ _ ends => ends.1

/-! ## Commands and caches -/

theorem run {cmd : Text}
    (moved : ∀ bridged mode mode', before bridged mode →
      (∀ port, Moves (change (switch.name port) cmd) (mode port) (mode' port)) →
      after' bridged mode') :
    Leads switch before (switch.host.shRun cmd false) fun _ => after' := by
  intro state here
  refine ⟨rfl, ?_⟩
  obtain ⟨result, answer⟩ := switch.run_answers cmd state.world
  have moves := moved _ _ _ here (switch.run_moves cmd state.world)
  rw [Host.shRun]
  rcases answered : switch.host.run cmd state.world with ⟨outcome, world⟩
  rw [answered] at answer moves
  obtain rfl : outcome = some result := answer
  exact moves

theorem run_checked {cmd : Text} (check : Bool)
    (moved : ∀ bridged mode mode', before bridged mode →
      (∀ port, Moves (change (switch.name port) cmd) (mode port) (mode' port)) →
      switch.Bridged bridged mode') :
    Leads switch before (switch.host.shRun cmd check) fun _ => switch.Bridged := by
  intro state here
  refine ⟨rfl, ?_⟩
  have moves := moved _ _ _ here (switch.run_moves cmd state.world)
  rw [Host.shRun]
  rcases answered : switch.host.run cmd state.world with ⟨_ | result, world⟩ <;>
    rw [answered] at moves
  · exact moves
  · dsimp only
    split
    · exact moves
    · exact moves

theorem setSelf {change : Attributes → Attributes}
    (changed : ∀ self mode, before self.bridged mode → after' (change self).bridged mode) :
    Leads switch before (setSelf change) fun _ => after' :=
  Agree.update fun state here => changed state.self (switch.mode state.world) here

theorem cached {read : Attributes → Option Value} {write : Value → Attributes → Attributes}
    {probe : Action World Value} (same : ∀ value self, (write value self).bridged = self.bridged)
    (probes : Leads switch before probe fun _ => before) :
    Leads switch before (cached read write probe) fun _ => before := by
  have views : Leads switch before (view fun state => read state.self) fun _ => before :=
    Agree.view fun _ here => here
  refine Agree.bind views fun value => ?_
  cases value with
  | some value => exact Leads.same value
  | none =>
      refine Agree.bind probes fun value => Agree.bind (setSelf ?_) fun _ => Leads.same value
      intro self mode here
      rw [same]
      exact here

end Leads

theorem bridged_moves {bridged : List Text} {mode mode' : Port → Mode} {cmd : Text}
    (here : switch.Bridged bridged mode)
    (stays : ∀ port, switch.name port ∈ bridged → (change (switch.name port) cmd).stays = true)
    (moves : ∀ port, Moves (change (switch.name port) cmd) (mode port) (mode' port)) :
    switch.Bridged bridged mode' := by
  intro port member
  have moved := moves port
  rw [here port member] at moved
  exact moved.access (stays port member)

theorem bridged_idle {bridged : List Text} {mode mode' : Port → Mode} {cmd : Text}
    (idle : Idle cmd) (here : switch.Bridged bridged mode)
    (moves : ∀ port, Moves (change (switch.name port) cmd) (mode port) (mode' port)) :
    switch.Bridged bridged mode' :=
  bridged_moves here (fun port _ => by rw [idle]; rfl) moves

theorem keeps_run {cmd : Text} (idle : Idle cmd) (check : Bool) :
    Keeps switch (switch.host.shRun cmd check) :=
  Leads.run_checked check fun _ _ _ => bridged_idle idle

/-- The command a caller has written. -/
def written (args : Text) : Text :=
  if startsWith "__toplevel__ ".toList args then args.drop "__toplevel__ ".toList.length
  else "config ".toList ++ args

/-! ## Reads about a port -/

variable (switch) in
/-- The ports with this name have such a mode. -/
def Named (name : Text) (holds : Mode → Prop) (mode : Port → Mode) : Prop :=
  ∀ port, switch.name port = name → holds (mode port)

section Reads

variable {before : List Text → (Port → Mode) → Prop} (name : Text)

theorem memberKeys_lead :
    Leads switch before (switch.host.dbKeys ("VLAN_MEMBER|Vlan1|".toList ++ name))
      fun keys bridged mode => before bridged mode ∧
        (keys ≠ [] → Named switch name (fun mode => ∃ s, mode = .switchport s) mode) := by
  refine Leads.keys fun world keys answer some port named => ?_
  subst named
  exact switch.member_home port world keys answer some

theorem linkMode_leads :
    Leads switch before (switch.host.dbHgetall ("PORT|".toList ++ name))
      fun row bridged mode => before bridged mode ∧ ∀ switching,
        Named switch name (fun mode => row "link_mode".toList = some (Switching.text switching) ↔
          mode = .switchport switching) mode := by
  refine Leads.row fun world row answer switching port named => ?_
  subst named
  exact switch.link_mode port world row switching answer

theorem isPortL2_leads :
    Leads switch before (switch.host.isPortL2 name) fun answer bridged mode =>
      before bridged mode ∧
        (answer = true → Named switch name (fun mode => ∃ s, mode = .switchport s) mode) := by
  refine Agree.bind (memberKeys_lead name) fun home => Agree.ite (fun _ => ?_) fun some => ?_
  · refine Agree.bind (Agree.weaken (linkMode_leads name) (fun _ here => here.1)
      fun _ _ ends => ends) fun row => Agree.ite (fun listed => ?_) fun _ => ?_
    · refine Agree.bind (Leads.anyKeys _) fun marker => Leads.pure fun _ _ here => ⟨here.1, ?_⟩
      intro _ port named
      simp only [List.mem_cons, List.not_mem_nil, or_false] at listed
      rcases listed with read | read | read
      · exact ⟨_, (here.2 .access port named).mp read⟩
      · exact ⟨_, (here.2 .trunk port named).mp read⟩
      · exact ⟨_, (here.2 .hybrid port named).mp read⟩
    · exact Leads.pure fun _ _ here => ⟨here.1, nofun⟩
  · refine Leads.pure fun _ _ here => ⟨here.1, fun _ => here.2 fun empty => some ?_⟩
    rw [empty]
    rfl

end Reads

/-! ## Conversions -/

theorem multiVlan_reads {linkMode : Option Text} (multi : multiVlan (linkMode.getD []) = true) :
    ∃ switching, linkMode = some (Switching.text switching) := by
  cases linkMode with
  | none => cases multi
  | some text =>
      rw [multiVlan, Bool.or_eq_true, decide_eq_true_eq, decide_eq_true_eq] at multi
      rcases multi with hybrid | trunk
      · exact ⟨.hybrid, congrArg some hybrid⟩
      · exact ⟨.trunk, congrArg some trunk⟩

theorem Asks.named {name cmd : Text} {asks : Change} {mode mode' : Port → Mode} {port : Port}
    (asked : Asks cmd name asks)
    (moves : ∀ port, Moves (change (switch.name port) cmd) (mode port) (mode' port))
    (named : switch.name port = name) : Moves asks (mode port) (mode' port) := by
  have moved := moves port
  rwa [asked _ (switch.name_token port).1, if_pos named.symm] at moved

theorem Asks.bridged {name cmd : Text} {asks : Change} {bridged : List Text}
    {mode mode' : Port → Mode} (asked : Asks cmd name asks) (stays : asks.stays = true)
    (here : switch.Bridged bridged mode)
    (moves : ∀ port, Moves (change (switch.name port) cmd) (mode port) (mode' port)) :
    switch.Bridged bridged mode' := by
  refine bridged_moves here (fun port _ => ?_) moves
  rw [asked _ (switch.name_token port).1]
  split
  · exact stays
  · rfl

theorem Asks.others {name cmd : Text} {asks : Change} {bridged : List Text}
    {mode mode' : Port → Mode} (asked : Asks cmd name asks)
    (here : switch.BridgedBut name bridged mode)
    (moves : ∀ port, Moves (change (switch.name port) cmd) (mode port) (mode' port)) :
    switch.BridgedBut name bridged mode' := by
  intro port member other
  have moved := moves port
  rw [here port member other, asked _ (switch.name_token port).1, if_neg (Ne.symm other)] at moved
  exact moved.access rfl

theorem bridgedBut_of_bridged {bridged : List Text} {mode : Port → Mode}
    (here : switch.Bridged bridged mode) (name : Text) : switch.BridgedBut name bridged mode :=
  fun port member _ => here port member

/-- What is discarded need not be in access mode. -/
theorem discard_leads (name : Text) :
    Leads switch (switch.BridgedBut name) (discard name) fun _ => switch.Bridged := by
  refine Leads.setSelf fun self mode here port member => ?_
  obtain ⟨member, other⟩ := List.mem_filter.mp member
  exact here port member (of_decide_eq_true other)

/-- The calls one activation further in: there is no room for any, or the commands no
rule looks at are run as they are. -/
def Serves (host : Host World) (call : Text → Bool → Action World Result) : Prop :=
  (∀ args check, call args check = stop .tooDeep) ∨
    ∀ (command : Unruled) args, startsWith command.head args = true →
      call args false = host.shRun ("config ".toList ++ args) false

theorem stop_leads {before : List Text → (Port → Mode) → Prop}
    {after : Value → List Text → (Port → Mode) → Prop} {rest : Result → Action World Value}
    (coherent : ∀ bridged mode, before bridged mode → switch.Bridged bridged mode) :
    Leads switch before (stop .tooDeep >>= rest) after :=
  fun _ here => ⟨rfl, coherent _ _ here⟩

/-! ## What issues commands -/

section Nested

variable {call : Text → Bool → Action World Result}
  (calls : ∀ args check, Idle (written args) → Keeps switch (call args check))
  (serves : Serves switch.host call)

include calls

theorem isSwitchportOs_keeps : Keeps switch (Host.isSwitchportOs call) := by
  have idle : Idle (written "interface link-mode --help".toList) := idle_of_asked rfl
  exact Leads.cached (fun _ _ => rfl) (Agree.bind (calls _ _ idle) fun _ => Leads.same _)

theorem vlanUntaggedFlag_keeps : Keeps switch (Host.vlanUntaggedFlag call) := by
  have idle : Idle (written "vlan member add --help".toList) := Idling.vlan.idle rfl
  refine Agree.bind (isSwitchportOs_keeps calls) fun os =>
    Agree.ite (fun _ => Leads.same _) fun _ => ?_
  exact Leads.cached (fun _ _ => rfl) (Agree.bind (calls _ _ idle) fun _ => Leads.same _)

theorem leaveVlans_keeps (name : Text) (keys : List Text) :
    Keeps switch (Host.leaveVlans call name keys) := by
  have leaves (k : Text) : Keeps switch (Host.leaveVlan call name k) := by
    unfold Host.leaveVlan
    cases memberVid k with
    | none => exact Leads.same _
    | some vid => exact Agree.bind (calls _ _ (Idling.vlan.idle rfl)) fun _ => Leads.same _
  induction keys with
  | nil => exact Leads.same _
  | cons k rest inductionHypothesis =>
      exact Agree.bind (leaves k) fun _ => Agree.bind inductionHypothesis fun _ => Leads.same _

theorem clearPort_keeps (name : Text) : Keeps switch (switch.host.clearPort call name) := by
  refine Agree.bind (Leads.anyKeys _) fun members => ?_
  refine Agree.bind (leaveVlans_keeps calls name members) fun _ => ?_
  refine Agree.bind (Leads.anyKeys _) fun neighbors => ?_
  refine Agree.bind (Agree.each (fun k => ?_) neighbors) fun _ => ?_
  · exact Agree.bind (calls _ _ (Idling.arp.idle rfl)) fun _ => Leads.same _
  refine Agree.bind (Leads.anyKeys _) fun addresses => ?_
  refine Agree.bind (Agree.each (fun k => ?_) addresses) fun _ => ?_
  · exact Agree.bind (calls _ _ (Idling.interfaceIp.idle rfl)) fun _ => Leads.same _
  refine Agree.bind (Leads.anyRow _) fun row => Agree.ite (fun _ => Leads.same _) fun _ => ?_
  exact Agree.bind (calls _ _ (Idling.interfaceVrf.idle rfl)) fun _ => Leads.same _

omit calls
include serves

theorem leaveMultiVlan_leads {name : Text} (solid : Solid name) :
    Leads switch switch.Bridged (switch.host.leaveMultiVlan call name) fun home bridged mode =>
      switch.Bridged bridged mode ∧
        (home = true → Named switch name (· = .switchport .access) mode) ∧
        Named switch name (fun mode => mode = .switchport .access ∨ ∃ held, mode = .routed held)
          mode := by
  refine Agree.bind (linkMode_leads name) fun row => Agree.ite (fun multi => ?_) fun single => ?_
  · rcases serves with deep | served
    · rw [deep]
      exact stop_leads fun _ _ here => here.1
    rw [served .switchportMode _ rfl]
    have asked := asks_access solid
    have homecoming : Leads switch
        (fun bridged mode => switch.Bridged bridged mode ∧ ∀ switching, Named switch name
          (fun mode => row "link_mode".toList = some (Switching.text switching) ↔
            mode = .switchport switching) mode)
        (switch.host.shRun ("config ".toList ++ ("switchport mode access ".toList ++ name)) false)
        fun _ bridged mode => switch.Bridged bridged mode ∧
          Named switch name (· = .switchport .access) mode := by
      refine Leads.run fun bridged mode mode' here moves =>
        ⟨asked.bridged rfl here.1 moves, fun port named => ?_⟩
      have moved := asked.named moves named
      obtain ⟨switching, read⟩ := multiVlan_reads multi
      rw [(here.2 switching port named).mp read] at moved
      exact moved.home_access
    refine Agree.bind homecoming fun _ => Leads.weaken (Leads.poll (isPortL2_leads name) 6)
      (fun _ _ here => here) fun _ _ _ ends => ?_
    exact ⟨ends.1.1, fun _ => ends.1.2, fun port named => Or.inl (ends.1.2 port named)⟩
  · refine Leads.pure fun _ mode here => ⟨here.1, nofun, fun port named => ?_⟩
    cases known : mode port with
    | routed held => exact Or.inr ⟨held, rfl⟩
    | switchport switching =>
        left
        have read := (here.2 switching port named).mpr known
        rw [read] at single
        cases switching with
        | access => rfl
        | trunk => exact absurd rfl single
        | hybrid => exact absurd rfl single

variable (switch) in
/-- What `link-mode route` needs to leave a port that `link-mode bridge` brings home. -/
def Cyclable (name : Text) (bridged : List Text) (mode : Port → Mode) : Prop :=
  switch.Bridged bridged mode ∧
    Named switch name (fun mode => mode = .switchport .access ∨ ∃ held, mode = .routed held) mode

variable (switch) in
/-- Half way: a port whose conversion may still be refused is not recorded. -/
def HalfWay (name : Text) (bridged : List Text) (mode : Port → Mode) : Prop :=
  switch.BridgedBut name bridged mode ∧ Named switch name (fun mode =>
    mode = .switchport .access ∨ mode = .routed false ∨ mode = .routed true ∧ name ∉ bridged) mode

omit serves in
theorem route_leads {name : Text} (solid : Solid name) :
    Leads switch (Cyclable switch name)
      (switch.host.shRun
        ("config ".toList ++ ("interface link-mode ".toList ++ name ++ " route".toList)) false)
      fun _ => HalfWay switch name := by
  refine Leads.run fun bridged mode mode' here moves =>
    ⟨(asks_route solid).others (bridgedBut_of_bridged here.1 name) moves, fun port named => ?_⟩
  have moved := (asks_route solid).named moves named
  rcases here.2 port named with access | ⟨held, routed⟩
  · rw [access] at moved
    exact moved.route_access.imp id Or.inl
  · rw [routed] at moved
    cases held with
    | false => exact Or.inr (Or.inl moved.route_routed)
    | true =>
        refine Or.inr (Or.inr ⟨moved.route_routed, fun member => ?_⟩)
        have access := here.1 port (named ▸ member)
        rw [routed] at access
        cases access

omit serves in
theorem bridge_leads {name : Text} (solid : Solid name) :
    Leads switch (HalfWay switch name)
      (switch.host.shRun
        ("config ".toList ++ ("interface link-mode ".toList ++ name ++ " bridge".toList)) false)
      fun _ bridged mode => switch.Bridged bridged mode ∧
        Named switch name (fun mode => mode = .switchport .access ∨ mode = .routed true) mode := by
  refine Leads.run fun bridged mode mode' here moves => ?_
  have converted : Named switch name (fun mode => mode = .switchport .access ∨
      mode = .routed true ∧ name ∉ bridged) mode' := by
    intro port named
    have moved := (asks_bridge solid).named moves named
    rcases here.2 port named with access | routed | ⟨routed, absent⟩
    · rw [access] at moved
      exact Or.inl (moved.access rfl)
    · rw [routed] at moved
      exact Or.inl moved.bridge_routed
    · rw [routed] at moved
      exact Or.inr ⟨moved.bridge_routed, absent⟩
  refine ⟨fun port member => ?_, fun port named => (converted port named).imp id And.left⟩
  by_cases named : switch.name port = name
  · rcases converted port named with access | ⟨_, absent⟩
    · exact access
    · exact absurd (named ▸ member) absent
  · exact (asks_bridge solid).others here.1 moves port member named

theorem cyclePort_leads {name : Text} (solid : Solid name) :
    Leads switch (Cyclable switch name) (switch.host.cyclePort call name)
      fun home bridged mode => switch.Bridged bridged mode ∧
        (home = true → Named switch name (· = .switchport .access) mode) := by
  unfold Host.cyclePort
  rcases serves with deep | served
  · rw [deep]
    exact stop_leads fun _ _ here => here.1
  rw [served .linkMode _ rfl, served .linkMode _ rfl]
  refine Agree.bind (route_leads solid) fun _ => Agree.bind (bridge_leads solid) fun _ =>
    Leads.weaken (Leads.poll (isPortL2_leads name) 8) (fun _ _ here => here) fun _ _ _ ends =>
      ⟨ends.1.1, fun home port named => ?_⟩
  obtain ⟨switching, bridge⟩ := ends.2 home port named
  rcases ends.1.2 port named with access | routed
  · exact access
  · rw [routed] at bridge
    cases bridge

include calls

theorem restoreBridgeHome_leads {name : Text} (solid : Solid name) :
    Leads switch switch.Bridged (switch.host.restoreBridgeHome call name) fun home bridged mode =>
      switch.Bridged bridged mode ∧
        (home = true → Named switch name (· = .switchport .access) mode) := by
  refine Agree.bind (clearPort_keeps calls name) fun _ => ?_
  refine Agree.bind (leaveMultiVlan_leads serves solid) fun home => ?_
  refine Agree.ite (fun home => ?_) fun _ => ?_
  · exact Leads.pure fun _ _ here => ⟨here.1, fun _ => here.2.1 home⟩
  · exact (cyclePort_leads serves solid).weaken (fun _ _ here => ⟨here.1, here.2.2⟩)
      fun _ _ _ ends => ends

theorem restoreBridgeHome_keeps {name : Text} (solid : Solid name) :
    Keeps switch (switch.host.restoreBridgeHome call name) :=
  (restoreBridgeHome_leads calls serves solid).weaken (fun _ _ here => here)
    fun _ _ _ ends => ends.1

theorem ensurePortL2_keeps {name : Text} (solid : Solid name) :
    Keeps switch (switch.host.ensurePortL2 call name) := by
  refine Agree.bind (isSwitchportOs_keeps calls) fun os =>
    Agree.ite (fun _ => ?_) fun _ => Leads.same _
  have views : Keeps switch (view fun state => decide (name ∈ state.self.bridged)) :=
    Agree.view fun _ here => here
  refine Agree.bind views fun skip => Agree.ite (fun _ => Leads.same _) fun _ => ?_
  refine Agree.bind (restoreBridgeHome_leads calls serves solid) fun home =>
    Agree.ite (fun home => ?_) fun _ => Leads.pure fun _ _ here => here.1
  refine Leads.setSelf fun self mode here port member => ?_
  rcases List.mem_insert_iff.mp member with named | member
  · exact here.2 home port named
  · exact here.1 port member

theorem restorePortL3_keeps {name : Text} (solid : Solid name) :
    Keeps switch (switch.host.restorePortL3 call name) := by
  refine Agree.bind (isSwitchportOs_keeps calls) fun os =>
    Agree.ite (fun _ => ?_) fun _ => Leads.same _
  refine Agree.bind (Leads.anyKeys _) fun members => ?_
  refine Agree.bind (leaveVlans_keeps calls name members) fun refused => ?_
  rcases serves with deep | served
  · rw [deep]
    exact stop_leads fun _ _ here => here
  rw [served .linkMode _ rfl]
  have routes {before : List Text → (Port → Mode) → Prop}
      (but : ∀ bridged mode, before bridged mode → switch.BridgedBut name bridged mode) :
      Leads switch before (switch.host.shRun
        ("config ".toList ++ ("interface link-mode ".toList ++ name ++ " route".toList)) false)
        fun _ => switch.BridgedBut name :=
    Leads.run fun _ _ _ here moves => (asks_route solid).others (but _ _ here) moves
  refine Agree.bind (routes fun _ _ here => bridgedBut_of_bridged here name) fun _ => ?_
  refine Agree.bind ?_ fun _ => discard_leads name
  refine Agree.ite (fun _ => ?_) fun _ => Leads.same _
  refine Agree.bind (Leads.anyPoll (Agree.bind (Leads.anyKeys _) fun _ => Leads.same _) 6)
    fun left => Agree.ite (fun _ => Leads.same _) fun _ => ?_
  refine Agree.bind (Leads.anyKeys _) fun marker => Agree.ite (fun _ => Leads.same _) fun _ => ?_
  have deletes : Leads switch (switch.BridgedBut name) (switch.host.shRun
      ("sonic-db-cli CONFIG_DB DEL 'INTERFACE|".toList ++ name ++ "'".toList) false)
      fun _ => switch.BridgedBut name := by
    refine Leads.run fun bridged mode mode' here moves port member other => ?_
    have moved := moves port
    rw [Idling.sonicDb.idle rfl, here port member other] at moved
    exact moved.access rfl
  refine Agree.bind deletes fun _ => ?_
  rw [served .linkMode _ rfl]
  exact Agree.bind (routes fun _ _ here => here) fun _ => Leads.same _

end Nested

/-! ## The hybrid ladder -/

theorem stpLocked_keeps : Keeps switch switch.host.stpLocked :=
  Leads.cached (fun _ _ => rfl) (Agree.bind (Leads.anyRow _) fun _ => Leads.same _)

theorem hybridLadderAdd_keeps (vid : Text) {pname : Text} (solid : Solid pname) :
    Keeps switch (switch.host.hybridLadderAdd vid pname) := by
  have climbs : Leads switch switch.Bridged
      (switch.host.shRun ("config switchport mode hybrid ".toList ++ pname) false)
      fun _ => switch.BridgedBut pname :=
    Leads.run fun _ _ _ here moves =>
      (ladder_asks_hybrid solid).others (bridgedBut_of_bridged here pname) moves
  refine Agree.bind climbs fun _ => Agree.bind (discard_leads pname) fun _ => ?_
  refine Agree.bind (keeps_run (Idling.vlan.idle rfl) false) fun _ => ?_
  refine Agree.bind (Leads.anyPoll (Agree.bind (Leads.anyKeys _) fun _ => Leads.same _) 5)
    fun ok => Agree.ite (fun _ => ?_) fun _ => Leads.same _
  refine Agree.bind (keeps_run (Idling.interfacePvid.idle rfl) false) fun _ => ?_
  exact Leads.anyPoll (Agree.bind (Leads.anyRow _) fun _ => Leads.same _) 5

theorem hybridLadderDel_keeps (vid : Text) {pname : Text} (solid : Solid pname) :
    Keeps switch (switch.host.hybridLadderDel vid pname) := by
  refine Agree.bind (Leads.anyKeys _) fun keys => ?_
  cases otherVlans vid keys with
  | none => exact Agree.stop fun _ here => here
  | some others =>
      have points : Keeps switch (switch.host.movePvid pname others) := by
        cases others with
        | nil => exact Leads.same _
        | cons vlan others =>
            exact Agree.bind (keeps_run (Idling.interfacePvid.idle rfl) false) fun _ =>
              Leads.same _
      have returns : Leads switch switch.Bridged
          (switch.host.shRun ("config switchport mode access ".toList ++ pname) false)
          fun _ => switch.BridgedBut pname :=
        Leads.run fun _ _ _ here moves =>
          (ladder_asks_access solid).others (bridgedBut_of_bridged here pname) moves
      refine Agree.bind points fun _ => ?_
      refine Agree.bind (keeps_run (Idling.vlan.idle rfl) false) fun _ => ?_
      refine Agree.bind (Leads.anyPoll (Agree.bind (Leads.anyKeys _) fun _ => Leads.same _) 5)
        fun _ => ?_
      exact Agree.bind returns fun _ => discard_leads pname

/-! ## Tokens -/

theorem last_solid {toks : List Text} (solid : ∀ token ∈ toks, Solid token) :
    Solid (toks.getLast?.getD []) := by
  cases last : toks.getLast? with
  | none => exact fun _ member => nomatch member
  | some token => exact solid token (List.mem_of_getLast? last)

theorem split_drop_solid (args : Text) : ∀ token ∈ (split args).drop 3, Solid token :=
  fun token member => (split_words args token (List.mem_of_mem_drop member)).2

theorem positionals_solid (args : Text) : ∀ token ∈ positionals args, Solid token :=
  fun token member => split_drop_solid args token (List.mem_filter.mp member).1

theorem mem_of_mem_memberPositionals {skip : Bool} {toks : List Text} {token : Text}
    (member : token ∈ memberPositionals skip toks) : token ∈ toks := by
  induction toks generalizing skip with
  | nil => exact member
  | cons t rest inductionHypothesis =>
      rw [memberPositionals] at member
      split at member
      · exact List.mem_cons_of_mem t (inductionHypothesis member)
      split at member
      · exact List.mem_cons_of_mem t (inductionHypothesis member)
      split at member
      · exact List.mem_cons_of_mem t (inductionHypothesis member)
      · rcases List.mem_cons.mp member with same | member
        · exact same ▸ List.mem_cons_self ..
        · exact List.mem_cons_of_mem t (inductionHypothesis member)

/-! ## The rules -/

theorem startsWith_directionOption {args : Text}
    (here : startsWith "mirror_session span add".toList args = true) :
    startsWith "mirror_session span add".toList (directionOption args) = true := by
  unfold directionOption
  split
  next last ends =>
    split
    next direction =>
      obtain ⟨words, tokens⟩ := List.getLast?_eq_some_iff.mp ends
      rw [tokens, List.dropLast_concat]
      exact Device.startsWith_spanAdd_option here tokens direction
    next => exact here
  next => exact here

variable (switch) in
/-- The program leaves a command that is about no port's mode. -/
abbrev Fixes (program : Action World Text) : Prop :=
  Leads switch switch.Bridged program fun out bridged mode =>
    switch.Bridged bridged mode ∧ Idle ("config ".toList ++ out)

theorem Fixes.bind {program : Action World Text} {rest : Text → Action World Value}
    {after : Value → List Text → (Port → Mode) → Prop} (fixes : Fixes switch program)
    (continues : ∀ out, Idle ("config ".toList ++ out) →
      Leads switch switch.Bridged (rest out) after) :
    Leads switch switch.Bridged (program >>= rest) after := by
  refine Agree.bind fixes fun out state here => ?_
  exact continues out here.2 state here.1

theorem fixes_pure {args : Text} (idle : Idle ("config ".toList ++ args)) :
    Fixes switch (pure args) :=
  Leads.pure fun _ _ here => ⟨here, idle⟩

section Rules

variable {args : Text} (idle : Idle ("config ".toList ++ args))

include idle

theorem ipRemove_fixes : Fixes switch (switch.host.ipRemove args) := by
  refine Agree.ite (fun here => ?_) fun _ => fixes_pure idle
  have asks : Keeps switch switch.host.ipDelCli :=
    Leads.cached (fun _ _ => rfl) <|
      Agree.bind (keeps_run (Idling.interfaceIp.idle rfl) false) fun _ =>
        Agree.bind (keeps_run (Idling.interfaceIp.idle rfl) false) fun _ => Leads.same _
  refine Agree.bind asks fun del => Agree.ite (fun _ => fixes_pure ?_) fun _ => fixes_pure idle
  exact idle_of_begins (List.mem_append_right _ (.head _))
    (startsWith_replaceFirst "interface ip del".toList here)

theorem mirrorRemove_fixes : Fixes switch (switch.host.mirrorRemove args) := by
  refine Agree.ite (fun here => ?_) fun _ => fixes_pure idle
  have asks : Keeps switch switch.host.mirrorDelCli :=
    Leads.cached (fun _ _ => rfl) <|
      Agree.bind (keeps_run (Idling.mirrorSession.idle rfl) false) fun _ =>
        Agree.bind (keeps_run (Idling.mirrorSession.idle rfl) false) fun _ => Leads.same _
  refine Agree.bind asks fun del => Agree.ite (fun _ => fixes_pure ?_) fun _ => fixes_pure idle
  exact idle_of_begins (List.mem_append_right _ (.tail _ (.head _)))
    (startsWith_replaceFirst "mirror_session del".toList here)

theorem spanAdd_fixes : Fixes switch (switch.host.spanAdd args) := by
  refine Agree.ite (fun here => ?_) fun _ => fixes_pure idle
  have asks : Keeps switch switch.host.spanDirOpt :=
    Leads.cached (fun _ _ => rfl) <|
      Agree.bind (keeps_run (Idling.mirrorSession.idle rfl) false) fun _ => Leads.same _
  refine Agree.bind asks fun option => Agree.ite (fun _ => fixes_pure ?_) fun _ => fixes_pure idle
  exact idle_of_begins (by decide) (startsWith_directionOption here)

theorem aclTable_fixes : Fixes switch (switch.host.aclTable args) := by
  have acl : "acl-table ".toList ∈ ruled ++ rewritten :=
    List.mem_append_right _ (.tail _ (.tail _ (.head _)))
  have asks : Keeps switch switch.host.aclTableCli :=
    Leads.cached (fun _ _ => rfl) <|
      Agree.bind (keeps_run (Idling.aclTable.idle rfl) false) fun _ => Leads.same _
  refine Agree.ite (fun here => ?_) fun _ => Agree.ite (fun _ => ?_) fun _ => fixes_pure idle
  · refine Agree.bind asks fun cli => Agree.ite (fun _ => fixes_pure ?_) fun _ => fixes_pure idle
    rcases Device.rewriteAclAdd_written args with same | written
    · rwa [same]
    · exact idle_of_begins acl written
  · refine Agree.bind asks fun cli => Agree.ite (fun _ => ?_) fun _ => fixes_pure idle
    cases (split args).drop 3 with
    | nil => exact fixes_pure idle
    | cons name rest => exact fixes_pure (idle_of_begins acl rfl)

end Rules

section Members

variable {call : Text → Bool → Action World Result}
  (calls : ∀ args check, Idle (written args) → Keeps switch (call args check))
  (serves : Serves switch.host call) {args : Text}

theorem harmless_fixes : Fixes switch (pure harmless) :=
  fixes_pure (idle_of_asked rfl)

theorem member_fixes (here : startsWith "vlan member add".toList args = true) :
    Fixes switch (pure args) :=
  fixes_pure (idle_of_begins (by decide) here)

theorem portFlag_fixes (here : startsWith "vlan member add".toList args = true) :
    Fixes switch (switch.host.portFlag args) := by
  have solid : Solid (memberPort args) := by
    unfold memberPort
    split
    · exact last_solid (positionals_solid args)
    · exact fun _ member => nomatch member
  have dropped : Fixes switch (pure (dropFlag args)) :=
    member_fixes (Device.startsWith_dropFlag here)
  refine Agree.bind (Leads.anyRow _) fun row => Agree.ite (fun _ => ?_) fun _ => ?_
  · exact member_fixes (Device.startsWith_untagged here)
  refine Agree.bind stpLocked_keeps fun locked => ?_
  cases positionals args with
  | nil => exact dropped
  | cons vid rest =>
      refine Agree.ite (fun _ => ?_) fun _ => dropped
      exact Agree.bind (hybridLadderAdd_keeps vid solid) fun _ => harmless_fixes

theorem ladderDel_fixes (idle : Idle ("config ".toList ++ args)) :
    Fixes switch (switch.host.ladderDel args) := by
  unfold Host.ladderDel
  rcases tokens : positionals args with _ | ⟨vid, _ | ⟨second, rest⟩⟩
  · exact fixes_pure idle
  · exact fixes_pure idle
  · have solid : Solid ((second :: rest).getLast?.getD []) :=
      last_solid fun token member =>
        positionals_solid args token (tokens ▸ List.mem_cons_of_mem vid member)
    refine Agree.ite (fun _ => ?_) fun _ => fixes_pure idle
    refine Agree.bind (Leads.anyRow _) fun row => Agree.ite (fun _ => ?_) fun _ => fixes_pure idle
    exact Agree.bind (hybridLadderDel_keeps vid solid) fun _ => harmless_fixes

include calls

theorem memberDel_fixes (idle : Idle ("config ".toList ++ args)) :
    Fixes switch (switch.host.memberDel call args) := by
  refine Agree.ite (fun _ => ?_) fun _ => fixes_pure idle
  refine Agree.bind (isSwitchportOs_keeps calls) fun os => Agree.ite (fun _ => ?_)
    fun _ => fixes_pure idle
  exact Agree.bind stpLocked_keeps fun locked => Agree.ite (fun _ => ladderDel_fixes idle)
    fun _ => fixes_pure idle

theorem memberFlag_fixes (here : startsWith "vlan member add".toList args = true) :
    Fixes switch (switch.host.memberFlag call args) := by
  refine Agree.ite (fun _ => ?_) fun _ => member_fixes here
  refine Agree.bind (isSwitchportOs_keeps calls) fun os => Agree.ite (fun _ => portFlag_fixes here)
    fun _ => ?_
  refine Agree.bind (vlanUntaggedFlag_keeps calls) fun flag => ?_
  split
  · exact member_fixes (Device.startsWith_untagged here)
  · exact member_fixes here

include serves

theorem routeFirst_keeps (args : Text) : Keeps switch (switch.host.routeFirst call args) := by
  refine Agree.ite (fun _ => ?_) fun _ => Leads.same _
  cases tokens : (split args).drop 3 with
  | nil => exact Leads.same _
  | cons port rest =>
      have solid : Solid port := split_drop_solid args port (tokens ▸ List.mem_cons_self ..)
      refine Agree.ite (fun _ => ?_) fun _ => Leads.same _
      exact Agree.bind (isSwitchportOs_keeps calls) fun os =>
        Agree.ite (fun _ => restorePortL3_keeps calls serves solid) fun _ => Leads.same _

theorem goesHome_keeps (args : Text) : Keeps switch (switch.host.goesHome call args) := by
  refine Agree.ite (fun _ => ?_) fun _ => Leads.same _
  refine Agree.bind (isSwitchportOs_keeps calls) fun os =>
    Agree.ite (fun _ => Agree.ite (fun _ => ?_) fun _ => Leads.same _) fun _ => Leads.same _
  refine Agree.bind (Leads.anyRow _) fun row => Agree.bind (Leads.anyKeys _) fun home => ?_
  refine Agree.ite (fun _ => Leads.same _) fun _ => ?_
  exact Agree.bind (restoreBridgeHome_keeps calls serves (last_solid (positionals_solid args)))
    fun _ => Leads.same _

omit calls in
theorem hybridPort_keeps (args : Text) : Keeps switch (Host.hybridPort call args) := by
  refine Agree.ite (fun _ => ?_) fun _ => Leads.same _
  have solid := last_solid (positionals_solid args)
  dsimp only
  rcases serves with deep | served
  · rw [deep]
    exact stop_leads fun _ _ here => here
  rw [served .switchportMode _ rfl]
  have climbs : Leads switch switch.Bridged (switch.host.shRun ("config ".toList ++
      ("switchport mode hybrid ".toList ++ (positionals args).getLast?.getD [])) false)
      fun _ => switch.BridgedBut ((positionals args).getLast?.getD []) :=
    Leads.run fun _ _ _ here moves =>
      (asks_hybrid solid).others (bridgedBut_of_bridged here _) moves
  exact Agree.bind climbs fun _ => discard_leads _

theorem ensureL2ForMemberAdd_keeps (args : Text) :
    Keeps switch (switch.host.ensureL2ForMemberAdd call args) := by
  refine Agree.ite (fun _ => ?_) fun _ => Leads.same _
  refine ensurePortL2_keeps calls serves (last_solid fun token member => ?_)
  exact split_drop_solid args token (mem_of_mem_memberPositionals member)

theorem memberMode_leads (here : startsWith "vlan member add".toList args = true) :
    Leads switch switch.Bridged (switch.host.memberMode call args) fun out bridged mode =>
      switch.Bridged bridged mode ∧ startsWith "vlan member add".toList out = true := by
  have stays : Leads switch switch.Bridged (pure args) fun out bridged mode =>
      switch.Bridged bridged mode ∧ startsWith "vlan member add".toList out = true :=
    Leads.pure fun _ _ coherent => ⟨coherent, here⟩
  refine Agree.bind (isSwitchportOs_keeps calls) fun os => Agree.ite (fun _ => ?_) fun _ => stays
  refine Agree.bind (ensureL2ForMemberAdd_keeps calls serves args) fun _ =>
    Agree.ite (fun _ => stays) fun _ => ?_
  exact Agree.bind (hybridPort_keeps serves args) fun _ =>
    Leads.pure fun _ _ coherent => ⟨coherent, Device.startsWith_tagged here⟩

theorem memberAdd_fixes (idle : Idle ("config ".toList ++ args)) :
    Fixes switch (switch.host.memberAdd call args) := by
  refine Agree.ite (fun here => ?_) fun _ => fixes_pure idle
  refine Agree.bind (goesHome_keeps calls serves args) fun home =>
    Agree.ite (fun _ => harmless_fixes) fun _ => ?_
  refine Agree.bind (memberMode_leads calls serves here) fun out state coherent => ?_
  exact memberFlag_fixes calls coherent.2 state coherent.1

theorem fixup_fixes (idle : Idle ("config ".toList ++ args)) :
    Fixes switch (switch.host.fixup call args) := by
  refine Agree.bind (routeFirst_keeps calls serves args) fun _ => ?_
  refine (ipRemove_fixes idle).bind fun args idle => ?_
  refine (mirrorRemove_fixes idle).bind fun args idle => ?_
  refine (spanAdd_fixes idle).bind fun args idle => ?_
  refine (aclTable_fixes idle).bind fun args idle => ?_
  refine (memberAdd_fixes calls serves idle).bind fun args idle => ?_
  exact memberDel_fixes calls idle

end Members

/-! ## The commands of a caller -/

theorem serves_configAt (host : Host World) (depth : Nat) : Serves host (host.configAt depth) := by
  cases depth with
  | zero => exact Or.inl fun _ _ => rfl
  | succ depth =>
      refine Or.inr fun command args here => Host.configAt_plain (command.plain here) ?_
      refine startsWith_apart here ?_
      cases command <;> decide

theorem configAt_keeps (depth : Nat) {args : Text} (check : Bool) (idle : Idle (written args)) :
    Keeps switch (switch.host.configAt depth args check) := by
  induction depth generalizing args check with
  | zero => exact Agree.stop fun _ here => here
  | succ depth inductionHypothesis =>
      rw [written] at idle
      have line : Leads switch switch.Bridged
          (switch.host.cmdline (switch.host.configAt depth) args)
          fun cmd bridged mode => switch.Bridged bridged mode ∧ Idle cmd := by
        refine Agree.ite (fun top => ?_) fun plain => ?_
        · rw [if_pos top] at idle
          exact Leads.pure fun _ _ here => ⟨here, idle⟩
        · rw [if_neg plain] at idle
          have calls (args : Text) (check : Bool) (idle : Idle (written args)) :=
            inductionHypothesis check idle
          refine (fixup_fixes calls (serves_configAt _ _) idle).bind fun fixed idle => ?_
          refine Leads.pure fun _ _ here => ⟨here, ?_⟩
          split
          · exact Idling.echo.idle rfl
          · exact idle
      refine Agree.bind line fun cmd state here => ?_
      exact keeps_run here.2 check state here.1

end OnboxFvt.Cli
