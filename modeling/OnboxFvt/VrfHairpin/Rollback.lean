import OnboxFvt.VrfHairpin.Setup

/-!
# Rolling back a failed set-up

`bind` records a port after its last step only.  Where a step fails, what the steps
before it did to the port is not undone; as the first step takes the port out of the
default VLAN, hardly any failure leaves the port as it was.
-/

namespace OnboxFvt.VrfHairpin

open Python

namespace BindScript

variable (script : BindScript)

/-- The VRF is there when the read-back looks. -/
def Bound : Prop :=
  script.memberPoll = true ∧ script.vrfBind = .done ∧ script.readBack = true

/-- Every step ends well. -/
def Completes : Prop :=
  script.Bound ∧ script.ipAdd = true ∧ script.startup = true ∧ script.enable = .done

/-- Some command takes the port out of the default VLAN. -/
def Leaves : Prop :=
  script.memberDel = true ∨ script.memberPoll = true ∧ script.vrfBindLeaves = true ∨
    script.Bound ∧ script.ipAddLeaves = true

/-- The port gets its VRF, in time or late. -/
def Binds : Prop :=
  script.memberPoll = true ∧ (script.vrfBind = .late ∨ script.vrfBind = .done)

def Addressed : Prop :=
  script.Bound ∧ script.ipAdd = true

/-- The loopback is set. -/
def Loops : Prop :=
  script.Addressed ∧ script.startup = true ∧ script.enable ≠ .refused

instance : Decidable script.Bound := by unfold Bound; infer_instance
instance : Decidable script.Completes := by unfold Completes; infer_instance
instance : Decidable script.Leaves := by unfold Leaves; infer_instance
instance : Decidable script.Binds := by unfold Binds; infer_instance
instance : Decidable script.Addressed := by unfold Addressed; infer_instance
instance : Decidable script.Loops := by unfold Loops; infer_instance

/-- The port after `bind`, however `bind` ends. -/
def after (vrf cidr : Text) (config : PortConfig) : PortConfig where
  member := config.member && !decide script.Leaves
  vrf := if script.Binds then some vrf else config.vrf
  addresses := if script.Addressed then config.addresses ++ [cidr] else config.addresses
  loopback := config.loopback || decide script.Loops

end BindScript

variable {Port : Type} [DecidableEq Port]

namespace State

/-- The port after the steps of `bind`, and whether the bind is recorded. -/
theorem bind_spec (state : State Port) (script : BindScript) (vrf : Text) (port : Port)
    (cidr : Text) :
    (state.bind script vrf port cidr).1 =
        { state.cmd port (script.after vrf cidr) with
          bound := if script.Completes then state.bound ++ [(port, vrf, cidr)] else state.bound } ∧
      ((state.bind script vrf port cidr).2 = .ok ↔ script.Completes) := by
  obtain ⟨memberDel, memberPoll, vrfBindLeaves, vrfBind, readBack, ipAddLeaves, ipAdd, startup,
    enable⟩ := script
  unfold BindScript.after
  simp only [BindScript.Completes, BindScript.Leaves, BindScript.Binds,
    BindScript.Loops, BindScript.Addressed, BindScript.Bound]
  cases memberPoll with
  | false => simp [bind, cmd]
  | true =>
      cases vrfBind with
      | refused => simp [bind, cmd, Bool.and_assoc]
      | lost => cases readBack <;> simp [bind, cmd, Bool.and_assoc]
      | late => cases readBack <;> simp [bind, cmd, Bool.and_assoc]
      | done =>
          cases readBack with
          | false => simp [bind, cmd, Bool.and_assoc]
          | true =>
              cases ipAdd with
              | false => simp [bind, cmd, Bool.and_assoc]
              | true =>
                  cases startup with
                  | false => simp [bind, cmd, Bool.and_assoc]
                  | true => cases enable <;> simp [bind, cmd, Bool.and_assoc]

/-! ## Cleaning up -/

theorem unbind_config (state : State Port) (record : Port × Text × Text) (port : Port) :
    (state.unbind record).config port =
      if port = record.1 then
        { member := true
          vrf := none
          addresses := (state.config port).addresses.filter (· ≠ record.2.2)
          loopback := false }
      else state.config port := by
  unfold unbind
  by_cases same : port = record.1
  · subst same
    simp [cmd, PortConfig.join, PortConfig.unbindVrf, PortConfig.removeIp, PortConfig.unloop]
  · simp [cmd, same]

omit [DecidableEq Port] in
theorem foldl_vrfDel_config (unbinds : Bool) (vrfs : List Text) (state : State Port) (port : Port) :
    (vrfs.foldl (vrfDel unbinds) state).config port =
      if unbinds then vrfs.foldl (fun config vrf => config.dropVrf vrf) (state.config port)
      else state.config port := by
  induction vrfs generalizing state with
  | nil => simp
  | cons vrf rest inductionHypothesis =>
      rw [List.foldl_cons, inductionHypothesis]
      cases unbinds with
      | false => rfl
      | true => rfl

end State

namespace PortConfig

theorem foldl_dropVrf_of_none {config : PortConfig} (free : config.vrf = none) (vrfs : List Text) :
    vrfs.foldl (fun config vrf => config.dropVrf vrf) config = config := by
  induction vrfs with
  | nil => rfl
  | cons vrf rest inductionHypothesis =>
      have kept : config.dropVrf vrf = config := by
        rw [dropVrf, free]
        exact if_neg (by simp)
      rw [List.foldl_cons, kept, inductionHypothesis]

theorem foldl_dropVrf_of_mem {config : PortConfig} {vrf : Text} (bound : config.vrf = some vrf)
    {vrfs : List Text} (created : vrf ∈ vrfs) :
    vrfs.foldl (fun config vrf => config.dropVrf vrf) config =
      { config with vrf := none, addresses := [] } := by
  induction vrfs with
  | nil => cases created
  | cons other rest inductionHypothesis =>
      rw [List.foldl_cons]
      by_cases same : other = vrf
      · have dropped : config.dropVrf other = { config with vrf := none, addresses := [] } := by
          rw [dropVrf, bound, same]
          exact if_pos rfl
        rw [dropped]
        exact foldl_dropVrf_of_none rfl rest
      · have kept : config.dropVrf other = config := by
          rw [dropVrf, bound]
          exact if_neg fun equal => same (Option.some.inj equal).symm
        rw [kept]
        apply inductionHypothesis
        exact (List.mem_cons.mp created).resolve_left fun equal => same equal.symm

end PortConfig

/-- A port as the set-up finds it. -/
def PortConfig.home : PortConfig where
  member := true
  vrf := none
  addresses := []
  loopback := false

/-- The failing bind has left nothing on the port that stays. -/
def BindScript.Harmless (script : BindScript) (unbinds : Bool) : Prop :=
  ¬ script.Leaves ∧ (script.Binds → unbinds = true) ∧ ¬ script.Loops

instance (script : BindScript) (unbinds : Bool) : Decidable (script.Harmless unbinds) := by
  unfold BindScript.Harmless
  infer_instance

/-- What `vrf del` leaves of a bind that was not recorded. -/
theorem dropped_after_iff (script : BindScript) (unbinds : Bool) (vrf cidr : Text)
    (vrfs : List Text) (created : vrf ∈ vrfs) :
    (if unbinds then
        vrfs.foldl (fun config vrf => config.dropVrf vrf) (script.after vrf cidr .home)
      else script.after vrf cidr .home) = .home ↔ script.Harmless unbinds := by
  have addressedBinds : script.Addressed → script.Binds := fun addressed =>
    ⟨addressed.1.1, .inr addressed.1.2.1⟩
  unfold BindScript.Harmless
  by_cases binds : script.Binds
  · cases unbinds with
    | false => simp [BindScript.after, PortConfig.home, binds]
    | true =>
        have bound : (script.after vrf cidr .home).vrf = some vrf := by
          simp [BindScript.after, binds]
        rw [if_pos rfl, PortConfig.foldl_dropVrf_of_mem bound created]
        simp [BindScript.after, PortConfig.home, binds]
  · have free : (script.after vrf cidr .home).vrf = none := by
      simp [BindScript.after, PortConfig.home, binds]
    have plain : ¬ script.Addressed := fun addressed => binds (addressedBinds addressed)
    rw [PortConfig.foldl_dropVrf_of_none free, ite_self]
    simp [BindScript.after, PortConfig.home, binds, plain]

/-! ## The fixture -/

theorem foldl_unbind_vrfs (records : List (Port × Text × Text)) (state : State Port) :
    (records.foldl State.unbind state).vrfs = state.vrfs := by
  induction records generalizing state with
  | nil => rfl
  | cons record rest inductionHypothesis => exact inductionHypothesis (state.unbind record)

theorem cleanup_config (state : State Port) (unbinds : Bool) (port : Port) :
    (state.cleanup unbinds).config port =
      if unbinds then
        state.vrfs.reverse.foldl (fun config vrf => config.dropVrf vrf)
          ((state.bound.reverse.foldl State.unbind state).config port)
      else (state.bound.reverse.foldl State.unbind state).config port := by
  unfold State.cleanup
  dsimp only
  rw [State.foldl_vrfDel_config, foldl_unbind_vrfs]

theorem dropped_home (unbinds : Bool) (vrfs : List Text) :
    (if unbinds then vrfs.foldl (fun config vrf => config.dropVrf vrf) .home else .home) =
      PortConfig.home := by
  rw [PortConfig.foldl_dropVrf_of_none rfl, ite_self]

/-- The port of a recorded bind. -/
theorem released_after (script : BindScript) (vrf cidr : Text) :
    ({ member := true
       vrf := none
       addresses := (script.after vrf cidr .home).addresses.filter (· ≠ cidr)
       loopback := false } : PortConfig) = .home := by
  by_cases addressed : script.Addressed <;> simp [BindScript.after, PortConfig.home, addressed]

namespace Fixture

variable (fixture : Fixture Port)

/-- The handle is new and both ports are untagged members of the default VLAN, with nothing else. -/
structure Start (state : State Port) : Prop where
  vrfs : state.vrfs = []
  bound : state.bound = []
  portA : state.config fixture.portA = .home
  portB : state.config fixture.portB = .home

end Fixture

/-- The set-up completes a bind or its failure leaves nothing on the port. -/
def SetupScript.Restorable (script : SetupScript) (unbinds : Bool) : Prop :=
  script.addA = true → script.addB = true →
    (script.bindA.Completes ∨ script.bindA.Harmless unbinds) ∧
      (script.bindA.Completes → script.bindB.Completes ∨ script.bindB.Harmless unbinds)

/-- The state in which the first bind begins. -/
def Fixture.begun (fixture : Fixture Port) (state : State Port) : State Port :=
  (state.addVrf fixture.vrfA).addVrf fixture.vrfB

theorem setup_eq {script : SetupScript} (addA : script.addA = true) (addB : script.addB = true)
    (fixture : Fixture Port) {state : State Port} (start : fixture.Start state) :
    fixture.setup script state =
      if script.bindA.Completes then
        { ((fixture.begun state).cmd fixture.portA
            (script.bindA.after fixture.vrfA fixture.cidrA)).cmd fixture.portB
              (script.bindB.after fixture.vrfB fixture.cidrB) with
          bound := (fixture.portA, fixture.vrfA, fixture.cidrA) ::
            if script.bindB.Completes then [(fixture.portB, fixture.vrfB, fixture.cidrB)] else [] }
      else
        (fixture.begun state).cmd fixture.portA
          (script.bindA.after fixture.vrfA fixture.cidrA) := by
  have fresh : (fixture.begun state).bound = [] := start.bound
  obtain ⟨reached, answers⟩ := (fixture.begun state).bind_spec script.bindA fixture.vrfA
    fixture.portA fixture.cidrA
  cases ended : (fixture.begun state).bind script.bindA fixture.vrfA fixture.portA
      fixture.cidrA with
  | mk next result =>
      rw [ended] at reached answers
      have begins : ((state.addVrf fixture.vrfA).addVrf fixture.vrfB).bind script.bindA
          fixture.vrfA fixture.portA fixture.cidrA = (next, result) := ended
      unfold Fixture.setup
      simp only [addA, addB, Bool.not_true, Bool.false_eq_true, if_false, begins]
      by_cases completes : script.bindA.Completes
      · have ok : result = .ok := answers.mpr completes
        obtain ⟨second, _⟩ := next.bind_spec script.bindB fixture.vrfB fixture.portB fixture.cidrB
        rw [if_pos completes] at reached ⊢
        subst ok
        change (next.bind script.bindB fixture.vrfB fixture.portB fixture.cidrB).1 = _
        rw [second, show next = _ from reached, fresh]
        split <;> rfl
      · rw [if_neg completes] at reached ⊢
        rw [show next = _ from reached]
        cases result with
        | ok => exact absurd (answers.mp rfl) completes
        | _ => rfl

theorem setup_config_of_uncreated {script : SetupScript}
    (uncreated : ¬ (script.addA = true ∧ script.addB = true)) (fixture : Fixture Port)
    {state : State Port} (start : fixture.Start state) :
    (fixture.setup script state).config = state.config ∧
      (fixture.setup script state).bound = [] := by
  unfold Fixture.setup
  cases addA : script.addA with
  | false => exact ⟨rfl, start.bound⟩
  | true =>
      cases addB : script.addB with
      | false => exact ⟨rfl, start.bound⟩
      | true => exact absurd ⟨addA, addB⟩ uncreated

/-- The ports after the recorded binds are undone. -/
theorem unwound_config {script : SetupScript} (addA : script.addA = true)
    (addB : script.addB = true) (fixture : Fixture Port) {state : State Port}
    (start : fixture.Start state) :
    ((fixture.setup script state).bound.reverse.foldl State.unbind
        (fixture.setup script state)).config fixture.portA =
        (if script.bindA.Completes then .home
          else script.bindA.after fixture.vrfA fixture.cidrA .home) ∧
      ((fixture.setup script state).bound.reverse.foldl State.unbind
          (fixture.setup script state)).config fixture.portB =
        (if script.bindA.Completes ∧ ¬ script.bindB.Completes then
            script.bindB.after fixture.vrfB fixture.cidrB .home
          else .home) := by
  have apart := fixture.distinct
  have distinct : fixture.portB ≠ fixture.portA := apart.symm
  have homeA : (fixture.begun state).config fixture.portA = .home := start.portA
  have homeB : (fixture.begun state).config fixture.portB = .home := start.portB
  have fresh : (fixture.begun state).bound = [] := start.bound
  rw [setup_eq addA addB fixture start]
  by_cases completesA : script.bindA.Completes
  · rw [if_pos completesA]
    by_cases completesB : script.bindB.Completes
    · simp only [completesA, completesB, if_true, List.reverse_cons, List.reverse_nil,
        List.nil_append, List.cons_append, List.foldl_cons, List.foldl_nil, State.unbind_config,
        apart, distinct, if_false, State.cmd, Function.update_self, ne_eq, not_false_eq_true,
        Function.update_of_ne, homeA, homeB, released_after, not_true_eq_false, and_false, and_self]
    · simp only [completesA, completesB, if_true, List.reverse_cons, List.reverse_nil,
        List.nil_append, List.foldl_cons, List.foldl_nil, State.unbind_config,
        apart, distinct, if_false, State.cmd, Function.update_self, ne_eq, not_false_eq_true,
        Function.update_of_ne, homeA, homeB, released_after, and_self]
  · rw [if_neg completesA]
    change ((fixture.begun state).bound.reverse.foldl State.unbind _).config fixture.portA = _ ∧
      ((fixture.begun state).bound.reverse.foldl State.unbind _).config fixture.portB = _
    rw [fresh]
    simp only [completesA, if_false, false_and, List.reverse_nil, List.foldl_nil, State.cmd,
      Function.update_self, ne_eq, distinct, not_false_eq_true, Function.update_of_ne, homeA, homeB,
      and_self]

theorem setup_vrfs {script : SetupScript} (addA : script.addA = true)
    (addB : script.addB = true) (fixture : Fixture Port) {state : State Port}
    (start : fixture.Start state) :
    (fixture.setup script state).vrfs = [fixture.vrfA, fixture.vrfB] := by
  have created : (fixture.begun state).vrfs = [fixture.vrfA, fixture.vrfB] := by
    simp [Fixture.begun, State.addVrf, start.vrfs]
  rw [setup_eq addA addB fixture start]
  split <;> exact created

/-- `cleanup` leaves both ports as the set-up found them exactly when every bind that was begun
was recorded or has left nothing on its port. -/
theorem setup_restored_iff (fixture : Fixture Port) (script : SetupScript) (unbinds : Bool)
    (state : State Port) (start : fixture.Start state) :
    (((fixture.setup script state).cleanup unbinds).config fixture.portA =
          state.config fixture.portA ∧
        ((fixture.setup script state).cleanup unbinds).config fixture.portB =
          state.config fixture.portB) ↔
      script.Restorable unbinds := by
  unfold SetupScript.Restorable
  rw [start.portA, start.portB, cleanup_config, cleanup_config]
  by_cases created : script.addA = true ∧ script.addB = true
  · obtain ⟨unwoundA, unwoundB⟩ := unwound_config created.1 created.2 fixture start
    rw [unwoundA, unwoundB, setup_vrfs created.1 created.2 fixture start]
    have harmlessA := dropped_after_iff script.bindA unbinds fixture.vrfA fixture.cidrA
      [fixture.vrfA, fixture.vrfB].reverse (by simp)
    have harmlessB := dropped_after_iff script.bindB unbinds fixture.vrfB fixture.cidrB
      [fixture.vrfA, fixture.vrfB].reverse (by simp)
    have home := dropped_home unbinds [fixture.vrfA, fixture.vrfB].reverse
    by_cases completesA : script.bindA.Completes
    · by_cases completesB : script.bindB.Completes
      · simp only [completesA, completesB, if_true, not_true_eq_false, and_false, if_false, home,
          true_or, implies_true, and_self]
      · simp only [completesA, completesB, if_true, not_false_eq_true, and_self, home, harmlessB,
          created.1, created.2, true_or, false_or, true_and, forall_const]
    · simp only [completesA, if_false, false_and, home, harmlessA, created.1, created.2, false_or,
        and_true, false_implies, forall_const]
  · obtain ⟨config, bound⟩ := setup_config_of_uncreated created fixture start
    have idle : ∀ port, ((fixture.setup script state).bound.reverse.foldl State.unbind
        (fixture.setup script state)).config port = state.config port := by
      intro port
      rw [bound, ← config]
      rfl
    rw [idle, idle, start.portA, start.portB, dropped_home]
    constructor
    · intro _ addA addB
      exact absurd ⟨addA, addB⟩ created
    · intro _
      exact ⟨rfl, rfl⟩

/-! ## A refused bind -/

def twoPorts : Fixture Bool where
  vrfA := "Vrf-A".toList
  vrfB := "Vrf-B".toList
  portA := false
  portB := true
  cidrA := "10.80.3.1/24".toList
  cidrB := "10.80.3.1/24".toList
  distinct := Bool.false_ne_true

def untouched : State Bool where
  config _ := .home
  vrfTable := []
  vrfs := []
  bound := []

def wellBound : BindScript where
  memberDel := true
  memberPoll := true
  vrfBindLeaves := false
  vrfBind := .done
  readBack := true
  ipAddLeaves := false
  ipAdd := true
  startup := true
  enable := .done

/-- The first `vrf bind` is refused after the port has left the VLAN. -/
def refusedFirst : SetupScript where
  addA := true
  addB := true
  bindA := { wellBound with vrfBind := .refused }
  bindB := wellBound

/-- The port whose bind is refused stays out of the default VLAN. -/
theorem refused_bind_loses_membership :
    twoPorts.Start untouched ∧
      (((twoPorts.setup refusedFirst untouched).cleanup true).config false).member = false ∧
        (untouched.config false).member = true :=
  ⟨⟨rfl, rfl, rfl, rfl⟩, by decide, rfl⟩

theorem setup_restored_iff_two_ports :
    twoPorts.Start untouched ∧
      ((((twoPorts.setup { refusedFirst with bindA := wellBound } untouched).cleanup false).config
            false = untouched.config false ∧
          ((twoPorts.setup { refusedFirst with bindA := wellBound } untouched).cleanup false).config
            true = untouched.config true) ↔
        SetupScript.Restorable { refusedFirst with bindA := wellBound } false) :=
  have start : twoPorts.Start untouched := ⟨rfl, rfl, rfl, rfl⟩
  ⟨start, setup_restored_iff twoPorts { refusedFirst with bindA := wellBound } false untouched
    start⟩

end OnboxFvt.VrfHairpin
