import OnboxFvt.Cli.Bridged
import OnboxFvt.Library.Run

/-!
# Sessions on the switchport OS

The record of the bridged ports over a whole session.  It is right as long as no caller
has a recorded port leave access mode by a command of his own: `config` runs such a
command and leaves the port recorded.
-/

namespace OnboxFvt.Cli

open Python Library Program

/-- What a test calls on a `Cli` object. -/
inductive Request (Port : Type) where
  | config (args : Text) (check : Bool)
  | ensurePortL2 (port : Port)
  | restorePortL3 (port : Port)
  | vlanMemberAdd (vid port : Text) (tagged : Bool)

variable {World Port : Type} (switch : Switchport World Port)

def Request.program : Request Port → Action World Unit
  | config args check => do
      let _ ← switch.host.config args check
      pure ()
  | ensurePortL2 port => switch.host.ensurePortL2 switch.host.config (switch.name port)
  | restorePortL3 port => switch.host.restorePortL3 switch.host.config (switch.name port)
  | vlanMemberAdd vid port tagged => do
      let _ ← Host.vlanMemberAdd switch.host.config vid port tagged
      pure ()

/-- A session; an exception ends the call and nothing else. -/
def sessions : Machine (State World) (Request Port) where
  step state request := some (request.program switch state).2

/-- A command of the caller's own leaves every recorded port in access mode. -/
def Mindful (state : State World) : Request Port → Prop
  | .config args _ => ∀ name ∈ state.self.bridged, (change name (written args)).stays = true
  | _ => True

variable {switch}

theorem configAt_written (host : Host World) {depth : Nat} {args : Text} {check : Bool}
    (moving : ¬Idle (written args)) :
    host.configAt (depth + 1) args check = host.shRun (written args) check := by
  by_cases top : startsWith "__toplevel__ ".toList args = true
  · rw [Host.configAt, Host.cmdline, written, if_pos top, if_pos top]
    rfl
  · rw [written, if_neg top] at moving
    have plain : Plain args := by
      intro head member
      by_contra here
      exact moving (idle_of_begins (List.mem_append_left _ member) (eq_true_of_ne_false here))
    rw [Host.configAt_plain plain (eq_false_of_ne_true top), written, if_neg top]

theorem config_leads (args : Text) (check : Bool) :
    Leads switch
      (fun bridged mode => switch.Bridged bridged mode ∧
        ∀ name ∈ bridged, (change name (written args)).stays = true)
      (switch.host.config args check) fun _ => switch.Bridged := by
  by_cases idle : Idle (written args)
  · exact (configAt_keeps 2 check idle).weaken (fun _ _ here => here.1) fun _ _ _ ends => ends
  · rw [Host.config, configAt_written switch.host idle]
    exact Leads.run_checked check fun _ _ _ here moves =>
      bridged_moves here.1 (fun port member => here.2 _ member) moves

theorem coherent_of_leads {Value : Type} {before : List Text → (Port → Mode) → Prop}
    {program : Action World Value} {state : State World}
    (leads : Leads switch before program fun _ => switch.Bridged)
    (here : At switch before state) : Coherent switch (program state).2 := by
  have ends := (leads state here).2
  rcases ended : program state with ⟨reason | value, last⟩ <;> rw [ended] at ends
  · exact ends
  · exact ends

theorem coherent_step {state : State World} (coherent : Coherent switch state)
    {request : Request Port} (mindful : Mindful state request) :
    Coherent switch (request.program switch state).2 := by
  have calls (args : Text) (check : Bool) (idle : Idle (written args)) :
      Keeps switch (switch.host.config args check) := configAt_keeps 2 check idle
  have serves : Serves switch.host switch.host.config := serves_configAt switch.host 2
  cases request with
  | config args check =>
      exact coherent_of_leads (Agree.bind (config_leads args check) fun _ => Leads.same ())
        ⟨coherent, mindful⟩
  | ensurePortL2 port =>
      exact coherent_of_leads (ensurePortL2_keeps calls serves (switch.name_token port).2) coherent
  | restorePortL3 port =>
      exact coherent_of_leads (restorePortL3_keeps calls serves (switch.name_token port).2) coherent
  | vlanMemberAdd vid port tagged =>
      have adds : Keeps switch (Host.vlanMemberAdd switch.host.config vid port tagged) :=
        Agree.bind (vlanUntaggedFlag_keeps calls) fun flag => calls _ _ (Idling.vlan.idle rfl)
      exact coherent_of_leads (Agree.bind adds fun _ => Leads.same ()) coherent

/-- In every session whose callers convert no recorded port on their own, the recorded
ports are in access mode. -/
theorem bridged_coherent (switch : Switchport World Port) {first last : State World}
    {requests : List (Request Port)} (fresh : first.self.bridged = [])
    (mindful : (sessions switch).Along Mindful first requests)
    (reached : (sessions switch).run first requests = some last) : Coherent switch last := by
  have initially : Coherent switch first := by
    intro port member
    rw [fresh] at member
    cases member
  refine (sessions switch).invariant_of_run ?_ initially mindful reached
  intro state request next coherent mindful stepped
  cases stepped
  exact coherent_step coherent mindful

/-! ## A switch with one port -/

namespace OnePort

def port : Text :=
  "Ethernet0".toList

def converted : Change → Mode → Mode
  | .route, .switchport .access => .routed false
  | .bridge, .routed false => .switchport .access
  | .switchport target, .switchport _ => .switchport target
  | _, mode => mode

/-- The port is a member of Vlan1 unless it is a route port. -/
def members : Mode → List Text
  | .switchport _ => ["VLAN_MEMBER|Vlan1|".toList ++ port]
  | .routed _ => []

def linkMode : Mode → Text
  | .switchport switching => switching.text
  | .routed _ => "route".toList

def host : Host Mode where
  run cmd mode := (some ⟨0, if cmd = "config interface link-mode --help".toList then
    "bridge route".toList else []⟩, converted (change port cmd) mode)
  keys pattern mode :=
    (some (if pattern ∈ ["VLAN_MEMBER|Vlan1|".toList ++ port, "VLAN_MEMBER|*|".toList ++ port] then
      members mode else []), mode)
  hgetall key mode := (some fun field =>
    if key = "PORT|".toList ++ port ∧ field = "link_mode".toList then some (linkMode mode) else none,
    mode)

theorem moves (change : Change) (mode : Mode) : Moves change mode (converted change mode) := by
  cases change with
  | route =>
      rcases mode with (_ | _ | _) | held
      · exact .routed
      all_goals exact .routeRefused _
  | bridge =>
      rcases mode with switching | (_ | _)
      · exact .bridgeIdle switching
      · exact .bridged
      · exact .bridgeHeld
  | switchport target =>
      cases mode with
      | switchport switching => exact .switched _ target
      | routed held => exact .switchRefused _ target fun _ => ⟨held, rfl⟩
  | other => exact .other mode mode id

theorem switching_of_members {mode : Mode} (some : members mode ≠ []) :
    ∃ switching, mode = .switchport switching := by
  cases mode with
  | switchport switching => exact ⟨switching, rfl⟩
  | routed held => exact absurd rfl some

theorem linkMode_iff (mode : Mode) (switching : Switching) :
    linkMode mode = switching.text ↔ mode = .switchport switching := by
  cases mode with
  | switchport mode =>
      rw [linkMode, Switching.text_injective.eq_iff]
      exact ⟨congrArg Mode.switchport, Mode.switchport.inj⟩
  | routed held =>
      have other : "route".toList ≠ switching.text := by
        cases switching <;> decide
      exact ⟨fun same => absurd same other, nofun⟩

def onePort : Switchport Mode Unit where
  host := host
  name _ := port
  mode mode _ := mode
  name_token _ := by decide
  run_answers _ _ := ⟨_, rfl⟩
  run_moves cmd mode _ := moves (change port cmd) mode
  keys_answers _ _ := ⟨_, rfl⟩
  keys_mode _ _ := rfl
  hgetall_answers _ _ := ⟨_, rfl⟩
  hgetall_mode _ _ := rfl
  member_home _ mode keys answer some := by
    cases answer
    rw [if_pos (List.mem_cons_self ..)] at some
    exact switching_of_members some
  link_mode _ mode row switching answer := by
    cases answer
    dsimp only
    rw [if_pos ⟨rfl, rfl⟩, Option.some_inj]
    exact linkMode_iff mode switching

def start : State Mode where
  world := .routed false
  self := {}

/-- The port is converted for a test, and then by a command of the test. -/
def session (mode : Text) : List (Request Unit) :=
  [.ensurePortL2 (), .config ("interface link-mode ".toList ++ port ++ ' ' :: mode) false]

end OnePort

open OnePort in
/-- The test leaves the port bridged. -/
theorem bridged_coherent_bridge : ∃ last,
    (sessions onePort).run start (session "bridge".toList) = some last ∧
      port ∈ last.self.bridged ∧ Coherent onePort last := by
  have mindful : (sessions onePort).Along Mindful start (session "bridge".toList) := by
    refine ⟨trivial, ?_⟩
    rintro _ ⟨⟩
    refine ⟨fun name _ => ?_, fun _ _ => trivial⟩
    have reads : asked (split (written
        ("interface link-mode ".toList ++ port ++ ' ' :: "bridge".toList))) =
        some (port, .bridge) := by
      decide
    rw [change, reads]
    dsimp only
    split <;> rfl
  exact ⟨_, rfl, by decide, bridged_coherent onePort rfl mindful rfl⟩

open OnePort in
/-- The test converts the port back to a route port, and it stays recorded. -/
theorem bridged_incoherent : ∃ last,
    (sessions onePort).run start (session "route".toList) = some last ∧
      ¬Coherent onePort last := by
  refine ⟨_, rfl, fun coherent => ?_⟩
  have access := coherent () (by decide)
  revert access
  decide

end OnboxFvt.Cli
