import OnboxFvt.Cli.Issued

/-!
# The switchport OS

What `link-mode`, `switchport mode` and the other commands do to the mode of a port, as
the docstrings of `Cli` describe it.  A route port may be held by addresses, static ARP
or a VRF, and is not converted then.
-/

namespace OnboxFvt.Cli

open Python

inductive Switching where
  | access
  | trunk
  | hybrid
  deriving DecidableEq

def Switching.text : Switching → Text
  | .access => "access".toList
  | .trunk => "trunk".toList
  | .hybrid => "hybrid".toList

theorem Switching.text_injective : Function.Injective Switching.text := by
  intro first second same
  cases first <;> cases second <;> first | rfl | exact absurd same (by decide)

inductive Mode where
  | switchport (mode : Switching)
  | routed (held : Bool)
  deriving DecidableEq

/-! ## Commands on a port -/

inductive Change where
  | route
  | bridge
  | switchport (mode : Switching)
  | other
  deriving DecidableEq

/-- The port a command converts, and how. -/
def asked : List Text → Option (Text × Change)
  | [first, second, third, fourth, fifth] =>
      if [first, second, third] = ["config".toList, "interface".toList, "link-mode".toList] then
        if fifth = "route".toList then some (fourth, .route)
        else if fifth = "bridge".toList then some (fourth, .bridge)
        else none
      else if [first, second, third] = ["config".toList, "switchport".toList, "mode".toList] then
        if fourth = "access".toList then some (fifth, .switchport .access)
        else if fourth = "trunk".toList then some (fifth, .switchport .trunk)
        else if fourth = "hybrid".toList then some (fifth, .switchport .hybrid)
        else none
      else none
  | _ => none

/-- What a shell command asks of the port with this name. -/
def change (name cmd : Text) : Change :=
  match asked (split cmd) with
  | some (port, change) => if port = name then change else .other
  | none => .other

/-- What a command may do to the mode of the port it is about. -/
inductive Moves : Change → Mode → Mode → Prop
  /-- A VLAN member, a marker or a mode other than access has the command refused. -/
  | routeRefused (mode : Mode) : Moves .route mode mode
  | routed : Moves .route (.switchport .access) (.routed false)
  /-- Without the marker there is nothing to convert. -/
  | bridgeIdle (mode : Switching) : Moves .bridge (.switchport mode) (.switchport mode)
  /-- A marker planted on the port is cleared. -/
  | bridgeMarked (mode : Switching) : Moves .bridge (.switchport mode) (.switchport .access)
  | bridgeHeld : Moves .bridge (.routed true) (.routed true)
  | bridged : Moves .bridge (.routed false) (.switchport .access)
  | switched (mode : Mode) (target : Switching) :
      Moves (.switchport target) mode (.switchport target)
  /-- A switchport is never refused access mode. -/
  | switchRefused (mode : Mode) (target : Switching)
      (refused : target = .access → ∃ held, mode = .routed held) :
      Moves (.switchport target) mode mode
  /-- No other command takes a port out of access mode. -/
  | other (mode next : Mode)
      (stays : mode = .switchport .access → next = .switchport .access) :
      Moves .other mode next

/-- Whether a port in access mode stays there. -/
def Change.stays : Change → Bool
  | .route => false
  | .bridge => true
  | .switchport target => target = .access
  | .other => true

theorem Moves.access {change : Change} {next : Mode}
    (moves : Moves change (.switchport .access) next) (stays : change.stays = true) :
    next = .switchport .access := by
  cases moves with
  | routeRefused => rfl
  | routed => cases stays
  | bridgeIdle => rfl
  | bridgeMarked => rfl
  | switched _ target => rw [of_decide_eq_true stays]
  | switchRefused => rfl
  | other _ _ stays => exact stays rfl

theorem Moves.home_access {mode : Switching} {next : Mode}
    (moves : Moves (.switchport .access) (.switchport mode) next) :
    next = .switchport .access := by
  cases moves with
  | switched => rfl
  | switchRefused _ _ refused =>
      obtain ⟨held, routed⟩ := refused rfl
      cases routed

theorem Moves.route_access {next : Mode} (moves : Moves .route (.switchport .access) next) :
    next = .switchport .access ∨ next = .routed false := by
  cases moves with
  | routeRefused => exact Or.inl rfl
  | routed => exact Or.inr rfl

theorem Moves.route_routed {held : Bool} {next : Mode} (moves : Moves .route (.routed held) next) :
    next = .routed held := by
  cases moves
  rfl

theorem Moves.bridge_routed {held : Bool} {next : Mode}
    (moves : Moves .bridge (.routed held) next) :
    next = if held then .routed true else .switchport .access := by
  cases moves <;> rfl

/-- A device that behaves as the docstrings say.  It answers every command and read;
`_is_port_l2` and the `link_mode` of a port tell the truth. -/
structure Switchport (World Port : Type) where
  host : Host World
  name : Port → Text
  mode : World → Port → Mode
  name_token : ∀ port, name port ≠ [] ∧ Solid (name port)
  run_answers : ∀ cmd world, ∃ result, (host.run cmd world).1 = some result
  run_moves : ∀ cmd world port,
    Moves (change (name port) cmd) (mode world port) (mode (host.run cmd world).2 port)
  keys_answers : ∀ pattern world, ∃ keys, (host.keys pattern world).1 = some keys
  keys_mode : ∀ pattern world, mode (host.keys pattern world).2 = mode world
  hgetall_answers : ∀ key world, ∃ row, (host.hgetall key world).1 = some row
  hgetall_mode : ∀ key world, mode (host.hgetall key world).2 = mode world
  member_home : ∀ port world keys,
    (host.keys ("VLAN_MEMBER|Vlan1|".toList ++ name port) world).1 = some keys → keys ≠ [] →
      ∃ switching, mode world port = .switchport switching
  link_mode : ∀ port world row switching,
    (host.hgetall ("PORT|".toList ++ name port) world).1 = some row →
      (row "link_mode".toList = some (Switching.text switching) ↔
        mode world port = .switchport switching)

/-! ## Commands that are about no port's mode -/

/-- The commands a change begins with. -/
def converting : List (List Text) :=
  [["config".toList, "interface".toList, "link-mode".toList],
    ["config".toList, "switchport".toList, "mode".toList]]

def Idle (cmd : Text) : Prop :=
  ∀ name, change name cmd = .other

theorem idle_of_asked {cmd : Text} (nothing : asked (split cmd) = none) : Idle cmd := by
  intro name
  rw [change, nothing]

theorem idle_of_words {cmd : Text} (away : ∀ words ∈ converting, ¬words <+: split cmd) :
    Idle cmd := by
  apply idle_of_asked
  unfold asked
  split
  next first second third fourth fifth tokens =>
    have apart : ∀ words ∈ converting, [first, second, third] ≠ words := by
      rintro words member rfl
      exact away _ member (tokens ▸ ⟨[fourth, fifth], rfl⟩)
    rw [if_neg (apart _ (List.mem_cons_self ..)),
      if_neg (apart _ (List.mem_cons_of_mem _ (List.mem_cons_self ..)))]
  next => rfl

/-- The commands that are about no port's mode. -/
inductive Idling where
  | vlan
  | interfaceIp
  | interfaceVrf
  | interfacePvid
  | arp
  | mirrorSession
  | acl
  | aclTable
  | sonicDb
  | echo

namespace Idling

def head : Idling → Text
  | vlan => "config vlan".toList
  | interfaceIp => "config interface ip".toList
  | interfaceVrf => "config interface vrf".toList
  | interfacePvid => "config interface pvid".toList
  | arp => "config arp".toList
  | mirrorSession => "config mirror_session".toList
  | acl => "config acl".toList
  | aclTable => "config acl-table".toList
  | sonicDb => "sonic-db-cli".toList
  | echo => "echo".toList

theorem apart (command : Idling) :
    ∀ words ∈ converting, ¬words <+: split command.head ∧ ¬split command.head <+: words := by
  cases command <;> decide

theorem idle (command : Idling) {cmd : Text}
    (here : startsWith (command.head ++ [' ']) cmd = true) : Idle cmd := by
  obtain ⟨rest, rfl⟩ := startsWith_iff.mp here
  refine idle_of_words fun words member begins => ?_
  obtain ⟨longer, shorter⟩ := command.apart words member
  rw [List.append_assoc, List.singleton_append, split_blank (by decide)] at begins
  rcases List.prefix_or_prefix_of_prefix begins (List.prefix_append _ _) with first | second
  · exact longer first
  · exact shorter second

end Idling

/-- What the rules write for the commands they look for. -/
def rewritten : List Text :=
  ["interface ip del".toList, "mirror_session del".toList, "acl-table ".toList]

theorem idle_of_begins {head args : Text} (member : head ∈ ruled ++ rewritten)
    (here : startsWith head args = true) : Idle ("config ".toList ++ args) := by
  have idles : ∀ head ∈ ruled ++ rewritten,
      startsWith (Idling.vlan.head ++ [' ']) ("config ".toList ++ head) = true ∨
      startsWith (Idling.interfaceIp.head ++ [' ']) ("config ".toList ++ head) = true ∨
      startsWith (Idling.interfaceVrf.head ++ [' ']) ("config ".toList ++ head) = true ∨
      startsWith (Idling.mirrorSession.head ++ [' ']) ("config ".toList ++ head) = true ∨
      startsWith (Idling.acl.head ++ [' ']) ("config ".toList ++ head) = true ∨
      startsWith (Idling.aclTable.head ++ [' ']) ("config ".toList ++ head) = true := by
    decide
  have longer {pattern : Text} (begins : startsWith pattern ("config ".toList ++ head) = true) :
      startsWith pattern ("config ".toList ++ args) = true := by
    rw [startsWith_iff] at begins here ⊢
    exact begins.trans ((List.prefix_append_right_inj _).mpr here)
  rcases idles head member with begins | begins | begins | begins | begins | begins
  · exact Idling.vlan.idle (longer begins)
  · exact Idling.interfaceIp.idle (longer begins)
  · exact Idling.interfaceVrf.idle (longer begins)
  · exact Idling.mirrorSession.idle (longer begins)
  · exact Idling.acl.idle (longer begins)
  · exact Idling.aclTable.idle (longer begins)

/-! ## The conversions that are issued on the way -/

/-- The command asks this of the ports with the name and nothing of the others. -/
def Asks (cmd name : Text) (asks : Change) : Prop :=
  ∀ port, port ≠ [] → change port cmd = if name = port then asks else .other

theorem asks_of_asked {cmd name : Text} {asks : Change}
    (tokens : asked (split cmd) = some (name, asks)) : Asks cmd name asks := by
  intro port _
  rw [change, tokens]

theorem asks_nothing {cmd : Text} {asks : Change} (idle : Idle cmd) : Asks cmd [] asks := by
  intro port named
  rw [idle, if_neg named.symm]

/-- A command with the name in its place asks nothing where the name is empty. -/
theorem asks_of_tokens {cmd name : Text} {asks : Change} {before after : List Text}
    (solid : Solid name) (tokens : split cmd = before ++ (split name ++ after))
    (nothing : asked (before ++ after) = none)
    (reads : asked (before ++ (name :: after)) = some (name, asks)) : Asks cmd name asks := by
  by_cases empty : name = []
  · subst empty
    exact asks_nothing (idle_of_asked (tokens ▸ nothing))
  · apply asks_of_asked
    rw [tokens, split_solid solid empty]
    exact reads

theorem asks_linkMode {name mode : Text} {asks : Change} (solid : Solid name)
    (token : mode ≠ [] ∧ Solid mode) (reads : ∀ name, asked ["config".toList,
      "interface".toList, "link-mode".toList, name, mode] = some (name, asks)) :
    Asks ("config ".toList ++ ("interface link-mode ".toList ++ name ++ ' ' :: mode)) name
      asks := by
  have head : "config ".toList ++ "interface link-mode ".toList =
      "config interface link-mode".toList ++ [' '] := by
    decide
  rw [List.append_assoc, ← List.append_assoc, head, List.append_assoc, List.singleton_append]
  have tokens : split ("config interface link-mode".toList ++ ' ' :: (name ++ ' ' :: mode)) =
      ["config".toList, "interface".toList, "link-mode".toList] ++ (split name ++ [mode]) := by
    rw [split_blank (by decide), split_blank (by decide), split_solid token.2 token.1]
    rfl
  exact asks_of_tokens solid tokens rfl (reads name)

theorem asks_switchport {head name mode : Text} {asks : Change} (solid : Solid name)
    (token : mode ≠ [] ∧ Solid mode)
    (spelled : head = "config switchport mode".toList ++ ' ' :: (mode ++ [' ']))
    (reads : ∀ name, asked ["config".toList, "switchport".toList, "mode".toList, mode, name] =
      some (name, asks)) :
    Asks (head ++ name) name asks := by
  rw [spelled, List.append_assoc, List.cons_append, List.append_assoc, List.singleton_append]
  have tokens : split ("config switchport mode".toList ++ ' ' :: (mode ++ ' ' :: name)) =
      ["config".toList, "switchport".toList, "mode".toList, mode] ++ (split name ++ []) := by
    rw [split_blank (by decide), split_blank (by decide), split_solid token.2 token.1,
      List.append_nil]
    rfl
  exact asks_of_tokens solid tokens rfl (reads name)

section Issued

variable {name : Text} (solid : Solid name)

include solid

theorem asks_route :
    Asks ("config ".toList ++ ("interface link-mode ".toList ++ name ++ " route".toList))
      name .route :=
  @asks_linkMode name "route".toList .route solid (by decide) fun _ => rfl

theorem asks_bridge :
    Asks ("config ".toList ++ ("interface link-mode ".toList ++ name ++ " bridge".toList))
      name .bridge :=
  @asks_linkMode name "bridge".toList .bridge solid (by decide) fun _ => rfl

/-- The commands the ladder runs past `_fixup`. -/
theorem ladder_asks_access :
    Asks ("config switchport mode access ".toList ++ name) name (.switchport .access) :=
  @asks_switchport _ name "access".toList _ solid (by decide) (by decide) fun _ => rfl

theorem ladder_asks_hybrid :
    Asks ("config switchport mode hybrid ".toList ++ name) name (.switchport .hybrid) :=
  @asks_switchport _ name "hybrid".toList _ solid (by decide) (by decide) fun _ => rfl

theorem asks_access :
    Asks ("config ".toList ++ ("switchport mode access ".toList ++ name)) name
      (.switchport .access) := by
  rw [← List.append_assoc]
  exact @asks_switchport _ name "access".toList _ solid (by decide) (by decide) fun _ => rfl

theorem asks_hybrid :
    Asks ("config ".toList ++ ("switchport mode hybrid ".toList ++ name)) name
      (.switchport .hybrid) := by
  rw [← List.append_assoc]
  exact @asks_switchport _ name "hybrid".toList _ solid (by decide) (by decide) fun _ => rfl

end Issued

end OnboxFvt.Cli
