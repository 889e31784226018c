import OnboxFvt.Cli.Commands
import OnboxFvt.Cli.Session

/-!
# The commands issued on the way

What `_fixup` does with the commands its helpers issue.  Most of them no rule looks at;
`vlan member del` and `interface ip remove` have one rule each.
-/

namespace OnboxFvt.Cli

open Python Library Program

/-- The commands the rules of `_fixup` look for. -/
def ruled : List Text :=
  ["interface ip add".toList, "interface vrf bind".toList, "interface ip remove".toList,
    "mirror_session remove".toList, "mirror_session span add".toList, "acl add table".toList,
    "acl remove table".toList, "vlan member add".toList, "vlan member del".toList]

/-- No rule but the one for `own` looks at this text. -/
def Alone (own args : Text) : Prop :=
  ∀ head ∈ ruled, head ≠ own → startsWith head args = false

/-- No rule looks at this text. -/
def Plain (args : Text) : Prop :=
  ∀ head ∈ ruled, startsWith head args = false

/-- Neither text begins like the other. -/
def Apart (first second : Text) : Prop :=
  startsWith first second = false ∧ startsWith second first = false

instance (first second : Text) : Decidable (Apart first second) := by
  unfold Apart
  infer_instance

theorem plain_of_head (head : Text) {args : Text} (here : startsWith head args = true)
    (apart : ∀ other ∈ ruled, Apart other head) : Plain args :=
  fun other member => startsWith_apart here (apart other member)

theorem alone_of_head {head args : Text} (member : head ∈ ruled)
    (here : startsWith head args = true) : Alone head args := by
  have pairs : ∀ own ∈ ruled, ∀ other ∈ ruled, other ≠ own → Apart other own := by
    decide
  intro other member' distinct
  exact startsWith_apart here (pairs head member other member' distinct)

theorem Plain.alone {own args : Text} (plain : Plain args) : Alone own args :=
  fun head member _ => plain head member

/-- The other commands that are issued on the way. -/
inductive Unruled where
  | linkMode
  | switchportMode
  | arpStaticDel
  | vrfUnbind

namespace Unruled

def head : Unruled → Text
  | linkMode => "interface link-mode ".toList
  | switchportMode => "switchport mode ".toList
  | arpStaticDel => "arp static del ".toList
  | vrfUnbind => "interface vrf unbind ".toList

theorem apart (command : Unruled) : ∀ other ∈ ruled, Apart other command.head := by
  cases command <;> decide

theorem plain (command : Unruled) {args : Text} (here : startsWith command.head args = true) :
    Plain args :=
  plain_of_head command.head here command.apart

end Unruled

namespace Host

variable {World : Type} {host : Host World} {call : Text → Bool → Action World Result}
  {args : Text}

/-! ## Rules that do not look at a text -/

theorem routeFirst_apart (ipAdd : startsWith "interface ip add".toList args = false)
    (vrfBind : startsWith "interface vrf bind".toList args = false) :
    host.routeFirst call args = pure () := by
  rw [routeFirst, ipAdd, vrfBind]
  rfl

theorem ipRemove_apart (apart : startsWith "interface ip remove".toList args = false) :
    host.ipRemove args = pure args := by
  rw [ipRemove, apart]
  rfl

theorem mirrorRemove_apart (apart : startsWith "mirror_session remove".toList args = false) :
    host.mirrorRemove args = pure args := by
  rw [mirrorRemove, apart]
  rfl

theorem spanAdd_apart (apart : startsWith "mirror_session span add".toList args = false) :
    host.spanAdd args = pure args := by
  rw [spanAdd, apart]
  rfl

theorem aclTable_apart (apart : startsWith "acl add table".toList args = false)
    (apart' : startsWith "acl remove table".toList args = false) :
    host.aclTable args = pure args := by
  rw [aclTable, apart, apart']
  rfl

theorem memberAdd_apart (apart : startsWith "vlan member add".toList args = false) :
    host.memberAdd call args = pure args := by
  rw [memberAdd, apart]
  rfl

theorem memberDel_apart (apart : startsWith "vlan member del".toList args = false) :
    host.memberDel call args = pure args := by
  rw [memberDel, apart]
  rfl

/-! ## The rule of a command -/

/-- The rules after (5) on a text that none of them looks at. -/
theorem later_plain (plain : Alone "interface ip remove".toList args) :
    (do
      let args ← host.mirrorRemove args
      let args ← host.spanAdd args
      let args ← host.aclTable args
      let args ← host.memberAdd call args
      host.memberDel call args) = pure args := by
  rw [mirrorRemove_apart (plain _ (by decide) (by decide)), pure_bind,
    spanAdd_apart (plain _ (by decide) (by decide)), pure_bind,
    aclTable_apart (plain _ (by decide) (by decide)) (plain _ (by decide) (by decide)), pure_bind,
    memberAdd_apart (plain _ (by decide) (by decide)), pure_bind,
    memberDel_apart (plain _ (by decide) (by decide))]

theorem fixup_plain (plain : Plain args) : host.fixup call args = pure args := by
  rw [fixup, routeFirst_apart (plain _ (by decide)) (plain _ (by decide)), pure_bind,
    ipRemove_apart (plain _ (by decide)), pure_bind]
  exact later_plain plain.alone

theorem fixup_ipRemove (here : startsWith "interface ip remove".toList args = true) :
    host.fixup call args = host.ipRemove args := by
  have before : Alone "interface ip remove".toList args := alone_of_head (by decide) here
  have written : Plain
      (replaceFirst "interface ip remove".toList "interface ip del".toList args) :=
    plain_of_head "interface ip del".toList (startsWith_replaceFirst _ here) (by decide)
  rw [fixup, routeFirst_apart (before _ (by decide) (by decide))
    (before _ (by decide) (by decide)), pure_bind, ipRemove, if_pos here, bind_assoc]
  refine bind_congr fun del => ?_
  cases del with
  | true => exact later_plain written.alone
  | false => exact later_plain before

theorem fixup_member {head : Text} (member : head ∈ ["vlan member add".toList,
    "vlan member del".toList]) (here : startsWith head args = true) :
    host.fixup call args = host.memberAdd call args >>= host.memberDel call := by
  have before : ∀ other ∈ ruled, other ≠ "vlan member add".toList →
      other ≠ "vlan member del".toList → startsWith other args = false := by
    intro other member' notAdd notDel
    have own : head ∈ ruled := by
      rcases List.mem_pair.mp member with rfl | rfl <;> decide
    refine alone_of_head own here other member' fun same => ?_
    rcases List.mem_pair.mp member with rfl | rfl
    · exact notAdd same
    · exact notDel same
  rw [fixup, routeFirst_apart (before _ (by decide) (by decide) (by decide))
      (before _ (by decide) (by decide) (by decide)), pure_bind,
    ipRemove_apart (before _ (by decide) (by decide) (by decide)), pure_bind,
    mirrorRemove_apart (before _ (by decide) (by decide) (by decide)), pure_bind,
    spanAdd_apart (before _ (by decide) (by decide) (by decide)), pure_bind,
    aclTable_apart (before _ (by decide) (by decide) (by decide))
      (before _ (by decide) (by decide) (by decide)), pure_bind]

theorem fixup_memberDel (here : startsWith "vlan member del".toList args = true) :
    host.fixup call args = host.memberDel call args := by
  have before : Alone "vlan member del".toList args := alone_of_head (by decide) here
  rw [fixup_member (by decide) here, memberAdd_apart (before _ (by decide) (by decide)),
    pure_bind]

/-! ## A command no rule looks at -/

theorem configAt_plain {depth : Nat} {check : Bool} (plain : Plain args)
    (prefixed : startsWith "__toplevel__ ".toList args = false) :
    host.configAt (depth + 1) args check = host.shRun ("config ".toList ++ args) check := by
  rw [configAt, cmdline, prefixed, fixup_plain plain, plain "interface ip add".toList (by decide)]
  rfl

end Host

end OnboxFvt.Cli
