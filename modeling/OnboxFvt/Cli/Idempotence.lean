import OnboxFvt.Cli.MemberAdd

/-!
# Rewriting a rewritten command

The framework asks that a rewrite be idempotent.  Most rules of `_fixup` are: what
they write is no longer a command they look for.  The rules that insert an option
into a command they keep looking for, and the one that drops a flag whose absence
means something, are idempotent only on the commands for which `settles` holds.
-/

namespace OnboxFvt.Cli

open Python

namespace Device

/-- The commands on which `_fixup` is idempotent. -/
def settles (device : Device) (args : Text) : Bool :=
  if startsWith "mirror_session span add".toList args then
    device.spanSettles args
  else if startsWith "vlan member add".toList args then
    device.goesHome args || device.memberSettles args
  else true

/-- Twice `_fixup` is twice the rules for `vlan member add`. -/
theorem fixup_memberAdd (device : Device) {args : Text}
    (here : startsWith "vlan member add".toList args = true) :
    device.fixup args = device.memberAdd args ∧
      device.fixup (device.fixup args) = device.memberAdd (device.memberAdd args) := by
  have once (args : Text) (here : startsWith "vlan member add".toList args = true) :
      device.fixup args = device.memberAdd args := by
    have before : Only .memberAdd args := only_of_own here
    refine fixup_eq_rule before ?_
    rcases device.memberAdd_written here with helped | written
    · rw [rule, helped]
      have away : foreign harmless = true := by decide
      exact fun command _ => startsWith_foreign away (by decide) command
    · exact only_of_own written
  refine ⟨once args here, ?_⟩
  rw [once args here]
  rcases device.memberAdd_written here with helped | written
  · rw [helped, fixup_harmless, memberAdd_harmless]
  · exact once _ written

theorem idempotent_of_other {device : Device} {args : Text}
    (span : startsWith "mirror_session span add".toList args = false)
    (add : startsWith "vlan member add".toList args = false) :
    device.fixup (device.fixup args) = device.fixup args := by
  by_cases here : ∃ command : Command, startsWith command.text args = true
  · obtain ⟨command, here⟩ := here
    apply idempotent_of_final (only_of_own here)
    cases command with
    | ipRemove => exact ipRemove_final args
    | mirrorRemove => exact mirrorRemove_final args
    | spanAdd => exact absurd here (ne_true_of_eq_false span)
    | aclAdd | aclRemove => exact aclTable_final args
    | memberAdd => exact absurd here (ne_true_of_eq_false add)
    | memberDel => exact memberDel_final args
  · have nowhere (command : Command) : startsWith command.text args = false :=
      eq_false_of_ne_true fun starts => here ⟨command, starts⟩
    have kept : device.rule .memberDel args = args := memberDel_apart (nowhere .memberDel)
    exact idempotent_of_final (fun command _ => nowhere command) (Or.inl kept)

end Device

theorem fixup_idempotent_iff (device : Device) (args : Text) :
    device.fixup (device.fixup args) = device.fixup args ↔ device.settles args = true := by
  rw [Device.settles]
  by_cases span : startsWith "mirror_session span add".toList args = true
  · rw [if_pos span]
    exact Device.spanAdd_idempotent_iff span
  · rw [if_neg span]
    by_cases add : startsWith "vlan member add".toList args = true
    · obtain ⟨once, twice⟩ := device.fixup_memberAdd add
      rw [if_pos add, twice, once]
      by_cases home : device.goesHome args = true
      · have helped : device.memberAdd args = harmless := by
          rw [Device.memberAdd, if_pos add, if_pos home]
        rw [helped, home, Bool.true_or]
        exact iff_of_true Device.memberAdd_harmless rfl
      · have away := eq_false_of_ne_true home
        rw [away, Bool.false_or]
        exact Device.memberAdd_idempotent_iff add away
    · rw [if_neg add]
      exact iff_of_true
        (Device.idempotent_of_other (eq_false_of_ne_true span) (eq_false_of_ne_true add)) rfl

/-- A switchport OS without STP lock; its ports are access ports. -/
def switchport : Device where
  ipDelCli := true
  mirrorDelCli := true
  spanDirOpt := true
  aclTableCli := true
  isSwitchportOs := true
  stpLocked := false
  linkMode := fun _ => some "access".toList
  memberAddHelp := "-m, --mode".toList

theorem mode_inserted_twice :
    switchport.fixup "vlan member add 100 Ethernet4".toList =
        "vlan member add -m tagged 100 Ethernet4".toList ∧
      switchport.fixup (switchport.fixup "vlan member add 100 Ethernet4".toList) =
        "vlan member add -m tagged -m tagged 100 Ethernet4".toList ∧
      switchport.fixup (switchport.fixup "vlan member add 100 Ethernet4".toList) ≠
        switchport.fixup "vlan member add 100 Ethernet4".toList := by
  decide

end OnboxFvt.Cli
