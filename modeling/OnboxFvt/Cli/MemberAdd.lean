import OnboxFvt.Cli.Commands

/-!
# Adding a member to a VLAN

`-u` asks for an untagged member and its absence for a tagged one.  On a switchport
OS the rules write either intent out as `-m`, or drop the flag.
-/

namespace OnboxFvt.Cli

open Python

/-- The words of the tail of a command that are not options. -/
def words (tail : Text) : List Text :=
  (split tail).filter fun t => !startsWith "-".toList t

/-- `replace(" -u ", ..)` finds another flag in what follows the first one. -/
def flagWithin (after : Text) : Bool :=
  contains " -u ".toList (' ' :: after)

namespace Device

variable (device : Device)

/-- When a second pass leaves a `vlan member add` with its first ` -u ` between
`before` and `after` as the first pass left it. -/
def flagSettles (args before after : Text) : Bool :=
  if device.isSwitchportOs then
    if multiVlan (device.memberMode args) then
      !hasFlag after || !flagWithin after && (!device.takesLadder args || !(words after).isEmpty ||
        multiVlan ((device.linkMode "untagged".toList).getD []))
    else if device.takesLadder args then true
    else if hasFlag after then !flagWithin after
    else contains "untagged".toList args ||
      !contains "vlan member add ".toList (before ++ [' '] ++ after)
  else device.vlanUntaggedFlag ≠ "-m untagged".toList || !flagWithin after

def memberSettles (args : Text) : Bool :=
  match cut? " -u ".toList args with
  | some (before, after) => device.flagSettles args before after
  | none => !device.isSwitchportOs || untaggedIntent args ||
      !contains "vlan member add ".toList args

end Device

/-! ## A command with an option between two parts -/

theorem words_blank (first second : Text) :
    words (first ++ ' ' :: second) = words first ++ words second := by
  rw [words, split_blank (by decide), List.filter_append]
  rfl

/-- The numbers of a command. -/
def numbers (args : Text) : List Text :=
  (split args).filter isDigit

theorem numbers_blank (first second : Text) :
    numbers (first ++ ' ' :: second) = numbers first ++ numbers second := by
  rw [numbers, split_blank (by decide), List.filter_append]
  rfl

theorem positionals_blank {before : Text} (begins : "vlan member add".toList <+: before)
    (rest : Text) : positionals (before ++ ' ' :: rest) = positionals before ++ words rest := by
  obtain ⟨later, rfl⟩ := begins
  obtain ⟨tail, others, third⟩ :=
    split_word (by decide : Solid "add".toList) (by decide) later
  have tokens : split ("vlan member add".toList ++ later) =
      "vlan".toList :: "member".toList :: ("add".toList ++ tail) :: others := by
    change split ("vlan".toList ++ ' ' :: ("member".toList ++ ' ' :: ("add".toList ++ later))) = _
    rw [split_blank (by decide), split_blank (by decide), third]
    rfl
  rw [positionals, positionals, split_blank (by decide), tokens, words, ← List.filter_append]
  rfl

theorem hasFlag_iff (args : Text) :
    hasFlag args = true ↔ ' ' :: "-u".toList ++ [' '] <:+: ' ' :: (args ++ [' ']) :=
  contains_iff

theorem hasFlag_blank (first second : Text) :
    hasFlag (first ++ ' ' :: second) = (hasFlag first || hasFlag second) := by
  rw [Bool.eq_iff_iff, Bool.or_eq_true, hasFlag_iff, hasFlag_iff, hasFlag_iff, List.append_assoc]
  exact @infix_blank_iff Char ' ' "-u".toList (' ' :: first) (second ++ [' ']) (by decide)

theorem containsFlag_blank (first second : Text) :
    contains " -u ".toList (first ++ ' ' :: second) =
      (contains " -u ".toList (first ++ [' ']) || flagWithin second) := by
  rw [Bool.eq_iff_iff, Bool.or_eq_true, flagWithin, contains_iff, contains_iff, contains_iff]
  exact infix_blank_iff (by decide : ' ' ∉ "-u".toList)

theorem containsUntagged_blank (first second : Text) :
    contains "untagged".toList (first ++ ' ' :: second) =
      (contains "untagged".toList first || contains "untagged".toList second) := by
  rw [Bool.eq_iff_iff, Bool.or_eq_true, contains_iff, contains_iff, contains_iff]
  exact infix_solid_iff (by decide : ' ' ∉ "untagged".toList)

theorem hasFlag_of_flagWithin {after : Text} (within : flagWithin after = true) :
    hasFlag after = true := by
  rw [hasFlag_iff]
  rw [flagWithin, contains_iff] at within
  refine within.trans ?_
  exact (List.prefix_append (' ' :: after) [' ']).isInfix

/-- The flag cannot reach into the name of the command. -/
theorem begins_of_append {before after : Text}
    (here : startsWith "vlan member add".toList (before ++ " -u ".toList ++ after) = true) :
    "vlan member add".toList <+: before := by
  rw [startsWith_iff, List.append_assoc] at here
  rcases List.prefix_or_prefix_of_prefix here (List.prefix_append before _) with begins | short
  · exact begins
  · obtain ⟨rest, whole⟩ := short
    rw [← whole, List.prefix_append_right_inj] at here
    change rest <+: ' ' :: '-' :: 'u' :: ' ' :: after at here
    -- what is left of the name would begin with the flag
    have no_dash : '-' ∉ rest := by
      intro member
      have : '-' ∈ "vlan member add".toList := whole ▸ List.mem_append_right before member
      simp at this
    match rest, here with
    | [], _ => rw [← whole, List.append_nil]
    | [c], here =>
        rw [(List.cons_prefix_cons.mp here).1] at whole
        have last := congrArg List.getLast? whole
        simp at last
    | c :: d :: rest, here =>
        obtain ⟨-, here⟩ := List.cons_prefix_cons.mp here
        rw [(List.cons_prefix_cons.mp here).1] at no_dash
        simp at no_dash

theorem begins_of_tagged {before after : Text}
    (here : startsWith "vlan member add".toList
      (before ++ "vlan member add ".toList ++ after) = true) :
    "vlan member add".toList <+: before ++ "vlan member add".toList := by
  rw [startsWith_iff] at here
  refine List.prefix_of_prefix_length_le here ?_ (by simp)
  exact ⟨' ' :: after, by simp⟩

theorem startsWith_begins {before : Text} (begins : "vlan member add".toList <+: before)
    (rest : Text) : startsWith "vlan member add".toList (before ++ rest) = true :=
  startsWith_iff.mpr (begins.trans (List.prefix_append before rest))

/-- The command with `-m mode` between two parts. -/
def withMode (mode before after : Text) : Text :=
  before ++ ' ' :: ("-m".toList ++ ' ' :: (mode ++ ' ' :: after))

def modes : List Text :=
  ["tagged".toList, "untagged".toList]

theorem positionals_withMode {mode before : Text} (begins : "vlan member add".toList <+: before)
    (listed : mode ∈ modes) (after : Text) :
    positionals (withMode mode before after) = positionals before ++ mode :: words after := by
  have alone : ∀ mode ∈ modes, words mode = [mode] := by decide
  rw [withMode, positionals_blank begins, words_blank, words_blank, alone mode listed]
  rfl

theorem numbers_withMode {mode : Text} (listed : mode ∈ modes) (before after : Text) :
    numbers (withMode mode before after) = numbers before ++ numbers after := by
  have none : ∀ mode ∈ modes, numbers mode = [] := by decide
  rw [withMode, numbers_blank, numbers_blank, numbers_blank, none mode listed]
  rfl

theorem hasFlag_withMode {mode : Text} (listed : mode ∈ modes) (before after : Text) :
    hasFlag (withMode mode before after) = (hasFlag before || hasFlag after) := by
  have none : ∀ mode ∈ modes, hasFlag mode = false := by decide
  rw [withMode, hasFlag_blank, hasFlag_blank, hasFlag_blank, none mode listed]
  rfl

namespace Device

variable {device : Device}

theorem goesHome_congr {args args' : Text} (numbers_eq : numbers args' = numbers args)
    (positionals_eq : positionals args' = positionals args) :
    device.goesHome args' = device.goesHome args := by
  rw [numbers, numbers] at numbers_eq
  rw [goesHome, goesHome, numbers_eq, positionals_eq]

theorem memberMode_congr {args args' : Text} (same : positionals args' = positionals args) :
    device.memberMode args' = device.memberMode args := by
  rw [memberMode, memberMode, same]

theorem takesLadder_congr {args args' : Text} (same : positionals args' = positionals args) :
    device.takesLadder args' = device.takesLadder args := by
  rw [takesLadder, takesLadder, same]

/-- A mode is no port, so an add that does not go home does not with a mode either. -/
theorem goesHome_withMode {mode before after : Text}
    (begins : "vlan member add".toList <+: before) (listed : mode ∈ modes)
    (away : device.goesHome (before ++ ' ' :: after) = false) :
    device.goesHome (withMode mode before after) = false := by
  have noPort : ∀ mode ∈ modes, startsWith "Ethernet".toList mode = false := by decide
  have nums := numbers_withMode listed before after
  rw [← numbers_blank, numbers, numbers] at nums
  rw [goesHome, nums, positionals_withMode begins listed]
  rw [goesHome, positionals_blank begins] at away
  cases last : words after with
  | nil => rw [List.getLast?_concat, Option.getD_some, noPort mode listed, Bool.and_false]
  | cons word others =>
      rw [last] at away
      rw [List.getLast?_append_cons, List.getLast?_cons_cons]
      rwa [List.getLast?_append_cons] at away

end Device

/-! ## What the rules write -/

theorem hasFlag_of_contains {args : Text} (found : contains " -u ".toList args = true) :
    hasFlag args = true := by
  rw [contains_iff] at found
  rw [hasFlag_iff]
  refine found.trans ?_
  exact ⟨[' '], [' '], by simp⟩

theorem flag_cut {args before after : Text}
    (cut : cut? " -u ".toList args = some (before, after)) :
    args = before ++ ' ' :: ("-u".toList ++ ' ' :: after) := by
  rw [cut?_eq_some cut, List.append_assoc]
  rfl

theorem begins_of_cut {args before after : Text}
    (here : startsWith "vlan member add".toList args = true)
    (cut : cut? " -u ".toList args = some (before, after)) :
    "vlan member add".toList <+: before := by
  rw [cut?_eq_some cut] at here
  exact begins_of_append here

theorem no_flag_before {args before after : Text}
    (here : startsWith "vlan member add".toList args = true)
    (cut : cut? " -u ".toList args = some (before, after)) :
    contains " -u ".toList (before ++ [' ']) = false ∧ hasFlag before = false := by
  have first := cut?_first (by decide) cut
  have blank : ¬ " -u ".toList <:+: before ++ [' '] := fun occurs =>
    first (occurs.trans ⟨[], "-u".toList, by simp⟩)
  refine ⟨by rwa [← Bool.not_eq_true, contains_iff], ?_⟩
  rw [← Bool.not_eq_true, hasFlag_iff, List.infix_cons_iff]
  rintro (starts | later)
  · obtain ⟨rest, rfl⟩ := begins_of_cut here cut
    have dash := (List.cons_prefix_cons.mp starts).2
    exact absurd (List.cons_prefix_cons.mp dash).1 (by decide)
  · exact blank later

theorem untagged_cut {args before after : Text}
    (cut : cut? " -u ".toList args = some (before, after)) :
    untagged args = withMode "untagged".toList before after := by
  rw [untagged, replaceFirst_of_cut cut, List.append_assoc]
  rfl

theorem dropFlag_cut {args before after : Text}
    (cut : cut? " -u ".toList args = some (before, after)) :
    dropFlag args = before ++ ' ' :: after := by
  rw [dropFlag, replaceFirst_of_cut cut, List.append_assoc]
  rfl

theorem tagged_cut {args before after : Text}
    (cut : cut? "vlan member add ".toList args = some (before, after)) :
    args = before ++ "vlan member add".toList ++ ' ' :: after ∧
      tagged args = withMode "tagged".toList (before ++ "vlan member add".toList) after := by
  have searched : "vlan member add ".toList = "vlan member add".toList ++ [' '] := by decide
  have replacing : "vlan member add -m tagged ".toList =
      "vlan member add".toList ++ ' ' :: ("-m".toList ++ ' ' :: ("tagged".toList ++ [' '])) := by
    decide
  constructor
  · rw [cut?_eq_some cut, searched]
    simp only [List.append_assoc, List.cons_append, List.nil_append]
  · rw [tagged, replaceFirst_of_cut cut, withMode, replacing]
    simp only [List.append_assoc, List.cons_append, List.nil_append]

theorem hasFlag_tagged (args : Text) : hasFlag (tagged args) = hasFlag args := by
  cases cut : cut? "vlan member add ".toList args with
  | none => rw [tagged, replaceFirst_of_absent (contains_of_uncut cut)]
  | some parts =>
      obtain ⟨whole, written⟩ := tagged_cut cut
      rw [written, hasFlag_withMode (by decide), ← hasFlag_blank, ← whole]

namespace Device

variable {device : Device}

theorem memberAdd_flag {args : Text} (here : startsWith "vlan member add".toList args = true)
    (away : device.goesHome args = false) (flag : hasFlag args = true) :
    device.memberAdd args = device.memberFlag args := by
  have intent : untaggedIntent args = true := by rw [untaggedIntent, flag, Bool.true_or]
  simp only [memberAdd, here, away, intent, flag, if_true, Bool.not_true, Bool.and_false,
    Bool.false_eq_true, if_false]

theorem memberAdd_tagged {args : Text} (here : startsWith "vlan member add".toList args = true)
    (away : device.goesHome args = false) (os : device.isSwitchportOs = true)
    (intent : untaggedIntent args = false) : device.memberAdd args = tagged args := by
  have quiet : hasFlag (tagged args) = false := by
    rw [hasFlag_tagged]
    exact (Bool.or_eq_false_iff.mp intent).1
  simp only [memberAdd, here, away, os, intent, quiet, if_true, Bool.not_false, Bool.and_true,
    Bool.false_eq_true, if_false]

theorem memberAdd_plain {args : Text} (here : startsWith "vlan member add".toList args = true)
    (away : device.goesHome args = false) (quiet : hasFlag args = false)
    (decided : device.isSwitchportOs = false ∨ untaggedIntent args = true) :
    device.memberAdd args = args := by
  have kept : (device.isSwitchportOs && !untaggedIntent args) = false := by
    rcases decided with os | intent
    · rw [os, Bool.false_and]
    · rw [intent, Bool.not_true, Bool.and_false]
  simp only [memberAdd, here, away, quiet, kept, if_true, Bool.false_eq_true, if_false]

/-- The commands the rules for `vlan member add` leave as they are. -/
def memberFixed (device : Device) (args : Text) : Bool :=
  if hasFlag args then
    if device.isSwitchportOs then
      (multiVlan (device.memberMode args) || !device.takesLadder args) &&
        !contains " -u ".toList args
    else device.vlanUntaggedFlag ≠ "-m untagged".toList || !contains " -u ".toList args
  else !device.isSwitchportOs || contains "untagged".toList args ||
    !contains "vlan member add ".toList args

theorem memberFlag_eq_self_iff {args : Text}
    (here : startsWith "vlan member add".toList args = true) (flag : hasFlag args = true) :
    device.memberFlag args = args ↔ device.memberFixed args = true := by
  have own : harmless ≠ args := by
    rintro rfl
    exact absurd here (by decide)
  have unmarked : untagged args = args ↔ contains " -u ".toList args = false :=
    replaceFirst_eq_self_iff (by decide)
  have undropped : dropFlag args = args ↔ contains " -u ".toList args = false :=
    replaceFirst_eq_self_iff (by decide)
  rw [memberFixed, if_pos flag, memberFlag]
  by_cases os : device.isSwitchportOs = true
  · rw [if_pos os, if_pos os]
    by_cases multi : multiVlan (device.memberMode args) = true
    · rw [if_pos multi, unmarked, multi, Bool.true_or, Bool.true_and, Bool.not_eq_true']
    · rw [if_neg multi, eq_false_of_ne_true multi, Bool.false_or]
      by_cases ladder : device.takesLadder args = true
      · rw [if_pos ladder, ladder]
        simp [own]
      · rw [if_neg ladder, undropped, eq_false_of_ne_true ladder, Bool.not_false, Bool.true_and,
          Bool.not_eq_true']
  · rw [if_neg os, if_neg os]
    by_cases style : device.vlanUntaggedFlag = "-m untagged".toList
    · rw [if_pos style, unmarked, decide_eq_false (not_not.mpr style), Bool.false_or,
        Bool.not_eq_true']
    · rw [if_neg style, decide_eq_true style, Bool.true_or]
      exact iff_of_true rfl rfl

theorem memberAdd_eq_self_iff {args : Text}
    (here : startsWith "vlan member add".toList args = true)
    (away : device.goesHome args = false) :
    device.memberAdd args = args ↔ device.memberFixed args = true := by
  by_cases flag : hasFlag args = true
  · rw [memberAdd_flag here away flag, memberFlag_eq_self_iff here flag]
  · have quiet := eq_false_of_ne_true flag
    have intent : untaggedIntent args = contains "untagged".toList args := by
      rw [untaggedIntent, quiet, Bool.false_or]
    rw [memberFixed, if_neg flag, ← intent]
    by_cases decided : device.isSwitchportOs = false ∨ untaggedIntent args = true
    · rw [memberAdd_plain here away quiet decided]
      rcases decided with os | asked
      · simp [os]
      · simp [asked]
    · obtain ⟨os, tag⟩ := not_or.mp decided
      rw [Bool.not_eq_false] at os
      rw [memberAdd_tagged here away os (eq_false_of_ne_true tag), tagged,
        replaceFirst_eq_self_iff (by decide), os, eq_false_of_ne_true tag]
      simp

/-! ### The second pass -/

theorem positionals_cut {args before after : Text}
    (here : startsWith "vlan member add".toList args = true)
    (cut : cut? " -u ".toList args = some (before, after)) :
    positionals args = positionals before ++ words after := by
  conv_lhs => rw [flag_cut cut]
  rw [positionals_blank (begins_of_cut here cut), words_blank]
  rfl

theorem goesHome_cut {args before after : Text}
    (here : startsWith "vlan member add".toList args = true)
    (cut : cut? " -u ".toList args = some (before, after)) :
    device.goesHome (before ++ ' ' :: after) = device.goesHome args := by
  apply goesHome_congr
  · conv_rhs => rw [flag_cut cut]
    rw [numbers_blank, numbers_blank, numbers_blank]
    rfl
  · rw [positionals_blank (begins_of_cut here cut), positionals_cut here cut]

theorem flagWithin_blank (first second : Text) :
    flagWithin (first ++ ' ' :: second) = (hasFlag first || flagWithin second) :=
  containsFlag_blank (' ' :: first) second

theorem containsFlag_withMode {mode : Text} (listed : mode ∈ modes) (before after : Text) :
    contains " -u ".toList (withMode mode before after) =
      (contains " -u ".toList (before ++ [' ']) || flagWithin after) := by
  have none : ∀ mode ∈ modes, hasFlag mode = false := by decide
  rw [withMode, containsFlag_blank, flagWithin_blank, flagWithin_blank, none mode listed]
  rfl

/-- A port that was multi-VLAN stays so in the second pass, unless it now is the mode
that is taken for the port. -/
theorem flagged_again {args before after : Text}
    (here : startsWith "vlan member add".toList args = true)
    (cut : cut? " -u ".toList args = some (before, after))
    (multi : multiVlan (device.memberMode args) = true) :
    (multiVlan (device.memberMode (withMode "untagged".toList before after)) ||
        !device.takesLadder (withMode "untagged".toList before after)) =
      (!device.takesLadder args || !(words after).isEmpty ||
        multiVlan ((device.linkMode "untagged".toList).getD [])) := by
  have noNumber : isDigit "untagged".toList = false := by decide
  have listed : "untagged".toList ∈ modes := by decide
  have tokens := positionals_withMode (begins_of_cut here cut) listed after
  rw [memberMode, positionals_cut here cut] at multi
  rw [memberMode, takesLadder, tokens, takesLadder, positionals_cut here cut]
  generalize "untagged".toList = mode at noNumber
  cases tail : words after with
  | nil =>
      cases positionals before with
      | nil => simp [noNumber]
      | cons first others =>
          have last : (first :: (others ++ [mode])).getLast? = some mode :=
            @List.getLast?_concat _ (first :: others) mode
          simp [Bool.or_comm, last]
  | cons word rest =>
      cases front : positionals before with
      | nil => simp [noNumber]
      | cons first others =>
          -- the last word is the port in both passes
          have last : ((first :: others) ++ word :: rest).getLast? = (word :: rest).getLast? :=
            List.getLast?_append_cons ..
          have last' : ((first :: others) ++ mode :: word :: rest).getLast? =
              (word :: rest).getLast? := by
            rw [List.getLast?_append_cons, List.getLast?_cons_cons]
          have long (first word : Text) (others rest : List Text) :
              (first :: others ++ word :: rest).length ≥ 2 := by
            simp
            omega
          rw [tail, front, last, if_pos (long ..)] at multi
          rw [last', if_pos (long ..), multi]
          simp

theorem startsWith_tagged {args : Text} (here : startsWith "vlan member add".toList args = true) :
    startsWith "vlan member add".toList (tagged args) = true := by
  cases cut : cut? "vlan member add ".toList args with
  | none => rwa [tagged, replaceFirst_of_absent (contains_of_uncut cut)]
  | some parts =>
      rw [cut?_eq_some cut] at here
      rw [(tagged_cut cut).2]
      exact startsWith_begins (begins_of_tagged here) _

theorem startsWith_untagged {args : Text}
    (here : startsWith "vlan member add".toList args = true) :
    startsWith "vlan member add".toList (untagged args) = true := by
  cases cut : cut? " -u ".toList args with
  | none => rwa [untagged, replaceFirst_of_absent (contains_of_uncut cut)]
  | some parts =>
      rw [untagged_cut cut]
      exact startsWith_begins (begins_of_cut here cut) _

theorem startsWith_dropFlag {args : Text}
    (here : startsWith "vlan member add".toList args = true) :
    startsWith "vlan member add".toList (dropFlag args) = true := by
  cases cut : cut? " -u ".toList args with
  | none => rwa [dropFlag, replaceFirst_of_absent (contains_of_uncut cut)]
  | some parts =>
      rw [dropFlag_cut cut]
      exact startsWith_begins (begins_of_cut here cut) _

theorem memberFlag_written {args : Text}
    (here : startsWith "vlan member add".toList args = true) :
    device.memberFlag args = harmless ∨
      startsWith "vlan member add".toList (device.memberFlag args) = true := by
  rw [memberFlag]
  split
  next =>
    split
    next => exact Or.inr (startsWith_untagged here)
    next =>
      split
      next => exact Or.inl rfl
      next => exact Or.inr (startsWith_dropFlag here)
  next =>
    split
    next => exact Or.inr (startsWith_untagged here)
    next => exact Or.inr here

/-- The rules only write the harmless command and commands for the same rules. -/
theorem memberAdd_written {args : Text} (here : startsWith "vlan member add".toList args = true) :
    device.memberAdd args = harmless ∨
      startsWith "vlan member add".toList (device.memberAdd args) = true := by
  by_cases home : device.goesHome args = true
  · left
    rw [memberAdd, if_pos here, if_pos home]
  · have away := eq_false_of_ne_true home
    by_cases flag : hasFlag args = true
    · rw [memberAdd_flag here away flag]
      exact memberFlag_written here
    · right
      by_cases decided : device.isSwitchportOs = false ∨ untaggedIntent args = true
      · rwa [memberAdd_plain here away (eq_false_of_ne_true flag) decided]
      · obtain ⟨os, tag⟩ := not_or.mp decided
        rw [memberAdd_tagged here away (by rwa [Bool.not_eq_false] at os)
          (eq_false_of_ne_true tag)]
        exact startsWith_tagged here

/-! ### Which outputs are fixed -/

theorem memberAdd_untagged_iff {args before after : Text}
    (here : startsWith "vlan member add".toList args = true)
    (away : device.goesHome args = false)
    (cut : cut? " -u ".toList args = some (before, after))
    (style : device.isSwitchportOs = true ∨ device.vlanUntaggedFlag = "-m untagged".toList) :
    device.memberAdd (untagged args) = untagged args ↔
      (!hasFlag after || !flagWithin after && (!device.isSwitchportOs ||
        (multiVlan (device.memberMode (untagged args)) ||
          !device.takesLadder (untagged args)))) = true := by
  have listed : "untagged".toList ∈ modes := by decide
  have begins := begins_of_cut here cut
  have written := startsWith_untagged here
  obtain ⟨first, quiet⟩ := no_flag_before here cut
  rw [untagged_cut cut] at written ⊢
  have away' := goesHome_withMode begins listed ((goesHome_cut here cut).trans away)
  have asked : contains "untagged".toList (withMode "untagged".toList before after) = true := by
    rw [contains_iff, withMode]
    exact ⟨before ++ ' ' :: ("-m".toList ++ [' ']), ' ' :: after, by simp⟩
  rw [memberAdd_eq_self_iff written away', memberFixed, hasFlag_withMode listed, quiet,
    Bool.false_or, containsFlag_withMode listed, first, Bool.false_or, asked]
  by_cases flag : hasFlag after = true
  · rw [if_pos flag, flag, Bool.not_true, Bool.false_or]
    rcases style with os | style
    · rw [if_pos os, os, Bool.not_true, Bool.false_or, Bool.and_comm]
    · by_cases os : device.isSwitchportOs = true
      · rw [if_pos os, os, Bool.not_true, Bool.false_or, Bool.and_comm]
      · rw [if_neg os, eq_false_of_ne_true os, decide_eq_false (not_not.mpr style),
          Bool.false_or, Bool.not_false, Bool.true_or, Bool.and_true]
  · rw [if_neg flag, eq_false_of_ne_true flag, Bool.or_true, Bool.true_or, Bool.not_false,
      Bool.true_or]

theorem memberAdd_dropFlag_iff {args before after : Text}
    (here : startsWith "vlan member add".toList args = true)
    (away : device.goesHome args = false)
    (cut : cut? " -u ".toList args = some (before, after))
    (os : device.isSwitchportOs = true) (single : multiVlan (device.memberMode args) = false)
    (ladder : device.takesLadder args = false) :
    device.memberAdd (dropFlag args) = dropFlag args ↔
      (if hasFlag after then !flagWithin after
        else contains "untagged".toList args ||
          !contains "vlan member add ".toList (before ++ [' '] ++ after)) = true := by
  have begins := begins_of_cut here cut
  have written := startsWith_dropFlag here
  rw [dropFlag_cut cut] at written ⊢
  have away' := (goesHome_cut here cut).trans away
  have same : positionals (before ++ ' ' :: after) = positionals args := by
    rw [positionals_blank begins, positionals_cut here cut]
  have asked : contains "untagged".toList args =
      contains "untagged".toList (before ++ ' ' :: after) := by
    conv_lhs => rw [flag_cut cut]
    rw [containsUntagged_blank, containsUntagged_blank, containsUntagged_blank]
    rfl
  obtain ⟨first, quiet⟩ := no_flag_before here cut
  rw [memberAdd_eq_self_iff written away', memberFixed, hasFlag_blank, quiet, Bool.false_or, os,
    if_pos rfl, memberMode_congr same, takesLadder_congr same, single, ladder, containsFlag_blank,
    first, Bool.false_or, Bool.not_false, Bool.false_or, Bool.true_and, Bool.not_true,
    Bool.false_or, asked, List.append_assoc]
  rfl

theorem memberAdd_tagged_iff {args : Text}
    (here : startsWith "vlan member add".toList args = true)
    (away : device.goesHome args = false) (os : device.isSwitchportOs = true)
    (intent : untaggedIntent args = false) :
    device.memberAdd (tagged args) = tagged args ↔
      contains "vlan member add ".toList args = false := by
  have listed : "tagged".toList ∈ modes := by decide
  cases cut : cut? "vlan member add ".toList args with
  | none =>
      have absent : contains "vlan member add ".toList args = false :=
        contains_of_uncut cut
      have same : tagged args = args := replaceFirst_of_absent absent
      rw [same, memberAdd_tagged here away os intent]
      exact iff_of_true same absent
  | some parts =>
      obtain ⟨whole, written⟩ := tagged_cut cut
      obtain ⟨quiet, unasked⟩ := Bool.or_eq_false_iff.mp intent
      have begins := startsWith_tagged here
      have found : contains "vlan member add ".toList args = true := contains_of_cut cut
      have quiet' : hasFlag (tagged args) = false := (hasFlag_tagged args).trans quiet
      have unasked' : contains "untagged".toList (tagged args) = false := by
        rw [written, withMode, containsUntagged_blank, containsUntagged_blank,
          containsUntagged_blank]
        rw [whole, containsUntagged_blank] at unasked
        exact unasked
      have found' : contains "vlan member add ".toList (tagged args) = true := by
        rw [contains_iff, written, withMode]
        exact ⟨parts.1, "-m".toList ++ ' ' :: ("tagged".toList ++ ' ' :: parts.2), by simp⟩
      have away' : device.goesHome (tagged args) = false := by
        rw [written]
        apply goesHome_withMode _ listed
        · rwa [← whole]
        · rw [cut?_eq_some cut] at here
          exact begins_of_tagged here
      rw [memberAdd_eq_self_iff begins away', memberFixed, quiet', if_neg Bool.false_ne_true,
        os, unasked', found', found]
      exact iff_of_false Bool.false_ne_true Bool.noConfusion

theorem memberAdd_harmless : device.memberAdd harmless = harmless :=
  memberAdd_apart (by decide)

theorem flagSettles_iff {args before after : Text}
    (here : startsWith "vlan member add".toList args = true)
    (away : device.goesHome args = false)
    (cut : cut? " -u ".toList args = some (before, after)) :
    device.memberAdd (device.memberFlag args) = device.memberFlag args ↔
      device.flagSettles args before after = true := by
  rw [memberFlag, flagSettles]
  by_cases os : device.isSwitchportOs = true
  · rw [if_pos os, if_pos os]
    by_cases multi : multiVlan (device.memberMode args) = true
    · rw [if_pos multi, if_pos multi, memberAdd_untagged_iff here away cut (Or.inl os),
        untagged_cut cut, flagged_again here cut multi, os, Bool.not_true, Bool.false_or]
    · rw [if_neg multi, if_neg multi]
      by_cases ladder : device.takesLadder args = true
      · rw [if_pos ladder, if_pos ladder]
        exact iff_of_true memberAdd_harmless rfl
      · rw [if_neg ladder, if_neg ladder,
          memberAdd_dropFlag_iff here away cut os (eq_false_of_ne_true multi)
            (eq_false_of_ne_true ladder)]
  · rw [if_neg os, if_neg os]
    by_cases style : device.vlanUntaggedFlag = "-m untagged".toList
    · rw [if_pos style, memberAdd_untagged_iff here away cut (Or.inr style),
        eq_false_of_ne_true os, decide_eq_false (not_not.mpr style), Bool.not_false,
        Bool.true_or, Bool.and_true, Bool.false_or]
      cases within : flagWithin after with
      | false => rw [Bool.not_false, Bool.or_true]
      | true => rw [hasFlag_of_flagWithin within, Bool.not_true, Bool.or_false]
    · rw [if_neg style, decide_eq_true style, Bool.true_or]
      have flag : hasFlag args = true := hasFlag_of_contains (contains_of_cut cut)
      rw [memberAdd_flag here away flag, memberFlag, if_neg os, if_neg style]
      exact iff_of_true rfl rfl

theorem memberAdd_absent {args : Text}
    (here : startsWith "vlan member add".toList args = true)
    (away : device.goesHome args = false) (absent : contains " -u ".toList args = false)
    (decided : device.isSwitchportOs = false ∨ untaggedIntent args = true) :
    device.memberAdd args = args ∨ device.memberAdd args = harmless := by
  by_cases flag : hasFlag args = true
  · rw [memberAdd_flag here away flag, memberFlag, untagged, replaceFirst_of_absent absent,
      dropFlag, replaceFirst_of_absent absent]
    split
    next =>
      split
      next => exact Or.inl rfl
      next =>
        split
        next => exact Or.inr rfl
        next => exact Or.inl rfl
    next => exact Or.inl (ite_self args)
  · exact Or.inl (memberAdd_plain here away (eq_false_of_ne_true flag) decided)

theorem memberAdd_idempotent_iff {args : Text}
    (here : startsWith "vlan member add".toList args = true)
    (away : device.goesHome args = false) :
    device.memberAdd (device.memberAdd args) = device.memberAdd args ↔
      device.memberSettles args = true := by
  rw [memberSettles]
  cases cut : cut? " -u ".toList args with
  | some parts =>
      have flag : hasFlag args = true := hasFlag_of_contains (contains_of_cut cut)
      rw [memberAdd_flag here away flag]
      exact flagSettles_iff here away cut
  | none =>
      have absent : contains " -u ".toList args = false :=
        contains_of_uncut cut
      dsimp only
      by_cases decided : device.isSwitchportOs = false ∨ untaggedIntent args = true
      · have settled : (!device.isSwitchportOs || untaggedIntent args) = true := by
          rcases decided with os | asked
          · rw [os, Bool.not_false, Bool.true_or]
          · rw [asked, Bool.or_true]
        rw [settled, Bool.true_or]
        apply iff_of_true _ rfl
        rcases memberAdd_absent here away absent decided with same | helped
        · rw [same, same]
        · rw [helped, memberAdd_harmless]
      · obtain ⟨os, tag⟩ := not_or.mp decided
        rw [Bool.not_eq_false] at os
        have intent := eq_false_of_ne_true tag
        rw [memberAdd_tagged here away os intent, memberAdd_tagged_iff here away os intent, os,
          intent, Bool.not_true, Bool.false_or, Bool.false_or, Bool.not_eq_true']

end Device

end OnboxFvt.Cli
