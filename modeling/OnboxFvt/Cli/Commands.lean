import OnboxFvt.Cli.Fixup
import OnboxFvt.Python.TextFacts

/-!
# One rule a command

Every command is looked at by one rule of `_fixup` only, and what a rule writes is
looked at by that rule or by none.  The rules that write another command are
therefore idempotent; the rule for the direction of a span session is so only when
there is no direction to convert.
-/

namespace OnboxFvt.Cli

open Python

/-! ## The command a text begins with -/

theorem startsWith_apart {pattern other text : Text} (here : startsWith pattern text = true)
    (apart : startsWith other pattern = false ∧ startsWith pattern other = false) :
    startsWith other text = false := by
  by_contra there
  rw [Bool.not_eq_false, startsWith_iff] at there
  rcases List.prefix_or_prefix_of_prefix there (startsWith_iff.mp here) with first | second
  · simp [startsWith_iff.mpr first] at apart
  · simp [startsWith_iff.mpr second] at apart

/-- The commands the rules look for. -/
inductive Command where
  | ipRemove
  | mirrorRemove
  | spanAdd
  | aclAdd
  | aclRemove
  | memberAdd
  | memberDel
  deriving DecidableEq

namespace Command

def text : Command → Text
  | ipRemove => "interface ip remove".toList
  | mirrorRemove => "mirror_session remove".toList
  | spanAdd => "mirror_session span add".toList
  | aclAdd => "acl add table".toList
  | aclRemove => "acl remove table".toList
  | memberAdd => "vlan member add".toList
  | memberDel => "vlan member del".toList

def all : List Command :=
  [ipRemove, mirrorRemove, spanAdd, aclAdd, aclRemove, memberAdd, memberDel]

theorem mem_all (command : Command) : command ∈ all := by
  cases command <;> decide

theorem apart {own command : Command} (distinct : command ≠ own) :
    startsWith command.text own.text = false ∧ startsWith own.text command.text = false := by
  have pairs : ∀ own ∈ all, ∀ command ∈ all, command ≠ own →
      startsWith command.text own.text = false ∧
        startsWith own.text command.text = false := by
    decide
  exact pairs own (mem_all own) command (mem_all command) distinct

end Command

/-- No command begins like this text, and this text does not begin like a command. -/
def foreign (pattern : Text) : Bool :=
  Command.all.all fun command =>
    !startsWith command.text pattern && !startsWith pattern command.text

/-- At most the rules for one command look at this text. -/
def Only (own : Command) (text : Text) : Prop :=
  ∀ command, command ≠ own → startsWith command.text text = false

theorem only_of_own {own : Command} {text : Text} (here : startsWith own.text text = true) :
    Only own text := by
  intro command distinct
  exact startsWith_apart here (Command.apart distinct)

theorem startsWith_foreign {pattern text : Text} (away : foreign pattern = true)
    (here : startsWith pattern text = true) (command : Command) :
    startsWith command.text text = false := by
  have apart := List.all_eq_true.mp away command (Command.mem_all command)
  rw [Bool.and_eq_true, Bool.not_eq_true', Bool.not_eq_true'] at apart
  exact startsWith_apart here apart

namespace Device

variable {device : Device}

theorem ipRemove_apart {args : Text}
    (apart : startsWith "interface ip remove".toList args = false) :
    device.ipRemove args = args := by
  rw [ipRemove, apart]
  rfl

theorem mirrorRemove_apart {args : Text}
    (apart : startsWith "mirror_session remove".toList args = false) :
    device.mirrorRemove args = args := by
  rw [mirrorRemove, apart]
  rfl

theorem spanAdd_apart {args : Text}
    (apart : startsWith "mirror_session span add".toList args = false) :
    device.spanAdd args = args := by
  rw [spanAdd, apart]
  rfl

theorem aclTable_apart {args : Text} (apart : startsWith "acl add table".toList args = false)
    (apart' : startsWith "acl remove table".toList args = false) :
    device.aclTable args = args := by
  rw [aclTable, apart, apart']
  rfl

theorem memberAdd_apart {args : Text} (apart : startsWith "vlan member add".toList args = false) :
    device.memberAdd args = args := by
  rw [memberAdd, apart]
  rfl

theorem memberDel_apart {args : Text} (apart : startsWith "vlan member del".toList args = false) :
    device.memberDel args = args := by
  rw [memberDel, apart]
  rfl

/-! ### The rule of each command -/

/-- The rule that looks for a command. -/
def rule (device : Device) : Command → Text → Text
  | .ipRemove => device.ipRemove
  | .mirrorRemove => device.mirrorRemove
  | .spanAdd => device.spanAdd
  | .aclAdd => device.aclTable
  | .aclRemove => device.aclTable
  | .memberAdd => device.memberAdd
  | .memberDel => device.memberDel

/-- When the rule for a command writes no other one, the other rules do nothing. -/
theorem fixup_eq_rule {own : Command} {args : Text} (before : Only own args)
    (after : Only own (device.rule own args)) : device.fixup args = device.rule own args := by
  rw [fixup]
  cases own with
  | ipRemove =>
      rw [rule] at after ⊢
      rw [mirrorRemove_apart (after .mirrorRemove (by decide)),
        spanAdd_apart (after .spanAdd (by decide)),
        aclTable_apart (after .aclAdd (by decide)) (after .aclRemove (by decide)),
        memberAdd_apart (after .memberAdd (by decide)),
        memberDel_apart (after .memberDel (by decide))]
  | mirrorRemove =>
      rw [rule] at after ⊢
      rw [ipRemove_apart (before .ipRemove (by decide)),
        spanAdd_apart (after .spanAdd (by decide)),
        aclTable_apart (after .aclAdd (by decide)) (after .aclRemove (by decide)),
        memberAdd_apart (after .memberAdd (by decide)),
        memberDel_apart (after .memberDel (by decide))]
  | spanAdd =>
      rw [rule] at after ⊢
      rw [ipRemove_apart (before .ipRemove (by decide)),
        mirrorRemove_apart (before .mirrorRemove (by decide)),
        aclTable_apart (after .aclAdd (by decide)) (after .aclRemove (by decide)),
        memberAdd_apart (after .memberAdd (by decide)),
        memberDel_apart (after .memberDel (by decide))]
  | aclAdd | aclRemove =>
      rw [rule] at after ⊢
      rw [ipRemove_apart (before .ipRemove (by decide)),
        mirrorRemove_apart (before .mirrorRemove (by decide)),
        spanAdd_apart (before .spanAdd (by decide)),
        memberAdd_apart (after .memberAdd (by decide)),
        memberDel_apart (after .memberDel (by decide))]
  | memberAdd =>
      rw [rule] at after ⊢
      rw [ipRemove_apart (before .ipRemove (by decide)),
        mirrorRemove_apart (before .mirrorRemove (by decide)),
        spanAdd_apart (before .spanAdd (by decide)),
        aclTable_apart (before .aclAdd (by decide)) (before .aclRemove (by decide)),
        memberDel_apart (after .memberDel (by decide))]
  | memberDel =>
      rw [rule] at after ⊢
      rw [ipRemove_apart (before .ipRemove (by decide)),
        mirrorRemove_apart (before .mirrorRemove (by decide)),
        spanAdd_apart (before .spanAdd (by decide)),
        aclTable_apart (before .aclAdd (by decide)) (before .aclRemove (by decide)),
        memberAdd_apart (before .memberAdd (by decide))]

theorem fixup_foreign {pattern args : Text} (away : foreign pattern = true)
    (here : startsWith pattern args = true) : device.fixup args = args := by
  have apart := startsWith_foreign away here
  have same : device.rule .memberDel args = args := memberDel_apart (apart .memberDel)
  have only : Only .memberDel args := fun command _ => apart command
  rw [fixup_eq_rule only (by rwa [same]), same]

theorem fixup_harmless : device.fixup harmless = harmless :=
  fixup_foreign (by decide : foreign harmless = true) (by decide)

/-! ### The rules that write another command -/

/-- A rule left the command alone or wrote one that no rule looks for. -/
def Final (args out : Text) : Prop :=
  out = args ∨ ∃ pattern, foreign pattern = true ∧ startsWith pattern out = true

theorem idempotent_of_final {own : Command} {args : Text} (before : Only own args)
    (final : Final args (device.rule own args)) :
    device.fixup (device.fixup args) = device.fixup args := by
  rcases final with same | ⟨pattern, away, written⟩
  · have once : device.fixup args = args := by rw [fixup_eq_rule before (by rwa [same]), same]
    rw [once, once]
  · rw [fixup_eq_rule before fun command _ => startsWith_foreign away written command]
    exact fixup_foreign away written

theorem ipRemove_final (args : Text) : Final args (device.ipRemove args) := by
  rw [ipRemove]
  split
  next here =>
    right
    refine ⟨"interface ip del".toList, by decide, ?_⟩
    exact startsWith_replaceFirst _ ((Bool.and_eq_true ..).mp here).1
  next => exact Or.inl rfl

theorem mirrorRemove_final (args : Text) : Final args (device.mirrorRemove args) := by
  rw [mirrorRemove]
  split
  next here =>
    right
    refine ⟨"mirror_session del".toList, by decide, ?_⟩
    exact startsWith_replaceFirst _ ((Bool.and_eq_true ..).mp here).1
  next => exact Or.inl rfl

theorem rewriteAclAdd_written (args : Text) :
    rewriteAclAdd args = args ∨ startsWith "acl-table ".toList (rewriteAclAdd args) = true := by
  rw [rewriteAclAdd]
  split
  next =>
    right
    dsimp only
    split <;> rfl
  next => exact Or.inl rfl

theorem rewriteAclAdd_final (args : Text) : Final args (rewriteAclAdd args) :=
  (rewriteAclAdd_written args).imp id fun written => ⟨"acl-table ".toList, by decide, written⟩

theorem aclTable_final (args : Text) : Final args (device.aclTable args) := by
  rw [aclTable]
  split
  next => exact rewriteAclAdd_final args
  next =>
    split
    next =>
      split
      next => exact Or.inr ⟨"acl-table ".toList, by decide, rfl⟩
      next => exact Or.inl rfl
    next => exact Or.inl rfl

theorem memberDel_final (args : Text) : Final args (device.memberDel args) := by
  rw [memberDel]
  split
  next =>
    dsimp only
    split
    next =>
      split
      next => exact Or.inr ⟨harmless, by decide, rfl⟩
      next => exact Or.inl rfl
    next => exact Or.inl rfl
  next => exact Or.inl rfl

/-! ### The direction of a span session -/

theorem split_spanAdd {args : Text}
    (here : startsWith "mirror_session span add".toList args = true) :
    ∃ tail words, split args = "mirror_session".toList :: "span".toList ::
      ("add".toList ++ tail) :: words := by
  obtain ⟨rest, rfl⟩ := startsWith_iff.mp here
  obtain ⟨tail, words, third⟩ :=
    split_word (by decide : Solid "add".toList) (by decide) rest
  refine ⟨tail, words, ?_⟩
  have three : "mirror_session span add".toList =
      "mirror_session".toList ++ ' ' :: ("span".toList ++ ' ' :: "add".toList) := by
    decide
  rw [three, List.append_assoc, List.cons_append, List.append_assoc, List.cons_append,
    split_blank (by decide), split_blank (by decide), third]
  rfl

theorem split_spanAdd_direction {args last : Text} {words : List Text}
    (here : startsWith "mirror_session span add".toList args = true)
    (tokens : split args = words ++ [last]) (direction : last ∈ directions) :
    ∃ tail middle, words = "mirror_session".toList :: "span".toList ::
      ("add".toList ++ tail) :: middle := by
  obtain ⟨tail, others, first⟩ := split_spanAdd here
  rw [first] at tokens
  match words, tokens with
  | [], tokens => simp at tokens
  | [_], tokens => simp at tokens
  | [_, _], tokens =>
      -- the last word is not the one that begins with `add`
      injection tokens with _ tokens
      injection tokens with _ tokens
      injection tokens with same _
      subst same
      simp [directions] at direction
  | _ :: _ :: _ :: middle, tokens =>
      injection tokens with one tokens
      injection tokens with two tokens
      injection tokens with three _
      exact ⟨tail, middle, by rw [one, two, three]⟩

theorem spanAdd_direction {args last : Text} {words : List Text}
    (here : startsWith "mirror_session span add".toList args = true)
    (option : device.spanDirOpt = true) (tokens : split args = words ++ [last])
    (direction : last ∈ directions) :
    device.spanAdd args = joinSpace words ++ " -d ".toList ++ last := by
  have ends : (split args).getLast? = some last := by simp [tokens]
  have front : (split args).dropLast = words := by simp [tokens]
  rw [spanAdd, here, option, ends, front, Bool.and_self, if_pos rfl]
  exact if_pos direction

theorem startsWith_spanAdd_option {args last : Text} {words : List Text}
    (here : startsWith "mirror_session span add".toList args = true)
    (tokens : split args = words ++ [last]) (direction : last ∈ directions) :
    startsWith "mirror_session span add".toList (joinSpace words ++ " -d ".toList ++ last) =
      true := by
  obtain ⟨tail, middle, rfl⟩ := split_spanAdd_direction here tokens direction
  obtain ⟨rest, begins⟩ := prefix_joinSpace ("add".toList ++ tail) middle
  rw [startsWith_iff, joinSpace_cons_cons, joinSpace_cons_cons, ← begins]
  exact ⟨tail ++ (rest ++ (" -d ".toList ++ last)), by simp⟩

/-- What the rule for the direction writes: the command again, with `-d` before the
last word. -/
theorem spanAdd_written {args last : Text} {words : List Text}
    (here : startsWith "mirror_session span add".toList args = true)
    (option : device.spanDirOpt = true) (tokens : split args = words ++ [last])
    (direction : last ∈ directions) :
    startsWith "mirror_session span add".toList (device.spanAdd args) = true ∧
      split (device.spanAdd args) = words ++ ["-d".toList] ++ [last] := by
  have solid : ∀ token ∈ words ++ [last], token ≠ [] ∧ Solid token := by
    rw [← tokens]
    exact split_words args
  have whole := solid last (by simp)
  rw [spanAdd_direction here option tokens direction]
  constructor
  · exact startsWith_spanAdd_option here tokens direction
  · have same : joinSpace words ++ " -d ".toList ++ last =
        joinSpace words ++ ' ' :: ("-d".toList ++ ' ' :: last) := by
      simp
    rw [same, split_blank (by decide), split_blank (by decide),
      split_joinSpace fun word member => solid word (List.mem_append_left _ member),
      split_solid whole.2 whole.1, List.append_assoc]
    rfl

theorem spanAdd_grows {args last : Text} {words : List Text}
    (here : startsWith "mirror_session span add".toList args = true)
    (option : device.spanDirOpt = true) (tokens : split args = words ++ [last])
    (direction : last ∈ directions) :
    device.spanAdd (device.spanAdd args) ≠ device.spanAdd args := by
  obtain ⟨again, split⟩ := spanAdd_written here option tokens direction
  have nonempty : words ≠ [] := by
    obtain ⟨tail, middle, rfl⟩ := split_spanAdd_direction here tokens direction
    simp
  intro same
  rw [spanAdd_direction again option split direction, joinSpace_concat nonempty,
    spanAdd_direction here option tokens direction] at same
  have lengths := congrArg List.length same
  simp only [List.length_append, List.length_cons] at lengths
  omega

variable (device) in
/-- Whether a second pass leaves a `mirror_session span add` as the first pass left it. -/
def spanSettles (args : Text) : Bool :=
  !device.spanDirOpt || (split args).getLast?.all fun last => !decide (last ∈ directions)

theorem spanAdd_idempotent_iff {args : Text}
    (here : startsWith "mirror_session span add".toList args = true) :
    device.fixup (device.fixup args) = device.fixup args ↔ device.spanSettles args = true := by
  have before : Only .spanAdd args := only_of_own here
  rw [spanSettles]
  by_cases turned :
      device.spanDirOpt = true ∧ ∃ last ∈ directions, (split args).getLast? = some last
  · obtain ⟨option, last, direction, ends⟩ := turned
    obtain ⟨words, tokens⟩ := List.getLast?_eq_some_iff.mp ends
    obtain ⟨again, tokens'⟩ := spanAdd_written here option tokens direction
    obtain ⟨oncemore, -⟩ := spanAdd_written again option tokens' direction
    have after : Only .spanAdd (device.spanAdd args) := only_of_own again
    have last : Only .spanAdd (device.spanAdd (device.spanAdd args)) := only_of_own oncemore
    rw [fixup_eq_rule before after, rule, fixup_eq_rule after last, rule]
    simp [option, ends, direction, spanAdd_grows here option tokens direction]
  · have out : device.spanAdd args = args := by
      rw [spanAdd]
      split
      next enabled =>
        split
        next last ends =>
          rw [if_neg]
          intro direction
          rw [Bool.and_eq_true] at enabled
          exact turned ⟨enabled.2, last, direction, ends⟩
        next => rfl
      next => rfl
    have same : device.fixup args = args :=
      (fixup_eq_rule before (by rwa [rule, out])).trans out
    rw [same, same]
    simp only [true_iff]
    cases option : device.spanDirOpt with
    | false => rfl
    | true =>
        rw [Bool.not_true, Bool.false_or, Option.all_eq_true]
        intro last ends
        rw [Bool.not_eq_true', decide_eq_false_iff_not]
        exact fun direction => turned ⟨option, last, direction, ends⟩

end Device

end OnboxFvt.Cli
