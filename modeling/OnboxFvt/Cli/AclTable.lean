import OnboxFvt.Cli.Commands
import OnboxFvt.Library.Table

/-!
# Rewriting the creation of an ACL table

`acl add table` takes its options anywhere and in several spellings; rule (4) of `_fixup`
reads them with a loop over the tokens.  What the command asks for is compared with what the
command written instead of it says.
-/

namespace OnboxFvt.Cli

open Library Python

/-! ## What the command asks for -/

inductive AclOption
  | stage
  | ports
  deriving DecidableEq

def stageLong : Text :=
  "--stage=".toList

def portsLong : Text :=
  "--ports=".toList

def ingress : Text :=
  "ingress".toList

/-- How a token is read: an option whose value is the next token, an option with its value, a
positional, or an option there is not. -/
inductive Reading
  | separate (option : AclOption)
  | attached (option : AclOption) (value : Text)
  | word
  | unknown
  deriving DecidableEq

def readToken (t : Text) : Reading :=
  if t = "-s".toList ∨ t = "--stage".toList then .separate .stage
  else if t = "-p".toList ∨ t = "--ports".toList then .separate .ports
  else if startsWith stageLong t then .attached .stage (t.drop stageLong.length)
  else if startsWith portsLong t then .attached .ports (t.drop portsLong.length)
  else if startsWith ['-'] t ∧ t ≠ ['-'] then .unknown
  else .word

structure Parsed where
  words : List Text
  separate : List (AclOption × Text)
  attached : List (AclOption × Text)
  deriving DecidableEq

/-- The tokens after `acl add table` as click reads them. -/
def parse : List Text → Option Parsed
  | [] => some ⟨[], [], []⟩
  | t :: rest =>
      match readToken t with
      | .separate option =>
          match rest with
          | [] => none
          | value :: rest =>
              (parse rest).map fun parsed =>
                { parsed with separate := (option, value) :: parsed.separate }
      | .attached option value =>
          (parse rest).map fun parsed =>
            { parsed with attached := (option, value) :: parsed.attached }
      | .word => (parse rest).map fun parsed => { parsed with words := t :: parsed.words }
      | .unknown => none

def Parsed.options (parsed : Parsed) : List (AclOption × Text) :=
  parsed.separate ++ parsed.attached

/-- An ACL table to be created; no ports are the empty text. -/
structure AclTable where
  table : Text
  type : Text
  stage : Text
  ports : Text
  deriving DecidableEq

def mapType (typ : Text) : Text :=
  (aclTypeMap.lookup typ).getD typ

/-- A name, a type, and each option at most once. -/
def Parsed.request? (parsed : Parsed) : Option AclTable :=
  match parsed.words with
  | [name, typ] =>
      if (parsed.options.map Prod.fst).Nodup then
        some
          { table := name
            type := mapType typ
            stage := (lastEntry parsed.options .stage).getD ingress
            ports := (lastEntry parsed.options .ports).getD [] }
      else none
  | _ => none

/-- What the tokens ask for, where the command accepts them. -/
def request? (tokens : List Text) : Option AclTable :=
  (parse tokens).bind Parsed.request?

/-- The `acl-table add` command for a table. -/
def AclTable.command (wanted : AclTable) : List Text :=
  ["acl-table".toList, "add".toList, wanted.table, "-s".toList, wanted.stage, "-t".toList,
      wanted.type] ++
    if wanted.ports = [] then [] else ["-p".toList, wanted.ports]

/-! ## What the loop reads -/

theorem aclOptions_skip {t : Text} (notStage : ¬ (t = "-s".toList ∨ t = "--stage".toList))
    (notPorts : ¬ (t = "-p".toList ∨ t = "--ports".toList)) (stage : Text) (ports : Option Text)
    (rest : List Text) : aclOptions stage ports (t :: rest) = aclOptions stage ports rest := by
  cases rest with
  | nil => rfl
  | cons value rest => rw [aclOptions, if_neg notStage, if_neg notPorts]

theorem separate_iff {t : Text} :
    (readToken t = .separate .stage ↔ t = "-s".toList ∨ t = "--stage".toList) ∧
      (readToken t = .separate .ports ↔
        ¬ (t = "-s".toList ∨ t = "--stage".toList) ∧ (t = "-p".toList ∨ t = "--ports".toList)) := by
  rw [readToken]
  by_cases stage : t = "-s".toList ∨ t = "--stage".toList
  · rw [if_pos stage]
    exact ⟨iff_of_true rfl stage, iff_of_false nofun fun both => both.1 stage⟩
  · rw [if_neg stage]
    by_cases ports : t = "-p".toList ∨ t = "--ports".toList
    · rw [if_pos ports]
      exact ⟨iff_of_false nofun stage, iff_of_true rfl ⟨stage, ports⟩⟩
    · rw [if_neg ports]
      simp only [stage, ports, and_false, iff_false]
      constructor <;> (repeat' split) <;> nofun

theorem aclOptions_separate {t : Text} {option : AclOption}
    (read : readToken t = .separate option) (stage : Text) (ports : Option Text) (value : Text)
    (rest : List Text) :
    aclOptions stage ports (t :: value :: rest) =
      match option with
      | .stage => aclOptions value ports rest
      | .ports => aclOptions stage (some value) rest := by
  rw [aclOptions]
  cases option with
  | stage => rw [if_pos (separate_iff.1.mp read)]
  | ports =>
      obtain ⟨notStage, isPorts⟩ := separate_iff.2.mp read
      rw [if_neg notStage, if_pos isPorts]

theorem aclOptions_other {t : Text} (other : ∀ option, readToken t ≠ .separate option)
    (stage : Text) (ports : Option Text) (rest : List Text) :
    aclOptions stage ports (t :: rest) = aclOptions stage ports rest := by
  have notStage := mt separate_iff.1.mpr (other .stage)
  have notPorts : ¬ (t = "-p".toList ∨ t = "--ports".toList) := fun isPorts =>
    other .ports (separate_iff.2.mpr ⟨notStage, isPorts⟩)
  exact aclOptions_skip notStage notPorts stage ports rest

/-- Only options with the value in a token of its own are read. -/
theorem aclOptions_parse {tokens : List Text} {parsed : Parsed}
    (accepted : parse tokens = some parsed) (noWords : parsed.words = []) (stage : Text)
    (ports : Option Text) :
    aclOptions stage ports tokens =
      ((lastEntry parsed.separate .stage).getD stage,
        (lastEntry parsed.separate .ports).or ports) := by
  fun_induction parse tokens generalizing parsed stage ports with
  | case1 =>
      cases accepted
      rfl
  | case2 => cases accepted
  | case3 t option read value rest inductionHypothesis =>
      obtain ⟨later, acceptedLater, rfl⟩ := Option.map_eq_some_iff.mp accepted
      rw [aclOptions_separate read]
      cases option with
      | stage =>
          dsimp only
          rw [inductionHypothesis acceptedLater noWords, lastEntry_cons, lastEntry_cons]
          cases lastEntry later.separate .stage <;> simp
      | ports =>
          dsimp only
          rw [inductionHypothesis acceptedLater noWords, lastEntry_cons, lastEntry_cons]
          cases lastEntry later.separate .ports <;> simp
  | case4 t rest option value read inductionHypothesis =>
      obtain ⟨later, acceptedLater, rfl⟩ := Option.map_eq_some_iff.mp accepted
      have joined : ∀ a, readToken t ≠ .separate a := by
        intro a separate
        rw [read] at separate
        cases separate
      rw [aclOptions_other joined, inductionHypothesis acceptedLater noWords]
  | case5 t rest read inductionHypothesis =>
      obtain ⟨later, acceptedLater, rfl⟩ := Option.map_eq_some_iff.mp accepted
      cases noWords
  | case6 => cases accepted

theorem words_of_parse {tokens : List Text} {parsed : Parsed}
    (accepted : parse tokens = some parsed) : ∀ word ∈ parsed.words, readToken word = .word := by
  fun_induction parse tokens generalizing parsed with
  | case1 =>
      cases accepted
      nofun
  | case2 => cases accepted
  | case3 t option read value rest inductionHypothesis =>
      obtain ⟨later, acceptedLater, rfl⟩ := Option.map_eq_some_iff.mp accepted
      intro word member
      exact inductionHypothesis acceptedLater word member
  | case4 t rest option value read inductionHypothesis =>
      obtain ⟨later, acceptedLater, rfl⟩ := Option.map_eq_some_iff.mp accepted
      intro word member
      exact inductionHypothesis acceptedLater word member
  | case5 t rest read inductionHypothesis =>
      obtain ⟨later, acceptedLater, rfl⟩ := Option.map_eq_some_iff.mp accepted
      intro word member
      rcases List.mem_cons.mp member with rfl | inLater
      · exact read
      · exact inductionHypothesis acceptedLater word inLater
  | case6 => cases accepted

/-- Whatever the loop returns is one of its words. -/
theorem aclOptions_holds {holds : Text → Prop} {stage : Text} {ports : Option Text}
    {tokens : List Text} (stageHolds : holds stage) (portsHold : ∀ value ∈ ports, holds value)
    (all : ∀ t ∈ tokens, holds t) :
    holds (aclOptions stage ports tokens).1 ∧
      ∀ value ∈ (aclOptions stage ports tokens).2, holds value := by
  fun_induction aclOptions stage ports tokens with
  | case1 stage ports t value rest isStage inductionHypothesis =>
      simp only [List.forall_mem_cons] at all
      exact inductionHypothesis all.2.1 portsHold all.2.2
  | case2 stage ports t value rest notStage isPorts inductionHypothesis =>
      simp only [List.forall_mem_cons] at all
      refine inductionHypothesis stageHolds ?_ all.2.2
      rintro _ ⟨⟩
      exact all.2.1
  | case3 stage ports t value rest notStage notPorts inductionHypothesis =>
      exact inductionHypothesis stageHolds portsHold fun t member =>
        all t (List.mem_cons_of_mem _ member)
  | case4 => exact ⟨stageHolds, portsHold⟩

/-! ## What is written -/

theorem split_around {piece middle : Text} (around : piece = ' ' :: (middle ++ [' ']))
    (word : Word middle) (first second : Text) :
    split (first ++ piece ++ second) = split first ++ middle :: split second := by
  have blank : isSpace ' ' = true := by decide
  have later : first ++ piece ++ second = first ++ ' ' :: (middle ++ ' ' :: second) := by
    rw [around]
    simp
  rw [later, split_blank blank, split_blank blank, word.split_eq]
  rfl

theorem split_front {piece first second : Text} (front : piece = first ++ ' ' :: (second ++ [' ']))
    (word : Word first) (word' : Word second) (rest : Text) :
    split (piece ++ rest) = first :: second :: split rest := by
  have blank : isSpace ' ' = true := by decide
  have later : piece ++ rest = first ++ ' ' :: (second ++ ' ' :: rest) := by
    rw [front]
    simp
  rw [later, split_blank blank, split_blank blank, word.split_eq, word'.split_eq]
  rfl

theorem word_mapType {typ : Text} (word : Word typ) : Word (mapType typ) := by
  rw [mapType]
  cases found : aclTypeMap.lookup typ with
  | none => exact word
  | some mapped =>
      have words : ∀ entry ∈ aclTypeMap, Word entry.2 := by decide
      obtain ⟨before, after, split, -⟩ := List.lookup_eq_some_iff.mp found
      exact words (typ, mapped) (by rw [split]; simp)

/-- The command written for a name, a type and what the loop has read. -/
def tableWritten (name typ : Text) (read : Text × Option Text) : AclTable where
  table := name
  type := mapType typ
  stage := read.1
  ports := read.2.getD []

theorem split_rewriteAclAdd {args name typ : Text} {rest : List Text}
    (tokens : (split args).drop 3 = name :: typ :: rest) :
    split (rewriteAclAdd args) =
      (tableWritten name typ (aclOptions ingress none rest)).command := by
  have words : ∀ t ∈ name :: typ :: rest, Word t := by
    intro t member
    rw [← tokens] at member
    exact split_words args t (List.mem_of_mem_drop member)
  simp only [List.forall_mem_cons] at words
  obtain ⟨nameWord, typWord, restWords⟩ := words
  have readWords := @aclOptions_holds Word ingress none rest (by decide) nofun restWords
  cases loop : aclOptions ingress none rest with
  | mk stage ports =>
      have read : aclOptions "ingress".toList none rest = (stage, ports) := loop
      rw [loop] at readWords
      obtain ⟨stageWord, portsWord⟩ := readWords
      have mapped := (word_mapType typWord).split_eq
      rw [mapType] at mapped
      have start := @split_front "acl-table add ".toList "acl-table".toList "add".toList
        (by decide) (by decide) (by decide)
      have dashS := @split_around " -s ".toList "-s".toList (by decide) (by decide)
      have dashT := @split_around " -t ".toList "-t".toList (by decide) (by decide)
      have dashP := @split_around " -p ".toList "-p".toList (by decide) (by decide)
      simp only [rewriteAclAdd, tokens, read]
      cases ports with
      | none =>
          dsimp only
          rw [dashT, dashS, start, nameWord.split_eq, stageWord.split_eq, mapped]
          rfl
      | some ports =>
          have portsWord := portsWord ports rfl
          cases ports with
          | nil => exact absurd rfl portsWord.1
          | cons c ports =>
              dsimp only
              rw [dashP, dashT, dashS, start, nameWord.split_eq, stageWord.split_eq, mapped,
                portsWord.split_eq]
              rfl

theorem AclTable.command_injective : Function.Injective AclTable.command := by
  rintro ⟨table, type, stage, ports⟩ ⟨table', type', stage', ports'⟩ equal
  simp only [command, List.cons_append, List.cons.injEq, true_and, List.nil_append] at equal
  obtain ⟨rfl, rfl, rfl, rest⟩ := equal
  split at rest <;> split at rest <;> simp_all

/-! ## When they say the same -/

theorem readToken_mapType (typ : Text) :
    readToken (mapType typ) = .word ↔ readToken typ = .word := by
  rw [mapType]
  cases found : aclTypeMap.lookup typ with
  | none => exact Iff.rfl
  | some mapped =>
      have words : ∀ entry ∈ aclTypeMap, readToken entry.1 = .word ∧ readToken entry.2 = .word := by
        decide
      obtain ⟨before, after, split, -⟩ := List.lookup_eq_some_iff.mp found
      have both := words (typ, mapped) (by rw [split]; simp)
      exact iff_of_true both.2 both.1

/-- The name and the type come first, and an option that carries its value says what is taken
anyway where it is not read. -/
def Placed (tokens : List Text) : Prop :=
  ∃ name typ rest parsed, tokens = name :: typ :: rest ∧
    readToken name = .word ∧ readToken typ = .word ∧ parse rest = some parsed ∧
    ∀ entry ∈ parsed.attached, entry = (.stage, ingress) ∨ entry = (.ports, [])

theorem parse_word {t : Text} (word : readToken t = .word) (rest : List Text) :
    parse (t :: rest) = (parse rest).map fun parsed =>
      { parsed with words := t :: parsed.words } := by
  rw [parse, word]

theorem request?_eq_some {tokens : List Text} {wanted : AclTable} :
    request? tokens = some wanted ↔
      ∃ parsed typ, parse tokens = some parsed ∧ parsed.words = [wanted.table, typ] ∧
        (parsed.options.map Prod.fst).Nodup ∧ wanted.type = mapType typ ∧
        wanted.stage = (lastEntry parsed.options .stage).getD ingress ∧
        wanted.ports = (lastEntry parsed.options .ports).getD [] := by
  constructor
  · intro requested
    obtain ⟨parsed, accepted, requested⟩ := Option.bind_eq_some_iff.mp requested
    rw [Parsed.request?] at requested
    split at requested
    next name typ words =>
        split at requested
        next distinct =>
            cases requested
            exact ⟨parsed, typ, accepted, words, distinct, rfl, rfl, rfl⟩
        next => cases requested
    next => cases requested
  · rintro ⟨parsed, typ, accepted, words, distinct, type, stage, ports⟩
    obtain ⟨name, _, _, _⟩ := wanted
    dsimp only at words type stage ports
    rw [request?, accepted, Option.bind_some, Parsed.request?, words]
    dsimp only
    rw [if_pos distinct, type, stage, ports]

/-- A name and a type are two tokens. -/
theorem exists_two_of_words {tokens : List Text} {parsed : Parsed} {name typ : Text}
    (accepted : parse tokens = some parsed) (words : parsed.words = [name, typ]) :
    ∃ first second rest, tokens = first :: second :: rest := by
  match tokens with
  | [] =>
      cases accepted
      cases words
  | [t] =>
      rw [parse] at accepted
      split at accepted
      next => cases accepted
      next =>
          cases accepted
          cases words
      next =>
          cases accepted
          cases words
      next => cases accepted
  | first :: second :: rest => exact ⟨first, second, rest, rfl⟩

section Options

variable {parsed : Parsed} (distinct : (parsed.options.map Prod.fst).Nodup)
include distinct

theorem attached_of_mem {entry : AclOption × Text} (member : entry ∈ parsed.attached) :
    lastEntry parsed.options entry.1 = some entry.2 ∧ lastEntry parsed.separate entry.1 = none := by
  refine ⟨lastEntry_of_nodup distinct (List.mem_append_right _ member), ?_⟩
  apply lastEntry_of_notMem
  intro also
  rw [Parsed.options, List.map_append] at distinct
  exact (List.nodup_append.mp distinct).2.2 _ also _ (List.mem_map_of_mem member) rfl

/-- An option that carries its value is missed, which its default may make good. -/
theorem separate_getD_eq {option : AclOption} {otherwise : Text}
    (same : ∀ value, (option, value) ∈ parsed.attached → value = otherwise) :
    (lastEntry parsed.separate option).getD otherwise =
      (lastEntry parsed.options option).getD otherwise := by
  rw [Parsed.options, lastEntry_append]
  cases found : lastEntry parsed.attached option with
  | none => rfl
  | some value =>
      have member := mem_of_lastEntry found
      have missed : lastEntry parsed.separate option = none :=
        (attached_of_mem distinct member).2
      rw [missed, same value member]
      rfl

/-- What the loop misses are the options that carry their value. -/
theorem options_read_iff :
    ((lastEntry parsed.separate .stage).getD ingress =
          (lastEntry parsed.options .stage).getD ingress ∧
        (lastEntry parsed.separate .ports).getD [] =
          (lastEntry parsed.options .ports).getD []) ↔
      ∀ entry ∈ parsed.attached, entry = (.stage, ingress) ∨ entry = (.ports, []) := by
  constructor
  · rintro ⟨stages, ports⟩ ⟨option, value⟩ member
    obtain ⟨whole, missed⟩ := attached_of_mem distinct member
    cases option with
    | stage =>
        rw [whole, missed] at stages
        exact Or.inl (congrArg (Prod.mk AclOption.stage) stages.symm)
    | ports =>
        rw [whole, missed] at ports
        exact Or.inr (congrArg (Prod.mk AclOption.ports) ports.symm)
  · intro harmless
    refine ⟨separate_getD_eq distinct ?_, separate_getD_eq distinct ?_⟩
    · intro value member
      rcases harmless _ member with stage | ports
      · exact (Prod.mk.inj stage).2
      · cases ports
    · intro value member
      rcases harmless _ member with stage | ports
      · cases stage
      · exact (Prod.mk.inj ports).2

end Options

section Written

variable {first second : Text} {rest : List Text} {wanted : AclTable}

/-- With the name and the type in front, only the options are left to compare. -/
theorem written_eq_iff_of_words (firstWord : readToken first = .word)
    (secondWord : readToken second = .word) {later : Parsed} (accepted : parse rest = some later)
    (requested : request? (first :: second :: rest) = some wanted) :
    tableWritten first second (aclOptions ingress none rest) = wanted ↔
      ∀ entry ∈ later.attached, entry = (.stage, ingress) ∨ entry = (.ports, []) := by
  obtain ⟨parsed, typ, acceptedAll, words, distinct, type, stage, ports⟩ :=
    request?_eq_some.mp requested
  rw [parse_word firstWord, parse_word secondWord, accepted] at acceptedAll
  cases acceptedAll
  injection words with table words
  injection words with same noWords
  subst table same
  obtain ⟨table, _, _, _⟩ := wanted
  dsimp only at type stage ports
  subst type stage ports
  rw [← @options_read_iff later distinct, aclOptions_parse accepted noWords, tableWritten]
  simp only [AclTable.mk.injEq, true_and, Option.or_none]
  exact Iff.rfl

/-- The command written for what the loop reads is the one that was wanted. -/
theorem written_eq_iff (requested : request? (first :: second :: rest) = some wanted) :
    tableWritten first second (aclOptions ingress none rest) = wanted ↔
      Placed (first :: second :: rest) := by
  constructor
  · intro same
    obtain ⟨parsed, typ, accepted, words, distinct, type, -, -⟩ := request?_eq_some.mp requested
    have read := words_of_parse accepted
    rw [words, List.forall_mem_cons, List.forall_mem_singleton] at read
    have firstWord : readToken first = .word := by
      rw [show first = wanted.table from congrArg AclTable.table same]
      exact read.1
    have secondWord : readToken second = .word := by
      rw [← readToken_mapType, show mapType second = wanted.type from congrArg AclTable.type same,
        type, readToken_mapType]
      exact read.2
    rw [parse_word firstWord, parse_word secondWord, Option.map_map] at accepted
    obtain ⟨later, acceptedLater, -⟩ := Option.map_eq_some_iff.mp accepted
    exact ⟨first, second, rest, later, rfl, firstWord, secondWord, acceptedLater,
      (written_eq_iff_of_words firstWord secondWord acceptedLater requested).mp same⟩
  · rintro ⟨name, typ, others, later, shape, firstWord, secondWord, accepted, harmless⟩
    cases shape
    exact (written_eq_iff_of_words firstWord secondWord accepted requested).mpr harmless

end Written

theorem fixup_eq_aclTable {device : Device} {args : Text}
    (named : startsWith "acl add table".toList args = true) :
    device.fixup args = device.aclTable args := by
  have only : Only .aclAdd args := @only_of_own .aclAdd args named
  refine Device.fixup_eq_rule only ?_
  rcases Device.aclTable_final args with same | ⟨pattern, away, written⟩
  · rw [Device.rule, same]
    exact only
  · exact fun command _ => startsWith_foreign away written command

/-- The command written says what was asked for exactly when the name and the type come first
and the options that carry their value make no difference. -/
theorem acl_add_same_table {device : Device} {args : Text} {tokens : List Text}
    {wanted : AclTable} (probed : device.aclTableCli = true)
    (named : startsWith "acl add table".toList args = true)
    (shape : split args = "acl".toList :: "add".toList :: "table".toList :: tokens)
    (requested : request? tokens = some wanted) :
    split (device.fixup args) = wanted.command ↔ Placed tokens := by
  obtain ⟨parsed, typ, accepted, words, -⟩ := request?_eq_some.mp requested
  obtain ⟨first, second, rest, rfl⟩ := exists_two_of_words accepted words
  rw [fixup_eq_aclTable named, Device.aclTable, named, probed]
  rw [if_pos (by decide), split_rewriteAclAdd (by rw [shape]; rfl),
    AclTable.command_injective.eq_iff, written_eq_iff requested]

/-- A device with the `acl-table` command. -/
def aclTableDevice : Device where
  ipDelCli := true
  mirrorDelCli := true
  spanDirOpt := true
  aclTableCli := true
  isSwitchportOs := true
  stpLocked := false
  linkMode := fun _ => none
  memberAddHelp := []

theorem acl_add_same_table_egress :
    split (aclTableDevice.fixup "acl add table T L3 -s egress -p Ethernet0".toList) =
      AclTable.command ⟨"T".toList, "L3V4".toList, "egress".toList, "Ethernet0".toList⟩ :=
  (@acl_add_same_table aclTableDevice "acl add table T L3 -s egress -p Ethernet0".toList
    ["T".toList, "L3".toList, "-s".toList, "egress".toList, "-p".toList, "Ethernet0".toList] _
    rfl (by decide) (by decide) (by decide)).mpr
    ⟨_, _, _, ⟨[], [(.stage, "egress".toList), (.ports, "Ethernet0".toList)], []⟩, rfl,
      by decide, by decide, by decide, nofun⟩

/-- `--stage=egress` is passed over, and the table is bound to the ingress. -/
theorem attached_stage_lost :
    ¬ ∀ (device : Device) (args : Text) (tokens : List Text) (wanted : AclTable),
      device.aclTableCli = true → startsWith "acl add table".toList args = true →
      split args = "acl".toList :: "add".toList :: "table".toList :: tokens →
      request? tokens = some wanted → split (device.fixup args) = wanted.command := by
  intro same
  have written := same aclTableDevice "acl add table T L3 --stage=egress".toList
    ["T".toList, "L3".toList, "--stage=egress".toList]
    ⟨"T".toList, "L3V4".toList, "egress".toList, []⟩ rfl (by decide) (by decide) (by decide)
  revert written
  decide +kernel

end OnboxFvt.Cli
