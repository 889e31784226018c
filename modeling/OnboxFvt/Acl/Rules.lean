import Mathlib.Algebra.Group.Int.Defs
import OnboxFvt.Library.Collect
import OnboxFvt.Library.Dict
import OnboxFvt.Python.Literal
import OnboxFvt.Python.TextFacts

/-!
# Translating ACL rules

`add_mac_rule`, `add_l3_rule` and `l3_rule_expressible` of `framework/acl.py` on an image with
the `acl-rule` CLI.  The fields of a rule become options of one command; what the options say is
compared with the fields that were given.
-/

namespace OnboxFvt.Acl

open Library Python

def etherType : Text :=
  "ETHER_TYPE".toList

def tcpFlags : Text :=
  "TCP_FLAGS".toList

/-- `_MAC_FIELD_CLI`. -/
def macFieldCli : List (Text × Text) :=
  [("SRC_MAC".toList, "-sm".toList), ("DST_MAC".toList, "-dm".toList),
    (etherType, "-et".toList), ("VLAN_ID".toList, "-vid".toList), ("PCP".toList, "-vp".toList)]

/-- `_L3_FIELD_CLI`. -/
def l3FieldCli : List (Text × Text) :=
  [("SRC_IP".toList, "-si".toList), ("DST_IP".toList, "-di".toList),
    ("SRC_IPV6".toList, "-si6".toList), ("DST_IPV6".toList, "-di6".toList),
    ("IP_PROTOCOL".toList, "-ip".toList), ("L4_SRC_PORT".toList, "-sp".toList),
    ("L4_DST_PORT".toList, "-dp".toList), ("L4_SRC_PORT_RANGE".toList, "-spr".toList),
    ("L4_DST_PORT_RANGE".toList, "-dpr".toList), ("DSCP".toList, "-d".toList),
    (etherType, "-et".toList), ("ICMP_TYPE".toList, "-ict".toList),
    ("ICMP_CODE".toList, "-icc".toList), (tcpFlags, "-tf".toList)]

/-- `bits & (1 << k)` as a truth value. -/
def bit (bits : Int) (k : Nat) : Bool :=
  bits / 2 ^ k % 2 = 1

/-- `_TCP_FLAG_NAMES`, a flag by the place of its bit. -/
def tcpFlagNames : List (Nat × Text) :=
  [(0, "TCP_FIN".toList), (1, "TCP_SYN".toList), (2, "TCP_RST".toList), (3, "TCP_PSH".toList),
    (4, "TCP_ACK".toList), (5, "TCP_URG".toList)]

/-- `none` stands for a value that cannot be converted. -/
def tcpFlagsCli (value : Text) : Option Text :=
  (literal? ((splitOn '/' value).headD [])).bind fun bits =>
    let names := (tcpFlagNames.filter fun entry => bit bits entry.1).map Prod.snd
    if names.isEmpty then none else some ([','].intercalate names)

def etherTypeCli (value : Text) : Text :=
  match literal? value with
  | some number => '0' :: 'x' :: upperHex4 number
  | none => value

/-- The arguments of a rule besides its fields. -/
structure RuleHead where
  table : Text
  rule : Text
  priority : Text
  action : Text
  words : ∀ text ∈ [table, rule, priority, action], Word text

def RuleHead.command (head : RuleHead) : Text :=
  joinSpace ["acl-rule".toList, "add".toList, head.table, head.rule, "-p".toList, head.priority,
    "-a".toList, head.action]

/-- `f"{cmd} {flag} {v}"`. -/
def withOption (cmd : Text) (option : Text × Text) : Text :=
  cmd ++ ' ' :: (option.1 ++ ' ' :: option.2)

/-- The command that is issued. -/
def addMacRule (head : RuleHead) (fields : Dict Text Text) : Text :=
  fields.foldl
    (fun cmd field =>
      match macFieldCli.lookup field.1 with
      | none => cmd
      | some flag =>
          withOption cmd
            (flag, if field.1 = etherType then etherTypeCli field.2 else field.2))
    head.command

def l3RuleExpressible (names : List Text) : Bool :=
  names.all fun f => (l3FieldCli.lookup f).isSome

/-- The loop of `add_l3_rule`; `none` is the return before the command is issued. -/
def l3Command (cmd : Text) : Dict Text Text → Option Text
  | [] => some cmd
  | (k, v) :: rest =>
      match l3FieldCli.lookup k with
      | none => none
      | some flag =>
          if k = tcpFlags then
            match tcpFlagsCli v with
            | none => none
            | some v => l3Command (withOption cmd (flag, v)) rest
          else if k = etherType then l3Command (withOption cmd (flag, etherTypeCli v)) rest
          else l3Command (withOption cmd (flag, v)) rest

def notSupported : Text :=
  "does not support".toList

/-- The commands issued and what is returned, `reply` being the two outputs of a command. -/
def addL3Rule (reply : Text → Text × Text) (head : RuleHead) (fields : Dict Text Text) :
    List Text × Bool :=
  match l3Command head.command fields with
  | none => ([], false)
  | some cmd => ([cmd], !contains notSupported ((reply cmd).1 ++ (reply cmd).2))

/-! ## What a command says -/

/-- The options after the eight tokens every rule has. -/
def options (cmd : Text) : List (Text × Text) :=
  pairs ((split cmd).drop 8)

/-- The flag bits and the mask of a `TCP_FLAGS` value. -/
def givenFlags? (value : Text) : Option (Int × Option Int) :=
  match splitOn '/' value with
  | [flags] => (literal? flags).map fun flags => (flags, none)
  | [flags, mask] =>
      (literal? flags).bind fun flags => (literal? mask).map fun mask => (flags, some mask)
  | _ => none

def namedBits? (written : Text) : Option (List Nat) :=
  collect? (fun name => (tcpFlagNames.find? fun entry => entry.2 = name).map Prod.fst)
    (splitOn ',' written)

/-- Under the mask a packet, given as the bits that are set, has these flags. -/
def Matches (flags mask : Int) (packet : Nat → Bool) : Prop :=
  ∀ k, bit mask k = true → packet k = bit flags k

/-- The named flags ask for the packets that the given flags and mask ask for. -/
def SameFlags (given written : Text) : Prop :=
  ∃ bits flags mask?, namedBits? written = some bits ∧ givenFlags? given = some (flags, mask?) ∧
    match mask? with
    | some mask => ∀ packet, Matches flags mask packet ↔ ∀ k ∈ bits, packet k = true
    | none => ∀ k, k ∈ bits ↔ bit flags k = true

def SameNumber (given written : Text) : Prop :=
  match literal? given with
  | some number => literal? written = some number
  | none => written = given

/-- The value of the option says what the value of the field says. -/
def Denotes (k given written : Text) : Prop :=
  if k = etherType then SameNumber given written
  else if k = tcpFlags then SameFlags given written
  else written = given

def Expresses (table : List (Text × Text)) (cmd : Text) (field : Text × Text) : Prop :=
  ∃ flag written, table.lookup field.1 = some flag ∧ (flag, written) ∈ options cmd ∧
    Denotes field.1 field.2 written

/-! ## Which values are kept -/

/-- The mask is exactly the given flags, all of them among the six with a name. -/
def ExactFlags (value : Text) : Prop :=
  ∃ flags mask?, givenFlags? value = some (flags, mask?) ∧
    match mask? with
    | some mask => ∀ k, bit mask k = true ↔ k < 6 ∧ bit flags k = true
    | none => ∀ k, bit flags k = true → k < 6

/-- An ethertype that is not a negative number, flags with their own mask, and otherwise a
single word. -/
def Exact (field : Text × Text) : Prop :=
  if field.1 = etherType then
    match literal? field.2 with
    | some number => 0 ≤ number
    | none => Word field.2
  else if field.1 = tcpFlags then ExactFlags field.2
  else Word field.2

/-- The fields of a call, each given once. -/
structure MatchFields where
  entries : Dict Text Text
  distinct : entries.keys.Nodup

/-! ## The text of a command -/

/-- What is written for the value of a field. -/
def written? (field : Text × Text) : Option Text :=
  if field.1 = tcpFlags then tcpFlagsCli field.2
  else if field.1 = etherType then some (etherTypeCli field.2)
  else some field.2

/-- The options written for the fields the table has. -/
def rendered (table : List (Text × Text)) (fields : Dict Text Text) : List (Text × Text) :=
  fields.filterMap fun field =>
    (table.lookup field.1).bind fun flag => (written? field).map fun value => (flag, value)

theorem mem_rendered {table : List (Text × Text)} {fields : Dict Text Text}
    {option : Text × Text} :
    option ∈ rendered table fields ↔ ∃ field ∈ fields, table.lookup field.1 = some option.1 ∧
      written? field = some option.2 := by
  obtain ⟨flag, value⟩ := option
  simp only [rendered, List.mem_filterMap, Option.bind_eq_some_iff, Option.map_eq_some_iff,
    Prod.mk.injEq]
  constructor
  · rintro ⟨field, member, _, found, _, written, rfl, rfl⟩
    exact ⟨field, member, found, written⟩
  · rintro ⟨field, member, found, written⟩
    exact ⟨field, member, flag, found, value, written, rfl, rfl⟩

theorem split_withOption {flag : Text} (word : Word flag) (cmd value : Text) :
    split (withOption cmd (flag, value)) = split cmd ++ flag :: split value := by
  have blank : isSpace ' ' = true := by decide
  rw [withOption, split_blank blank, split_blank blank, word.split_eq]
  rfl

theorem split_foldl_withOption {written : List (Text × Text)}
    (words : ∀ option ∈ written, Word option.1) (cmd : Text) :
    split (written.foldl withOption cmd) =
      split cmd ++ written.flatMap fun option => option.1 :: split option.2 := by
  induction written generalizing cmd with
  | nil => exact (List.append_nil (split cmd)).symm
  | cons option rest inductionHypothesis =>
      rw [List.forall_mem_cons] at words
      rw [List.foldl_cons, inductionHypothesis words.2, split_withOption words.1,
        List.append_assoc, List.flatMap_cons]

theorem split_head (head : RuleHead) :
    split head.command = ["acl-rule".toList, "add".toList, head.table, head.rule, "-p".toList,
      head.priority, "-a".toList, head.action] := by
  have words := head.words
  simp only [List.forall_mem_cons] at words
  obtain ⟨table, rule, priority, action, -⟩ := words
  apply split_joinSpace
  simp only [List.forall_mem_cons]
  exact ⟨by decide, by decide, table, rule, by decide, priority, by decide, action, nofun⟩

/-- Options whose values are words are read back as they were written. -/
theorem options_written (head : RuleHead) {written : List (Text × Text)}
    (words : ∀ option ∈ written, Word option.1 ∧ Word option.2) :
    options (written.foldl withOption head.command) = written := by
  have tokens : (written.flatMap fun option => option.1 :: split option.2) =
      written.flatMap fun option => [option.1, option.2] :=
    List.flatMap_congr fun option member => by rw [(words option member).2.split_eq]
  rw [options, split_foldl_withOption fun option member => (words option member).1, split_head,
    tokens]
  exact pairs_unpair written

theorem word_of_mem_options {cmd : Text} {option : Text × Text} (member : option ∈ options cmd) :
    Word option.2 :=
  split_words cmd option.2 (List.mem_of_mem_drop (mem_of_mem_pairs member).2)

/-! ## The values -/

theorem etherTypeCli_of_number {value : Text} {number : Int}
    (read : literal? value = some number) :
    etherTypeCli value = '0' :: 'x' :: upperHex4 number := by
  rw [etherTypeCli, read]

theorem word_etherTypeCli {value : Text} {number : Int} (read : literal? value = some number) :
    Word (etherTypeCli value) := by
  rw [etherTypeCli_of_number read]
  exact ⟨List.cons_ne_nil _ _, solid_prefixed_upperHex4 number⟩

theorem sameNumber_etherTypeCli_iff {value : Text} {number : Int}
    (read : literal? value = some number) :
    SameNumber value (etherTypeCli value) ↔ 0 ≤ number := by
  rw [SameNumber, read, etherTypeCli_of_number read]
  cases number with
  | ofNat number => exact iff_of_true (literal?_upperHex4 number) (Int.natCast_nonneg number)
  | negSucc number =>
      dsimp only
      rw [literal?_upperHex4_negSucc]
      exact iff_of_false nofun (by omega)

/-- The flags with a name among the bits. -/
def flagsOf (bits : Int) : List (Nat × Text) :=
  tcpFlagNames.filter fun entry => bit bits entry.1

theorem tcpFlagsCli_eq_some {value written : Text} (converted : tcpFlagsCli value = some written) :
    ∃ bits, literal? ((splitOn '/' value).headD []) = some bits ∧ flagsOf bits ≠ [] ∧
      written = [','].intercalate ((flagsOf bits).map Prod.snd) := by
  obtain ⟨bits, read, named⟩ := Option.bind_eq_some_iff.mp converted
  dsimp only at named
  split at named
  next => cases named
  next nonempty =>
      cases named
      refine ⟨bits, read, ?_, rfl⟩
      intro empty
      exact nonempty (by rw [← flagsOf, empty]; rfl)

section Named

variable {bits : Int} (nonempty : flagsOf bits ≠ [])

theorem mem_tcpFlagNames_of_mem_flagsOf {entry : Nat × Text} (member : entry ∈ flagsOf bits) :
    entry ∈ tcpFlagNames :=
  (List.mem_filter.mp member).1

include nonempty

theorem word_flags : Word ([','].intercalate ((flagsOf bits).map Prod.snd)) := by
  have words : ∀ entry ∈ tcpFlagNames, Word entry.2 := by decide
  have solid : ∀ name ∈ (flagsOf bits).map Prod.snd, Solid name := by
    intro name member
    obtain ⟨entry, inside, rfl⟩ := List.mem_map.mp member
    exact (words entry (mem_tcpFlagNames_of_mem_flagsOf inside)).2
  refine ⟨?_, solid_intercalate (by decide) solid⟩
  cases shape : flagsOf bits with
  | nil => exact absurd shape nonempty
  | cons entry rest =>
      have first :=
        (words entry (mem_tcpFlagNames_of_mem_flagsOf (shape ▸ List.mem_cons_self ..))).1
      rw [List.map_cons]
      cases rest with
      | nil => simpa using first
      | cons next others =>
          rw [List.map_cons, List.intercalate_cons_cons]
          simp

theorem namedBits?_flags :
    namedBits? ([','].intercalate ((flagsOf bits).map Prod.snd)) =
      some ((flagsOf bits).map Prod.fst) := by
  have plain : ∀ entry ∈ tcpFlagNames, ',' ∉ entry.2 := by decide
  have found : ∀ entry ∈ tcpFlagNames,
      (tcpFlagNames.find? fun other => other.2 = entry.2).map Prod.fst = some entry.1 := by decide
  have parts : splitOn ',' ([','].intercalate ((flagsOf bits).map Prod.snd)) =
      (flagsOf bits).map Prod.snd := by
    apply List.splitOn_intercalate
    · intro name member
      obtain ⟨entry, inside, rfl⟩ := List.mem_map.mp member
      exact plain entry (mem_tcpFlagNames_of_mem_flagsOf inside)
    · simpa using nonempty
  rw [namedBits?, parts]
  exact collect?_map fun entry inside => found entry (mem_tcpFlagNames_of_mem_flagsOf inside)

end Named

theorem mem_flagsOf (bits : Int) (k : Nat) :
    k ∈ (flagsOf bits).map Prod.fst ↔ k < 6 ∧ bit bits k = true := by
  have places : tcpFlagNames.map Prod.fst = List.range 6 := by decide
  rw [← List.mem_range, ← places, flagsOf]
  simp only [List.mem_map, List.mem_filter]
  constructor
  · rintro ⟨entry, ⟨member, set⟩, rfl⟩
    exact ⟨⟨entry, member, rfl⟩, set⟩
  · rintro ⟨⟨entry, member, rfl⟩, set⟩
    exact ⟨entry, ⟨member, set⟩, rfl⟩

/-- A mask asks for the same packets as a set of flags that are all given exactly when it is
that set. -/
theorem matches_iff_flags {flags mask : Int} {bits : List Nat}
    (given : ∀ k ∈ bits, bit flags k = true) :
    (∀ packet, Matches flags mask packet ↔ ∀ k ∈ bits, packet k = true) ↔
      ∀ k, bit mask k = true ↔ k ∈ bits := by
  constructor
  · intro same k
    constructor
    · intro masked
      by_contra missing
      -- a packet with every flag, and one with the named flags only
      have all := (same fun _ => true).mpr (fun _ _ => rfl) k masked
      have only := (same fun k => decide (k ∈ bits)).mpr (fun k member => decide_eq_true member) k
        masked
      rw [← all, decide_eq_true_iff] at only
      exact missing only
    · intro member
      -- the packet with the given flags under the mask, and no others
      have least := (same fun k => bit mask k && bit flags k).mp (by
        intro k masked
        dsimp only
        rw [masked, Bool.true_and]) k member
      exact ((Bool.and_eq_true ..).mp least).1
  · intro same packet
    constructor
    · intro passes k member
      rw [passes k ((same k).mpr member), given k member]
    · intro named k masked
      rw [named k ((same k).mp masked), given k ((same k).mp masked)]

/-- The flags in front of the mask are the ones that are converted. -/
theorem flags_of_given {value : Text} {bits flags : Int} {mask? : Option Int}
    (read : literal? ((splitOn '/' value).headD []) = some bits)
    (given : givenFlags? value = some (flags, mask?)) : flags = bits := by
  rw [givenFlags?] at given
  split at given
  next text shape =>
      rw [shape] at read
      obtain ⟨number, number_eq, equal⟩ := Option.map_eq_some_iff.mp given
      cases equal
      exact Option.some.inj (number_eq.symm.trans read)
  next text mask shape =>
      rw [shape] at read
      obtain ⟨number, number_eq, masked⟩ := Option.bind_eq_some_iff.mp given
      obtain ⟨_, _, equal⟩ := Option.map_eq_some_iff.mp masked
      cases equal
      exact Option.some.inj (number_eq.symm.trans read)
  next => cases given

theorem sameFlags_iff_exact {value written : Text}
    (converted : tcpFlagsCli value = some written) :
    SameFlags value written ↔ ExactFlags value := by
  obtain ⟨bits, read, nonempty, rfl⟩ := tcpFlagsCli_eq_some converted
  have member := mem_flagsOf bits
  have allGiven : ∀ k ∈ (flagsOf bits).map Prod.fst, bit bits k = true :=
    fun k inside => ((member k).mp inside).2
  constructor
  · rintro ⟨named, flags, mask?, names, given, same⟩
    rw [namedBits?_flags nonempty] at names
    cases names
    obtain rfl := flags_of_given read given
    refine ⟨flags, mask?, given, ?_⟩
    cases mask? with
    | some mask =>
        intro k
        rw [← member k]
        exact (matches_iff_flags allGiven).mp same k
    | none => exact fun k set => ((member k).mp ((same k).mpr set)).1
  · rintro ⟨flags, mask?, given, exactly⟩
    obtain rfl := flags_of_given read given
    refine ⟨_, flags, mask?, namedBits?_flags nonempty, given, ?_⟩
    cases mask? with
    | some mask =>
        refine (matches_iff_flags allGiven).mpr fun k => ?_
        rw [member k]
        exact exactly k
    | none => exact fun k => (member k).trans ⟨And.right, fun set => ⟨exactly k set, set⟩⟩

/-- What is written for a value is a word where the value can be said in one, and says it exactly
where the value is kept. -/
structure Written (field : Text × Text) (value : Text) : Prop where
  word_of_denotes : ∀ other, Word other → Denotes field.1 field.2 other → Word value
  word_of_exact : Exact field → Word value
  denotes_iff : Word value → (Denotes field.1 field.2 value ↔ Exact field)

/-- A value written as it was given. -/
theorem Written.of_given {field : Text × Text}
    (denotes : ∀ other, Denotes field.1 field.2 other ↔ other = field.2)
    (exact : Exact field ↔ Word field.2) : Written field field.2 where
  word_of_denotes other word said := by
    rw [← (denotes other).mp said]
    exact word
  word_of_exact := exact.mp
  denotes_iff word := iff_of_true ((denotes field.2).mpr rfl) (exact.mpr word)

theorem written_spec {field : Text × Text} {value : Text} (here : written? field = some value) :
    Written field value := by
  obtain ⟨k, given⟩ := field
  by_cases flags : k = tcpFlags
  · have other : k ≠ etherType := by
      rw [flags]
      decide
    rw [written?, if_pos flags] at here
    obtain ⟨bits, -, nonempty, rfl⟩ := tcpFlagsCli_eq_some here
    refine ⟨fun _ _ _ => word_flags nonempty, fun _ => word_flags nonempty, fun _ => ?_⟩
    rw [Denotes, if_neg other, if_pos flags, Exact, if_neg other, if_pos flags]
    exact sameFlags_iff_exact here
  · rw [written?, if_neg flags] at here
    by_cases ether : k = etherType
    · rw [if_pos ether] at here
      cases here
      cases read : literal? given with
      | some number =>
          refine ⟨fun _ _ _ => word_etherTypeCli read, fun _ => word_etherTypeCli read, fun _ => ?_⟩
          rw [Denotes, if_pos ether, Exact, if_pos ether, read]
          exact sameNumber_etherTypeCli_iff read
      | none =>
          have same : etherTypeCli given = given := by rw [etherTypeCli, read]
          rw [same]
          refine Written.of_given (fun other => ?_) ?_
          · rw [Denotes, if_pos ether, SameNumber, read]
          · rw [Exact, if_pos ether, read]
    · rw [if_neg ether] at here
      cases here
      refine Written.of_given (fun other => ?_) ?_
      · rw [Denotes, if_neg ether, if_neg flags]
      · rw [Exact, if_neg ether, if_neg flags]

/-! ## A command and the fields -/

structure OptionTable (table : List (Text × Text)) : Prop where
  words : ∀ entry ∈ table, Word entry.2
  distinct : (table.map Prod.snd).Nodup

theorem macFieldCli_table : OptionTable macFieldCli :=
  ⟨by decide, by decide⟩

theorem l3FieldCli_table : OptionTable l3FieldCli :=
  ⟨by decide, by decide⟩

namespace OptionTable

variable {table : List (Text × Text)} (proper : OptionTable table)
include proper

theorem word_of_lookup {k flag : Text} (found : table.lookup k = some flag) : Word flag := by
  obtain ⟨before, after, split, -⟩ := List.lookup_eq_some_iff.mp found
  exact proper.words (k, flag) (by rw [split]; simp)

theorem key_eq {k k' flag : Text} (found : table.lookup k = some flag)
    (found' : table.lookup k' = some flag) : k = k' := by
  obtain ⟨before, after, split, -⟩ := List.lookup_eq_some_iff.mp found
  obtain ⟨before', after', split', -⟩ := List.lookup_eq_some_iff.mp found'
  have member : (k, flag) ∈ table := by rw [split]; simp
  have member' : (k', flag) ∈ table := by rw [split']; simp
  exact congrArg Prod.fst (List.inj_on_of_nodup_map proper.distinct member member' rfl)

/-- The options express every field exactly where the table has every field and every value is
kept. -/
theorem expresses_iff (head : RuleHead) (fields : MatchFields)
    (complete : ∀ field ∈ fields.entries, table.lookup field.1 ≠ none → written? field ≠ none) :
    (∀ field ∈ fields.entries,
        Expresses table ((rendered table fields.entries).foldl withOption head.command) field) ↔
      ∀ field ∈ fields.entries, table.lookup field.1 ≠ none ∧ Exact field := by
  -- where every value is a word, the options are those written
  have read : (∀ field ∈ fields.entries, ∀ value, written? field = some value → Word value) →
      options ((rendered table fields.entries).foldl withOption head.command) =
        rendered table fields.entries := by
    intro words
    apply options_written
    intro option member
    obtain ⟨field, inside, found, written⟩ := mem_rendered.mp member
    exact ⟨proper.word_of_lookup found, words field inside option.2 written⟩
  constructor
  · intro expressed
    have words : ∀ field ∈ fields.entries, ∀ value, written? field = some value → Word value := by
      intro field member value written
      obtain ⟨flag, other, -, listed, denotes⟩ := expressed field member
      exact (written_spec written).word_of_denotes other (word_of_mem_options listed) denotes
    intro field member
    obtain ⟨flag, value, found, listed, denotes⟩ := expressed field member
    refine ⟨by rw [found]; exact Option.some_ne_none flag, ?_⟩
    rw [read words] at listed
    obtain ⟨other, inside, found', written⟩ := mem_rendered.mp listed
    have same : other = field := by
      have keys := proper.key_eq found' found
      exact List.inj_on_of_nodup_map fields.distinct inside member keys
    rw [same] at written
    exact ((written_spec written).denotes_iff (words field member value written)).mp denotes
  · intro kept
    have words : ∀ field ∈ fields.entries, ∀ value, written? field = some value → Word value :=
      fun field member value written => (written_spec written).word_of_exact (kept field member).2
    intro field member
    obtain ⟨known, exactly⟩ := kept field member
    obtain ⟨flag, found⟩ := Option.ne_none_iff_exists'.mp known
    obtain ⟨value, written⟩ := Option.ne_none_iff_exists'.mp (complete field member known)
    refine ⟨flag, value, found, ?_, ?_⟩
    · rw [read words]
      exact mem_rendered.mpr ⟨field, member, found, written⟩
    · exact ((written_spec written).denotes_iff (words field member value written)).mpr exactly

end OptionTable

/-! ## The two functions -/

theorem addMacRule_eq (head : RuleHead) (fields : Dict Text Text) :
    addMacRule head fields = (rendered macFieldCli fields).foldl withOption head.command := by
  have absent : macFieldCli.lookup tcpFlags = none := by decide
  rw [addMacRule]
  generalize head.command = cmd
  induction fields generalizing cmd with
  | nil => rfl
  | cons field rest inductionHypothesis =>
      rw [List.foldl_cons, inductionHypothesis, rendered, rendered, List.filterMap_cons]
      cases found : macFieldCli.lookup field.1 with
      | none => rfl
      | some flag =>
          have notFlags : field.1 ≠ tcpFlags := by
            intro same
            rw [same, absent] at found
            cases found
          rw [Option.bind_some, written?, if_neg notFlags]
          by_cases ether : field.1 = etherType
          · rw [if_pos ether, if_pos ether]
            rfl
          · rw [if_neg ether, if_neg ether]
            rfl

/-- `add_l3_rule` returns before it issues a command. -/
def Refused (field : Text × Text) : Prop :=
  l3FieldCli.lookup field.1 = none ∨ field.1 = tcpFlags ∧ tcpFlagsCli field.2 = none

theorem refused_iff {field : Text × Text} :
    Refused field ↔ l3FieldCli.lookup field.1 = none ∨ written? field = none := by
  rw [Refused, written?]
  by_cases flags : field.1 = tcpFlags
  · simp [flags]
  · simp only [flags, false_and, if_false]
    split <;> simp

theorem l3Command_cons (cmd : Text) (field : Text × Text) (rest : Dict Text Text) :
    l3Command cmd (field :: rest) =
      (l3FieldCli.lookup field.1).bind fun flag =>
        (written? field).bind fun value => l3Command (withOption cmd (flag, value)) rest := by
  obtain ⟨k, v⟩ := field
  rw [l3Command, written?]
  cases l3FieldCli.lookup k with
  | none => rfl
  | some flag =>
      dsimp only [Option.bind_some]
      by_cases flags : k = tcpFlags
      · rw [if_pos flags, if_pos flags]
        cases tcpFlagsCli v <;> rfl
      · rw [if_neg flags, if_neg flags]
        by_cases ether : k = etherType
        · rw [if_pos ether, if_pos ether]
          rfl
        · rw [if_neg ether, if_neg ether]
          rfl

theorem l3Command_eq_none {cmd : Text} {fields : Dict Text Text} :
    l3Command cmd fields = none ↔ ∃ field ∈ fields, Refused field := by
  induction fields generalizing cmd with
  | nil => simp [l3Command]
  | cons field rest inductionHypothesis =>
      rw [l3Command_cons, List.exists_mem_cons_iff, refused_iff]
      cases l3FieldCli.lookup field.1 with
      | none => simp
      | some flag => cases written? field <;> simp [inductionHypothesis]

theorem l3Command_eq_some {cmd issued : Text} {fields : Dict Text Text}
    (command : l3Command cmd fields = some issued) :
    issued = (rendered l3FieldCli fields).foldl withOption cmd := by
  induction fields generalizing cmd with
  | nil =>
      cases command
      rfl
  | cons field rest inductionHypothesis =>
      rw [l3Command_cons] at command
      obtain ⟨flag, found, command⟩ := Option.bind_eq_some_iff.mp command
      obtain ⟨value, written, command⟩ := Option.bind_eq_some_iff.mp command
      rw [inductionHypothesis command, rendered, rendered, List.filterMap_cons, found, written]
      rfl

section Rules

variable (reply : Text → Text × Text) (head : RuleHead) (fields : MatchFields)

/-- One command that says what the fields say, or no command at all. -/
def Keeps (table : List (Text × Text)) (commands : List Text) : Prop :=
  commands = [] ∨ ∃ cmd, commands = [cmd] ∧ ∀ field ∈ fields.entries, Expresses table cmd field

theorem addMacRule_keeps_iff :
    Keeps fields macFieldCli [addMacRule head fields.entries] ↔
      ∀ field ∈ fields.entries, macFieldCli.lookup field.1 ≠ none ∧ Exact field := by
  have absent : macFieldCli.lookup tcpFlags = none := by decide
  have complete : ∀ field ∈ fields.entries, macFieldCli.lookup field.1 ≠ none →
      written? field ≠ none := by
    intro field _ known
    have notFlags : field.1 ≠ tcpFlags := fun same => known (by rw [same, absent])
    rw [written?, if_neg notFlags]
    split <;> exact Option.some_ne_none _
  rw [← macFieldCli_table.expresses_iff head fields complete, ← addMacRule_eq]
  constructor
  · rintro (none | ⟨cmd, issued, expressed⟩)
    · cases none
    · cases issued
      exact expressed
  · exact fun expressed => Or.inr ⟨_, rfl, expressed⟩

theorem addL3Rule_keeps_iff :
    Keeps fields l3FieldCli (addL3Rule reply head fields.entries).1 ↔
      (∃ field ∈ fields.entries, Refused field) ∨ ∀ field ∈ fields.entries, Exact field := by
  rw [addL3Rule]
  cases command : l3Command head.command fields.entries with
  | none => exact iff_of_true (Or.inl rfl) (Or.inl (l3Command_eq_none.mp command))
  | some cmd =>
      have accepted : ¬ ∃ field ∈ fields.entries, Refused field := by
        rw [← l3Command_eq_none, command]
        exact Option.some_ne_none cmd
      have passed : ∀ field ∈ fields.entries,
          l3FieldCli.lookup field.1 ≠ none ∧ written? field ≠ none := by
        intro field member
        rw [← not_or, ← refused_iff]
        exact fun refused => accepted ⟨field, member, refused⟩
      have expresses := l3FieldCli_table.expresses_iff head fields fun field member _ =>
        (passed field member).2
      rw [← l3Command_eq_some command] at expresses
      constructor
      · rintro (none | ⟨issued, same, expressed⟩)
        · cases none
        · cases same
          exact Or.inr fun field member => (expresses.mp expressed field member).2
      · rintro (refused | exactly)
        · exact absurd refused accepted
        · exact Or.inr ⟨cmd, rfl, expresses.mpr fun field member =>
            ⟨(passed field member).1, exactly field member⟩⟩

theorem l3RuleExpressible_eq_false {names : List Text} :
    l3RuleExpressible names = false ↔ ∃ name ∈ names, l3FieldCli.lookup name = none := by
  rw [l3RuleExpressible, List.all_eq_false]
  refine exists_congr fun name => and_congr_right fun _ => ?_
  cases l3FieldCli.lookup name <;> simp

/-- The answer to the command that is issued, if there is one, says nothing against it. -/
def Supported : Prop :=
  ∀ cmd, l3Command head.command fields.entries = some cmd →
    contains notSupported ((reply cmd).1 ++ (reply cmd).2) = false

theorem expressible_of_refused_iff :
    ((addL3Rule reply head fields.entries).2 = false →
        l3RuleExpressible fields.entries.keys = false) ↔
      (∃ name ∈ fields.entries.keys, l3FieldCli.lookup name = none) ∨
        (∀ field ∈ fields.entries, field.1 = tcpFlags → tcpFlagsCli field.2 ≠ none) ∧
          Supported reply head fields := by
  rw [l3RuleExpressible_eq_false]
  by_cases unknown : ∃ name ∈ fields.entries.keys, l3FieldCli.lookup name = none
  · exact iff_of_true (fun _ => unknown) (Or.inl unknown)
  · have known : ∀ field ∈ fields.entries, l3FieldCli.lookup field.1 ≠ none := fun field member
      missing => unknown ⟨field.1, List.mem_map_of_mem member, missing⟩
    simp only [unknown, false_or, imp_false, Bool.not_eq_false]
    rw [addL3Rule]
    cases command : l3Command head.command fields.entries with
    | none =>
        obtain ⟨field, member, refused⟩ := l3Command_eq_none.mp command
        refine iff_of_false Bool.false_ne_true fun converted => ?_
        rcases refused with missing | ⟨flags, failed⟩
        · exact known field member missing
        · exact converted.1 field member flags failed
    | some cmd =>
        have accepted : ¬ ∃ field ∈ fields.entries, Refused field := by
          rw [← l3Command_eq_none, command]
          exact Option.some_ne_none cmd
        have converted : ∀ field ∈ fields.entries, field.1 = tcpFlags →
            tcpFlagsCli field.2 ≠ none := fun field member flags failed =>
          accepted ⟨field, member, Or.inr ⟨flags, failed⟩⟩
        dsimp only
        rw [Bool.not_eq_true', Supported]
        constructor
        · intro fine
          refine ⟨converted, ?_⟩
          rintro _ issued
          cases command.symm.trans issued
          exact fine
        · exact fun fine => fine.2 cmd command

/-- Exactly when each of the three functions keeps to what was asked for. -/
theorem acl_rules_exact_iff :
    (Keeps fields macFieldCli [addMacRule head fields.entries] ↔
        ∀ field ∈ fields.entries, macFieldCli.lookup field.1 ≠ none ∧ Exact field) ∧
      (Keeps fields l3FieldCli (addL3Rule reply head fields.entries).1 ↔
        (∃ field ∈ fields.entries, Refused field) ∨ ∀ field ∈ fields.entries, Exact field) ∧
      (((addL3Rule reply head fields.entries).2 = false →
          l3RuleExpressible fields.entries.keys = false) ↔
        (∃ name ∈ fields.entries.keys, l3FieldCli.lookup name = none) ∨
          (∀ field ∈ fields.entries, field.1 = tcpFlags → tcpFlagsCli field.2 ≠ none) ∧
            Supported reply head fields) :=
  ⟨addMacRule_keeps_iff head fields, addL3Rule_keeps_iff reply head fields,
    expressible_of_refused_iff reply head fields⟩

end Rules

def ruleHead : RuleHead where
  table := "T".toList
  rule := "R".toList
  priority := "9000".toList
  action := "DROP".toList
  words := by decide

/-- A MAC rule for one VLAN, as `OUTER_VLAN_ID`: the VLAN is dropped. -/
def vlanRule : MatchFields where
  entries := [("SRC_MAC".toList, "00:11:22:33:44:55".toList), ("OUTER_VLAN_ID".toList, "10".toList)]
  distinct := by decide

theorem unknown_field_dropped :
    ¬ ∀ (reply : Text → Text × Text) (head : RuleHead) (fields : MatchFields),
      Keeps fields macFieldCli [addMacRule head fields.entries] ∧
        Keeps fields l3FieldCli (addL3Rule reply head fields.entries).1 ∧
        ((addL3Rule reply head fields.entries).2 = false →
          l3RuleExpressible fields.entries.keys = false) := by
  intro keeps
  have absent : macFieldCli.lookup "OUTER_VLAN_ID".toList = none := by decide
  rcases (keeps (fun _ => ([], [])) ruleHead vlanRule).1 with none | ⟨cmd, -, expressed⟩
  · cases none
  · obtain ⟨flag, value, found, -⟩ :=
      expressed ("OUTER_VLAN_ID".toList, "10".toList) (by simp [vlanRule])
    cases absent.symm.trans found

end OnboxFvt.Acl
