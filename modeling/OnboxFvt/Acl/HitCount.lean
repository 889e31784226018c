import OnboxFvt.Library.Dict
import OnboxFvt.Python.Decimal
import OnboxFvt.Python.TextFacts

/-!
# The hit count of a rule

`rule_hit_count` of `framework/acl.py`.  A line of `aclshow -a` is taken for the rule when the
rule's name is any of its tokens, a key of the rule map when both names occur in it; what was
asked for is the count of one rule of one table.
-/

namespace OnboxFvt.Acl

open Library Python

/-- COUNTERS_DB: `ACL_COUNTER_RULE_MAP`, and the hash `COUNTERS:oid`. -/
structure CountersDb where
  ruleMap : Dict Text Text
  counters : Text → Dict Text Text

/-- `toks[-2]`. -/
def secondLast? (toks : List Text) : Option Text :=
  toks.dropLast.getLast?

def counted (toks : List Text) : Bool :=
  5 ≤ toks.length && (secondLast? toks).any isDigit

def packetFields : List Text :=
  ["SAI_ACL_COUNTER_ATTR_PACKETS".toList, "Packets".toList, "packets".toList]

/-- The first of the fields that holds a number. -/
def packets? (h : Dict Text Text) : Option Text :=
  packetFields.findSome? fun f => (h.lookup f).filter isDigit

/-- `none` is the `ValueError` of an `int` that fails, `some none` what the function returns
when neither path yields a value. -/
def ruleHitCount (out : Text) (db : CountersDb) (table rule : Text) : Option (Option Int) :=
  match ((splitlines out).map split).find? fun toks => rule ∈ toks && counted toks with
  | some toks => ((secondLast? toks).bind int?).map some
  | none =>
      match db.ruleMap.findSome? fun entry =>
          if contains rule entry.1 && contains table entry.1 then packets? (db.counters entry.2)
          else none with
      | some v => (int? v).map some
      | none => some none

/-! ## What the listing and the map are made of -/

/-- A row of the listing; a count that is not there is shown as `N/A`. -/
structure Row where
  rule : Text
  table : Text
  prio : Text
  packets : Option Nat
  bytes : Option Nat

def countText : Option Nat → Text
  | some count => decimal count
  | none => "N/A".toList

def Row.tokens (row : Row) : List Text :=
  [row.rule, row.table, row.prio, countText row.packets, countText row.bytes]

/-- Lines without a count, and the rows after them. -/
structure Lists (rows : List Row) (out : Text) : Prop where
  lines : ∃ heading, (∀ toks ∈ heading, counted toks = false) ∧
    (splitlines out).map split = heading ++ rows.map Row.tokens

/-- An entry of the rule map. -/
structure Counter where
  table : Text
  rule : Text
  oid : Text

def Counter.key (counter : Counter) : Text :=
  counter.table ++ ':' :: counter.rule

def ruleMapOf (map : List Counter) : Dict Text Text :=
  map.map fun counter => (counter.key, counter.oid)

section Counts

variable (rows : List Row) (map : List Counter) (counters : Text → Dict Text Text)
  (table rule : Text)

/-- A packet count of exactly this rule of exactly this table. -/
def OwnCount (count : Int) : Prop :=
  (∃ row ∈ rows, row.rule = rule ∧ row.table = table ∧ row.packets.map Int.ofNat = some count) ∨
    ∃ counter ∈ map, counter.table = table ∧ counter.rule = rule ∧
      (packets? (counters counter.oid)).bind int? = some count

/-- The name stands in the row, which has a packet count. -/
def Row.mentions (row : Row) : Bool :=
  rule ∈ row.tokens && row.packets.isSome

/-- Both names occur in the key. -/
def Counter.mentions (counter : Counter) : Bool :=
  contains rule counter.key && contains table counter.key

/-- The first number found under a key with both names in it. -/
def mapped? : Option Text :=
  map.findSome? fun counter =>
    if counter.mentions table rule then packets? (counters counter.oid) else none

/-- The first row the name stands in is one with a count of the rule; where there is no such
row, the first number found under a key with both names in it is one. -/
structure Leads : Prop where
  listed : ∀ row, rows.find? (Row.mentions rule) = some row → ∀ count, row.packets = some count →
    OwnCount rows map counters table rule count
  mapped : rows.find? (Row.mentions rule) = none → ∀ v,
    mapped? map counters table rule = some v →
    ∀ count, int? v = some count → OwnCount rows map counters table rule count

end Counts

theorem counted_tokens (row : Row) : counted row.tokens = row.packets.isSome := by
  cases shown : row.packets with
  | none =>
      rw [counted, Row.tokens, shown]
      rfl
  | some count =>
      rw [counted, Row.tokens, shown]
      exact isDigit_decimal count

/-- The line that is taken is the first row the name stands in. -/
theorem find?_lines {rows : List Row} {out : Text} (lists : Lists rows out) (rule : Text) :
    (((splitlines out).map split).find? fun toks => rule ∈ toks && counted toks) =
      (rows.find? (Row.mentions rule)).map Row.tokens := by
  obtain ⟨heading, uncounted, lines⟩ := lists.lines
  have passed : heading.find? (fun toks => rule ∈ toks && counted toks) = none := by
    rw [List.find?_eq_none]
    intro toks member
    simp [uncounted toks member]
  have same : ((fun toks => decide (rule ∈ toks) && counted toks) ∘ Row.tokens) =
      Row.mentions rule := by
    funext row
    simp only [Function.comp_apply, counted_tokens, Row.mentions]
  rw [lines, List.find?_append, passed, Option.none_or, List.find?_map, same]

theorem secondLast?_tokens {row : Row} {count : Nat} (shown : row.packets = some count) :
    ((secondLast? row.tokens).bind int?).map some = some (some (count : Int)) := by
  have read : secondLast? row.tokens = some (decimal count) := by
    rw [Row.tokens, shown]
    rfl
  rw [read, Option.bind_some, int?_decimal]
  rfl

theorem findSome?_ruleMapOf (map : List Counter) (counters : Text → Dict Text Text)
    (table rule : Text) :
    ((ruleMapOf map).findSome? fun entry =>
        if contains rule entry.1 && contains table entry.1 then packets? (counters entry.2)
        else none) = mapped? map counters table rule := by
  rw [ruleMapOf, List.findSome?_map]
  rfl

section Cases

variable {rows : List Row} {out : Text} (lists : Lists rows out) (map : List Counter)
  (counters : Text → Dict Text Text) (table : Text) {rule : Text}
include lists

theorem ruleHitCount_listed {row : Row} {count : Nat}
    (found : rows.find? (Row.mentions rule) = some row) (shown : row.packets = some count) :
    ruleHitCount out ⟨ruleMapOf map, counters⟩ table rule = some (some (count : Int)) := by
  rw [ruleHitCount, find?_lines lists, found]
  exact secondLast?_tokens shown

theorem ruleHitCount_unlisted (missing : rows.find? (Row.mentions rule) = none) :
    ruleHitCount out ⟨ruleMapOf map, counters⟩ table rule =
      match mapped? map counters table rule with
      | some v => (int? v).map some
      | none => some none := by
  rw [ruleHitCount, find?_lines lists, missing, ← findSome?_ruleMapOf]
  rfl

end Cases

/-- A returned number is a count of the rule exactly where the name leads to it first. -/
theorem rule_hit_count_own_iff {rows : List Row} {out : Text} (lists : Lists rows out)
    (map : List Counter) (counters : Text → Dict Text Text) (table rule : Text) :
    (∀ count, ruleHitCount out ⟨ruleMapOf map, counters⟩ table rule = some (some count) →
      OwnCount rows map counters table rule count) ↔ Leads rows map counters table rule := by
  constructor
  · intro own
    refine ⟨?_, ?_⟩
    · intro row found count shown
      exact own count (ruleHitCount_listed lists map counters table found shown)
    · intro missing v read count value
      apply own count
      rw [ruleHitCount_unlisted lists map counters table missing, read]
      dsimp only
      rw [value]
      rfl
  · intro leads count returned
    cases found : rows.find? (Row.mentions rule) with
    | some row =>
        have mentioned := List.find?_some found
        rw [Row.mentions, Bool.and_eq_true, Option.isSome_iff_exists] at mentioned
        obtain ⟨-, shownCount, shown⟩ := mentioned
        rw [ruleHitCount_listed lists map counters table found shown] at returned
        cases returned
        exact leads.listed row found shownCount shown
    | none =>
        rw [ruleHitCount_unlisted lists map counters table found] at returned
        cases read : mapped? map counters table rule with
        | none =>
            rw [read] at returned
            cases returned
        | some v =>
            rw [read] at returned
            obtain ⟨value, parsed, equal⟩ := Option.map_eq_some_iff.mp returned
            cases equal
            exact leads.mapped found v read count parsed

/-- Two tables with a rule of one name. -/
def reusedName : List Row :=
  [⟨"R1".toList, "A".toList, "9000".toList, some 5, some 500⟩,
    ⟨"R1".toList, "B".toList, "9000".toList, some 7, some 700⟩]

def reusedListing : Text :=
  "RULE TABLE PRIO PACKETS BYTES\nR1 A 9000 5 500\nR1 B 9000 7 700".toList

theorem lists_reusedListing : Lists reusedName reusedListing where
  lines := ⟨[["RULE".toList, "TABLE".toList, "PRIO".toList, "PACKETS".toList, "BYTES".toList]],
    by decide, by decide +kernel⟩

/-- The count of the rule in table `A`, which comes first, is a count of it. -/
theorem rule_hit_count_own_first :
    OwnCount reusedName [] (fun _ => []) "A".toList "R1".toList 5 :=
  (rule_hit_count_own_iff lists_reusedListing [] (fun _ => []) "A".toList "R1".toList).mpr
    { listed := by
        intro row found count shown
        cases found
        exact Or.inl ⟨_, List.mem_cons_self .., rfl, rfl, by rw [shown]; rfl⟩
      mapped := by
        intro missing
        cases missing }
    5 (by decide +kernel)

/-- Asked for the rule of table `B`, the function returns the count of table `A`. -/
theorem other_table_counted :
    ¬ ∀ (rows : List Row) (out : Text) (map : List Counter)
      (counters : Text → Dict Text Text) (table rule : Text), Lists rows out →
      ∀ count, ruleHitCount out ⟨ruleMapOf map, counters⟩ table rule = some (some count) →
        OwnCount rows map counters table rule count := by
  intro own
  have counts := own reusedName reusedListing [] (fun _ => []) "B".toList "R1".toList
    lists_reusedListing 5 (by decide +kernel)
  rcases counts with ⟨row, member, -, table, shown⟩ | ⟨_, none, _⟩
  · rcases List.mem_cons.mp member with rfl | later
    · revert table
      decide
    · rw [List.mem_singleton.mp later] at shown
      cases shown
  · cases none

end OnboxFvt.Acl
