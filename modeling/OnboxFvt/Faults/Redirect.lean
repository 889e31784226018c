import OnboxFvt.Library.Ledger
import OnboxFvt.Library.Run
import OnboxFvt.Python.Decimal
import OnboxFvt.Python.Lines
import OnboxFvt.Python.TextFacts

/-!
# Redirecting the BMC traffic

`BmcRedirect` of `framework/pmon_fault.py`.  Its rules stand in the OUTPUT chains of two tables
that other programs edit as well, also between two commands of `restore`.
-/

namespace OnboxFvt.Faults

open Library Python

inductive Table
  | nat
  | filter
  deriving DecidableEq

abbrev Rule := Text

abbrev Tables := Table → List Rule

def bmcIp : Text := "240.1.1.1".toList

/-- The rules of the redirect differ in their target. -/
def bmcRule (target : Text) : Rule :=
  "OUTPUT -d ".toList ++ bmcIp ++ " -p tcp --dport 8080 -j ".toList ++ target

inductive Injector
  | toMock
  | refuse
  | blackhole
  deriving DecidableEq

namespace Injector

def table : Injector → Table
  | toMock => .nat
  | refuse | blackhole => .filter

def rule (mockPort : Nat) : Injector → Rule
  | toMock => bmcRule ("REDIRECT --to-ports ".toList ++ decimal mockPort)
  | refuse => bmcRule "REJECT --reject-with tcp-reset".toList
  | blackhole => bmcRule "DROP".toList

end Injector

/-- Whether an edit of table `table` is about a rule of the redirect. -/
def own (mockPort : Nat) (table : Table) (rule : Rule) : Bool :=
  [Injector.toMock, .refuse, .blackhole].any fun injector =>
    decide (injector.table = table ∧ injector.rule mockPort = rule)

/-- How `iptables -A` comes back: in time, refused, or in place although `run` has timed out. -/
inductive Added
  | ok
  | refused
  | late
  deriving DecidableEq

inductive Action
  | add (injector : Injector) (added : Added)
  | restore
  /-- The next `iptables -D` of `restore`. -/
  | delete (effective : Bool)
  | other (table : Table) (edit : Edit Rule)

structure State where
  tables : Tables
  /-- `_applied`. -/
  applied : List (Table × Rule)
  /-- What a `restore` still has to delete. -/
  removing : List (Table × Rule)

def Tables.edit (tables : Tables) (table : Table) (edit : Edit Rule) : Tables :=
  Function.update tables table (edit.apply (tables table))

/-- Other programs leave the rules of the redirect alone. -/
def redirect (mockPort : Nat) : Machine State Action where
  step state
    | .add injector added =>
        let table := injector.table
        let rule := injector.rule mockPort
        if state.removing = [] then
          match added with
          | .ok => some { state with
              tables := state.tables.edit table (.append rule)
              applied := state.applied ++ [(table, rule)] }
          | .refused => some state
          | .late => some { state with tables := state.tables.edit table (.append rule) }
        else none
    | .restore =>
        if state.removing = [] then
          some { state with applied := [], removing := state.applied.reverse }
        else none
    | .delete effective =>
        match state.removing with
        | [] => none
        | (table, rule) :: rest => some { state with
            tables := if effective then state.tables.edit table (.remove rule) else state.tables
            removing := rest }
    | .other table edit =>
        if own mockPort table edit.item then none
        else some { state with tables := state.tables.edit table edit }

/-! ## The check behind `restore` -/

/-- How `iptables -S` shows the policy of a chain and its rules; one for the BMC shows its
address. -/
structure Listing where
  shown : Rule → Text
  policy : Table → Text
  shows : ∀ target, bmcIp <:+: shown (bmcRule target)
  plain : ∀ table, ¬ bmcIp <:+: policy table

namespace Listing

variable (listing : Listing)

def lines (tables : Tables) (table : Table) : List Text :=
  listing.policy table :: (tables table).map listing.shown

def leftover (tables : Tables) : Text :=
  joinLines (listing.lines tables .filter ++ listing.lines tables .nat)

/-- The assertion of `restore`. -/
def clean (tables : Tables) : Bool :=
  !contains bmcIp (listing.leftover tables)

theorem clean_iff (tables : Tables) : listing.clean tables = true ↔
    ∀ table, ∀ rule ∈ tables table, ¬ bmcIp <:+: listing.shown rule := by
  have solid : '\n' ∉ bmcIp := by decide
  rw [clean, Bool.not_eq_true', ← Bool.not_eq_true, contains_iff, leftover, joinLines]
  constructor
  · intro missing table rule listed inside
    refine missing (inside.trans (part_infix_intercalate ?_))
    have line : listing.shown rule ∈ listing.lines tables table :=
      List.mem_cons_of_mem _ (List.mem_map_of_mem listed)
    cases table with
    | nat => exact List.mem_append_right _ line
    | filter => exact List.mem_append_left _ line
  · intro absent occurs
    obtain ⟨line, listed, inside⟩ := infix_intercalate solid (by decide) occurs
    have ruled : ∀ table, line ∉ listing.lines tables table := by
      intro table shown
      rcases List.mem_cons.mp shown with rfl | shown
      · exact listing.plain table inside
      · obtain ⟨rule, member, rfl⟩ := List.mem_map.mp shown
        exact absent table rule member inside
    rcases List.mem_append.mp listed with here | here
    · exact ruled _ here
    · exact ruled _ here

theorem own_shown {mockPort : Nat} {table : Table} {rule : Rule}
    (mine : own mockPort table rule = true) : bmcIp <:+: listing.shown rule := by
  obtain ⟨injector, -, same⟩ := List.any_eq_true.mp mine
  rw [← (of_decide_eq_true same).2]
  cases injector <;> exact listing.shows _

end Listing

/-! ## What a run leaves in the tables -/

/-- What the other programs make of the tables. -/
def alone (tables : Tables) (actions : List Action) : Tables :=
  actions.foldl (fun tables action =>
    match action with
    | .other table edit => tables.edit table edit
    | _ => tables) tables

/-- The record and the tables stay in step. -/
def Action.Effective : Action → Prop
  | .add _ added => added ≠ .late
  | .delete effective => effective = true
  | _ => True

namespace Tables

variable (tables : Tables) (table : Table) (edit : Edit Rule)

theorem edit_self : tables.edit table edit table = edit.apply (tables table) :=
  Function.update_self ..

theorem edit_of_ne {other : Table} (different : other ≠ table) :
    tables.edit table edit other = tables other :=
  Function.update_of_ne different ..

/-- Edits of a rule show in what a table has of this rule only. -/
theorem filter_edit {mockPort : Nat} (hidden : own mockPort table edit.item = true)
    (other : Table) :
    (tables.edit table edit other).filter (fun rule => !own mockPort other rule) =
      (tables other).filter fun rule => !own mockPort other rule := by
  by_cases same : other = table
  · subst same
    rw [edit_self]
    refine Edit.filter_apply_of_neg ?_ _
    rw [hidden]
    rfl
  · rw [edit_of_ne tables table edit same]

theorem count_edit {other : Table} {rule : Rule} (different : (other, rule) ≠ (table, edit.item)) :
    (tables.edit table edit other).count rule = (tables other).count rule := by
  by_cases same : other = table
  · subst same
    rw [edit_self]
    exact Edit.count_apply_of_ne (fun item => different (Prod.ext rfl item)) _
  · rw [edit_of_ne tables table edit same]

end Tables

theorem own_rule (mockPort : Nat) (injector : Injector) :
    own mockPort injector.table (injector.rule mockPort) = true := by
  refine List.any_eq_true.mpr ⟨injector, ?_, decide_eq_true ⟨rfl, rfl⟩⟩
  cases injector <;> simp

/-- What is known of the tables after `history`, `lost` being the rules in them that no record
speaks of. -/
structure Books (mockPort : Nat) (first : Tables) (history : List Action) (state : State)
    (lost : List (Table × Rule)) : Prop where
  rest : ∀ table, (state.tables table).filter (fun rule => !own mockPort table rule) =
    (alone first history table).filter fun rule => !own mockPort table rule
  counts : ∀ table rule, own mockPort table rule = true →
    (state.tables table).count rule =
      (first table).count rule + (state.applied ++ state.removing ++ lost).count (table, rule)
  others : ∀ table rule, own mockPort table rule = true →
    (alone first history table).count rule = (first table).count rule
  mine : ∀ entry ∈ state.applied ++ state.removing ++ lost, own mockPort entry.1 entry.2 = true
  effective : lost = [] ↔ ∀ action ∈ history, action.Effective

theorem alone_concat (tables : Tables) (history : List Action) (action : Action) :
    alone tables (history ++ [action]) =
      match action with
      | .other table edit => (alone tables history).edit table edit
      | _ => alone tables history := by
  rw [alone, List.foldl_append]
  rfl

theorem effective_concat {history : List Action} {action : Action} :
    (∀ act ∈ history ++ [action], act.Effective) ↔
      (∀ act ∈ history, act.Effective) ∧ action.Effective := by
  rw [List.forall_mem_append, List.forall_mem_singleton]

section Steps

variable {mockPort : Nat} {first : Tables} {history : List Action} {state : State}
  {lost : List (Table × Rule)}

/-- An own rule comes into a table, into the record or past it. -/
theorem Books.add (books : Books mockPort first history state lost) (injector : Injector)
    (applied' lost' : List (Table × Rule))
    (recorded : (applied' ++ state.removing ++ lost').Perm
      ((injector.table, injector.rule mockPort) :: (state.applied ++ state.removing ++ lost)))
    {added : Added} (effective : lost' = [] ↔ ∀ action ∈ history ++ [.add injector added],
      action.Effective) :
    Books mockPort first (history ++ [.add injector added])
      { state with
        tables := state.tables.edit injector.table (.append (injector.rule mockPort))
        applied := applied' } lost' := by
  have mine := own_rule mockPort injector
  refine ⟨fun table => ?_, fun table rule own_ => ?_, fun table rule own_ => ?_,
    fun entry listed => ?_, effective⟩
  · rw [alone_concat]
    exact (Tables.filter_edit _ _ _ mine table).trans (books.rest table)
  · rw [recorded.count_eq, List.count_cons, ← Nat.add_assoc, ← books.counts table rule own_]
    by_cases same : (table, rule) = (injector.table, injector.rule mockPort)
    · cases same
      dsimp only
      rw [Tables.edit_self, Edit.apply, List.count_append, List.count_singleton_self,
        if_pos (beq_self_eq_true _)]
    · rw [Tables.count_edit _ _ _ same, if_neg fun equal => same (eq_of_beq equal).symm,
        Nat.add_zero]
  · rw [alone_concat]
    exact books.others table rule own_
  · rcases List.mem_cons.mp (recorded.mem_iff.mp listed) with rfl | old
    · exact mine
    · exact books.mine entry old

/-- What does not touch the tables only moves records. -/
theorem Books.move (books : Books mockPort first history state lost)
    {applied' removing' lost' : List (Table × Rule)}
    (recorded : (applied' ++ removing' ++ lost').Perm (state.applied ++ state.removing ++ lost))
    {action : Action} (silent : alone first (history ++ [action]) = alone first history)
    (effective : lost' = [] ↔ ∀ act ∈ history ++ [action], act.Effective) :
    Books mockPort first (history ++ [action]) ⟨state.tables, applied', removing'⟩ lost' := by
  refine ⟨fun table => ?_, fun table rule own_ => ?_, fun table rule own_ => ?_,
    fun entry listed => books.mine entry (recorded.mem_iff.mp listed), effective⟩
  · rw [silent]
    exact books.rest table
  · rw [recorded.count_eq]
    exact books.counts table rule own_
  · rw [silent]
    exact books.others table rule own_

/-- An own rule is deleted together with its record. -/
theorem Books.delete {applied removing : List (Table × Rule)} {tables : Tables} {table : Table}
    {rule : Rule}
    (books : Books mockPort first history ⟨tables, applied, (table, rule) :: removing⟩ lost)
    (effective : lost = [] ↔ ∀ act ∈ history ++ [.delete true], act.Effective) :
    Books mockPort first (history ++ [.delete true])
      ⟨tables.edit table (.remove rule), applied, removing⟩ lost := by
  have order : (applied ++ (table, rule) :: removing ++ lost).Perm
      ((table, rule) :: (applied ++ removing ++ lost)) := by
    rw [List.append_assoc, List.append_assoc]
    exact List.perm_middle
  have mine : own mockPort table rule = true :=
    books.mine (table, rule) (order.mem_iff.mpr (List.mem_cons_self ..))
  refine ⟨fun other => ?_, fun other rule' own_ => ?_, fun other rule' own_ => ?_,
    fun entry listed => books.mine entry (order.mem_iff.mpr (List.mem_cons_of_mem _ listed)),
    effective⟩
  · rw [alone_concat]
    exact (Tables.filter_edit _ _ _ mine other).trans (books.rest other)
  · have counted := books.counts other rule' own_
    rw [order.count_eq, List.count_cons] at counted
    by_cases same : (other, rule') = (table, rule)
    · cases same
      rw [if_pos (beq_self_eq_true _)] at counted
      dsimp only at counted ⊢
      rw [Tables.edit_self, Edit.apply, List.count_erase_self]
      omega
    · rw [if_neg fun equal => same (eq_of_beq equal).symm, Nat.add_zero] at counted
      rw [Tables.count_edit _ _ _ same]
      exact counted
  · rw [alone_concat]
    exact books.others other rule' own_

theorem Books.other (books : Books mockPort first history state lost) (table : Table)
    (edit : Edit Rule) (foreign : own mockPort table edit.item = false) :
    Books mockPort first (history ++ [.other table edit])
      { state with tables := state.tables.edit table edit } lost := by
  have unlike : ∀ other rule, own mockPort other rule = true →
      (other, rule) ≠ (table, edit.item) := by
    rintro other rule own_ same
    cases same
    rw [foreign] at own_
    cases own_
  refine ⟨fun other => ?_, fun other rule own_ => ?_, fun other rule own_ => ?_, books.mine, ?_⟩
  · rw [alone_concat]
    by_cases same : other = table
    · subst same
      have kept : (fun rule => !own mockPort other rule) edit.item = true := by simp [foreign]
      dsimp only
      rw [Tables.edit_self, Tables.edit_self]
      refine (Edit.filter_apply_of_pos kept _).trans ?_
      rw [books.rest other]
      exact (Edit.filter_apply_of_pos kept _).symm
    · dsimp only
      rw [Tables.edit_of_ne _ _ _ same, Tables.edit_of_ne _ _ _ same]
      exact books.rest other
  · rw [Tables.count_edit _ _ _ (unlike other rule own_)]
    exact books.counts other rule own_
  · rw [alone_concat]
    dsimp only
    rw [Tables.count_edit _ _ _ (unlike other rule own_)]
    exact books.others other rule own_
  · rw [books.effective, effective_concat]
    exact (and_iff_left trivial).symm

end Steps

theorem Books.step {mockPort : Nat} {first : Tables} {history : List Action} {state next : State}
    {action : Action} (books : ∃ lost, Books mockPort first history state lost)
    (stepped : (redirect mockPort).step state action = some next) :
    ∃ lost, Books mockPort first (history ++ [action]) next lost := by
  obtain ⟨lost, books⟩ := books
  have still : action.Effective → (lost = [] ↔ ∀ act ∈ history ++ [action], act.Effective) := by
    intro effective
    rw [books.effective, effective_concat, and_iff_left effective]
  have mislaid : ∀ entry, ¬ action.Effective →
      (entry :: lost = [] ↔ ∀ act ∈ history ++ [action], act.Effective) := by
    intro entry ineffective
    refine iff_of_false (List.cons_ne_nil _ _) fun all => ineffective ?_
    exact (effective_concat.mp all).2
  cases action with
  | add injector added =>
      dsimp only [redirect] at stepped
      split at stepped
      next =>
        cases added with
        | ok =>
            cases stepped
            refine ⟨lost, books.add injector _ _ ?_ (still fun equal => Added.noConfusion equal)⟩
            simp
        | refused =>
            cases stepped
            exact ⟨lost, books.move (List.Perm.refl _) (alone_concat ..)
              (still fun equal => Added.noConfusion equal)⟩
        | late =>
            cases stepped
            exact ⟨_ :: lost, books.add injector _ _ List.perm_middle
              (mislaid _ fun effective => effective rfl)⟩
      next => cases stepped
  | restore =>
      dsimp only [redirect] at stepped
      split at stepped
      next idle =>
        cases stepped
        refine ⟨lost, books.move ?_ (alone_concat ..) (still trivial)⟩
        rw [idle, List.nil_append, List.append_nil]
        exact (List.reverse_perm _).append_right _
      next => cases stepped
  | delete effective =>
      obtain ⟨tables, applied, removing⟩ := state
      cases removing with
      | nil => cases stepped
      | cons entry rest =>
          obtain ⟨table, rule⟩ := entry
          cases effective with
          | true =>
              cases stepped
              exact ⟨lost, books.delete (still rfl)⟩
          | false =>
              cases stepped
              refine ⟨(table, rule) :: lost, books.move ?_ (alone_concat ..)
                (mislaid _ Bool.false_ne_true)⟩
              rw [List.append_assoc, List.append_assoc]
              exact List.perm_middle.append_left _
  | other table edit =>
      dsimp only [redirect] at stepped
      split at stepped
      next => cases stepped
      next foreign =>
        cases stepped
        exact ⟨lost, books.other table edit (Bool.eq_false_iff.mpr foreign)⟩

/-- Rules shown as they were given. -/
def plainListing : Listing where
  shown := id
  policy := fun _ => "-P OUTPUT ACCEPT".toList
  shows := fun target => ⟨_, _, (List.append_assoc _ _ target).symm⟩
  plain := by
    intro table inside
    exact absurd (inside.subset (List.mem_cons_self ..) : '2' ∈ "-P OUTPUT ACCEPT".toList)
      (by decide)

def emptyTables : State where
  tables := fun _ => []
  applied := []
  removing := []

def foreignRule : Rule :=
  "OUTPUT -d 10.0.0.1 -j DROP".toList

def redirectRun : List Action :=
  [.add .refuse .ok, .other .filter (.append foreignRule), .add .blackhole .ok, .restore,
    .delete true, .delete true]

theorem redirectRun_isSome : ((redirect 18080).run emptyTables redirectRun).isSome = true := by
  decide

end OnboxFvt.Faults
