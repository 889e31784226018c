import Mathlib.Data.Finset.Basic
import Mathlib.Tactic.ByContra

/-!
# Collecting readings that may fail

A loop reads every item and gathers the values it wants; one reading that fails
fails the loop.  Two such loops over the same items agree as soon as they agree on
the items they read differently.
-/

namespace OnboxFvt.Library

variable {Item Value : Type*}

def collect? (read : Item → Option Value) : List Item → Option (List Value)
  | [] => some []
  | item :: rest =>
      (read item).bind fun value => (collect? read rest).map fun values => value :: values

theorem collect?_eq_none {read : Item → Option Value} {items : List Item} :
    collect? read items = none ↔ ∃ item ∈ items, read item = none := by
  induction items with
  | nil => simp [collect?]
  | cons item rest inductionHypothesis =>
      cases found : read item with
      | none => simp [collect?, found]
      | some value => simp [collect?, found, inductionHypothesis]

theorem mem_collect? {read : Item → Option Value} {items : List Item} {values : List Value}
    (collected : collect? read items = some values) (value : Value) :
    value ∈ values ↔ ∃ item ∈ items, read item = some value := by
  induction items generalizing values with
  | nil =>
      cases collected
      simp
  | cons item rest inductionHypothesis =>
      obtain ⟨first, found, remaining⟩ := Option.bind_eq_some_iff.mp collected
      obtain ⟨others, gathered, equal⟩ := Option.map_eq_some_iff.mp remaining
      subst equal
      simp [inductionHypothesis gathered, found, eq_comm]

theorem collect?_append (read : Item → Option Value) (first second : List Item) :
    collect? read (first ++ second) =
      (collect? read first).bind fun values => (collect? read second).map (values ++ ·) := by
  induction first with
  | nil => cases gathered : collect? read second <;> simp [collect?, gathered]
  | cons item rest inductionHypothesis =>
      rw [List.cons_append, collect?, inductionHypothesis, collect?]
      cases read item with
      | none => rfl
      | some value =>
          cases collect? read rest with
          | none => rfl
          | some values => cases collect? read second <;> rfl

theorem collect?_congr {read other : Item → Option Value} {items : List Item}
    (same : ∀ item ∈ items, read item = other item) :
    collect? read items = collect? other items := by
  induction items with
  | nil => rfl
  | cons item rest inductionHypothesis =>
      rw [List.forall_mem_cons] at same
      rw [collect?, collect?, same.1, inductionHypothesis same.2]

theorem collect?_comp {Source : Type*} (read : Item → Option Value) (item : Source → Item)
    (sources : List Source) :
    collect? (fun source => read (item source)) sources = collect? read (sources.map item) := by
  induction sources with
  | nil => rfl
  | cons source rest inductionHypothesis =>
      rw [List.map_cons, collect?, collect?, inductionHypothesis]

/-- A loop inside a loop reads the items of all groups. -/
theorem collect?_flatten {Group : Type*} (read : Item → Option Value)
    (items : Group → List Item) (groups : List Group) :
    (collect? (fun group => collect? read (items group)) groups).map List.flatten =
      collect? read (groups.flatMap items) := by
  induction groups with
  | nil => rfl
  | cons group rest inductionHypothesis =>
      rw [List.flatMap_cons, collect?_append, ← inductionHypothesis, collect?]
      cases collect? read (items group) with
      | none => rfl
      | some values =>
          cases collect? (fun group => collect? read (items group)) rest <;> rfl

/-- Every item is read, each as the value it was made from. -/
theorem collect?_map {Source : Type*} {read : Item → Option Value} {item : Source → Item}
    {value : Source → Value} {sources : List Source}
    (reads : ∀ source ∈ sources, read (item source) = some (value source)) :
    collect? read (sources.map item) = some (sources.map value) := by
  induction sources with
  | nil => rfl
  | cons source rest inductionHypothesis =>
      rw [List.forall_mem_cons] at reads
      rw [List.map_cons, collect?, reads.1, Option.bind_some, inductionHypothesis reads.2]
      rfl

theorem getElem?_collect? {read : Item → Option Value} {items : List Item} {values : List Value}
    (collected : collect? read items = some values) (n : Nat) :
    values[n]? = items[n]?.bind read := by
  induction items generalizing values n with
  | nil =>
      cases collected
      rfl
  | cons item rest inductionHypothesis =>
      obtain ⟨first, found, remaining⟩ := Option.bind_eq_some_iff.mp collected
      obtain ⟨others, gathered, equal⟩ := Option.map_eq_some_iff.mp remaining
      subst equal
      cases n with
      | zero => simp [found]
      | succ m => simpa using inductionHypothesis gathered m

/-- `result` holds the wanted values read from the items, or nothing where a reading fails. -/
structure Collects (Has : Item → Prop) (read : Item → Option Value) (Wanted : Value → Prop)
    (result : Option (Finset Value)) : Prop where
  failed : result = none ↔ ∃ item, Has item ∧ read item = none
  values : ∀ values, result = some values →
    ∀ value, value ∈ values ↔ Wanted value ∧ ∃ item, Has item ∧ read item = some value

/-- A loop over the items, with the wanted values picked at its end. -/
theorem collects_of_collect? [DecidableEq Value] {Has : Item → Prop} (read : Item → Option Value)
    (Wanted : Value → Prop) [DecidablePred Wanted] {items : List Item}
    (mem_items : ∀ item, item ∈ items ↔ Has item) :
    Collects Has read Wanted
      ((collect? read items).map fun values => (values.filter Wanted).toFinset) := by
  refine ⟨?_, ?_⟩
  · rw [Option.map_eq_none_iff, collect?_eq_none]
    simp only [mem_items]
  · intro values gathered value
    obtain ⟨found, collected, rfl⟩ := Option.map_eq_some_iff.mp gathered
    rw [List.mem_toFinset, List.mem_filter, decide_eq_true_iff, and_comm,
      mem_collect? collected]
    simp only [mem_items]

/-- What `read` gives for `item` is, if wanted, also given for some item by `other`. -/
def Matched (Has : Item → Prop) (read other : Item → Option Value) (Wanted : Value → Prop)
    (item : Item) : Prop :=
  match read item with
  | none => ∃ same, Has same ∧ other same = none
  | some value => Wanted value → ∃ same, Has same ∧ other same = some value

variable {Has : Item → Prop} {read other : Item → Option Value} {Wanted : Value → Prop}
  {result second : Option (Finset Value)}

theorem matched_of_same {item : Item} (has : Has item) (same : read item = other item) :
    Matched Has read other Wanted item := by
  rw [Matched]
  split
  next failed => exact ⟨item, has, same.symm.trans failed⟩
  next value found => exact fun _ => ⟨item, has, same.symm.trans found⟩

/-- Readings matched wherever they differ are matched everywhere. -/
theorem matched_of_differing {Differs : Item → Prop}
    (alike : ∀ item, Has item → ¬ Differs item → read item = other item)
    (matched : ∀ item, Has item → Differs item → Matched Has read other Wanted item) :
    ∀ item, Has item → Matched Has read other Wanted item := by
  intro item has
  by_cases differs : Differs item
  · exact matched item has differs
  · exact matched_of_same has (alike item has differs)

theorem Collects.subset_of_matched (first : Collects Has read Wanted result)
    (other' : Collects Has other Wanted second)
    (matched : ∀ item, Has item → Matched Has read other Wanted item) :
    (result = none → second = none) ∧
      ∀ values others, result = some values → second = some others → values ⊆ others := by
  refine ⟨?_, ?_⟩
  · intro failed
    obtain ⟨item, has, none⟩ := first.failed.mp failed
    have same := matched item has
    rw [Matched, none] at same
    exact other'.failed.mpr same
  · intro values others here there value member
    obtain ⟨wanted, item, has, found⟩ := (first.values values here value).mp member
    have same := matched item has
    rw [Matched, found] at same
    exact (other'.values others there value).mpr ⟨wanted, same wanted⟩

theorem Collects.matched_of_subset (first : Collects Has read Wanted result)
    (other' : Collects Has other Wanted second) {values others : Finset Value}
    (here : result = some values) (there : second = some others) (included : values ⊆ others)
    {item : Item} (has : Has item) : Matched Has read other Wanted item := by
  rw [Matched]
  split
  next none =>
      have failed := first.failed.mpr ⟨item, has, none⟩
      rw [here] at failed
      cases failed
  next value found =>
      intro wanted
      have member := (first.values values here value).mpr ⟨wanted, item, has, found⟩
      exact ((other'.values others there value).mp (included member)).2

theorem Collects.eq_of_matched (first : Collects Has read Wanted result)
    (other' : Collects Has other Wanted second)
    (forth : ∀ item, Has item → Matched Has read other Wanted item)
    (back : ∀ item, Has item → Matched Has other read Wanted item) : result = second := by
  obtain ⟨failed, included⟩ := first.subset_of_matched other' forth
  obtain ⟨failed', included'⟩ := other'.subset_of_matched first back
  cases here : result with
  | none => exact (failed here).symm
  | some values =>
      cases there : second with
      | none =>
          rw [failed' there] at here
          cases here
      | some others =>
          exact congrArg some ((included values others here there).antisymm
            (included' others values there here))

/-- Two collections are equal exactly when both fail, or each reading on which they differ
is matched on the other side. -/
theorem collects_eq_iff (first : Collects Has read Wanted result)
    (other' : Collects Has other Wanted second) (Differs : Item → Prop)
    (alike : ∀ item, Has item → ¬ Differs item → read item = other item) :
    result = second ↔
      (∃ item, Has item ∧ read item = none) ∧ (∃ item, Has item ∧ other item = none) ∨
        ∀ item, Has item → Differs item →
          Matched Has read other Wanted item ∧ Matched Has other read Wanted item := by
  constructor
  · intro equal
    cases here : result with
    | none =>
        left
        exact ⟨first.failed.mp here, other'.failed.mp (equal.symm.trans here)⟩
    | some values =>
        right
        have there : second = some values := equal.symm.trans here
        intro item has _
        exact ⟨first.matched_of_subset other' here there subset_rfl has,
          other'.matched_of_subset first there here subset_rfl has⟩
  · rintro (⟨here, there⟩ | matched)
    · rw [first.failed.mpr here, other'.failed.mpr there]
    · refine first.eq_of_matched other' ?_ ?_
      · exact matched_of_differing alike fun item has differs => (matched item has differs).1
      · exact matched_of_differing (fun item has same => (alike item has same).symm)
          fun item has differs => (matched item has differs).2

end OnboxFvt.Library
