import Mathlib.Data.List.OfFn
import OnboxFvt.Library.Dict
import OnboxFvt.Library.Poll
import OnboxFvt.Python.Text

/-!
# Binding a queue to a scheduler

`bind_queue` of `framework/lossless.py`.  A bind that is refused because the scheduler has no
meter deletes the scheduler and adds it again with one; each of the commands may fail.
-/

namespace OnboxFvt.Lossless

open Library Python

abbrev Fields := Dict Text Text

def schedulerTable : Text :=
  "SCHEDULER|".toList

def schedulerKey (name : Text) : Text :=
  schedulerTable ++ name

def typeField : Text :=
  "type".toList

def weightField : Text :=
  "weight".toList

/-- The fields stored for `-m bytes -cr 1 -cs 8192 -pr 100000000 -ps 8192`. -/
structure Meter where
  fields : Fields
  typeless : typeField ∉ fields.keys
  weightless : weightField ∉ fields.keys

/-- What a bind prints, and what the row of the queue reads as in the five polls behind it. -/
structure Bind where
  out : Text
  err : Text
  polls : Fin 5 → Fields

/-- How the commands go: whether the row of the scheduler is deleted, and whether it is added. -/
structure Answers where
  first : Bind
  deleted : Bool
  added : Bool
  second : Bind

structure Bound where
  ok : Bool
  undo : Option Text
  issued : List Text
  config : Dict Text Fields

/-- An argument that is neither `None` nor empty. -/
def given (argument : Option Text) : Option Text :=
  argument.filter fun text => !text.isEmpty

def withOption (flag : Text) (value : Option Text) (cmd : Text) : Text :=
  match value with
  | some text => cmd ++ flag ++ text
  | none => cmd

def bindCommand (port q : Text) (sched wred : Option Text) : Text :=
  withOption " -w ".toList (given wred)
    (withOption " -s ".toList (given sched) ("port-queue add ".toList ++ port ++ ' ' :: q))

/-- The row of the queue shows up in one of the polls. -/
def Bind.landed (answer : Bind) : Bool :=
  (poll (fun row => !row.isEmpty) (List.ofFn answer.polls)).1

/-- `text[-200:]`. -/
def lastChars (text : Text) : Text :=
  text.drop (text.length - 200)

def Bind.asksForMeter (answer : Bind) : Bool :=
  contains "requires cir and cbs".toList (lastChars (answer.out ++ answer.err))

/-- `h.get("type")`, where it is not empty. -/
def typeOption (h : Fields) : Option Text :=
  given (h.lookup typeField)

/-- `h["weight"]`, where it is a number. -/
def weightOption (h : Fields) : Option Text :=
  (h.lookup weightField).filter isDigit

def rebuildCommand (name : Text) (h : Fields) : Text :=
  withOption " -w ".toList (weightOption h)
      (withOption " -t ".toList (typeOption h) ("scheduler add ".toList ++ name)) ++
    " -m bytes -cr 1 -cs 8192 -pr 100000000 -ps 8192".toList

/-- The row stored for the command. -/
def rebuilt (meter : Meter) (h : Fields) : Fields :=
  (typeOption h).toList.map (typeField, ·) ++ (weightOption h).toList.map (weightField, ·) ++
    meter.fields

/-- The scheduler is deleted and added again, as far as the commands succeed. -/
def rebuild (meter : Meter) (config : Dict Text Fields) (name : Text) (answers : Answers) :
    Dict Text Fields :=
  let h := (config.lookup (schedulerKey name)).getD []
  let left := if answers.deleted then config.erase (schedulerKey name) else config
  if answers.added then left.set (schedulerKey name) (rebuilt meter h) else left

def bindQueue (meter : Meter) (config : Dict Text Fields) (port q : Text)
    (sched wred : Option Text) (answers : Answers) : Bound :=
  let cmd := bindCommand port q sched wred
  let undo := "port-queue del ".toList ++ port ++ ' ' :: q
  if answers.first.landed then { ok := true, undo := some undo, issued := [cmd], config := config }
  else
    match given sched with
    | none => { ok := false, undo := none, issued := [cmd], config := config }
    | some name =>
        if answers.first.asksForMeter then
          { ok := answers.second.landed
            undo := if answers.second.landed then some undo else none
            issued := [cmd, "scheduler del ".toList ++ name,
              rebuildCommand name ((config.lookup (schedulerKey name)).getD []), cmd]
            config := rebuild meter config name answers }
        else { ok := false, undo := none, issued := [cmd], config := config }

/-! ## What a bind should leave -/

/-- The same definition: both are missing, or all fields agree. -/
def SameRow (before after : Option Fields) : Prop :=
  before.isSome = after.isSome ∧
    ∀ field, (before.getD []).lookup field = (after.getD []).lookup field

def SameClass (before after : Fields) : Prop :=
  after.lookup typeField = before.lookup typeField ∧
    after.lookup weightField = before.lookup weightField

/-- What is promised of the row of the scheduler. -/
structure Clean (ok : Bool) (before after : Option Fields) : Prop where
  unchanged : ok = false → SameRow before after
  kept : ok = true → ∃ row, before = some row ∧ ∃ row', after = some row' ∧ SameClass row row'

/-- The type is not empty, and the weight is a number. -/
def Restored (row : Fields) : Prop :=
  row.lookup typeField ≠ some [] ∧ ∀ weight, row.lookup weightField = some weight →
    isDigit weight = true

/-- Where a bind is clean.  A scheduler is bound that is there; one that was rebuilt is bound
where the row has come back with its options or was never deleted; a rebuilt one that could not
be bound has exactly the row it had. -/
structure Harmless (meter : Meter) (before : Option Fields) (answers : Answers) : Prop where
  bound : answers.first.landed = true → before.isSome = true
  rebound : answers.first.landed = false → answers.first.asksForMeter = true →
    answers.second.landed = true → ∃ row, before = some row ∧
      if answers.added then Restored row else answers.deleted = false
  refused : answers.first.landed = false → answers.first.asksForMeter = true →
    answers.second.landed = false →
      if answers.added then SameRow before (some (rebuilt meter (before.getD [])))
      else answers.deleted = true → before = none

/-! ## The rebuilt row -/

theorem lookup_option (field : Text) (value : Option Text) (rest : Fields) (other : Text) :
    (value.toList.map (field, ·) ++ rest).lookup other =
      if field = other then value.or (rest.lookup other) else rest.lookup other := by
  cases value with
  | none => exact (ite_self _).symm
  | some text => exact Dict.lookup_cons (field, text) rest other

theorem typeField_ne_weightField : typeField ≠ weightField := by
  decide

theorem lookup_type_rebuilt (meter : Meter) (h : Fields) :
    (rebuilt meter h).lookup typeField = typeOption h := by
  rw [rebuilt, List.append_assoc, lookup_option, if_pos rfl, lookup_option,
    if_neg (Ne.symm typeField_ne_weightField), Dict.lookup_eq_none_iff.mpr meter.typeless,
    Option.or_none]

theorem lookup_weight_rebuilt (meter : Meter) (h : Fields) :
    (rebuilt meter h).lookup weightField = weightOption h := by
  rw [rebuilt, List.append_assoc, lookup_option, if_neg typeField_ne_weightField, lookup_option,
    if_pos rfl, Dict.lookup_eq_none_iff.mpr meter.weightless, Option.or_none]

theorem filter_eq_self_iff {holds : Text → Bool} {value : Option Text} :
    value.filter holds = value ↔ ∀ text, value = some text → holds text = true := by
  cases value with
  | none => exact iff_of_true rfl nofun
  | some text =>
      rw [Option.filter_some]
      constructor
      · intro kept other same
        cases same
        by_contra missing
        rw [if_neg missing] at kept
        cases kept
      · intro all
        rw [if_pos (all text rfl)]

/-- The class is the one before exactly where it can be written into the command. -/
theorem sameClass_rebuilt_iff (meter : Meter) (row : Fields) :
    SameClass row (rebuilt meter row) ↔ Restored row := by
  rw [SameClass, lookup_type_rebuilt, lookup_weight_rebuilt, typeOption, weightOption, given,
    filter_eq_self_iff, filter_eq_self_iff, Restored]
  refine and_congr_left' ⟨fun filled same => ?_, fun filled text found => ?_⟩
  · have empty := filled [] same
    cases empty
  · rw [found] at filled
    cases text with
    | nil => exact absurd rfl filled
    | cons c rest => rfl

/-! ## Clean binds -/

/-- The row of the scheduler behind the fallback. -/
def afterwards (meter : Meter) (before : Option Fields) (answers : Answers) : Option Fields :=
  if answers.added then some (rebuilt meter (before.getD []))
  else if answers.deleted then none
  else before

theorem lookup_rebuild (meter : Meter) (config : Dict Text Fields) (name : Text)
    (answers : Answers) : (rebuild meter config name answers).lookup (schedulerKey name) =
      afterwards meter (config.lookup (schedulerKey name)) answers := by
  rw [rebuild, afterwards]
  cases answers.added with
  | true => rw [if_pos rfl, if_pos rfl, Dict.lookup_set, if_pos rfl]
  | false =>
      cases answers.deleted with
      | true => exact (Dict.lookup_erase ..).trans (if_pos rfl)
      | false => rfl

theorem SameRow.refl (row : Option Fields) : SameRow row row :=
  ⟨rfl, fun _ => rfl⟩

theorem sameRow_none_iff {before : Option Fields} : SameRow before none ↔ before = none := by
  constructor
  · intro same
    exact Option.isSome_eq_false_iff.mp same.1 |> Option.isNone_iff_eq_none.mp
  · rintro rfl
    exact SameRow.refl none

theorem clean_true_iff {before after : Option Fields} : Clean true before after ↔
    ∃ row, before = some row ∧ ∃ row', after = some row' ∧ SameClass row row' :=
  ⟨fun clean => clean.kept rfl, fun kept => ⟨nofun, fun _ => kept⟩⟩

theorem clean_false_iff {before after : Option Fields} :
    Clean false before after ↔ SameRow before after :=
  ⟨fun clean => clean.unchanged rfl, fun same => ⟨fun _ => same, nofun⟩⟩

theorem clean_true_self_iff {before : Option Fields} :
    Clean true before before ↔ before.isSome = true := by
  rw [clean_true_iff, Option.isSome_iff_exists]
  exact exists_congr fun row => and_iff_left_of_imp fun found => ⟨row, found, rfl, rfl⟩

theorem clean_rebound_iff (meter : Meter) (before : Option Fields) (answers : Answers) :
    Clean true before (afterwards meter before answers) ↔ ∃ row, before = some row ∧
      if answers.added then Restored row else answers.deleted = false := by
  rw [clean_true_iff]
  refine exists_congr fun row => and_congr_right ?_
  rintro rfl
  rw [afterwards]
  cases answers.added with
  | true =>
      rw [if_pos rfl, if_pos rfl, ← sameClass_rebuilt_iff meter row]
      exact ⟨fun ⟨row', same, kept⟩ => Option.some.inj same ▸ kept, fun kept => ⟨_, rfl, kept⟩⟩
  | false =>
      cases answers.deleted with
      | true => exact iff_of_false (fun ⟨row', same, _⟩ => by cases same) nofun
      | false => exact iff_of_true ⟨row, rfl, rfl, rfl⟩ rfl

theorem clean_refused_iff (meter : Meter) (before : Option Fields) (answers : Answers) :
    Clean false before (afterwards meter before answers) ↔
      if answers.added then SameRow before (some (rebuilt meter (before.getD [])))
      else answers.deleted = true → before = none := by
  rw [clean_false_iff, afterwards]
  cases answers.added with
  | true => exact Iff.rfl
  | false =>
      cases answers.deleted with
      | true => exact sameRow_none_iff.trans (imp_iff_right rfl).symm
      | false => exact iff_of_true (SameRow.refl before) nofun

/-- A bind leaves the row of its scheduler as promised exactly where it does no harm. -/
theorem bind_clean_iff (meter : Meter) (config : Dict Text Fields) (port q : Text)
    (sched wred : Option Text) (answers : Answers) :
    (∀ name, given sched = some name →
      Clean (bindQueue meter config port q sched wred answers).ok
        (config.lookup (schedulerKey name))
        ((bindQueue meter config port q sched wred answers).config.lookup (schedulerKey name))) ↔
      ∀ name, given sched = some name →
        Harmless meter (config.lookup (schedulerKey name)) answers := by
  refine forall_congr' fun name => imp_congr_right fun named => ?_
  rw [bindQueue, named]
  cases landed : answers.first.landed with
  | true =>
      rw [if_pos rfl, clean_true_self_iff]
      constructor
      · intro there
        exact ⟨fun _ => there, by simp [landed], by simp [landed]⟩
      · exact fun harmless => harmless.bound landed
  | false =>
      rw [if_neg Bool.false_ne_true]
      dsimp only
      cases asks : answers.first.asksForMeter with
      | false =>
          rw [if_neg Bool.false_ne_true]
          refine iff_of_true (clean_false_iff.mpr (SameRow.refl _)) ⟨?_, ?_, ?_⟩ <;>
            simp [landed, asks]
      | true =>
          rw [if_pos rfl, lookup_rebuild]
          cases second : answers.second.landed with
          | true =>
              rw [clean_rebound_iff]
              exact ⟨fun kept => ⟨by simp [landed], fun _ _ _ => kept, by simp [second]⟩,
                fun harmless => harmless.rebound landed asks second⟩
          | false =>
              rw [clean_refused_iff]
              exact ⟨fun same => ⟨by simp [landed], by simp [second], fun _ _ _ => same⟩,
                fun harmless => harmless.refused landed asks second⟩

/-- The five fields, the rates in bytes a second. -/
def shippedMeter : Meter where
  fields := [("meter_type".toList, "bytes".toList), ("cir".toList, "125".toList),
    ("cbs".toList, "8192".toList), ("pir".toList, "12500000000".toList),
    ("pbs".toList, "8192".toList)]
  typeless := by decide
  weightless := by decide

def weightedScheduler : Dict Text Fields :=
  [(schedulerKey "FVTCG2W8".toList,
    [(typeField, "DWRR".toList), (weightField, "8".toList)])]

def refusedBind : Bind where
  out := []
  err := "The device requires cir and cbs. Aborted!".toList
  polls _ := []

/-- The scheduler is deleted, and neither added again nor bound. -/
def deletedOnly : Answers where
  first := refusedBind
  deleted := true
  added := false
  second := refusedBind

/-- The bind fails, and the scheduler is gone. -/
theorem failed_bind_deletes_scheduler : ¬ ∀ name, given (some "FVTCG2W8".toList) = some name →
    Clean
      (bindQueue shippedMeter weightedScheduler "Ethernet0".toList ['1']
        (some "FVTCG2W8".toList) none deletedOnly).ok
      (weightedScheduler.lookup (schedulerKey name))
      ((bindQueue shippedMeter weightedScheduler "Ethernet0".toList ['1']
        (some "FVTCG2W8".toList) none deletedOnly).config.lookup (schedulerKey name)) := by
  intro clean
  have same := (clean "FVTCG2W8".toList rfl).unchanged (by decide)
  exact absurd same.1 (by decide)

end OnboxFvt.Lossless
