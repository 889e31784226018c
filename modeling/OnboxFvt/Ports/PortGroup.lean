import Mathlib.Data.Char
import Mathlib.Data.Finset.Sort
import Mathlib.Data.List.Lex
import OnboxFvt.Library.Poll
import OnboxFvt.Python.Decimal
import OnboxFvt.Python.TextFacts

/-!
# Merging a port group

`_drive`, `merge` and `wait_ports` of `framework/breakout.py`.  The members of a group are
driven one after the other, but only the last command is looked at, and only the port the
merge was asked for is waited for.
-/

namespace OnboxFvt.Ports

open Library Python

structure Reply where
  rc : Int
  out : Text
  err : Text

/-- What the two databases have of each port while `wait_ports` reads them once. -/
structure Presence where
  cfg : Text → Bool
  app : Text → Bool

/-- The device, as far as a merge gets to see it: how it answers a command, and what is read
from then on until the deadline. -/
structure Device (State : Type) where
  run : State → Text → Reply × State
  presences : State → List Presence

structure Outcome where
  rc : Int
  text : Text

/-- `sorted(set(re.findall(r"Ethernet\d+", text)))`. -/
def ethernetNames : Text → List Text
  | [] => []
  | c :: rest =>
      let digits := ((c :: rest).drop 8).takeWhile isDecimal
      if startsWith "Ethernet".toList (c :: rest) && !digits.isEmpty then
        ("Ethernet".toList ++ digits) :: ethernetNames rest
      else ethernetNames rest

def peers (text : Text) : List Text :=
  (ethernetNames text).toFinset.sort

def waitPorts (names : List Text) (readings : List Presence) : Bool × List Presence :=
  poll (fun reading => names.all reading.cfg && names.all reading.app) readings

structure Merged where
  ok : Bool
  text : Text
  /-- What `wait_ports` has read. -/
  read : List Presence

section Driver

variable {State : Type} (device : Device State)

/-- `_drive`. -/
def drive (state : State) (port mode : Text) : Outcome × State :=
  let base := "echo y | config interface breakout ".toList ++ port ++ " '".toList ++ mode ++
    "' -y".toList
  let (r, state) := device.run state base
  let text := r.out ++ r.err
  if r.rc ≠ 0 ∧ (contains "Dependenc".toList text || contains "dependenc".toList text) then
    let (r, state) := device.run state (replaceAll " -y".toList " -f -y".toList base)
    (⟨r.rc, r.out ++ r.err⟩, state)
  else (⟨r.rc, text⟩, state)

/-- The port is a member of a group whose members have to be driven together. -/
def Outcome.Rejected (outcome : Outcome) : Prop :=
  outcome.rc ≠ 0 ∧ contains "port group".toList outcome.text = true

instance (outcome : Outcome) : Decidable outcome.Rejected :=
  inferInstanceAs (Decidable (_ ∧ _))

/-- The commands of a merge, up to the last one. -/
def driveGroup (state : State) (port mode : Text) : Outcome × State :=
  let driven := drive device state port mode
  if driven.1.Rejected then
    (peers driven.1.text).foldl (fun driven peer => drive device driven.2 peer mode) driven
  else driven

def merge (state : State) (port mode : Text) : Merged :=
  let driven := driveGroup device state port mode
  let waited := waitPorts [port] (device.presences driven.2)
  { ok := decide (driven.1.rc = 0) && waited.1
    text := driven.1.text.drop (driven.1.text.length - 400)
    read := if driven.1.rc = 0 then waited.2 else [] }

/-! ## All the commands of a merge -/

/-- The outcomes of the commands for some ports in turn, and the state they lead to. -/
def driveAll (mode : Text) (state : State) : List Text → List Outcome × State
  | [] => ([], state)
  | port :: rest =>
      let driven := drive device state port mode
      let others := driveAll mode driven.2 rest
      (driven.1 :: others.1, others.2)

/-- The members of the group, and what their commands come to. -/
structure Attempt (State : Type) where
  members : List Text
  outcomes : List Outcome
  state : State

def attempt (state : State) (port mode : Text) : Attempt State :=
  let driven := drive device state port mode
  if driven.1.Rejected then
    let all := driveAll device mode driven.2 (peers driven.1.text)
    { members := peers driven.1.text, outcomes := all.1, state := all.2 }
  else { members := [port], outcomes := [driven.1], state := driven.2 }

def Presence.has (reading : Presence) (name : Text) : Bool :=
  reading.cfg name && reading.app name

/-- Every command succeeded and every member was there in the last reading. -/
structure Restored (port : Text) (made : Attempt State) (read : List Presence) : Prop where
  succeeded : ∀ outcome ∈ made.outcomes, outcome.rc = 0
  present : ∃ reading, read.getLast? = some reading ∧
    ∀ name ∈ port :: made.members, reading.has name = true

/-- The loop keeps the last outcome only. -/
theorem foldl_drive (mode : Text) (ports : List Text) (first : Outcome) (state : State) :
    ports.foldl (fun driven peer => drive device driven.2 peer mode) (first, state) =
      ((driveAll device mode state ports).1.getLastD first,
        (driveAll device mode state ports).2) := by
  induction ports generalizing first state with
  | nil => rfl
  | cons port rest inductionHypothesis =>
      rw [List.foldl_cons, driveAll]
      dsimp only
      rw [List.getLastD_cons, ← inductionHypothesis]

theorem waitPorts_singleton (port : Text) (readings : List Presence) :
    waitPorts [port] readings = poll (Presence.has · port) readings := by
  rw [waitPorts]
  congr 1
  funext reading
  simp [Presence.has]

theorem snd_driveGroup (state : State) (port mode : Text) :
    (driveGroup device state port mode).2 = (attempt device state port mode).state := by
  rw [driveGroup, attempt]
  split
  next => rw [foldl_drive]
  next => rfl

theorem rc_driveGroup_iff (state : State) (port mode : Text) :
    (driveGroup device state port mode).1.rc = 0 ↔
      ∃ last ∈ (attempt device state port mode).outcomes.getLast?, last.rc = 0 := by
  rw [driveGroup, attempt]
  split
  next rejected =>
      rw [foldl_drive, List.getLastD_eq_getLast?]
      cases (driveAll device mode (drive device state port mode).2
        (peers (drive device state port mode).1.text)).1.getLast? with
      | none => exact iff_of_false rejected.1 nofun
      | some last => simp
  next => simp

variable {device} {state : State} {port mode : Text}

/-- A merge ends well when its last command does and the port comes back. -/
theorem merge_ok_iff : (merge device state port mode).ok = true ↔
    (∃ last ∈ (attempt device state port mode).outcomes.getLast?, last.rc = 0) ∧
      ∃ reading, (device.presences (attempt device state port mode).state).find?
        (Presence.has · port) = some reading := by
  rw [merge, Bool.and_eq_true, decide_eq_true_iff, waitPorts_singleton, fst_poll,
    Option.isSome_iff_exists, rc_driveGroup_iff, snd_driveGroup]

theorem getLast?_read {last : Outcome} {reading : Presence}
    (driven : last ∈ (attempt device state port mode).outcomes.getLast?) (succeeded : last.rc = 0)
    (found : (device.presences (attempt device state port mode).state).find?
      (Presence.has · port) = some reading) :
    (merge device state port mode).read.getLast? = some reading := by
  have rc := (rc_driveGroup_iff device state port mode).mpr ⟨last, driven, succeeded⟩
  rw [merge]
  dsimp only
  rw [if_pos rc, waitPorts_singleton, snd_driveGroup]
  exact getLast?_poll found

theorem attempt_of_not_rejected (single : ¬ (drive device state port mode).1.Rejected) :
    (attempt device state port mode).members = [port] ∧
      (attempt device state port mode).outcomes = [(drive device state port mode).1] := by
  rw [attempt, if_neg single]
  exact ⟨rfl, rfl⟩

/-- A merge of a group that ends well stands for the whole group exactly where no command before
the last one failed and the members came back with the port. -/
theorem merge_restores_iff (device : Device State) (state : State) (port mode : Text) :
    ((merge device state port mode).ok = true →
        Restored port (attempt device state port mode) (merge device state port mode).read) ↔
      ((drive device state port mode).1.Rejected →
        ∀ last ∈ (attempt device state port mode).outcomes.getLast?, last.rc = 0 →
          ∀ reading, (device.presences (attempt device state port mode).state).find?
              (Presence.has · port) = some reading →
            (∀ outcome ∈ (attempt device state port mode).outcomes, outcome.rc = 0) ∧
              ∀ name ∈ (attempt device state port mode).members, reading.has name = true) := by
  constructor
  · intro sound _ last driven succeeded reading found
    obtain ⟨all, other, lastRead, present⟩ :=
      sound (merge_ok_iff.mpr ⟨⟨last, driven, succeeded⟩, reading, found⟩)
    cases (getLast?_read driven succeeded found).symm.trans lastRead
    exact ⟨all, fun name member => present name (List.mem_cons_of_mem port member)⟩
  · intro whole ok
    obtain ⟨⟨last, driven, succeeded⟩, reading, found⟩ := merge_ok_iff.mp ok
    have here : reading.has port = true := by simpa using List.find?_some found
    have together : (∀ outcome ∈ (attempt device state port mode).outcomes, outcome.rc = 0) ∧
        ∀ name ∈ (attempt device state port mode).members, reading.has name = true := by
      by_cases rejected : (drive device state port mode).1.Rejected
      · exact whole rejected last driven succeeded reading found
      · obtain ⟨members, outcomes⟩ := attempt_of_not_rejected rejected
        rw [outcomes] at driven ⊢
        rw [members, List.forall_mem_singleton, List.forall_mem_singleton]
        cases driven
        exact ⟨succeeded, here⟩
    refine ⟨together.1, reading, getLast?_read driven succeeded found, ?_⟩
    exact List.forall_mem_cons.mpr ⟨here, together.2⟩

end Driver

/-! ## A merge that leaves a member split -/

def cageRejection : Text :=
  "Breakout port group [Ethernet0, Ethernet8] must be set together".toList

/-- The first command is refused for the group, the second one fails, the third one succeeds,
and both ports are there. -/
def halfMerging : Device Nat where
  run count _ :=
    match count with
    | 0 => (⟨1, [], cageRejection⟩, 1)
    | 1 => (⟨1, [], "failed".toList⟩, 2)
    | later => (⟨0, [], []⟩, later + 1)
  presences _ := [⟨fun _ => true, fun _ => true⟩]

theorem peers_cageRejection :
    peers cageRejection = ["Ethernet0".toList, "Ethernet8".toList] := by
  have named : ethernetNames cageRejection = ["Ethernet0".toList, "Ethernet8".toList] := by
    decide
  rw [peers, named]
  exact (List.toFinset_sort (· ≤ ·) (by decide)).mpr (by decide)

theorem attempt_halfMerging : attempt halfMerging 0 "Ethernet8".toList "1x400G".toList =
    { members := ["Ethernet0".toList, "Ethernet8".toList]
      outcomes := [⟨1, "failed".toList⟩, ⟨0, []⟩]
      state := 3 } := by
  have first : drive halfMerging 0 "Ethernet8".toList "1x400G".toList =
      (⟨1, cageRejection⟩, 1) :=
    rfl
  have rejected : (⟨1, cageRejection⟩ : Outcome).Rejected := by decide
  rw [attempt, first, if_pos rejected, peers_cageRejection]
  rfl

/-- The merge ends well, and the command of one member has failed. -/
theorem half_merged_ok : (merge halfMerging 0 "Ethernet8".toList "1x400G".toList).ok = true ∧
    ¬ Restored "Ethernet8".toList (attempt halfMerging 0 "Ethernet8".toList "1x400G".toList)
      (merge halfMerging 0 "Ethernet8".toList "1x400G".toList).read := by
  rw [merge_ok_iff, attempt_halfMerging]
  refine ⟨⟨⟨⟨0, []⟩, rfl, rfl⟩, _, rfl⟩, fun restored => ?_⟩
  exact absurd (restored.succeeded ⟨1, "failed".toList⟩ (List.mem_cons_self ..)) (by decide)

end OnboxFvt.Ports
