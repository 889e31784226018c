import Mathlib.Data.Finset.Basic
import Mathlib.Data.List.Infix
import Mathlib.Logic.Function.Basic
import OnboxFvt.Library.Run

/-!
# Objects injected into syncd

`create_group`, `add_member`, `remove` and `cleanup` of `framework/dlb.py`, call by call, and
syncd, which takes the injected operations in their order and succeeds with them or not, at any
time.  `rids` are the VIDs that have a RID.  A member's call injects only with a next hop that is
there; where it raises before, nothing changes.
-/

namespace OnboxFvt.Dlb.Objects

open Library

abbrev Vid := Int

inductive Kind where
  | group
  | member
  deriving DecidableEq

def Kind.base : Kind → Int
  | .group => 0x0500000000C000
  | .member => 0x1F00000000C100

/-- `group_vid` and `member_vid` of instance number `slot`. -/
def vidOf (kind : Kind) (slot : Nat) (n : Int) : Int :=
  kind.base + slot * 0x100 + n

inductive Op where
  | create
  | remove
  deriving DecidableEq

/-- An operation as it was pushed; `live` is whether its VID had a RID then. -/
structure Injection where
  op : Op
  kind : Kind
  slot : Nat
  vid : Vid
  live : Bool
  deriving DecidableEq

abbrev Record := Vid × Kind

/-- Where the test is.  A `remove` inside `cleanup` has the records still to come. -/
inductive Pc where
  | idle
  | waiting (slot : Nat) (kind : Kind) (vid : Vid)
  | removing (slot : Nat) (kind : Kind) (vid : Vid) (todo : Option (List Record))
  | removed (slot : Nat) (vid : Vid) (todo : Option (List Record))
  | cleaning (slot : Nat) (todo : List Record)
  deriving DecidableEq

/-- `used` has the VIDs injected with `Screate` and not seen gone by a `remove` since, `groupOf`
the group a member was last injected for, and `log` everything injected. -/
structure Device where
  sequence : Nat
  created : Nat → List Record
  rids : Finset Vid
  queue : List Injection
  pc : Pc
  used : Finset Vid
  groupOf : Vid → Option Vid
  log : List Injection

/-- `create` is a call up to its push, `found` and `giveUp` are the ends of `wait_rid`.  `remove`
and `next` are the first `has` of a removal, `push` and `refuse` the ends of its `quiesce`, and
`settle` the rest of it. -/
inductive Action where
  | new
  | create (slot : Nat) (kind : Kind) (n : Int) (group : Option Vid)
  | found
  | giveUp
  | remove (slot : Nat) (kind : Kind) (vid : Vid)
  | cleanup (slot : Nat)
  | next
  | push
  | refuse
  | settle
  | finish
  | syncd (ok : Bool)

namespace Device

def initial : Device where
  sequence := 0
  created := fun _ => []
  rids := ∅
  queue := []
  pc := .idle
  used := ∅
  groupOf := fun _ => none
  log := []

def inject (device : Device) (injection : Injection) : Device :=
  { device with queue := device.queue ++ [injection], log := device.log ++ [injection] }

/-- After a removal: the next record of the cleanup, if it is one. -/
def resume (slot : Nat) : Option (List Record) → Pc
  | none => .idle
  | some todo => .cleaning slot todo

def create (device : Device) (slot : Nat) (kind : Kind) (vid : Vid) (group : Option Vid) :
    Device :=
  { device.inject ⟨.create, kind, slot, vid, decide (vid ∈ device.rids)⟩ with
    pc := .waiting slot kind vid
    used := insert vid device.used
    groupOf := Function.update device.groupOf vid group }

def record (device : Device) (slot : Nat) (entry : Record) : Device :=
  { device with
    pc := .idle
    created := Function.update device.created slot (device.created slot ++ [entry]) }

/-- The end of `remove`: the record is dropped, whether the object is gone or not. -/
def drop (device : Device) (slot : Nat) (vid : Vid) (todo : Option (List Record)) : Device :=
  { device with
    pc := resume slot todo
    created := Function.update device.created slot
      ((device.created slot).filter fun entry => entry.1 ≠ vid)
    used := if vid ∈ device.rids then device.used else device.used.erase vid }

/-- The next operation of the queue is done, or fails. -/
def process (device : Device) (ok : Bool) : Option Device :=
  match device.queue with
  | [] => none
  | injection :: rest =>
      some
        { device with
          queue := rest
          rids := if ok then
              match injection.op with
              | .create => insert injection.vid device.rids
              | .remove => device.rids.erase injection.vid
            else device.rids }

/-- An instance that has been created. -/
def Has (device : Device) (slot : Nat) : Prop :=
  1 ≤ slot ∧ slot ≤ device.sequence

instance (device : Device) (slot : Nat) : Decidable (device.Has slot) := by
  unfold Has
  infer_instance

def step (device : Device) : Action → Option Device
  | .new =>
      if device.pc = .idle then some { device with sequence := device.sequence + 1 } else none
  | .create slot kind n group =>
      if device.pc = .idle ∧ device.Has slot then
        some (device.create slot kind (vidOf kind slot n) group)
      else none
  | .found =>
      match device.pc with
      | .waiting slot kind vid =>
          if vid ∈ device.rids then some (device.record slot (vid, kind)) else none
      | _ => none
  | .giveUp =>
      match device.pc with
      | .waiting _ _ vid => if vid ∈ device.rids then none else some { device with pc := .idle }
      | _ => none
  | .remove slot kind vid =>
      if device.pc = .idle ∧ device.Has slot then
        some (if vid ∈ device.rids then { device with pc := .removing slot kind vid none }
          else device)
      else none
  | .cleanup slot =>
      if device.pc = .idle ∧ device.Has slot then
        some { device with pc := .cleaning slot (device.created slot).reverse }
      else none
  | .next =>
      match device.pc with
      | .cleaning slot ((vid, kind) :: todo) =>
          some { device with
            pc := if vid ∈ device.rids then .removing slot kind vid (some todo)
              else .cleaning slot todo }
      | _ => none
  | .push =>
      match device.pc with
      | .removing slot kind vid todo =>
          some { device.inject ⟨.remove, kind, slot, vid, decide (vid ∈ device.rids)⟩ with
            pc := .removed slot vid todo }
      | _ => none
  | .refuse =>
      match device.pc with
      | .removing slot _ _ todo => some { device with pc := resume slot todo }
      | _ => none
  | .settle =>
      match device.pc with
      | .removed slot vid todo => some (device.drop slot vid todo)
      | _ => none
  | .finish =>
      match device.pc with
      | .cleaning slot [] =>
          some { device with pc := .idle, created := Function.update device.created slot [] }
      | _ => none
  | .syncd ok => device.process ok

/-! ## What each step needs and does -/

variable {device next : Device}

theorem step_new :
    device.step .new = some next ↔
      device.pc = .idle ∧ { device with sequence := device.sequence + 1 } = next := by
  rw [step, Option.ite_none_right_eq_some, Option.some.injEq]

theorem step_create {slot : Nat} {kind : Kind} {n : Int} {group : Option Vid} :
    device.step (.create slot kind n group) = some next ↔
      (device.pc = .idle ∧ device.Has slot) ∧
        device.create slot kind (vidOf kind slot n) group = next := by
  rw [step, Option.ite_none_right_eq_some, Option.some.injEq]

theorem step_remove {slot : Nat} {kind : Kind} {vid : Vid} :
    device.step (.remove slot kind vid) = some next ↔
      (device.pc = .idle ∧ device.Has slot) ∧
        (if vid ∈ device.rids then { device with pc := .removing slot kind vid none }
          else device) = next := by
  rw [step, Option.ite_none_right_eq_some, Option.some.injEq]

theorem step_cleanup {slot : Nat} :
    device.step (.cleanup slot) = some next ↔
      (device.pc = .idle ∧ device.Has slot) ∧
        { device with pc := .cleaning slot (device.created slot).reverse } = next := by
  rw [step, Option.ite_none_right_eq_some, Option.some.injEq]

theorem step_found :
    device.step .found = some next ↔
      ∃ slot kind vid, device.pc = .waiting slot kind vid ∧ vid ∈ device.rids ∧
        device.record slot (vid, kind) = next := by
  rw [step]
  split <;> simp_all

theorem step_giveUp :
    device.step .giveUp = some next ↔
      ∃ slot kind vid, device.pc = .waiting slot kind vid ∧ vid ∉ device.rids ∧
        { device with pc := .idle } = next := by
  rw [step]
  split <;> simp_all

theorem step_next :
    device.step .next = some next ↔
      ∃ slot vid kind todo, device.pc = .cleaning slot ((vid, kind) :: todo) ∧
        { device with
          pc := if vid ∈ device.rids then .removing slot kind vid (some todo)
            else .cleaning slot todo } = next := by
  rw [step]
  split <;> simp_all

theorem step_push :
    device.step .push = some next ↔
      ∃ slot kind vid todo, device.pc = .removing slot kind vid todo ∧
        { device.inject ⟨.remove, kind, slot, vid, decide (vid ∈ device.rids)⟩ with
          pc := .removed slot vid todo } = next := by
  rw [step]
  split <;> simp_all

theorem step_refuse :
    device.step .refuse = some next ↔
      ∃ slot kind vid todo, device.pc = .removing slot kind vid todo ∧
        { device with pc := resume slot todo } = next := by
  rw [step]
  split <;> simp_all

theorem step_settle :
    device.step .settle = some next ↔
      ∃ slot vid todo, device.pc = .removed slot vid todo ∧ device.drop slot vid todo = next := by
  rw [step]
  split <;> simp_all

theorem step_finish :
    device.step .finish = some next ↔
      ∃ slot, device.pc = .cleaning slot [] ∧
        { device with pc := .idle, created := Function.update device.created slot [] } = next := by
  rw [step]
  split <;> simp_all

theorem step_syncd {ok : Bool} :
    device.step (.syncd ok) = some next ↔
      ∃ injection rest, device.queue = injection :: rest ∧
        { device with
          queue := rest
          rids := if ok then
              match injection.op with
              | .create => insert injection.vid device.rids
              | .remove => device.rids.erase injection.vid
            else device.rids } = next := by
  rw [step, process]
  split <;> simp_all

end Device

def machine : Machine Device Action where
  step := Device.step

end OnboxFvt.Dlb.Objects
