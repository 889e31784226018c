import OnboxFvt.Loopback.Manager

/-!
# What the undoing operations do

One equation for each operation that undoes a record or a loopback, which the
invariants of the manager are derived from.
-/

namespace OnboxFvt.Loopback

variable {Port Bcm : Type} [DecidableEq Port] [DecidableEq Bcm]

/-! ## Every record -/

section Records

variable {records : AList fun _ : Port => FloodSafe Bcm} {holds : Port → FloodSafe Bcm → Prop}

omit [DecidableEq Bcm] in
theorem forall_record_insert {port : Port} {added : FloodSafe Bcm}
    (all : ∀ port info, records.lookup port = some info → holds port info)
    (new : holds port added) (other : Port) (info : FloodSafe Bcm)
    (found : (records.insert port added).lookup other = some info) : holds other info := by
  by_cases same : other = port
  · subst same
    rw [AList.lookup_insert] at found
    cases found
    exact new
  · rw [AList.lookup_insert_ne same] at found
    exact all other info found

omit [DecidableEq Bcm] in
theorem forall_record_erase {port : Port}
    (all : ∀ port info, records.lookup port = some info → holds port info) (other : Port)
    (info : FloodSafe Bcm) (found : (records.erase port).lookup other = some info) :
    holds other info := by
  by_cases same : other = port
  · subst same
    rw [AList.lookup_erase] at found
    cases found
  · rw [AList.lookup_erase_ne same] at found
    exact all other info found

end Records

/-! ## Undoing a record -/

/-- The chip after the two diag commands that undo a record. -/
def undoRecord (chip : Chip Bcm) (info : FloodSafe Bcm) : Chip Bcm :=
  (chip.exec (.pvlanSet info.bcm info.orig)).exec (.vlanDestroy info.iso)

@[simp]
theorem undoRecord_lb (chip : Chip Bcm) (info : FloodSafe Bcm) :
    (undoRecord chip info).lb = chip.lb := by
  rcases info with ⟨bcm, _ | iso, _ | orig⟩ <;> rfl

@[simp]
theorem undoRecord_discard (chip : Chip Bcm) (info : FloodSafe Bcm) :
    (undoRecord chip info).discard = chip.discard := by
  rcases info with ⟨bcm, _ | iso, _ | orig⟩ <;> rfl

theorem undoRecord_pvid (chip : Chip Bcm) (info : FloodSafe Bcm) (bcm : Bcm) :
    (undoRecord chip info).pvid bcm =
      if bcm = info.bcm then info.orig.getD (chip.pvid bcm) else chip.pvid bcm := by
  rcases info with ⟨own, _ | iso, _ | orig⟩ <;>
    simp [undoRecord, Chip.exec, Function.update_apply]

theorem mem_undoRecord_vlans (chip : Chip Bcm) (info : FloodSafe Bcm) (vid : Vid) :
    vid ∈ (undoRecord chip info).vlans ↔ vid ∈ chip.vlans ∧ info.iso ≠ some vid := by
  rcases info with ⟨own, _ | iso, _ | orig⟩ <;>
    simp [undoRecord, Chip.exec, and_comm, eq_comm]

/-! ## The operations -/

variable {device : Device Port Bcm} (state : State Port Bcm) (port : Port)

/-- The discard flag of a tracked port, which `disable` goes by. -/
def State.discardFlag (state : State Port Bcm) (port : Port) : Bool :=
  ((state.on.lookup port).map Prod.snd).getD false

theorem disable_eq :
    state.disable device port =
      { state with
        on := state.on.erase port
        chip :=
          { state.chip with
            lb := Function.update state.chip.lb (device.bcmOf port) none
            discard := Function.update state.chip.discard (device.bcmOf port)
              (state.chip.discard (device.bcmOf port) && !state.discardFlag port) } } := by
  cases flag : ((state.on.lookup port).map Prod.snd).getD false <;>
    simp [State.disable, State.discardFlag, flag, State.cmd, Chip.exec]

theorem disableFloodSafe_of_absent (absent : state.floodSafe.lookup port = none) :
    state.disableFloodSafe device port = state.disable device port := by
  simp [State.disableFloodSafe, absent]

theorem disableFloodSafe_of_record {info : FloodSafe Bcm}
    (found : state.floodSafe.lookup port = some info) :
    state.disableFloodSafe device port =
      ({ state with
          floodSafe := state.floodSafe.erase port
          chip := undoRecord state.chip info } : State Port Bcm).disable device port := by
  simp [State.disableFloodSafe, found, State.cmd, undoRecord]

theorem restorePvid_of_absent (absent : state.floodSafe.lookup port = none) :
    state.restorePvid port = state := by
  simp [State.restorePvid, absent]

/-- An isolation by PVID is undone like a flood-safe loopback, which stays looped. -/
theorem restorePvid_of_isolated {info : FloodSafe Bcm}
    (found : state.floodSafe.lookup port = some info) {iso : Vid} (isolated : info.iso = some iso) :
    state.restorePvid port =
      { state with
        floodSafe := state.floodSafe.erase port
        chip := undoRecord state.chip info } := by
  simp [State.restorePvid, found, isolated, State.cmd, undoRecord]

theorem restorePvid_of_discarding {info : FloodSafe Bcm}
    (found : state.floodSafe.lookup port = some info) (discarding : info.iso = none) :
    state.restorePvid port =
      { state with
        floodSafe := state.floodSafe.erase port
        chip := state.chip.exec (.portDiscard info.bcm false) } := by
  simp [State.restorePvid, found, discarding, State.cmd]

theorem restorePvid_floodSafe_of_record {info : FloodSafe Bcm}
    (found : state.floodSafe.lookup port = some info) :
    (state.restorePvid port).floodSafe = state.floodSafe.erase port := by
  cases isolated : info.iso with
  | none => rw [restorePvid_of_discarding state port found isolated]
  | some iso => rw [restorePvid_of_isolated state port found isolated]

/-- In the discard mode nothing but the discard is undone, as the record has no PVID. -/
theorem restorePvid_of_record {info : FloodSafe Bcm}
    (found : state.floodSafe.lookup port = some info) (plain : info.iso = none → info.orig = none) :
    (state.restorePvid port).chip.pvid = (undoRecord state.chip info).pvid ∧
      (state.restorePvid port).chip.vlans = (undoRecord state.chip info).vlans := by
  cases isolated : info.iso with
  | none =>
      rw [restorePvid_of_discarding state port found isolated]
      simp [undoRecord, isolated, plain isolated, Chip.exec]
  | some iso =>
      rw [restorePvid_of_isolated state port found isolated]
      exact ⟨rfl, rfl⟩

end OnboxFvt.Loopback
