import OnboxFvt.Loopback.Cleanup

/-!
# Nested isolations of one port

`_flood_safe` has one record for each port.  The undo of the last isolating call
pops it, and the undos of the earlier calls find none: what is restored is the
PVID from before the last call, and what is destroyed is the last call's VLAN.
-/

namespace OnboxFvt.Loopback

open Worker

variable {Port Bcm : Type} [DecidableEq Port] [DecidableEq Bcm]

/-- The two entry points that isolate a port. -/
inductive Isolation where
  | floodSafe (isolateVid : Vid)
  | pvid (isolateVid : Vid)

namespace Isolation

def call (port : Port) : Isolation → Op Port
  | .floodSafe isolateVid => .enableFloodSafe port isolateVid
  | .pvid isolateVid => .isolatePvid port isolateVid

def undo (port : Port) : Isolation → Op Port
  | .floodSafe _ => .disableFloodSafe port
  | .pvid _ => .restorePvid port

/-- The VLAN a call moves the port to; the discard mode moves it nowhere. -/
def movesTo (device : Device Port Bcm) : Isolation → Option Vid
  | .floodSafe isolateVid => some (remapVid device.worker isolateVid)
  | .pvid isolateVid =>
      if device.isSwitchportOs then none else some (remapVid device.worker isolateVid)

/-- The calls, then their undos from the last one to the first. -/
def nest (port : Port) (calls : List Isolation) : List (Op Port) :=
  calls.map (call port) ++ calls.reverse.map (undo port)

end Isolation

variable (device : Device Port Bcm) (port : Port)

/-! ## One call, then a sequence of them -/

theorem apply_call (state : State Port Bcm) (isolation : Isolation) :
    (apply device state (isolation.call port)).chip.pvid (device.bcmOf port) =
        (isolation.movesTo device).getD (state.chip.pvid (device.bcmOf port)) ∧
      (∀ vid, vid ∈ (apply device state (isolation.call port)).chip.vlans ↔
        isolation.movesTo device = some vid ∨ vid ∈ state.chip.vlans) ∧
      (apply device state (isolation.call port)).floodSafe.lookup port =
        some { bcm := device.bcmOf port, iso := isolation.movesTo device,
               orig := (isolation.movesTo device).map fun _ =>
                 state.chip.pvid (device.bcmOf port) } := by
  cases isolation with
  | floodSafe isolateVid =>
      simp [Isolation.call, Isolation.movesTo, apply, State.enableFloodSafe, State.cmd, Chip.exec,
        Chip.pvlanShow, eq_comm]
  | pvid isolateVid =>
      cases flavour : device.isSwitchportOs <;>
        simp [Isolation.call, Isolation.movesTo, apply, State.isolatePvid, flavour, State.cmd,
          Chip.exec, Chip.pvlanShow, eq_comm]

theorem run_calls_pvid (state : State Port Bcm) (calls : List Isolation) :
    (run device state (calls.map (Isolation.call port))).chip.pvid (device.bcmOf port) =
      ((calls.filterMap (Isolation.movesTo device)).getLast?).getD
        (state.chip.pvid (device.bcmOf port)) := by
  induction calls generalizing state with
  | nil => rfl
  | cons isolation rest inductionHypothesis =>
      have moved := (apply_call device port state isolation).1
      have later := inductionHypothesis (apply device state (isolation.call port))
      rw [moved] at later
      rw [List.map_cons, run, List.foldl_cons]
      refine later.trans ?_
      cases target : isolation.movesTo device with
      | none => simp [target]
      | some vid => simp [target, List.getLast?_cons]

theorem mem_run_calls_vlans (state : State Port Bcm) (calls : List Isolation) (vid : Vid) :
    vid ∈ (run device state (calls.map (Isolation.call port))).chip.vlans ↔
      vid ∈ calls.filterMap (Isolation.movesTo device) ∨ vid ∈ state.chip.vlans := by
  induction calls generalizing state with
  | nil => simp [run]
  | cons isolation rest inductionHypothesis =>
      have created := (apply_call device port state isolation).2.1 vid
      have later := inductionHypothesis (apply device state (isolation.call port))
      rw [created] at later
      rw [List.map_cons, run, List.foldl_cons]
      refine later.trans ?_
      cases target : isolation.movesTo device with
      | none => simp [target]
      | some other => simp [target, or_left_comm, or_assoc, eq_comm]

/-! ## The undos -/

/-- Either undo pops the record and undoes it. -/
theorem apply_undo_of_record (state : State Port Bcm) (isolation : Isolation)
    {info : FloodSafe Bcm} (found : state.floodSafe.lookup port = some info)
    (plain : info.iso = none → info.orig = none) :
    (apply device state (isolation.undo port)).chip.pvid = (undoRecord state.chip info).pvid ∧
      (apply device state (isolation.undo port)).chip.vlans =
        (undoRecord state.chip info).vlans ∧
      (apply device state (isolation.undo port)).floodSafe.lookup port = none := by
  cases isolation with
  | floodSafe isolateVid =>
      rw [Isolation.undo, apply, disableFloodSafe_of_record state port found, disable_eq]
      exact ⟨rfl, rfl, AList.lookup_erase ..⟩
  | pvid isolateVid =>
      obtain ⟨pvid, vlans⟩ := restorePvid_of_record state port found plain
      refine ⟨pvid, vlans, ?_⟩
      exact (congrArg (AList.lookup port)
        (restorePvid_floodSafe_of_record state port found)).trans (AList.lookup_erase ..)

/-- With no record left, an undo moves no PVID and destroys no VLAN. -/
theorem apply_undo_of_absent (state : State Port Bcm) (isolation : Isolation)
    (absent : state.floodSafe.lookup port = none) :
    (apply device state (isolation.undo port)).chip.pvid = state.chip.pvid ∧
      (apply device state (isolation.undo port)).chip.vlans = state.chip.vlans ∧
      (apply device state (isolation.undo port)).floodSafe.lookup port = none := by
  cases isolation with
  | floodSafe isolateVid =>
      rw [Isolation.undo, apply, disableFloodSafe_of_absent state port absent, disable_eq]
      exact ⟨rfl, rfl, absent⟩
  | pvid isolateVid =>
      rw [Isolation.undo, apply, restorePvid_of_absent state port absent]
      exact ⟨rfl, rfl, absent⟩

theorem run_undos_of_absent (state : State Port Bcm) (calls : List Isolation)
    (absent : state.floodSafe.lookup port = none) :
    (run device state (calls.map (Isolation.undo port))).chip.pvid = state.chip.pvid ∧
      (run device state (calls.map (Isolation.undo port))).chip.vlans = state.chip.vlans := by
  induction calls generalizing state with
  | nil => exact ⟨rfl, rfl⟩
  | cons isolation rest inductionHypothesis =>
      obtain ⟨pvid, vlans, still⟩ := apply_undo_of_absent device port state isolation absent
      have later := inductionHypothesis (apply device state (isolation.undo port)) still
      rw [pvid, vlans] at later
      exact later

/-! ## The nest -/

/-- Only the last call of a nest is undone. -/
theorem run_nest (start : State Port Bcm) (earlier : List Isolation) (last : Isolation) :
    (run device start (Isolation.nest port (earlier ++ [last]))).chip.pvid (device.bcmOf port) =
        (run device start (earlier.map (Isolation.call port))).chip.pvid (device.bcmOf port) ∧
      ∀ vid, vid ∈ (run device start (Isolation.nest port (earlier ++ [last]))).chip.vlans ↔
        vid ∈ (run device start (earlier.map (Isolation.call port))).chip.vlans ∧
          last.movesTo device ≠ some vid := by
  generalize reached : run device start (earlier.map (Isolation.call port)) = before
  obtain ⟨moved, created, recorded⟩ := apply_call device port before last
  generalize looped : apply device before (last.call port) = isolated at moved created recorded
  obtain ⟨pvid, vlans, absent⟩ := apply_undo_of_record device port isolated last recorded
    fun nowhere => Option.map_eq_none_iff.mpr nowhere
  generalize popped : apply device isolated (last.undo port) = undone at pvid vlans absent
  have rest := run_undos_of_absent device port undone earlier.reverse absent
  have whole : run device start (Isolation.nest port (earlier ++ [last])) =
      run device undone (earlier.reverse.map (Isolation.undo port)) := by
    subst reached looped popped
    simp [Isolation.nest, run]
  rw [whole, rest.1, rest.2, pvid, vlans]
  refine ⟨?_, fun vid => ?_⟩
  · rw [undoRecord_pvid, if_pos rfl, moved]
    cases last.movesTo device <;> rfl
  · rw [mem_undoRecord_vlans, created]
    by_cases target : last.movesTo device = some vid <;> simp [target]

/-- The PVID is back, and no VLAN that was not on the chip before is left of the nest. -/
structure Nests (start : State Port Bcm) (calls : List Isolation) : Prop where
  pvid : (run device start (Isolation.nest port calls)).chip.pvid (device.bcmOf port) =
    start.chip.pvid (device.bcmOf port)
  vlans : ∀ isolation ∈ calls, ∀ vid, isolation.movesTo device = some vid →
    vid ∉ start.chip.vlans → vid ∉ (run device start (Isolation.nest port calls)).chip.vlans

/-- A nest is undone exactly when the calls before the last one left the port on its
PVID and created no VLAN but the last call's. -/
theorem nests_iff (start : State Port Bcm) (earlier : List Isolation) (last : Isolation) :
    Nests device port start (earlier ++ [last]) ↔
      ((earlier.filterMap (Isolation.movesTo device)).getLast?).getD
          (start.chip.pvid (device.bcmOf port)) = start.chip.pvid (device.bcmOf port) ∧
        ∀ vid ∈ earlier.filterMap (Isolation.movesTo device), vid ∉ start.chip.vlans →
          last.movesTo device = some vid := by
  obtain ⟨pvid, vlans⟩ := run_nest device port start earlier last
  rw [run_calls_pvid] at pvid
  simp only [mem_run_calls_vlans] at vlans
  constructor
  · intro nests
    refine ⟨pvid.symm.trans nests.pvid, fun vid member new => ?_⟩
    obtain ⟨isolation, among, target⟩ := List.mem_filterMap.mp member
    have gone := nests.vlans isolation (List.mem_append_left _ among) vid target new
    by_contra other
    exact gone ((vlans vid).mpr ⟨Or.inl member, other⟩)
  · rintro ⟨back, own⟩
    refine ⟨pvid.trans back, fun isolation among vid target new left => ?_⟩
    obtain ⟨member | present, other⟩ := (vlans vid).mp left
    · exact other (own vid member new)
    · exact new present

/-- Two isolations of one port leave it in the VLAN of the first. -/
theorem nest_of_two_not_undone :
    ¬ ∀ (device : Device Unit Unit) (start : State Unit Unit) (calls : List Isolation),
      calls ≠ [] → Nests device () start calls := by
  intro always
  have nests := always (onePort false) quiet [.pvid 3990, .pvid 3991] (by simp)
  have back := nests.pvid
  revert back
  decide

end OnboxFvt.Loopback
