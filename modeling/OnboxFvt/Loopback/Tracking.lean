import OnboxFvt.Loopback.Cleanup

/-!
# The tracking table is the chip

With one process and every diag command taking effect, `_on` has exactly the ports whose
loopback is on, whatever the calls before.  `force_clear_all` leaves the held ports, each
in its held mode.
-/

namespace OnboxFvt.Loopback

open Library

variable {Port Bcm : Type} [DecidableEq Port] [DecidableEq Bcm]

/-- The calls on the manager, sweeps included. -/
inductive Call (Port : Type) where
  | op (op : Op Port)
  | cleanup
  | forceClearAll

def State.call (device : Device Port Bcm) (state : State Port Bcm) : Call Port → State Port Bcm
  | .op op => apply device state op
  | .cleanup => state.cleanup device
  | .forceClearAll => (state.forceClearAll device).2

def State.calls (device : Device Port Bcm) (state : State Port Bcm) (calls : List (Call Port)) :
    State Port Bcm :=
  calls.foldl (State.call device) state

/-- The tracked ports are those whose loopback is on. -/
def Tracks (device : Device Port Bcm) (state : State Port Bcm) : Prop :=
  ∀ port, port ∈ state.on ↔ state.chip.lb (device.bcmOf port) ≠ none

/-- Beyond `Tracks`, no chip port without a name is looped. -/
def Exact (device : Device Port Bcm) (state : State Port Bcm) : Prop :=
  ∀ bcm, state.chip.lb bcm ≠ none ↔ ∃ port ∈ state.on, device.bcmOf port = bcm

/-! ## What keeps it -/

section Kept

variable {device : Device Port Bcm} {state next : State Port Bcm}

omit [DecidableEq Port] [DecidableEq Bcm] in
theorem Exact.of_same (exact : Exact device state) (on : next.on = state.on)
    (lb : next.chip.lb = state.chip.lb) : Exact device next := by
  intro bcm
  rw [on, lb]
  exact exact bcm

omit [DecidableEq Port] [DecidableEq Bcm] in
theorem exact_of_off (on : next.on = ∅) (lb : ∀ bcm, next.chip.lb bcm = none) :
    Exact device next := by
  intro bcm
  rw [on]
  constructor
  · exact fun looped => absurd (lb bcm) looped
  · rintro ⟨port, member, _⟩
    exact absurd member (AList.notMem_empty port)

theorem Exact.looped (exact : Exact device state) {port : Port} {mode : LbMode}
    {entry : LbMode × Bool} (on : next.on = state.on.insert port entry)
    (lb : next.chip.lb = Function.update state.chip.lb (device.bcmOf port) (some mode)) :
    Exact device next := by
  intro bcm
  rw [on, lb]
  by_cases here : bcm = device.bcmOf port
  · subst here
    rw [Function.update_self]
    exact ⟨fun _ => ⟨port, AList.mem_insert _ |>.mpr (Or.inl rfl), rfl⟩,
      fun _ => Option.some_ne_none mode⟩
  · rw [Function.update_of_ne here, exact bcm]
    constructor
    · rintro ⟨other, member, rfl⟩
      exact ⟨other, AList.mem_insert _ |>.mpr (Or.inr member), rfl⟩
    · rintro ⟨other, member, rfl⟩
      cases AList.mem_insert _ |>.mp member with
      | inl same => exact absurd (congrArg device.bcmOf same) here
      | inr before => exact ⟨other, before, rfl⟩

theorem Exact.unlooped (exact : Exact device state) {port : Port}
    (on : next.on = state.on.erase port)
    (lb : next.chip.lb = Function.update state.chip.lb (device.bcmOf port) none) :
    Exact device next := by
  intro bcm
  rw [on, lb]
  by_cases here : bcm = device.bcmOf port
  · subst here
    rw [Function.update_self]
    refine ⟨fun looped => absurd rfl looped, ?_⟩
    rintro ⟨other, member, same⟩
    exact absurd (device.injective same) (AList.mem_erase.mp member).1
  · rw [Function.update_of_ne here, exact bcm]
    constructor
    · rintro ⟨other, member, rfl⟩
      have different : other ≠ port := fun same => here (congrArg device.bcmOf same)
      exact ⟨other, AList.mem_erase.mpr ⟨different, member⟩, rfl⟩
    · rintro ⟨other, member, rfl⟩
      exact ⟨other, (AList.mem_erase.mp member).2, rfl⟩

omit [DecidableEq Port] [DecidableEq Bcm] in
theorem Exact.tracks (exact : Exact device state) : Tracks device state := by
  intro port
  rw [exact (device.bcmOf port)]
  constructor
  · exact fun member => ⟨port, member, rfl⟩
  · rintro ⟨other, member, same⟩
    rw [← device.injective same]
    exact member

/-! ## The operations -/

theorem Exact.disable (exact : Exact device state) (port : Port) :
    Exact device (state.disable device port) := by
  have on : (state.disable device port).on = state.on.erase port := by rw [disable_eq]
  exact exact.unlooped on (by rw [disable_eq])

theorem Exact.disableFloodSafe (exact : Exact device state) (port : Port) :
    Exact device (state.disableFloodSafe device port) := by
  cases found : state.floodSafe.lookup port with
  | none =>
      rw [disableFloodSafe_of_absent state port found]
      exact exact.disable port
  | some info =>
      rw [disableFloodSafe_of_record state port found]
      apply Exact.disable
      exact exact.of_same rfl (undoRecord_lb state.chip info)

theorem Exact.restorePvid (exact : Exact device state) (port : Port) :
    Exact device (state.restorePvid port) := by
  cases found : state.floodSafe.lookup port with
  | none =>
      rw [restorePvid_of_absent state port found]
      exact exact
  | some info =>
      refine exact.of_same ?_ ?_ <;>
        rcases info with ⟨bcm, _ | iso, _ | orig⟩ <;>
        simp [State.restorePvid, found, State.cmd, Chip.exec]

theorem Exact.apply (exact : Exact device state) (op : Op Port) :
    Exact device (apply device state op) := by
  cases op with
  | enable port mode discard =>
      cases discard with
      | false => exact exact.looped rfl rfl
      | true => exact exact.looped rfl rfl
  | disable port => exact exact.disable port
  | enableFloodSafe port isolateVid => exact exact.looped rfl rfl
  | disableFloodSafe port => exact exact.disableFloodSafe port
  | isolatePvid port isolateVid =>
      apply exact.of_same
      · simp only [Loopback.apply, State.isolatePvid]
        split <;> rfl
      · simp only [Loopback.apply, State.isolatePvid]
        split <;> rfl
  | restorePvid port => exact exact.restorePvid port
  | hold port mode => exact exact.of_same rfl rfl
  | release port => exact exact.of_same rfl rfl

theorem Exact.cleanup (exact : Exact device state) : Exact device (state.cleanup device) := by
  refine foldl_preserves (Exact device) (fun _ port exact => exact.disable port) _ ?_
  exact foldl_preserves (Exact device) (fun _ port exact => exact.disableFloodSafe port) _ exact

theorem Exact.reopen (held : AList fun _ : Port => LbMode) (exact : Exact device state)
    (port : Port) : Exact device (state.reopen device held port) := by
  unfold State.reopen
  cases held.lookup port with
  | none => exact exact
  | some mode => exact exact.looped rfl rfl

end Kept

/-! ## `force_clear_all` -/

variable {device : Device Port Bcm}

theorem Exact.forceClearAll (whole : device.workerPbm = none) (state : State Port Bcm) :
    Exact device (state.forceClearAll device).2 := by
  rw [forceClearAll_snd]
  refine foldl_preserves (Exact device) (fun _ port exact => exact.reopen _ port) _ ?_
  exact exact_of_off rfl (swept_lb whole state)

/-- What the loop that reopens the held ports leaves of one port. -/
theorem reopened_lookup (state : State Port Bcm) (port : Port) :
    (state.forceClearAll device).2.on.lookup port =
      (state.held.lookup port).map fun mode => (mode, false) := by
  rw [forceClearAll_snd, swept_held]
  have looked := look_foldl (State.reopen device state.held)
    (fun reached : State Port Bcm => reached.on.lookup port)
    (fun before => ((state.held.lookup port).map fun mode => (mode, false)).or before) port
    state.held.keys_nodup ?_ ?_ (state.swept device)
  · refine looked.trans ?_
    by_cases held : port ∈ state.held.keys
    · rw [if_pos held]
      exact Option.or_none
    · rw [if_neg held, AList.lookup_eq_none.mpr fun member => held (AList.mem_keys.mp member)]
      rfl
  · intro other _ different before
    cases found : state.held.lookup other with
    | none => simp only [State.reopen, found]
    | some mode => simp [State.reopen, found, State.cmd, AList.lookup_insert_ne different.symm]
  · intro before
    cases found : state.held.lookup port with
    | none => simp [State.reopen, found]
    | some mode => simp [State.reopen, found, State.cmd]

theorem reopened_held (state : State Port Bcm) :
    (state.forceClearAll device).2.held = state.held := by
  rw [forceClearAll_snd]
  refine Eq.trans ?_ (@swept_held Port Bcm _ _ device state)
  refine look_foldl_of_unseen _ (fun reached : State Port Bcm => reached.held) ?_ _
  intro port _ before
  cases found : (state.swept device).held.lookup port with
  | none => simp only [State.reopen, found]
  | some mode => simp only [State.reopen, found, State.cmd]

theorem reopened_lb {state : State Port Bcm} {port : Port} {mode : LbMode}
    (held : state.held.lookup port = some mode) :
    (state.forceClearAll device).2.chip.lb (device.bcmOf port) = some mode := by
  rw [forceClearAll_snd, swept_held]
  have looked := look_foldl (State.reopen device state.held)
    (fun reached : State Port Bcm => reached.chip.lb (device.bcmOf port))
    (fun _ => some mode) port state.held.keys_nodup ?_ ?_ (state.swept device)
  · refine looked.trans (if_pos ?_)
    exact AList.mem_keys.mp (AList.lookup_isSome.mp (by rw [held]; rfl))
  · intro other _ different before
    have apart : device.bcmOf port ≠ device.bcmOf other := fun equal =>
      different (device.injective equal).symm
    cases found : state.held.lookup other with
    | none => simp only [State.reopen, found]
    | some mode => simp [State.reopen, found, State.cmd, Chip.exec, apart]
  · intro before
    simp [State.reopen, held, State.cmd, Chip.exec]

/-- What a full clear leaves: the held ports, each in its mode, tracked without a discard; it
returns the ports it was the one to clear, each once. -/
structure ClearsAll (device : Device Port Bcm) (before : State Port Bcm) : Prop where
  held : (before.forceClearAll device).2.held = before.held
  tracked : ∀ port, port ∈ (before.forceClearAll device).2.on ↔ port ∈ before.held
  mode : ∀ port mode, before.held.lookup port = some mode →
    (before.forceClearAll device).2.on.lookup port = some (mode, false) ∧
      (before.forceClearAll device).2.chip.lb (device.bcmOf port) = some mode
  cleared : ∀ port, port ∈ (before.forceClearAll device).1 ↔
    (port ∈ before.on ∨ port ∈ before.floodSafe) ∧ port ∉ before.held
  once : (before.forceClearAll device).1.Nodup

theorem clearsAll (device : Device Port Bcm) (before : State Port Bcm) :
    ClearsAll device before where
  held := reopened_held before
  tracked := by
    intro port
    rw [← AList.lookup_isSome, reopened_lookup, Option.isSome_map, AList.lookup_isSome]
  mode := by
    intro port mode held
    refine ⟨?_, reopened_lb held⟩
    rw [reopened_lookup, held]
    rfl
  cleared := by
    intro port
    simp [State.forceClearAll, List.mem_filter, AList.mem_keys]
  once := (List.nodup_dedup _).filter _

theorem exact_calls (whole : device.workerPbm = none) {start : State Port Bcm}
    (exact : Exact device start) (calls : List (Call Port)) :
    Exact device (start.calls device calls) := by
  refine foldl_preserves (Exact device) (fun state call exact => ?_) calls exact
  cases call with
  | op op => exact exact.apply op
  | cleanup => exact exact.cleanup
  | forceClearAll => exact Exact.forceClearAll whole state

end OnboxFvt.Loopback
