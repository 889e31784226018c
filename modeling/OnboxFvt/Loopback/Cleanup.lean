import OnboxFvt.Library.PointwiseFold
import OnboxFvt.Loopback.Effects

/-!
# What the cleanup primitives restore

`force_clear_all` turns every loopback off and undoes the recorded isolations,
`cleanup` disables every tracked port.  PVIDs and isolation VLANs come back in
every run that undoes an isolation before it isolates the port again: the record
of an isolated port holds the PVID from before.  The ingress discard does not:
`force_clear_all` clears none, and `cleanup` only one whose flag is in `_on`.
-/

namespace OnboxFvt.Loopback

open Library Worker

variable {Port Bcm : Type} [DecidableEq Port] [DecidableEq Bcm] {device : Device Port Bcm}

/-- The VLAN an operation creates to isolate a port, if it does. -/
def Op.isolationVlan (device : Device Port Bcm) : Op Port → Option Vid
  | .enableFloodSafe _ isolateVid => some (remapVid device.worker isolateVid)
  | .isolatePvid _ isolateVid =>
      if device.isSwitchportOs then none else some (remapVid device.worker isolateVid)
  | _ => none

/-- The port of an isolating call. -/
def Op.isolates : Op Port → Option Port
  | .enableFloodSafe port _ => some port
  | .isolatePvid port _ => some port
  | _ => none

/-- The port an operation acts on; `hold` and `release` only mark one. -/
def Op.touches : Op Port → Option Port
  | .enable port _ _ => some port
  | .disable port => some port
  | .enableFloodSafe port _ => some port
  | .disableFloodSafe port => some port
  | .isolatePvid port _ => some port
  | .restorePvid port => some port
  | .hold _ _ => none
  | .release _ => none

/-- A port is isolated only while no isolation of it is pending. -/
def Disciplined (device : Device Port Bcm) : List (Op Port) → State Port Bcm → Prop
  | [], _ => True
  | op :: rest, state =>
      (∀ port, op.isolates = some port → port ∉ state.floodSafe) ∧
        Disciplined device rest (apply device state op)

/-! ## The invariant of a run -/

/-- The PVID a port has once its pending isolation, if any, is undone. -/
def State.undonePvid (device : Device Port Bcm) (state : State Port Bcm) (port : Port) : Vid :=
  match state.floodSafe.lookup port with
  | none => state.chip.pvid (device.bcmOf port)
  | some info => info.orig.getD (state.chip.pvid (device.bcmOf port))

/-- The records name their own port and undo to the initial PVIDs, and every
isolation VLAN on the chip is in a record. -/
structure Recorded (device : Device Port Bcm) (initial : Port → Vid) (created : List Vid)
    (state : State Port Bcm) : Prop where
  bcm : ∀ port info, state.floodSafe.lookup port = some info →
    info.bcm = device.bcmOf port ∧ (info.iso = none → info.orig = none)
  pvid : ∀ port, state.undonePvid device port = initial port
  vlans : ∀ vid ∈ created, vid ∈ state.chip.vlans →
    ∃ port info, state.floodSafe.lookup port = some info ∧ info.iso = some vid

variable {initial : Port → Vid} {created : List Vid} {state next : State Port Bcm}

omit [DecidableEq Bcm] in
theorem Recorded.of_same (recorded : Recorded device initial created state)
    (floodSafe : next.floodSafe = state.floodSafe) (pvid : next.chip.pvid = state.chip.pvid)
    (vlans : next.chip.vlans = state.chip.vlans) : Recorded device initial created next := by
  refine ⟨?_, ?_, ?_⟩
  · rw [floodSafe]
    exact recorded.bcm
  · intro port
    simpa only [State.undonePvid, floodSafe, pvid] using recorded.pvid port
  · rw [floodSafe, vlans]
    exact recorded.vlans

omit [DecidableEq Bcm] in
/-- A new record that names its own port. -/
theorem Recorded.bcm_insert (recorded : Recorded device initial created state) {port : Port}
    {added : FloodSafe Bcm} (own : added.bcm = device.bcmOf port)
    (undoes : added.iso = none → added.orig = none)
    (floodSafe : next.floodSafe = state.floodSafe.insert port added) (other : Port)
    (info : FloodSafe Bcm) (found : next.floodSafe.lookup other = some info) :
    info.bcm = device.bcmOf other ∧ (info.iso = none → info.orig = none) := by
  rw [floodSafe] at found
  exact forall_record_insert recorded.bcm ⟨own, undoes⟩ other info found

omit [DecidableEq Bcm] in
/-- A new record for a port without one leaves the others. -/
theorem lookup_insert_of_found {port other : Port} {added info : FloodSafe Bcm}
    (missing : state.floodSafe.lookup port = none)
    (found : state.floodSafe.lookup other = some info) :
    (state.floodSafe.insert port added).lookup other = some info := by
  have different : other ≠ port := by
    rintro rfl
    rw [missing] at found
    cases found
  rw [AList.lookup_insert_ne different, found]

/-- Isolating a port that is not: the PVID read back is the initial one. -/
theorem Recorded.of_isolation (recorded : Recorded device initial created state) {port : Port}
    (free : port ∉ state.floodSafe) (iso : Vid)
    (floodSafe : next.floodSafe = state.floodSafe.insert port
      { bcm := device.bcmOf port, iso := some iso,
        orig := some (state.chip.pvid (device.bcmOf port)) })
    (pvid : next.chip.pvid = Function.update state.chip.pvid (device.bcmOf port) iso)
    (vlans : next.chip.vlans = insert iso state.chip.vlans) :
    Recorded device initial (iso :: created) next := by
  have missing : state.floodSafe.lookup port = none := AList.lookup_eq_none.mpr free
  have before := recorded.pvid port
  rw [State.undonePvid, missing] at before
  refine ⟨recorded.bcm_insert rfl (fun none => by cases none) floodSafe, ?_, ?_⟩
  · intro other
    by_cases same : other = port
    · subst same
      simpa only [State.undonePvid, floodSafe, AList.lookup_insert, Option.getD_some] using before
    · have apart : device.bcmOf other ≠ device.bcmOf port := fun equal =>
        same (device.injective equal)
      have kept := recorded.pvid other
      simpa only [State.undonePvid, floodSafe, AList.lookup_insert_ne same, pvid,
        Function.update_of_ne apart] using kept
  · intro vid member present
    rw [vlans] at present
    by_cases new : vid = iso
    · subst new
      exact ⟨port, _, by rw [floodSafe, AList.lookup_insert], rfl⟩
    · have old : vid ∈ created := (List.mem_cons.mp member).resolve_left new
      have there : vid ∈ state.chip.vlans := (Finset.mem_insert.mp present).resolve_left new
      obtain ⟨other, info, found, isolated⟩ := recorded.vlans vid old there
      exact ⟨other, info, floodSafe ▸ lookup_insert_of_found missing found, isolated⟩

omit [DecidableEq Bcm] in
/-- The discard mode of the switchport OS records nothing to undo on PVID or VLANs. -/
theorem Recorded.of_discard (recorded : Recorded device initial created state) {port : Port}
    (free : port ∉ state.floodSafe)
    (floodSafe : next.floodSafe = state.floodSafe.insert port
      { bcm := device.bcmOf port, iso := none, orig := none })
    (pvid : next.chip.pvid = state.chip.pvid) (vlans : next.chip.vlans = state.chip.vlans) :
    Recorded device initial created next := by
  have missing : state.floodSafe.lookup port = none := AList.lookup_eq_none.mpr free
  refine ⟨recorded.bcm_insert rfl (fun _ => rfl) floodSafe, ?_, ?_⟩
  · intro other
    have before := recorded.pvid other
    by_cases same : other = port
    · subst same
      rw [State.undonePvid, missing] at before
      simpa only [State.undonePvid, floodSafe, AList.lookup_insert, Option.getD_none, pvid] using
        before
    · simpa only [State.undonePvid, floodSafe, AList.lookup_insert_ne same, pvid] using before
  · intro vid member present
    rw [vlans] at present
    obtain ⟨other, info, found, isolated⟩ := recorded.vlans vid member present
    exact ⟨other, info, floodSafe ▸ lookup_insert_of_found missing found, isolated⟩

/-- Undoing a record removes it and gives the port its initial PVID. -/
theorem Recorded.of_undo (recorded : Recorded device initial created state) {port : Port}
    {info : FloodSafe Bcm} (found : state.floodSafe.lookup port = some info)
    (floodSafe : next.floodSafe = state.floodSafe.erase port)
    (pvid : next.chip.pvid = (undoRecord state.chip info).pvid)
    (vlans : next.chip.vlans = (undoRecord state.chip info).vlans) :
    Recorded device initial created next := by
  have own : info.bcm = device.bcmOf port := (recorded.bcm port info found).1
  have lookup_next : ∀ other, next.floodSafe.lookup other =
      if other = port then none else state.floodSafe.lookup other := by
    intro other
    by_cases same : other = port
    · subst same
      rw [floodSafe, AList.lookup_erase, if_pos rfl]
    · rw [floodSafe, AList.lookup_erase_ne same, if_neg same]
  refine ⟨?_, ?_, ?_⟩
  · rw [floodSafe]
    exact forall_record_erase recorded.bcm
  · intro other
    have before := recorded.pvid other
    rw [State.undonePvid, lookup_next, pvid]
    by_cases same : other = port
    · subst same
      rw [State.undonePvid, found] at before
      simpa [undoRecord_pvid, own] using before
    · have apart : device.bcmOf other ≠ info.bcm := fun equal =>
        same (device.injective (equal.trans own))
      simpa [State.undonePvid, undoRecord_pvid, apart, same] using before
  · intro vid member present
    rw [vlans, mem_undoRecord_vlans] at present
    obtain ⟨other, record, there, isolated⟩ := recorded.vlans vid member present.1
    refine ⟨other, record, ?_, isolated⟩
    have different : other ≠ port := by
      rintro rfl
      rw [found] at there
      cases there
      exact present.2 isolated
    rw [lookup_next, if_neg different, there]

/-! ## One operation, then a run -/

theorem Recorded.disable (recorded : Recorded device initial created state) (port : Port) :
    Recorded device initial created (state.disable device port) :=
  recorded.of_same (by rw [disable_eq]) (by rw [disable_eq]) (by rw [disable_eq])

theorem Recorded.disableFloodSafe (recorded : Recorded device initial created state)
    (port : Port) : Recorded device initial created (state.disableFloodSafe device port) := by
  cases found : state.floodSafe.lookup port with
  | none =>
      rw [disableFloodSafe_of_absent state port found]
      exact recorded.disable port
  | some info =>
      rw [disableFloodSafe_of_record state port found]
      rw [disable_eq]
      exact recorded.of_undo found rfl rfl rfl

theorem Recorded.restorePvid (recorded : Recorded device initial created state)
    (port : Port) : Recorded device initial created (state.restorePvid port) := by
  cases found : state.floodSafe.lookup port with
  | none =>
      rw [restorePvid_of_absent state port found]
      exact recorded
  | some info =>
      obtain ⟨pvid, vlans⟩ :=
        restorePvid_of_record state port found (recorded.bcm port info found).2
      exact recorded.of_undo found (restorePvid_floodSafe_of_record state port found) pvid vlans

/-- Every operation on a port that is free to be isolated keeps the records right. -/
theorem Recorded.apply (recorded : Recorded device initial created state) {op : Op Port}
    (free : ∀ port, op.isolates = some port → port ∉ state.floodSafe) :
    Recorded device initial ((op.isolationVlan device).toList ++ created)
      (apply device state op) := by
  cases op with
  | enable port mode discard =>
      refine recorded.of_same ?_ ?_ ?_ <;>
        cases discard <;> rfl
  | disable port => exact recorded.disable port
  | enableFloodSafe port isolateVid =>
      exact recorded.of_isolation (free port rfl) (remapVid device.worker isolateVid) rfl rfl rfl
  | disableFloodSafe port => exact recorded.disableFloodSafe port
  | isolatePvid port isolateVid =>
      cases flavour : device.isSwitchportOs with
      | true =>
          simp only [Op.isolationVlan, flavour, if_true, Option.toList_none, List.nil_append]
          exact recorded.of_discard (free port rfl)
            (by simp [Loopback.apply, State.isolatePvid, flavour, State.cmd])
            (by simp [Loopback.apply, State.isolatePvid, flavour, State.cmd, Chip.exec])
            (by simp [Loopback.apply, State.isolatePvid, flavour, State.cmd, Chip.exec])
      | false =>
          simp only [Op.isolationVlan, flavour, Bool.false_eq_true, if_false, Option.toList_some,
            List.singleton_append]
          exact recorded.of_isolation (free port rfl) (remapVid device.worker isolateVid)
            (by
              simp [Loopback.apply, State.isolatePvid, flavour, State.cmd, Chip.exec,
                Chip.pvlanShow])
            (by simp [Loopback.apply, State.isolatePvid, flavour, State.cmd, Chip.exec])
            (by simp [Loopback.apply, State.isolatePvid, flavour, State.cmd, Chip.exec])
  | restorePvid port => exact recorded.restorePvid port
  | hold port mode => exact recorded.of_same rfl rfl rfl
  | release port => exact recorded.of_same rfl rfl rfl

def isolationVlans (device : Device Port Bcm) (ops : List (Op Port)) : List Vid :=
  ops.filterMap (Op.isolationVlan device)

omit [DecidableEq Bcm] in
theorem Recorded.mono {fewer : List Vid} (recorded : Recorded device initial created state)
    (subset : fewer ⊆ created) : Recorded device initial fewer state :=
  ⟨recorded.bcm, recorded.pvid, fun vid member => recorded.vlans vid (subset member)⟩

theorem Recorded.run {ops : List (Op Port)} (recorded : Recorded device initial created state)
    (disciplined : Disciplined device ops state) :
    Recorded device initial (isolationVlans device ops ++ created) (run device state ops) := by
  induction ops generalizing state created with
  | nil => exact recorded
  | cons op rest inductionHypothesis =>
      have later := inductionHypothesis (recorded.apply disciplined.1) disciplined.2
      refine later.mono ?_
      intro vid member
      rw [List.mem_append] at member ⊢
      rcases member with new | old
      · obtain ⟨maker, among, made⟩ := List.mem_filterMap.mp new
        rcases List.mem_cons.mp among with rfl | among
        · exact Or.inr (List.mem_append_left _ (by simp [made]))
        · exact Or.inl (List.mem_filterMap.mpr ⟨maker, among, made⟩)
      · exact Or.inr (List.mem_append_right _ old)

/-- The manager of a process that has not looped or isolated anything yet. -/
structure Fresh (start : State Port Bcm) : Prop where
  on : start.on = ∅
  floodSafe : start.floodSafe = ∅
  held : start.held = ∅

theorem recorded_of_fresh {start : State Port Bcm} (fresh : Fresh start) {ops : List (Op Port)}
    (disciplined : Disciplined device ops start) :
    Recorded device (fun port => start.chip.pvid (device.bcmOf port)) (isolationVlans device ops)
      (run device start ops) := by
  have initially : Recorded device (fun port => start.chip.pvid (device.bcmOf port)) [] start := by
    refine ⟨?_, ?_, ?_⟩
    · intro port info found
      rw [fresh.floodSafe, AList.lookup_empty] at found
      cases found
    · intro port
      rw [State.undonePvid, fresh.floodSafe, AList.lookup_empty]
    · intro vid member
      cases member
  simpa using initially.run disciplined

/-! ## `cleanup` -/

/-- What the sweeps can change of one port, its PVID apart. -/
@[ext]
structure PortView (Bcm : Type) where
  record : Option (FloodSafe Bcm)
  loop : Option (LbMode × Bool)
  lb : Option LbMode
  discard : Bool

namespace PortView

variable (view : PortView Bcm)

def flag : Bool :=
  (view.loop.map Prod.snd).getD false

def disable : PortView Bcm :=
  { view with loop := none, lb := none, discard := view.discard && !view.flag }

def disableFloodSafe : PortView Bcm :=
  { view.disable with record := none }

end PortView

def State.look (device : Device Port Bcm) (port : Port) (state : State Port Bcm) :
    PortView Bcm where
  record := state.floodSafe.lookup port
  loop := state.on.lookup port
  lb := state.chip.lb (device.bcmOf port)
  discard := state.chip.discard (device.bcmOf port)

section Look

variable {here port : Port} (state : State Port Bcm)

theorem look_disable_elsewhere (different : port ≠ here) :
    (state.disable device port).look device here = state.look device here := by
  have apart : device.bcmOf here ≠ device.bcmOf port := fun equal =>
    different (device.injective equal.symm)
  simp [State.look, disable_eq, AList.lookup_erase_ne different.symm, apart]

theorem look_disable :
    (state.disable device here).look device here = (state.look device here).disable := by
  simp [State.look, disable_eq, PortView.disable, PortView.flag, State.discardFlag]

theorem look_disableFloodSafe_elsewhere (different : port ≠ here) :
    (state.disableFloodSafe device port).look device here = state.look device here := by
  cases found : state.floodSafe.lookup port with
  | none =>
      rw [disableFloodSafe_of_absent state port found]
      exact look_disable_elsewhere state different
  | some info =>
      rw [disableFloodSafe_of_record state port found, look_disable_elsewhere _ different]
      simp [State.look, AList.lookup_erase_ne different.symm]

theorem look_disableFloodSafe :
    (state.disableFloodSafe device here).look device here =
      (state.look device here).disableFloodSafe := by
  cases found : state.floodSafe.lookup here with
  | none =>
      rw [disableFloodSafe_of_absent state here found, look_disable]
      ext1 <;> simp [PortView.disableFloodSafe, PortView.disable, State.look, found]
  | some info =>
      rw [disableFloodSafe_of_record state here found, look_disable]
      simp [PortView.disableFloodSafe, PortView.disable, PortView.flag, State.look]

end Look

/-- A port the manager tracks, in either dictionary. -/
def Tracked (state : State Port Bcm) (port : Port) : Prop :=
  port ∈ state.on ∨ port ∈ state.floodSafe

variable (device) in
theorem look_cleanup (state : State Port Bcm) (port : Port) :
    (Tracked state port →
      (state.cleanup device).look device port = (state.look device port).disableFloodSafe) ∧
    (¬ Tracked state port →
      (state.cleanup device).look device port = state.look device port) := by
  have first := look_foldl (State.disableFloodSafe device) (State.look device port)
    PortView.disableFloodSafe port state.floodSafe.keys_nodup
    (fun _ _ different state => look_disableFloodSafe_elsewhere state different)
    look_disableFloodSafe state
  generalize middle : state.floodSafe.keys.foldl (State.disableFloodSafe device) state = unsafed
    at first
  have second := look_foldl (State.disable device) (State.look device port)
    PortView.disable port unsafed.on.keys_nodup
    (fun _ _ different state => look_disable_elsewhere state different) look_disable unsafed
  have swept : state.cleanup device = unsafed.on.keys.foldl (State.disable device) unsafed := by
    rw [State.cleanup, middle]
  rw [swept, second]
  by_cases isolated : port ∈ state.floodSafe
  · rw [if_pos (AList.mem_keys.mp isolated)] at first
    have off : port ∉ unsafed.on :=
      AList.lookup_eq_none.mp (congrArg PortView.loop first)
    rw [if_neg (fun member => off (AList.mem_keys.mpr member)), first]
    exact ⟨fun _ => rfl, fun untracked => absurd (Or.inr isolated) untracked⟩
  · rw [if_neg (fun member => isolated (AList.mem_keys.mpr member))] at first
    have same : unsafed.on.lookup port = state.on.lookup port := congrArg PortView.loop first
    have member : port ∈ unsafed.on.keys ↔ port ∈ state.on := by
      rw [← AList.mem_keys, ← AList.lookup_isSome, ← AList.lookup_isSome, same]
    have unrecorded : (state.look device port).record = none := AList.lookup_eq_none.mpr isolated
    by_cases looped : port ∈ state.on
    · rw [if_pos (member.mpr looped), first]
      refine ⟨fun _ => ?_, fun untracked => absurd (Or.inl looped) untracked⟩
      rw [PortView.disableFloodSafe, ← unrecorded]
      rfl
    · rw [if_neg fun present => looped (member.mp present), first]
      exact ⟨fun tracked => absurd tracked (not_or.mpr ⟨looped, isolated⟩), fun _ => rfl⟩

theorem Recorded.cleanup (recorded : Recorded device initial created state) :
    Recorded device initial created (state.cleanup device) := by
  refine foldl_preserves (Recorded device initial created)
    (fun _ port recorded => recorded.disable port) _ ?_
  exact foldl_preserves (Recorded device initial created)
    (fun _ port recorded => recorded.disableFloodSafe port) _ recorded

omit [DecidableEq Bcm] in
/-- With every record gone, the PVIDs are the initial ones and no isolation VLAN is left. -/
theorem Recorded.of_no_record (recorded : Recorded device initial created state)
    (unrecorded : ∀ port, state.floodSafe.lookup port = none) :
    (∀ port, state.chip.pvid (device.bcmOf port) = initial port) ∧
      ∀ vid ∈ created, vid ∉ state.chip.vlans := by
  refine ⟨?_, ?_⟩
  · intro port
    simpa only [State.undonePvid, unrecorded port] using recorded.pvid port
  · intro vid member present
    obtain ⟨port, info, found, _⟩ := recorded.vlans vid member present
    rw [unrecorded port] at found
    cases found

theorem cleanup_unrecorded (state : State Port Bcm) (port : Port) :
    (state.cleanup device).floodSafe.lookup port = none := by
  have looked := look_cleanup device state port
  by_cases tracked : Tracked state port
  · exact congrArg PortView.record (looked.1 tracked)
  · refine (congrArg PortView.record (looked.2 tracked)).trans ?_
    exact AList.lookup_eq_none.mpr fun isolated => tracked (Or.inr isolated)

/-! ## `force_clear_all` -/

/-- The state between the restored isolations and the held ports. -/
def State.swept (device : Device Port Bcm) (state : State Port Bcm) : State Port Bcm :=
  { (({ state.floodSafe.keys.foldl (State.restoreIsolated state.floodSafe) state with
        floodSafe := ∅ } : State Port Bcm).cmd (.portRangeLbNone device.workerPbm)) with
    on := ∅ }

theorem forceClearAll_snd (state : State Port Bcm) :
    (state.forceClearAll device).2 =
      (state.swept device).held.keys.foldl (State.reopen device (state.swept device).held)
        (state.swept device) :=
  rfl

section Restore

variable (records : AList fun _ : Port => FloodSafe Bcm)

theorem restoreIsolated_of_record (state : State Port Bcm) {port : Port} {info : FloodSafe Bcm}
    (found : records.lookup port = some info) :
    state.restoreIsolated records port = { state with chip := undoRecord state.chip info } := by
  simp [State.restoreIsolated, found, State.cmd, undoRecord]

theorem restoreIsolated_of_absent (state : State Port Bcm) {port : Port}
    (missing : records.lookup port = none) : state.restoreIsolated records port = state := by
  simp [State.restoreIsolated, missing]

/-- What the loop over the records leaves as it is. -/
theorem look_foldl_restoreIsolated {View : Type} (look : State Port Bcm → View)
    (unseen : ∀ state info, look { state with chip := undoRecord state.chip info } = look state)
    (keys : List Port) (state : State Port Bcm) :
    look (keys.foldl (State.restoreIsolated records) state) = look state := by
  refine look_foldl_of_unseen (State.restoreIsolated records) look ?_ state
  intro port _ state
  cases found : records.lookup port with
  | none => rw [restoreIsolated_of_absent records state found]
  | some info => rw [restoreIsolated_of_record records state found, unseen]

theorem foldl_restoreIsolated_vlans {vid : Vid} {keys : List Port} {state : State Port Bcm}
    (left : vid ∈ (keys.foldl (State.restoreIsolated records) state).chip.vlans) :
    vid ∈ state.chip.vlans ∧
      ∀ port ∈ keys, ∀ info, records.lookup port = some info → info.iso ≠ some vid := by
  induction keys generalizing state with
  | nil => exact ⟨left, fun _ member => by cases member⟩
  | cons port rest inductionHypothesis =>
      obtain ⟨there, kept⟩ := inductionHypothesis left
      cases found : records.lookup port with
      | none =>
          rw [restoreIsolated_of_absent records state found] at there
          refine ⟨there, ?_⟩
          intro other member info record
          rcases List.mem_cons.mp member with rfl | member
          · rw [found] at record
            cases record
          · exact kept other member info record
      | some here =>
          rw [restoreIsolated_of_record records state found, mem_undoRecord_vlans] at there
          refine ⟨there.1, ?_⟩
          intro other member info record
          rcases List.mem_cons.mp member with rfl | member
          · rw [found] at record
            cases record
            exact there.2
          · exact kept other member info record

end Restore

theorem swept_held (state : State Port Bcm) : (state.swept device).held = state.held :=
  look_foldl_restoreIsolated state.floodSafe State.held (fun _ _ => rfl) _ state

theorem swept_discard (state : State Port Bcm) :
    (state.swept device).chip.discard = state.chip.discard := by
  have kept := look_foldl_restoreIsolated state.floodSafe (fun state => state.chip.discard)
    (fun state info => undoRecord_discard state.chip info) state.floodSafe.keys state
  rw [← kept, State.swept]
  cases device.workerPbm <;> rfl

theorem swept_lb (whole : device.workerPbm = none) (state : State Port Bcm) (bcm : Bcm) :
    (state.swept device).chip.lb bcm = none := by
  rw [State.swept, whole]
  rfl

/-- Undoing the records one by one gives every port the PVID its record holds. -/
theorem Recorded.swept_pvid (recorded : Recorded device initial created state) (port : Port) :
    (state.swept device).chip.pvid (device.bcmOf port) = initial port := by
  have looked := look_foldl (State.restoreIsolated state.floodSafe)
    (fun state => state.chip.pvid (device.bcmOf port))
    (fun vid => ((state.floodSafe.lookup port).bind FloodSafe.orig).getD vid) port
    state.floodSafe.keys_nodup ?_ ?_ state
  · have before := recorded.pvid port
    have same : (state.swept device).chip.pvid =
        (state.floodSafe.keys.foldl (State.restoreIsolated state.floodSafe) state).chip.pvid := by
      rw [State.swept]
      cases device.workerPbm <;> rfl
    rw [same, looked, ← before, State.undonePvid]
    cases found : state.floodSafe.lookup port with
    | none => simp
    | some info => rw [if_pos (AList.mem_keys.mp (AList.lookup_isSome.mp (by simp [found])))]; rfl
  · intro other _ different before
    cases found : state.floodSafe.lookup other with
    | none => rw [restoreIsolated_of_absent _ before found]
    | some info =>
        have apart : device.bcmOf port ≠ info.bcm := by
          rw [(recorded.bcm other info found).1]
          exact fun equal => different (device.injective equal.symm)
        rw [restoreIsolated_of_record _ before found, undoRecord_pvid, if_neg apart]
  · intro before
    cases found : state.floodSafe.lookup port with
    | none => rw [restoreIsolated_of_absent _ before found]; rfl
    | some info =>
        rw [restoreIsolated_of_record _ before found, undoRecord_pvid,
          if_pos (recorded.bcm port info found).1.symm]
        rfl

theorem Recorded.swept_vlans (recorded : Recorded device initial created state) :
    ∀ vid ∈ created, vid ∉ (state.swept device).chip.vlans := by
  intro vid member left
  have same : (state.swept device).chip.vlans =
      (state.floodSafe.keys.foldl (State.restoreIsolated state.floodSafe) state).chip.vlans := by
    rw [State.swept]
    cases device.workerPbm <;> rfl
  rw [same] at left
  obtain ⟨present, undone⟩ := foldl_restoreIsolated_vlans state.floodSafe left
  obtain ⟨port, info, found, isolated⟩ := recorded.vlans vid member present
  have key : port ∈ state.floodSafe.keys :=
    AList.mem_keys.mp (AList.lookup_isSome.mp (by simp [found]))
  exact undone port key info found isolated

/-- Reopening the held ports changes no more than loopback modes on the chip. -/
theorem look_reopened {View : Type} (look : Chip Bcm → View)
    (unseen : ∀ chip lb, look { chip with lb := lb } = look chip) (state : State Port Bcm) :
    look (state.forceClearAll device).2.chip = look (state.swept device).chip := by
  rw [forceClearAll_snd]
  refine look_foldl_of_unseen _ (fun state : State Port Bcm => look state.chip) ?_ _
  intro port _ before
  cases found : (state.swept device).held.lookup port with
  | none => simp only [State.reopen, found]
  | some mode => simpa only [State.reopen, found, State.cmd, Chip.exec] using unseen before.chip _

theorem forceClearAll_lb (whole : device.workerPbm = none) (state : State Port Bcm) {port : Port}
    (unheld : port ∉ state.held) :
    (state.forceClearAll device).2.chip.lb (device.bcmOf port) = none := by
  rw [forceClearAll_snd, ← swept_lb whole state (device.bcmOf port)]
  refine look_foldl_of_unseen _
    (fun state : State Port Bcm => state.chip.lb (device.bcmOf port)) ?_ _
  intro other member before
  have different : port ≠ other := by
    rintro rfl
    rw [swept_held] at member
    exact unheld (AList.mem_keys.mpr member)
  have apart : device.bcmOf port ≠ device.bcmOf other := fun equal =>
    different (device.injective equal)
  cases found : (state.swept device).held.lookup other with
  | none => simp only [State.reopen, found]
  | some mode => simp [State.reopen, found, State.cmd, Chip.exec, apart]

theorem forceClearAll_discard (state : State Port Bcm) :
    (state.forceClearAll device).2.chip.discard = state.chip.discard :=
  (look_reopened Chip.discard (fun _ _ => rfl) state).trans (swept_discard state)

/-! ## What a run followed by a sweep leaves -/

/-- The ports `ports` are as before the run but for loopbacks and discards that are
now off, and no isolation VLAN of the run is left. -/
structure Restores (device : Device Port Bcm) (start : State Port Bcm) (ops : List (Op Port))
    (ports : Port → Prop) (after : State Port Bcm) : Prop where
  lb : ∀ port, ports port → after.chip.lb (device.bcmOf port) = none
  discard : ∀ port, ports port → after.chip.discard (device.bcmOf port) = false
  pvid : ∀ port, ports port →
    after.chip.pvid (device.bcmOf port) = start.chip.pvid (device.bcmOf port)
  vlans : ∀ vid ∈ isolationVlans device ops, vid ∉ after.chip.vlans

def Touched (ops : List (Op Port)) (port : Port) : Prop :=
  ∃ op ∈ ops, op.touches = some port

theorem forceClearAll_restores_iff (whole : device.workerPbm = none) {start : State Port Bcm}
    (fresh : Fresh start) {ops : List (Op Port)} (disciplined : Disciplined device ops start)
    {before : State Port Bcm} (reached : run device start ops = before) (ports : Port → Prop)
    (unheld : ∀ port, ports port → port ∉ before.held) :
    Restores device start ops ports (before.forceClearAll device).2 ↔
      ∀ port, ports port → before.chip.discard (device.bcmOf port) = false := by
  subst reached
  have recorded := recorded_of_fresh fresh disciplined
  refine ⟨fun restored port member => ?_, fun clear => ⟨?_, ?_, ?_, ?_⟩⟩
  · rw [← forceClearAll_discard]
    exact restored.discard port member
  · exact fun port member => forceClearAll_lb whole _ (unheld port member)
  · intro port member
    rw [forceClearAll_discard]
    exact clear port member
  · intro port _
    exact (look_reopened (fun chip => chip.pvid (device.bcmOf port)) (fun _ _ => rfl) _).trans
      (recorded.swept_pvid port)
  · intro vid member
    rw [look_reopened Chip.vlans (fun _ _ => rfl)]
    exact recorded.swept_vlans vid member

theorem cleanup_restores_iff {start : State Port Bcm} (fresh : Fresh start)
    {ops : List (Op Port)} (disciplined : Disciplined device ops start)
    {before : State Port Bcm} (reached : run device start ops = before) :
    Restores device start ops (Tracked before) (before.cleanup device) ↔
      ∀ port, Tracked before port → before.chip.discard (device.bcmOf port) = true →
        before.discardFlag port = true := by
  subst reached
  have recorded := (recorded_of_fresh fresh disciplined).cleanup
  have undone := recorded.of_no_record (cleanup_unrecorded _)
  have settled : ∀ port, Tracked (run device start ops) port →
      ((run device start ops).cleanup device).chip.discard (device.bcmOf port) =
        ((run device start ops).chip.discard (device.bcmOf port) &&
          !(run device start ops).discardFlag port) := fun port tracked =>
    congrArg PortView.discard ((look_cleanup _ _ port).1 tracked)
  refine ⟨fun restored port tracked discarding => ?_, fun flagged => ⟨?_, ?_, ?_, undone.2⟩⟩
  · have off := restored.discard port tracked
    rw [settled port tracked, discarding] at off
    simpa using off
  · exact fun port tracked => congrArg PortView.lb ((look_cleanup _ _ port).1 tracked)
  · intro port tracked
    rw [settled port tracked]
    have flag := flagged port tracked
    cases discarding : (run device start ops).chip.discard (device.bcmOf port) with
    | false => rfl
    | true => rw [flag discarding]; rfl
  · exact fun port _ => undone.1 port

/-- One port of a MAC-loopback platform, on a chip where nothing is looped. -/
def onePort (isSwitchportOs : Bool) : Device Unit Unit where
  bcmOf := id
  injective := Function.injective_id
  mode := .mac
  defaultVlan := 1000
  isSwitchportOs := isSwitchportOs
  worker := 0
  workerPbm := none

def quiet : State Unit Unit where
  on := ∅
  floodSafe := ∅
  held := ∅
  touched := false
  testVlan := none
  chip := { lb := fun _ => none, discard := fun _ => false, pvid := fun _ => 1000, vlans := {1000} }

theorem fresh_quiet : Fresh quiet :=
  ⟨rfl, rfl, rfl⟩

end OnboxFvt.Loopback
