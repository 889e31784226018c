import OnboxFvt.Worker.Lanes

/-!
# The way back of a worker

Behind its tests a worker from 2 on resets its role ports, moves them back into the default VLAN of
the device and deletes its own VLAN, while the other workers go on.
-/

namespace OnboxFvt.Worker

open Library Python

namespace Device

def rows (device : Device) (port : Text) : List Member :=
  device.members.filter fun m => decide (m.port = port)

variable {device : Device} {granted : Bool} {command : Command} {port : Text}

theorem mem_rows {m : Member} : m ∈ device.rows port ↔ m ∈ device.members ∧ m.port = port := by
  simp [rows]

theorem rows_exec (other : port ∉ command.ports) :
    (device.exec command).rows port = device.rows port := by
  cases command with
  | memberAdd vid own untagged =>
      have different : own ≠ port := fun same => other (List.mem_singleton.mpr same.symm)
      simp [rows, exec, different]
  | memberDel vid own =>
      have different : own ≠ port := fun same => other (List.mem_singleton.mpr same.symm)
      simp only [rows, exec, List.filter_filter]
      refine List.filter_congr fun m _ => ?_
      by_cases here : m.port = port
      · have elsewhere : m.port ≠ own := fun same => different (same.symm.trans here)
        simp [here, different.symm]
      · simp [here]
  | _ => rfl

theorem rows_answer (other : port ∉ command.ports) :
    (device.answer granted command).2.rows port = device.rows port := by
  rcases device.answer_cases granted command with ⟨-, answered⟩ | answered <;> rw [answered]
  exact rows_exec other

theorem rows_add (vid : Int) (untagged : Bool) :
    (device.exec (.memberAdd vid port untagged)).rows port =
      device.rows port ++ [⟨vid, port, untagged⟩] := by
  simp [rows, exec]

theorem answer_granted (accepted : device.accepts command = true) :
    device.answer true command = (true, device.exec command) := by
  simp [answer, accepted]

theorem answer_refused (refused : device.accepts command = false) :
    device.answer granted command = (false, device) := by
  simp [answer, refused]

end Device

/-! ## What the other workers leave alone -/

/-- A command that keeps the default VLAN `base` and stays out of the VLAN `own`. -/
def Command.Harmless (base own : Int) : Command → Prop
  | vlanAdd vid => vid ≠ own
  | vlanDel vid => vid ≠ base
  | memberAdd vid _ _ => vid ≠ own
  | _ => True

/-- The workers have one default VLAN, which none of them uses otherwise. -/
structure Based (lanes : Int → Option Lane) (base : Int) : Prop where
  same : ∀ {w lane}, lanes w = some lane → lane.topo.baseDefaultVlan = base
  notView : ∀ {w lane}, lanes w = some lane → base ∉ lane.view
  hairpin : ∀ {w lane}, lanes w = some lane →
    lane.topo.hpVlanA ∈ lane.view ∧ lane.topo.hpVlanB ∈ lane.view
  notOwn : ∀ {w lane}, lanes w = some lane → 2 ≤ lane.wid → lane.topo.defaultVlan ≠ base

/-- Only a worker that has moved its ports moves them back. -/
def Stage.Moved : Stage → Prop
  | creating | homing .. | moving .. | leaving .. | rejoining .. | dropping => True
  | _ => False

/-- The hairpin VLANs still to be deleted. -/
def Stage.vids : Stage → List Int
  | clearing vid todo => vid :: todo
  | _ => []

structure Lane.Shaped (lane : Lane) (stage : Stage) : Prop where
  pending : ∀ port ∈ stage.pending, port ∈ lane.roles
  moved : stage.Moved → 2 ≤ lane.wid
  vids : ∀ vid ∈ stage.vids, vid ∈ lane.view

namespace Lane

variable {lane : Lane} {stage : Stage} {todo : List Text}

theorem shaped_home (moves : 2 ≤ lane.wid) (own : ∀ port ∈ todo, port ∈ lane.roles) :
    lane.Shaped (home todo) := by
  refine ⟨by simpa using own, fun _ => moves, ?_⟩
  cases todo <;> exact fun vid none => absurd none List.not_mem_nil

theorem shaped_leave (moves : 2 ≤ lane.wid) (own : ∀ port ∈ todo, port ∈ lane.roles) :
    lane.Shaped (leave todo) := by
  refine ⟨by simpa using own, fun _ => moves, ?_⟩
  cases todo <;> exact fun vid none => absurd none List.not_mem_nil

theorem shaped_restore : lane.Shaped lane.restore := by
  unfold restore
  split
  next moves => exact shaped_leave moves fun port own => own
  next => exact ⟨fun _ none => absurd none List.not_mem_nil, fun none => none.elim,
    fun _ none => absurd none List.not_mem_nil⟩

theorem shaped_clear {vids : List Int} (own : ∀ vid ∈ vids, vid ∈ lane.view) :
    lane.Shaped (lane.clear vids) := by
  cases vids with
  | nil => exact shaped_restore
  | cons => exact ⟨fun _ none => absurd none List.not_mem_nil, fun none => none.elim, own⟩

theorem shaped_reset (hairpin : lane.topo.hpVlanA ∈ lane.view ∧ lane.topo.hpVlanB ∈ lane.view)
    (own : ∀ port ∈ todo, port ∈ lane.roles) : lane.Shaped (lane.reset todo) := by
  cases todo with
  | nil =>
      refine @shaped_clear lane [lane.topo.hpVlanA, lane.topo.hpVlanB] ?_
      rw [List.forall_mem_cons, List.forall_mem_singleton]
      exact hairpin
  | cons => exact ⟨own, fun none => none.elim, fun _ none => absurd none List.not_mem_nil⟩

theorem shaped_start : lane.Shaped lane.start := by
  unfold start
  split
  next moves => exact ⟨fun _ none => absurd none List.not_mem_nil, fun _ => moves,
    fun _ none => absurd none List.not_mem_nil⟩
  next => exact ⟨fun _ none => absurd none List.not_mem_nil, fun none => none.elim,
    fun _ none => absurd none List.not_mem_nil⟩

theorem Shaped.next (shaped : lane.Shaped stage)
    (hairpin : lane.topo.hpVlanA ∈ lane.view ∧ lane.topo.hpVlanB ∈ lane.view) (accepted : Bool) :
    lane.Shaped (lane.next accepted stage) := by
  have rest : ∀ {first : Text} {todo : List Text}, (∀ port ∈ first :: todo, port ∈ lane.roles) →
      ∀ port ∈ todo, port ∈ lane.roles :=
    fun own port member => own port (List.mem_cons_of_mem _ member)
  cases stage with
  | testing | ended | exited => exact shaped
  | creating => exact shaped_home (shaped.moved trivial) fun port own => own
  | homing | leaving => exact ⟨shaped.pending, shaped.moved, shaped.vids⟩
  | resetting => exact ⟨shaped.pending, fun none => none.elim, shaped.vids⟩
  | moving port todo =>
      cases accepted with
      | true => exact shaped_home (shaped.moved trivial) (rest shaped.pending)
      | false => exact ⟨fun _ none => absurd none List.not_mem_nil, fun none => none.elim,
          fun _ none => absurd none List.not_mem_nil⟩
  | rehoming port todo => exact shaped_reset hairpin (rest shaped.pending)
  | clearing vid todo =>
      exact shaped_clear fun other member => shaped.vids other (List.mem_cons_of_mem _ member)
  | rejoining port todo => exact shaped_leave (shaped.moved trivial) (rest shaped.pending)
  | dropping => exact ⟨fun _ none => absurd none List.not_mem_nil, fun none => none.elim,
      fun _ none => absurd none List.not_mem_nil⟩

section Harmless

variable {lanes : Int → Option Lane} {base own w : Int} {command : Command}

theorem harmless_of_command? (based : Based lanes base) (known : lanes w = some lane)
    (shaped : lane.Shaped stage) (foreign : own ∉ lane.domain) (notBase : own ≠ base)
    (given : lane.command? stage = some command) : command.Harmless base own := by
  have notOwn : lane.topo.defaultVlan ≠ own := by
    rintro rfl
    exact foreign (List.mem_cons_self ..)
  cases stage with
  | testing | ended | exited => cases given
  | creating | moving | rehoming =>
      cases given
      exact notOwn
  | homing | resetting | leaving =>
      cases given
      trivial
  | clearing vid todo =>
      cases given
      rintro rfl
      exact based.notView known (shaped.vids _ (List.mem_cons_self ..))
  | rejoining port todo =>
      cases given
      rw [based.same known]
      exact notBase.symm
  | dropping =>
      cases given
      exact based.notOwn known (shaped.moved trivial)

theorem harmless_of_permits (based : Based lanes base) (known : lanes w = some lane)
    (foreign : own ∉ lane.domain) (permitted : lane.permits command = true) :
    command.Harmless base own := by
  cases command with
  | vlanAdd vid =>
      rintro rfl
      exact foreign (List.mem_cons_of_mem _ (of_decide_eq_true permitted))
  | vlanDel vid =>
      rintro rfl
      exact based.notView known (of_decide_eq_true permitted)
  | memberAdd vid port untagged =>
      rintro rfl
      exact foreign (of_decide_eq_true (Bool.and_eq_true_iff.mp permitted).1)
  | memberDel | loopback => trivial

end Harmless

end Lane

/-! ## What the way back has done so far -/

namespace Lane

variable (lane : Lane)

/-- At most one row, that of the worker's own VLAN. -/
def Stays (port : Text) (rows : List Member) : Prop :=
  ∀ m ∈ rows, m = ⟨lane.topo.defaultVlan, port, true⟩

def Back (port : Text) (rows : List Member) : Prop :=
  rows = [⟨lane.topo.baseDefaultVlan, port, true⟩]

def Expects (port : Text) (rows : List Member) : Stage → Prop
  | .resetting .. | .rehoming .. | .clearing .. => lane.Stays port rows
  | .leaving first todo =>
      (port ∈ first :: todo → lane.Stays port rows) ∧ (port ∉ first :: todo → lane.Back port rows)
  | .rejoining first todo =>
      (port = first → rows = []) ∧ (port ∈ todo → lane.Stays port rows) ∧
        (port ∉ first :: todo → lane.Back port rows)
  | .dropping | .ended => lane.Back port rows
  | _ => True

structure Returns (device : Device) (stage : Stage) : Prop where
  base : lane.topo.baseDefaultVlan ∈ device.vlans
  own : ∀ m ∈ device.members, m.vid = lane.topo.defaultVlan → m.port ∈ lane.roles
  rows : ∀ port ∈ lane.roles, lane.Expects port (device.rows port) stage
  distinct : stage.pending.Nodup
  gone : stage = .ended → lane.topo.defaultVlan ∉ device.vlans

variable {lane}

theorem expects_home (port : Text) (rows : List Member) (todo : List Text) :
    lane.Expects port rows (home todo) := by
  cases todo <;> trivial

theorem expects_reset (port : Text) (rows : List Member) (todo : List Text) :
    lane.Expects port rows (lane.reset todo) ↔ lane.Stays port rows := by
  cases todo <;> rfl

theorem expects_leave (port : Text) (rows : List Member) (todo : List Text) :
    lane.Expects port rows (leave todo) ↔
      (port ∈ todo → lane.Stays port rows) ∧ (port ∉ todo → lane.Back port rows) := by
  cases todo with
  | nil => simp [leave, Expects]
  | cons => rfl

theorem restore_of_moves (moves : 2 ≤ lane.wid) : lane.restore = leave lane.roles :=
  if_pos moves

namespace Returns

variable {device : Device} {stage : Stage} {command : Command}

theorem base_kept {base : Int} (listed : base ∈ device.vlans) (granted : Bool)
    (keeps : ∀ vid, command = .vlanDel vid → vid ≠ base) :
    base ∈ (device.answer granted command).2.vlans := by
  rcases device.answer_cases granted command with ⟨-, answered⟩ | answered <;> rw [answered]
  · cases command with
    | vlanAdd vid => exact List.mem_cons_of_mem _ listed
    | vlanDel vid => exact List.mem_filter.mpr ⟨listed, decide_eq_true (keeps vid rfl).symm⟩
    | _ => exact listed
  · exact listed

theorem gone_kept {own : Int} (notListed : own ∉ device.vlans) (granted : Bool)
    (keeps : ∀ vid, command = .vlanAdd vid → vid ≠ own) :
    own ∉ (device.answer granted command).2.vlans := by
  rcases device.answer_cases granted command with ⟨-, answered⟩ | answered <;> rw [answered]
  · cases command with
    | vlanAdd vid => exact List.not_mem_cons_of_ne_of_not_mem (keeps vid rfl).symm notListed
    | vlanDel vid => exact fun listed => notListed (List.mem_of_mem_filter listed)
    | _ => exact notListed
  · exact notListed

theorem mem_answer {granted : Bool} {m : Member}
    (listed : m ∈ (device.answer granted command).2.members) :
    m ∈ device.members ∨ command = .memberAdd m.vid m.port m.untagged := by
  rcases device.answer_cases granted command with ⟨-, answered⟩ | answered <;>
    rw [answered] at listed
  · cases command with
    | memberAdd vid port untagged =>
        rcases List.mem_append.mp listed with old | new
        · exact .inl old
        · rw [List.mem_singleton.mp new]
          exact .inr rfl
    | memberDel vid port => exact .inl (List.mem_of_mem_filter listed)
    | _ => exact .inl listed
  · exact .inl listed

/-- The steps of the other workers. -/
theorem frame (returns : lane.Returns device stage) (granted : Bool)
    (harmless : command.Harmless lane.topo.baseDefaultVlan lane.topo.defaultVlan)
    (others : ∀ port ∈ command.ports, port ∉ lane.roles) :
    lane.Returns (device.answer granted command).2 stage := by
  refine ⟨base_kept returns.base granted ?_, fun m listed inOwn => ?_, fun port own => ?_,
    returns.distinct, fun finished => gone_kept (returns.gone finished) granted ?_⟩
  · rintro vid rfl
    exact harmless
  · rcases mem_answer listed with old | rfl
    · exact returns.own m old inOwn
    · exact absurd inOwn harmless
  · rw [Device.rows_answer fun handled => others port handled own]
    exact returns.rows port own
  · rintro vid rfl
    exact harmless

/-- What a command of the worker itself keeps, whatever the ports are at. -/
theorem of_rows (returns : lane.Returns device stage) (shaped : lane.Shaped stage)
    (given : lane.command? stage = some command)
    (keeps : ∀ vid, command = .vlanDel vid → vid ≠ lane.topo.baseDefaultVlan) {stage' : Stage}
    (rows : ∀ port ∈ lane.roles,
      lane.Expects port ((device.answer true command).2.rows port) stage')
    (distinct : stage'.pending.Nodup)
    (gone : stage' = .ended →
      lane.topo.defaultVlan ∉ (device.answer true command).2.vlans) :
    lane.Returns (device.answer true command).2 stage' := by
  refine ⟨base_kept returns.base true keeps, fun m listed inOwn => ?_, rows, distinct, gone⟩
  rcases mem_answer listed with old | rfl
  · exact returns.own m old inOwn
  · exact shaped.pending _ (ports_of_command? given _ (List.mem_singleton_self _))

theorem rehoming_rows {port : Text} {todo : List Text}
    (returns : lane.Returns device (.rehoming port todo)) (other : Text)
    (own : other ∈ lane.roles) :
    lane.Stays other
      ((device.answer true (.memberAdd lane.topo.defaultVlan port true)).2.rows other) := by
  have stays : lane.Stays other (device.rows other) := returns.rows other own
  by_cases same : other = port
  · subst same
    rcases device.answer_cases true (.memberAdd lane.topo.defaultVlan other true) with
      ⟨-, answered⟩ | answered <;> rw [answered]
    · rw [Device.rows_add]
      exact List.forall_mem_append.mpr ⟨stays, List.forall_mem_singleton.mpr rfl⟩
    · exact stays
  · rw [Device.rows_answer (List.not_mem_cons_of_ne_of_not_mem same List.not_mem_nil)]
    exact stays

theorem leaving_rows {port : Text} {todo : List Text}
    (returns : lane.Returns device (.leaving port todo)) (other : Text) (own : other ∈ lane.roles) :
    lane.Expects other
      ((device.answer true (.memberDel lane.topo.defaultVlan port)).2.rows other)
      (.rejoining port todo) := by
  obtain ⟨stays, back⟩ := returns.rows other own
  have elsewhere : other ≠ port →
      (device.answer true (.memberDel lane.topo.defaultVlan port)).2.rows other =
        device.rows other :=
    fun different => Device.rows_answer
      (List.not_mem_cons_of_ne_of_not_mem different List.not_mem_nil)
  have fresh : port ∉ todo := (List.nodup_cons.mp returns.distinct).1
  refine ⟨?_, fun later => ?_, fun done => ?_⟩
  · rintro rfl
    refine List.eq_nil_iff_forall_not_mem.mpr fun m member => ?_
    rcases device.answer_cases true (.memberDel lane.topo.defaultVlan other) with
      ⟨-, answered⟩ | answered
    · rw [answered, Device.mem_rows] at member
      obtain ⟨kept, here⟩ := member
      obtain ⟨listed, remaining⟩ := List.mem_filter.mp kept
      have row := stays (List.mem_cons_self ..) m (Device.mem_rows.mpr ⟨listed, here⟩)
      exact of_decide_eq_true remaining (by rw [row]; exact ⟨rfl, rfl⟩)
    · have row := member
      rw [answered] at row
      have accepted : device.accepts (.memberDel lane.topo.defaultVlan other) = true := by
        refine List.any_eq_true.mpr ⟨m, (Device.mem_rows.mp row).1, decide_eq_true ?_⟩
        rw [stays (List.mem_cons_self ..) m row]
        exact ⟨rfl, rfl⟩
      rw [Device.answer_granted accepted] at answered
      cases answered
  · have different : other ≠ port := by
      rintro rfl
      exact fresh later
    rw [elsewhere different]
    exact stays (List.mem_cons_of_mem _ later)
  · rw [elsewhere (List.ne_of_not_mem_cons done)]
    exact back done

theorem rejoining_rows {port : Text} {todo : List Text}
    (returns : lane.Returns device (.rejoining port todo)) (other : Text)
    (own : other ∈ lane.roles) :
    lane.Expects other
      ((device.answer true (.memberAdd lane.topo.baseDefaultVlan port true)).2.rows other)
      (leave todo) := by
  obtain ⟨gone, stays, back⟩ := returns.rows other own
  have elsewhere : other ≠ port →
      (device.answer true (.memberAdd lane.topo.baseDefaultVlan port true)).2.rows other =
        device.rows other :=
    fun different => Device.rows_answer
      (List.not_mem_cons_of_ne_of_not_mem different List.not_mem_nil)
  have fresh : port ∉ todo := (List.nodup_cons.mp returns.distinct).1
  rw [expects_leave]
  refine ⟨fun later => ?_, fun done => ?_⟩
  · have different : other ≠ port := by
      rintro rfl
      exact fresh later
    rw [elsewhere different]
    exact stays later
  · by_cases same : other = port
    · subst same
      have accepted : device.accepts (.memberAdd lane.topo.baseDefaultVlan other true) = true := by
        refine Bool.and_eq_true_iff.mpr ⟨decide_eq_true returns.base, List.all_eq_true.mpr ?_⟩
        intro m listed
        refine Bool.or_eq_true_iff.mpr (.inl (decide_eq_true fun here => ?_))
        have row := Device.mem_rows.mpr ⟨listed, here⟩
        rw [gone rfl] at row
        exact List.not_mem_nil row
      rw [Device.answer_granted accepted, Device.rows_add, gone rfl]
      rfl
    · rw [elsewhere same]
      exact back (List.not_mem_cons_of_ne_of_not_mem same done)

/-- No port is left in the VLAN, so that it can be deleted. -/
theorem dropping_gone (separate : lane.topo.defaultVlan ≠ lane.topo.baseDefaultVlan)
    (returns : lane.Returns device .dropping) :
    lane.topo.defaultVlan ∉ (device.answer true (.vlanDel lane.topo.defaultVlan)).2.vlans := by
  by_cases listed : lane.topo.defaultVlan ∈ device.vlans
  · have accepted : device.accepts (.vlanDel lane.topo.defaultVlan) = true := by
      refine Bool.and_eq_true_iff.mpr ⟨decide_eq_true listed, List.all_eq_true.mpr ?_⟩
      refine fun m member => decide_eq_true fun inOwn => ?_
      have row := Device.mem_rows.mpr ⟨member, rfl⟩
      rw [returns.rows m.port (returns.own m member inOwn), List.mem_singleton] at row
      rw [row] at inOwn
      exact separate inOwn.symm
    rw [Device.answer_granted accepted]
    intro kept
    exact of_decide_eq_true (List.mem_filter.mp kept).2 rfl
  · apply gone_kept listed
    rintro vid deletes
    cases deletes

theorem session {base : Int} {lanes : Int → Option Lane} {w : Int} (based : Based lanes base)
    (known : lanes w = some lane) (moves : 2 ≤ lane.wid) (distinct : lane.roles.Nodup)
    (shaped : lane.Shaped stage) (returns : lane.Returns device stage)
    (given : lane.command? stage = some command) :
    lane.Returns (device.answer true command).2
      (lane.next (device.answer true command).1 stage) := by
  have separate : lane.topo.defaultVlan ≠ lane.topo.baseDefaultVlan := by
    rw [based.same known]
    exact based.notOwn known moves
  have later : ∀ {port : Text} {todo : List Text}, (port :: todo).Nodup → todo.Nodup :=
    fun all => (List.nodup_cons.mp all).2
  cases stage with
  | testing | ended | exited => cases given
  | creating =>
      cases given
      refine returns.of_rows shaped rfl (fun _ no => Command.noConfusion no) (fun _ _ => ?_) ?_ ?_
      · exact expects_home ..
      · exact (pending_home _).symm ▸ distinct
      · intro finished
        rw [next] at finished
        cases roles : lane.roles <;> rw [roles] at finished <;> cases finished
  | homing port todo =>
      cases given
      exact returns.of_rows shaped rfl (fun _ no => Command.noConfusion no) (fun _ _ => trivial)
        returns.distinct (fun finished => Stage.noConfusion finished)
  | moving port todo =>
      cases given
      have onward : lane.next (device.answer true (.memberAdd lane.topo.defaultVlan port true)).1
            (.moving port todo) = home todo ∨
          lane.next (device.answer true (.memberAdd lane.topo.defaultVlan port true)).1
            (.moving port todo) = .exited := by
        rw [next]
        split
        · exact .inl rfl
        · exact .inr rfl
      rcases onward with there | there <;> rw [there]
      · refine returns.of_rows shaped rfl (fun _ no => Command.noConfusion no) (fun _ _ => ?_) ?_
          ?_
        · exact expects_home ..
        · exact (pending_home _).symm ▸ later returns.distinct
        · intro finished
          cases todo <;> cases finished
      · exact returns.of_rows shaped rfl (fun _ no => Command.noConfusion no) (fun _ _ => trivial)
          List.nodup_nil (fun finished => Stage.noConfusion finished)
  | resetting port todo =>
      cases given
      refine returns.of_rows shaped rfl (fun _ no => Command.noConfusion no) (fun other own => ?_)
        returns.distinct (fun finished => Stage.noConfusion finished)
      exact returns.rows other own
  | rehoming port todo =>
      cases given
      refine returns.of_rows shaped rfl (fun _ no => Command.noConfusion no)
        (fun other own => ?_) ?_ ?_
      · exact (expects_reset ..).mpr (returns.rehoming_rows other own)
      · exact (lane.pending_reset _).symm ▸ later returns.distinct
      · intro finished
        cases todo <;> cases finished
  | clearing vid todo =>
      cases given
      have notBase : ∀ vid', Command.vlanDel vid = .vlanDel vid' →
          vid' ≠ lane.topo.baseDefaultVlan := by
        rintro _ same rfl
        cases same
        rw [based.same known] at shaped
        exact based.notView known (shaped.vids _ (List.mem_cons_self ..))
      have stays : ∀ port ∈ lane.roles, lane.Stays port
          ((device.answer true (.vlanDel vid)).2.rows port) := by
        intro port own
        rw [Device.rows_answer List.not_mem_nil]
        exact returns.rows port own
      cases todo with
      | nil =>
          rw [next, clear, restore_of_moves moves]
          refine returns.of_rows shaped rfl notBase (fun port own => ?_) ?_ ?_
          · exact (expects_leave ..).mpr ⟨fun _ => stays port own, fun none => absurd own none⟩
          · exact (pending_leave _).symm ▸ distinct
          · intro finished
            cases roles : lane.roles <;> rw [roles] at finished <;> cases finished
      | cons vid' rest =>
          exact returns.of_rows shaped rfl notBase stays List.nodup_nil
            fun finished => Stage.noConfusion finished
  | leaving port todo =>
      cases given
      exact returns.of_rows shaped rfl (fun _ no => Command.noConfusion no) returns.leaving_rows
        returns.distinct (fun finished => Stage.noConfusion finished)
  | rejoining port todo =>
      cases given
      refine returns.of_rows shaped rfl (fun _ no => Command.noConfusion no)
        returns.rejoining_rows ?_ ?_
      · exact (pending_leave _).symm ▸ later returns.distinct
      · intro finished
        cases todo <;> cases finished
  | dropping =>
      cases given
      refine returns.of_rows shaped rfl ?_ (fun port own => ?_) List.nodup_nil
        fun _ => returns.dropping_gone separate
      · rintro vid same
        cases same
        exact separate
      · rw [Device.rows_answer List.not_mem_nil]
        exact returns.rows port own

theorem finish (distinct : lane.roles.Nodup) (returns : lane.Returns device .testing)
    (cleaned : ∀ port ∈ lane.roles, lane.Stays port (device.rows port)) :
    lane.Returns device (lane.reset lane.roles) := by
  refine ⟨returns.base, returns.own, fun port own => ?_, ?_, fun finished => ?_⟩
  · exact (expects_reset ..).mpr (cleaned port own)
  · exact (lane.pending_reset _).symm ▸ distinct
  · cases roles : lane.roles <;> rw [roles] at finished <;> cases finished

theorem test (returns : lane.Returns device .testing)
    (granted : Bool) (permitted : lane.permits command = true)
    (notBase : lane.topo.baseDefaultVlan ∉ lane.view) :
    lane.Returns (device.answer granted command).2 .testing := by
  refine ⟨base_kept returns.base granted ?_, fun m listed inOwn => ?_, fun _ _ => trivial,
    List.nodup_nil, fun finished => Stage.noConfusion finished⟩
  · rintro vid rfl rfl
    exact notBase (of_decide_eq_true permitted)
  · rcases mem_answer listed with old | rfl
    · exact returns.own m old inOwn
    · exact ports_of_permits permitted _ (List.mem_singleton_self _)

end Returns

end Lane

/-! ## Runs -/

/-- The device and the tests of worker `w` do their part: the commands of its session are refused
only where a check of the device fails, its tests leave no port in another VLAN, and no
`suite_reset` raises. -/
def Allows (lanes : Int → Option Lane) (w : Int) (state : State) : Action → Prop
  | .session v granted => v = w → granted = true
  | .test .. => True
  | .finish v => v = w → ∀ lane, lanes w = some lane →
      ∀ port ∈ lane.roles, lane.Stays port (state.device.rows port)
  | .cut _ => False

structure OnTheWay (lanes : Int → Option Lane) (w : Int) (lane : Lane) (state : State) : Prop where
  kept : Kept lanes state
  shaped : ∀ v lane', lanes v = some lane' → lane'.Shaped (state.stage v)
  returns : lane.Returns state.device (state.stage w)

section Runs

variable {lanes : Int → Option Lane} {base w : Int} {lane : Lane} {state next : State}
  {action : Action}

theorem shaped_step (based : Based lanes base)
    (shaped : ∀ v lane', lanes v = some lane' → lane'.Shaped (state.stage v))
    (stepped : (workers lanes).step state action = some next) :
    ∀ v lane', lanes v = some lane' → lane'.Shaped (next.stage v) := by
  intro v lane' known'
  obtain ⟨u, other, known, own⟩ := step_cases stepped
  have elsewhere : ∀ (device : Device) (stage : Stage), v ≠ u →
      lane'.Shaped ((State.proceed ⟨device, state.stage⟩ u stage).stage v) := by
    intro device stage different
    rw [State.stage_proceed_of_ne _ different]
    exact shaped v lane' known'
  rcases own with ⟨granted, command, -, -, rfl⟩ | ⟨granted, command, -, -, rfl⟩ | ⟨-, -, rfl⟩ |
    ⟨-, rfl⟩
  · by_cases same : v = u
    · subst same
      cases known.symm.trans known'
      rw [State.stage_proceed]
      exact (shaped v lane' known').next (based.hairpin known') _
    · exact elsewhere _ _ same
  · exact shaped v lane' known'
  · by_cases same : v = u
    · subst same
      cases known.symm.trans known'
      rw [State.stage_proceed]
      exact Lane.shaped_reset (based.hairpin known') fun port member => member
    · exact elsewhere _ _ same
  · by_cases same : v = u
    · subst same
      cases known.symm.trans known'
      rw [State.stage_proceed]
      exact Lane.shaped_restore
    · exact elsewhere _ _ same

theorem OnTheWay.step (apart : Apart lanes) (based : Based lanes base)
    (known : lanes w = some lane) (moves : 2 ≤ lane.wid) (distinct : lane.roles.Nodup)
    (way : OnTheWay lanes w lane state) (allowed : Allows lanes w state action)
    (stepped : (workers lanes).step state action = some next) : OnTheWay lanes w lane next := by
  have whole : ∀ v, action ≠ .cut v := by
    rintro v rfl
    exact allowed
  refine ⟨way.kept.step apart whole stepped, shaped_step based way.shaped stepped, ?_⟩
  have mine := way.returns
  obtain ⟨u, other, known', own⟩ := step_cases stepped
  have notBase : lane.topo.defaultVlan ≠ lane.topo.baseDefaultVlan := by
    rw [based.same known]
    exact based.notOwn known moves
  by_cases same : w = u
  · subst same
    cases known.symm.trans known'
    rcases own with ⟨granted, command, rfl, given, rfl⟩ |
      ⟨granted, command, testing, permitted, rfl⟩ | ⟨rfl, testing, rfl⟩ | ⟨rfl, -⟩
    · cases allowed rfl
      rw [State.stage_proceed]
      exact mine.session based known moves distinct (way.shaped w lane known) given
    · rw [testing] at mine
      dsimp only
      rw [testing]
      apply mine.test granted permitted
      rw [based.same known]
      exact based.notView known
    · rw [State.stage_proceed]
      rw [testing] at mine
      exact mine.finish distinct (allowed rfl lane known)
    · exact allowed.elim
  · have foreign : lane.topo.defaultVlan ∉ other.domain :=
      apart.domain known known' same _ (List.mem_cons_self ..)
    have others : ∀ port ∈ other.roles, port ∉ lane.roles :=
      fun port theirs own => apart.roles known known' same port own theirs
    rcases own with ⟨granted, command, -, given, rfl⟩ | ⟨granted, command, -, permitted, rfl⟩ |
      ⟨-, -, rfl⟩ | ⟨rfl, -⟩
    · rw [State.stage_proceed_of_ne _ same]
      have shaped := way.shaped u other known'
      have harmless : command.Harmless lane.topo.baseDefaultVlan lane.topo.defaultVlan := by
        rw [based.same known]
        rw [based.same known] at notBase
        exact Lane.harmless_of_command? based known' shaped foreign notBase given
      exact mine.frame granted harmless fun port member =>
        others port (shaped.pending port (Lane.ports_of_command? given port member))
    · have harmless : command.Harmless lane.topo.baseDefaultVlan lane.topo.defaultVlan := by
        rw [based.same known]
        exact Lane.harmless_of_permits based known' foreign permitted
      exact mine.frame granted harmless fun port member =>
        others port (Lane.ports_of_permits permitted port member)
    · rw [State.stage_proceed_of_ne _ same]
      exact mine
    · exact allowed.elim

end Runs

/-! ## The workers of a shipped profile -/

theorem base_notMem_vlanView : ∀ profile ∈ shippedProfiles, ∀ w ∈ [(1 : Int), 2],
    (Topology.ofProfile w profile).baseDefaultVlan ∉ vlanView w profile := by
  decide

theorem block_nodup : ∀ profile ∈ shippedProfiles, ∀ w ∈ [(1 : Int), 2],
    ∀ block ∈ lookupBlock w profile.workers, block.Nodup := by
  decide

theorem mem_workers_of_known {profile : Profile} (shipped : profile ∈ shippedProfiles)
    {ports : List Text} {w : Int} {lane : Lane} (known : lanesOf profile ports w = some lane) :
    w ∈ [(1 : Int), 2] := by
  have bounds := (lanesOf_eq_some known).1.le_two shipped
  obtain rfl | rfl : w = 1 ∨ w = 2 := by omega
  · exact List.mem_cons_self ..
  · exact List.mem_cons_of_mem _ (List.mem_cons_self ..)

theorem based_of_shipped {profile : Profile} (shipped : profile ∈ shippedProfiles)
    (ports : List Text) : Based (lanesOf profile ports) (profile.defaultVlan.getD 1000) := by
  refine ⟨fun {w lane} known => ?_, fun {w lane} known => ?_, fun {w lane} known => ?_,
    fun {w lane} known moves => ?_⟩
  · obtain ⟨-, block, -, rfl⟩ := lanesOf_eq_some known
    rfl
  · have number := mem_workers_of_known shipped known
    obtain ⟨-, block, -, rfl⟩ := lanesOf_eq_some known
    exact base_notMem_vlanView profile shipped w number
  · obtain ⟨-, block, -, rfl⟩ := lanesOf_eq_some known
    simp [vlanView]
  · obtain ⟨-, block, -, rfl⟩ := lanesOf_eq_some known
    dsimp only [Topology.ofProfile, remapDefaultVlan] at moves ⊢
    rw [if_neg (by omega)]
    omega

theorem roles_nodup {profile : Profile} (shipped : profile ∈ shippedProfiles)
    {ports : List Text} {w : Int} {lane : Lane} (known : lanesOf profile ports w = some lane) :
    lane.roles.Nodup := by
  have number := mem_workers_of_known shipped known
  obtain ⟨-, block, found, rfl⟩ := lanesOf_eq_some known
  exact (block_nodup profile shipped w number block found).sublist (List.take_sublist ..)

def awayRun : List Action :=
  List.replicate 17 (.session 2 true) ++ [.test 1 true (.loopback "Ethernet1".toList true)]

def backRun : List Action :=
  List.replicate 35 (.session 2 true)

theorem awayRun_isSome : ((workers bothLanes).run bothStart awayRun).isSome = true := by
  decide

theorem wholeRun_isSome :
    ((workers bothLanes).run bothStart (awayRun ++ .finish 2 :: backRun)).isSome = true := by
  decide

end OnboxFvt.Worker
