import OnboxFvt.Dlb.Objects

/-!
# Identifiers that are not reused

Each instance numbers its objects from a slot of 256.  As long as the numbers stay in it and none
is taken again before its object has been seen gone, every create is for a VID without a RID, and
kinds and instances have VIDs of their own.
-/

namespace OnboxFvt.Dlb.Objects

open Library

/-- A create numbers its object inside the slot, with a number that is not in use. -/
def Fresh (device : Device) : Action → Prop
  | .create slot kind n _ =>
      0 ≤ n ∧ n < 0x100 ∧ slot ≤ 0x1A0000000000 ∧ vidOf kind slot n ∉ device.used
  | _ => True

/-- The operation creates an object of its slot. -/
def Injection.InSlot (injection : Injection) : Prop :=
  injection.slot ≤ 0x1A0000000000 ∧
    ∃ n : Int, 0 ≤ n ∧ n < 0x100 ∧ injection.vid = vidOf injection.kind injection.slot n

theorem vidOf_ne {kind kind' : Kind} {slot slot' : Nat} {n n' : Int}
    (few : slot ≤ 0x1A0000000000) (few' : slot' ≤ 0x1A0000000000) (low : 0 ≤ n) (high : n < 0x100)
    (low' : 0 ≤ n') (high' : n' < 0x100) (apart : (kind, slot) ≠ (kind', slot')) :
    vidOf kind slot n ≠ vidOf kind' slot' n' := by
  have slots : kind = kind' → slot ≠ slot' := fun kinds same => apart (by rw [kinds, same])
  unfold vidOf
  cases kind <;> cases kind' <;> simp only [Kind.base, forall_const, reduceCtorEq,
    false_implies] at slots ⊢ <;> omega

theorem vid_ne_of_inSlot {first second : Injection} (inFirst : first.InSlot)
    (inSecond : second.InSlot) (apart : (first.kind, first.slot) ≠ (second.kind, second.slot)) :
    first.vid ≠ second.vid := by
  obtain ⟨few, n, low, high, equal⟩ := inFirst
  obtain ⟨few', n', low', high', equal'⟩ := inSecond
  rw [equal, equal']
  exact vidOf_ne few few' low high low' high' apart

/-- The VIDs whose creation is pending. -/
def Device.creating (device : Device) : List Vid :=
  (device.queue.filter fun injection => injection.op = .create).map Injection.vid

/-- A removal that has seen the object there. -/
def Pc.Reaps (pc : Pc) (vid : Vid) : Prop :=
  match pc with
  | .removing _ _ reaped _ | .removed _ reaped _ => reaped = vid
  | _ => False

/-- What has a RID or may get one is used, and was injected once. -/
structure Tracked (device : Device) : Prop where
  live : ∀ vid ∈ device.rids, vid ∈ device.used ∧ vid ∉ device.creating
  pending : ∀ vid ∈ device.creating, vid ∈ device.used
  once : device.creating.Nodup
  reaped : ∀ vid, device.pc.Reaps vid → vid ∉ device.creating
  log : ∀ injection ∈ device.log, injection.op = .create →
    injection.live = false ∧ injection.InSlot

variable {device next : Device}

theorem Tracked.initial : Tracked Device.initial := by
  refine ⟨?_, ?_, ?_, ?_, ?_⟩ <;> simp [Device.initial, Device.creating]

/-- A step that leaves syncd and the numbers alone. -/
theorem Tracked.move (tracked : Tracked device) (rids : next.rids = device.rids)
    (queue : next.queue = device.queue) (used : next.used = device.used)
    (log : next.log = device.log)
    (reaps : ∀ vid, next.pc.Reaps vid → device.pc.Reaps vid ∨ vid ∈ device.rids) :
    Tracked next := by
  have creating : next.creating = device.creating := by
    unfold Device.creating
    rw [queue]
  refine ⟨?_, ?_, ?_, ?_, ?_⟩
  · rw [rids, used, creating]
    exact tracked.live
  · rw [used, creating]
    exact tracked.pending
  · rw [creating]
    exact tracked.once
  · intro vid here
    rw [creating]
    cases reaps vid here with
    | inl before => exact tracked.reaped vid before
    | inr present => exact (tracked.live vid present).2
  · rw [log]
    exact tracked.log

theorem Pc.not_reaps_resume (slot : Nat) (todo : Option (List Record)) (vid : Vid) :
    ¬ (Device.resume slot todo).Reaps vid := by
  cases todo <;> exact id

theorem creating_inject (device : Device) (injection : Injection) :
    (device.inject injection).creating =
      device.creating ++ if injection.op = .create then [injection.vid] else [] := by
  unfold Device.creating Device.inject
  rw [List.filter_append, List.map_append]
  by_cases creates : injection.op = .create <;> simp [creates]

theorem Tracked.create (tracked : Tracked device) {slot : Nat} {kind : Kind} {n : Int}
    {group : Option Vid} (fresh : Fresh device (.create slot kind n group)) :
    Tracked (device.create slot kind (vidOf kind slot n) group) := by
  obtain ⟨low, high, few, unused⟩ := fresh
  have absent : vidOf kind slot n ∉ device.rids := fun present =>
    unused (tracked.live _ present).1
  have creating : (device.create slot kind (vidOf kind slot n) group).creating =
      device.creating ++ [vidOf kind slot n] := creating_inject device _
  refine ⟨?_, ?_, ?_, fun _ reaps => absurd reaps id, ?_⟩
  · intro other present
    obtain ⟨known, settled⟩ := tracked.live other present
    refine ⟨Finset.mem_insert_of_mem known, ?_⟩
    rw [creating, List.mem_append, List.mem_singleton, not_or]
    exact ⟨settled, fun same => absent (same ▸ present)⟩
  · intro other member
    rw [creating, List.mem_append, List.mem_singleton] at member
    cases member with
    | inl before => exact Finset.mem_insert_of_mem (tracked.pending other before)
    | inr same => exact Finset.mem_insert.mpr (Or.inl same)
  · rw [creating, List.nodup_append]
    refine ⟨tracked.once, List.nodup_singleton _, ?_⟩
    intro other member last same
    rw [List.mem_singleton.mp same]
    exact fun equal => unused (equal ▸ tracked.pending other member)
  · intro injection member creates
    cases List.mem_append.mp member with
    | inl before => exact tracked.log injection before creates
    | inr last =>
        rw [List.mem_singleton.mp last]
        exact ⟨decide_eq_false absent, few, n, low, high, rfl⟩

theorem Tracked.push (tracked : Tracked device) {slot : Nat} {kind : Kind} {vid : Vid}
    {todo : Option (List Record)} (here : device.pc = .removing slot kind vid todo) (live : Bool) :
    Tracked { device.inject ⟨.remove, kind, slot, vid, live⟩ with
      pc := .removed slot vid todo } := by
  have creating : (device.inject ⟨.remove, kind, slot, vid, live⟩).creating = device.creating := by
    rw [creating_inject]
    exact List.append_nil _
  refine ⟨?_, ?_, ?_, ?_, ?_⟩
  · intro other present
    obtain ⟨known, settled⟩ := tracked.live other present
    exact ⟨known, creating.symm ▸ settled⟩
  · intro other member
    exact tracked.pending other (creating ▸ member)
  · exact creating.symm ▸ tracked.once
  · intro other reaps member
    exact tracked.reaped other (by rw [here]; exact reaps) (creating ▸ member)
  · intro injection member creates
    cases List.mem_append.mp member with
    | inl before => exact tracked.log injection before creates
    | inr last =>
        rw [List.mem_singleton.mp last] at creates
        cases creates

theorem Tracked.drop (tracked : Tracked device) {slot : Nat} {vid : Vid}
    {todo : Option (List Record)} (here : device.pc = .removed slot vid todo) :
    Tracked (device.drop slot vid todo) := by
  have settled : vid ∉ device.creating := tracked.reaped vid (by rw [here]; rfl)
  have kept : ∀ other ∈ device.used, other ∈ device.rids ∨ other ≠ vid →
      other ∈ (device.drop slot vid todo).used := by
    intro other known reason
    unfold Device.drop
    simp only
    split
    · exact known
    next gone =>
      refine Finset.mem_erase.mpr ⟨?_, known⟩
      cases reason with
      | inl present =>
          rintro rfl
          exact gone present
      | inr different => exact different
  refine ⟨?_, ?_, tracked.once, ?_, tracked.log⟩
  · intro other present
    obtain ⟨known, quiet⟩ := tracked.live other present
    exact ⟨kept other known (Or.inl present), quiet⟩
  · intro other member
    refine kept other (tracked.pending other member) (Or.inr ?_)
    rintro rfl
    exact settled member
  · exact fun other reaps => absurd reaps (Pc.not_reaps_resume slot todo other)

theorem creating_of_queue {injection : Injection} {rest : List Injection}
    (queue : device.queue = injection :: rest) :
    device.creating = (if injection.op = .create then [injection.vid] else []) ++
      ({ device with queue := rest } : Device).creating := by
  unfold Device.creating
  rw [queue]
  by_cases creates : injection.op = .create <;> simp [creates]

/-- What has a RID after an operation had it before, or was just created. -/
theorem mem_rids_of_syncd {injection : Injection} {ok : Bool} {vid : Vid}
    (present : vid ∈ if ok then
        match injection.op with
        | .create => insert injection.vid device.rids
        | .remove => device.rids.erase injection.vid
      else device.rids) :
    vid ∈ device.rids ∨ injection.op = .create ∧ vid = injection.vid := by
  obtain ⟨op, kind, slot, head, live⟩ := injection
  cases ok with
  | false => exact Or.inl present
  | true =>
      cases op with
      | create =>
          cases Finset.mem_insert.mp present with
          | inl same => exact Or.inr ⟨rfl, same⟩
          | inr before => exact Or.inl before
      | remove => exact Or.inl (Finset.mem_of_mem_erase present)

/-- A pending create becomes a live VID or nothing; a remove takes a live VID away. -/
theorem Tracked.syncd (tracked : Tracked device) {injection : Injection} {rest : List Injection}
    (queue : device.queue = injection :: rest) (ok : Bool) :
    Tracked { device with
      queue := rest
      rids := if ok then
          match injection.op with
          | .create => insert injection.vid device.rids
          | .remove => device.rids.erase injection.vid
        else device.rids } := by
  have split := creating_of_queue queue
  have pending : ∀ vid ∈ ({ device with queue := rest } : Device).creating,
      vid ∈ device.creating := by
    intro vid member
    rw [split]
    exact List.mem_append_right _ member
  have once := tracked.once
  rw [split] at once
  refine ⟨?_, ?_, once.of_append_right, ?_, tracked.log⟩
  · intro vid present
    rcases mem_rids_of_syncd present with before | ⟨creates, rfl⟩
    · obtain ⟨known, settled⟩ := tracked.live vid before
      exact ⟨known, fun member => settled (pending vid member)⟩
    · rw [if_pos creates, List.singleton_append] at split once
      refine ⟨tracked.pending injection.vid ?_, (List.nodup_cons.mp once).1⟩
      rw [split]
      exact List.mem_cons_self ..
  · exact fun vid member => tracked.pending vid (pending vid member)
  · exact fun vid reaps member => tracked.reaped vid reaps (pending vid member)

theorem Tracked.step (tracked : Tracked device) {action : Action} (fresh : Fresh device action)
    (stepped : device.step action = some next) : Tracked next := by
  cases action with
  | new =>
      obtain ⟨_, rfl⟩ := Device.step_new.mp stepped
      exact tracked.move rfl rfl rfl rfl fun _ => Or.inl
  | create slot kind n group =>
      obtain ⟨_, rfl⟩ := Device.step_create.mp stepped
      exact tracked.create fresh
  | found =>
      obtain ⟨slot, kind, vid, _, _, rfl⟩ := Device.step_found.mp stepped
      exact tracked.move rfl rfl rfl rfl fun _ reaps => absurd reaps id
  | giveUp =>
      obtain ⟨slot, kind, vid, _, _, rfl⟩ := Device.step_giveUp.mp stepped
      exact tracked.move rfl rfl rfl rfl fun _ reaps => absurd reaps id
  | remove slot kind vid =>
      obtain ⟨_, rfl⟩ := Device.step_remove.mp stepped
      split
      next present =>
        refine tracked.move rfl rfl rfl rfl fun other reaps => Or.inr ?_
        rw [← show vid = other from reaps]
        exact present
      next => exact tracked
  | cleanup slot =>
      obtain ⟨_, rfl⟩ := Device.step_cleanup.mp stepped
      exact tracked.move rfl rfl rfl rfl fun _ reaps => absurd reaps id
  | next =>
      obtain ⟨slot, vid, kind, todo, _, rfl⟩ := Device.step_next.mp stepped
      refine tracked.move rfl rfl rfl rfl fun other reaps => Or.inr ?_
      by_cases present : vid ∈ device.rids
      · rw [if_pos present] at reaps
        rw [← show vid = other from reaps]
        exact present
      · rw [if_neg present] at reaps
        exact absurd reaps id
  | push =>
      obtain ⟨slot, kind, vid, todo, here, rfl⟩ := Device.step_push.mp stepped
      exact tracked.push here _
  | refuse =>
      obtain ⟨slot, kind, vid, todo, _, rfl⟩ := Device.step_refuse.mp stepped
      exact tracked.move rfl rfl rfl rfl fun other reaps =>
        absurd reaps (Pc.not_reaps_resume slot todo other)
  | settle =>
      obtain ⟨slot, vid, todo, here, rfl⟩ := Device.step_settle.mp stepped
      exact tracked.drop here
  | finish =>
      obtain ⟨slot, _, rfl⟩ := Device.step_finish.mp stepped
      exact tracked.move rfl rfl rfl rfl fun _ reaps => absurd reaps id
  | syncd ok =>
      obtain ⟨injection, rest, queue, rfl⟩ := Device.step_syncd.mp stepped
      exact tracked.syncd queue ok

/-- No create was for a VID with a RID, and kinds and instances do not share VIDs. -/
structure Distinct (device : Device) : Prop where
  creates : ∀ injection ∈ device.log, injection.op = .create → injection.live = false
  apart : ∀ first ∈ device.log, ∀ second ∈ device.log, first.op = .create →
    second.op = .create → (first.kind, first.slot) ≠ (second.kind, second.slot) →
    first.vid ≠ second.vid

theorem Tracked.distinct (tracked : Tracked device) : Distinct device where
  creates := fun injection member creates => (tracked.log injection member creates).1
  apart := fun first member second member' creates creates' different =>
    vid_ne_of_inSlot (tracked.log first member creates).2 (tracked.log second member' creates').2
      different

/-- In a run whose creates are all fresh, identifiers are not reused in any state. -/
theorem identifiers_distinct (actions : List Action) (device : Device)
    (fresh : machine.Along Fresh Device.initial actions)
    (reached : machine.run Device.initial actions = some device) : Distinct device := by
  have tracked : Tracked device := machine.invariant_of_run
    (fun tracked fresh stepped => tracked.step fresh stepped) Tracked.initial fresh reached
  exact tracked.distinct

/-- An object of each of two instances. -/
theorem identifiers_distinct_two :
    ∃ device, machine.run Device.initial
        [.new, .create 1 .group 1 none, .syncd true, .found, .new, .create 2 .group 1 none] =
          some device ∧ Distinct device := by
  refine ⟨_, rfl, identifiers_distinct
    [.new, .create 1 .group 1 none, .syncd true, .found, .new, .create 2 .group 1 none] _ ?_ rfl⟩
  have within : ∀ slot : Nat, slot ≤ 2 → slot ≤ 0x1A0000000000 := by omega
  refine ⟨trivial, ?_⟩
  rintro _ ⟨⟩
  refine ⟨⟨by decide, by decide, within 1 (by decide), by decide⟩, ?_⟩
  rintro _ ⟨⟩
  refine ⟨trivial, ?_⟩
  rintro _ ⟨⟩
  refine ⟨trivial, ?_⟩
  rintro _ ⟨⟩
  refine ⟨trivial, ?_⟩
  rintro _ ⟨⟩
  exact ⟨⟨by decide, by decide, within 2 (by decide), by decide⟩, fun _ _ => trivial⟩

/-- A number that is taken twice, and one beyond the slot that is the next instance's. -/
theorem identifiers_reused :
    ¬ (∀ actions device, machine.run Device.initial actions = some device →
        ∀ injection ∈ device.log, injection.op = .create → injection.live = false) ∧
      ¬ ∀ actions device, machine.run Device.initial actions = some device → Distinct device := by
  constructor
  · intro always
    have once := always
      [.new, .create 1 .group 1 none, .syncd true, .found, .create 1 .group 1 none] _ rfl
      ⟨.create, .group, 1, vidOf .group 1 1, true⟩ (by decide) rfl
    cases once
  · intro always
    have distinct := always
      [.new, .new, .create 1 .member 256 none, .giveUp, .create 2 .member 0 none] _ rfl
    exact distinct.apart ⟨.create, .member, 1, vidOf .member 1 256, false⟩ (by decide)
      ⟨.create, .member, 2, vidOf .member 2 0, false⟩ (by decide) rfl rfl (by decide) (by decide)

end OnboxFvt.Dlb.Objects
