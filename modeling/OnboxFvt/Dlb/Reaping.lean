import OnboxFvt.Dlb.Objects

/-!
# What a cleanup leaves

The records are what the calls have seen: an object that gets its RID after `wait_rid` gave up is
not recorded, and one whose removal is still to come is no longer.  Where syncd is done before
the calls look, the records are exactly the live objects and a cleanup leaves none.
-/

namespace OnboxFvt.Dlb.Objects

open Library

/-- Instance number `slot`, before its first call. -/
def Device.alone (slot : Nat) : Device :=
  { Device.initial with sequence := slot }

/-- The calls are on the one instance, with numbers not in use, and remove no group with live
members; syncd is done with each operation before the call that waits for it ends; the queues
always go quiet. -/
def Timely (slot : Nat) (device : Device) : Action → Prop
  | .new | .refuse => False
  | .create own kind n group =>
      own = slot ∧ vidOf kind own n ∉ device.used ∧
        ∀ vid, group = some vid → vid ∈ (device.created slot).map Prod.fst
  | .giveUp => device.queue = []
  | .settle => ∀ own vid todo, device.pc = .removed own vid todo → vid ∉ device.rids
  | .remove own _ vid => own = slot ∧ ∀ member ∈ device.rids, device.groupOf member ≠ some vid
  | .cleanup own => own = slot
  | _ => True

/-- The VIDs the instance has records of. -/
def Device.vids (device : Device) (slot : Nat) : List Vid :=
  (device.created slot).map Prod.fst

/-- All VIDs but perhaps one have a RID if and only if they are recorded. -/
def MirrorsBut (slot : Nat) (device : Device) (busy : Vid → Prop) : Prop :=
  ∀ vid, ¬ busy vid → (vid ∈ device.rids ↔ vid ∈ device.vids slot)

def Unparented (slot : Nat) (device : Device) (group : Vid) : Prop :=
  ∀ member ∈ device.vids slot, device.groupOf member ≠ some group

/-- In a cleanup, the records are those of the removal at hand and those still to come. -/
def Rest (slot : Nat) (device : Device) (vid : Vid) (todo : Option (List Record)) : Prop :=
  ∀ records, todo = some records → ∃ kind, device.created slot = records.reverse ++ [(vid, kind)]

def Phase (slot : Nat) (device : Device) : Prop :=
  match device.pc with
  | .idle => device.queue = [] ∧ MirrorsBut slot device fun _ => False
  | .cleaning own todo =>
      own = slot ∧ device.queue = [] ∧ MirrorsBut slot device (fun _ => False) ∧
        device.created slot = todo.reverse
  | .waiting own _ vid =>
      own = slot ∧ vid ∉ device.vids slot ∧ MirrorsBut slot device (· = vid) ∧
        (device.queue = [] ∨ vid ∉ device.rids ∧
          ∃ kind live, device.queue = [⟨.create, kind, slot, vid, live⟩]) ∧
        (∀ group, device.groupOf vid = some group → group ∈ device.vids slot) ∧
        Unparented slot device vid ∧ vid ∈ device.used
  | .removing own _ vid todo =>
      own = slot ∧ device.queue = [] ∧ MirrorsBut slot device (fun _ => False) ∧
        vid ∈ device.rids ∧ Unparented slot device vid ∧ Rest slot device vid todo
  | .removed own vid todo =>
      own = slot ∧ vid ∈ device.vids slot ∧ MirrorsBut slot device (· = vid) ∧
        (device.queue = [] ∨ vid ∈ device.rids ∧
          ∃ kind live, device.queue = [⟨.remove, kind, slot, vid, live⟩]) ∧
        Unparented slot device vid ∧ Rest slot device vid todo

/-- The records are in step with syncd. -/
structure Synced (slot : Nat) (device : Device) : Prop where
  phase : Phase slot device
  nodup : (device.vids slot).Nodup
  known : ∀ vid ∈ device.rids, vid ∈ device.used
  grouped : ∀ member ∈ device.vids slot, ∀ group, device.groupOf member = some group →
    group ∈ device.vids slot ∧ group ≠ member
  ordered : (device.created slot).Pairwise fun earlier later =>
    device.groupOf earlier.1 ≠ some later.1
  log : ∀ injection ∈ device.log, injection.op = .remove → injection.live = true

variable {slot : Nat} {device next : Device}

theorem Synced.initial (slot : Nat) : Synced slot (Device.alone slot) := by
  refine ⟨⟨rfl, fun vid _ => ?_⟩, ?_, ?_, ?_, ?_, ?_⟩ <;>
    simp [Device.alone, Device.initial, Device.vids]

/-- A step that changes nothing but where the test is. -/
theorem Synced.at (synced : Synced slot device) {pc : Pc}
    (phase : Phase slot { device with pc := pc }) : Synced slot { device with pc := pc } :=
  ⟨phase, synced.nodup, synced.known, synced.grouped, synced.ordered, synced.log⟩

/-- No removal of a VID without a RID is injected. -/
theorem Synced.log_append (synced : Synced slot device) {last : Injection}
    (live : last.op = .remove → last.live = true) :
    ∀ injection ∈ device.log ++ [last], injection.op = .remove → injection.live = true := by
  intro injection member removes
  cases List.mem_append.mp member with
  | inl before => exact synced.log injection before removes
  | inr only =>
      rw [List.mem_singleton.mp only] at removes ⊢
      exact live removes

/-- The VID that was under way is recorded if it has a RID, and the others are as before. -/
theorem MirrorsBut.settled {vid : Vid} (mirrors : MirrorsBut slot device (· = vid))
    (here : vid ∈ next.rids ↔ vid ∈ next.vids slot) (rids : next.rids = device.rids)
    (others : ∀ other, other ≠ vid → (other ∈ next.vids slot ↔ other ∈ device.vids slot)) :
    MirrorsBut slot next fun _ => False := by
  intro other _
  by_cases same : other = vid
  · subst same
    exact here
  · rw [rids, others other same]
    exact mirrors other same

/-! ## The calls -/

theorem Synced.create (synced : Synced slot device) (idle : device.pc = .idle) {kind : Kind}
    {vid : Vid} {group : Option Vid} (unused : vid ∉ device.used)
    (recorded : ∀ parent, group = some parent → parent ∈ device.vids slot) :
    Synced slot (device.create slot kind vid group) := by
  have phase := synced.phase
  simp only [Phase, idle] at phase
  obtain ⟨queue, mirrors⟩ := phase
  have absent : vid ∉ device.rids := fun present => unused (synced.known vid present)
  have unrecorded : vid ∉ device.vids slot := fun member =>
    absent ((mirrors vid id).mpr member)
  have others : ∀ member ∈ device.vids slot,
      (device.create slot kind vid group).groupOf member = device.groupOf member := by
    intro member inside
    refine Function.update_of_ne ?_ _ _
    rintro rfl
    exact unrecorded inside
  refine ⟨⟨rfl, unrecorded, fun other _ => mirrors other id, ?_, ?_, ?_,
    Finset.mem_insert_self _ _⟩, synced.nodup, ?_, ?_, ?_, ?_⟩
  · refine Or.inr ⟨absent, kind, decide (vid ∈ device.rids), ?_⟩
    change device.queue ++ _ = _
    rw [queue]
    rfl
  · intro parent equal
    change Function.update device.groupOf vid group vid = some parent at equal
    rw [Function.update_self] at equal
    exact recorded parent equal
  · intro member inside same
    change (device.create slot kind vid group).groupOf member = some vid at same
    rw [others member inside] at same
    exact unrecorded (synced.grouped member inside vid same).1
  · exact fun other present => Finset.mem_insert_of_mem (synced.known other present)
  · intro member inside parent equal
    rw [others member inside] at equal
    exact synced.grouped member inside parent equal
  · refine synced.ordered.imp_of_mem ?_
    intro earlier later inside _ apart
    rw [others earlier.1 (List.mem_map_of_mem inside)]
    exact apart
  · exact synced.log_append fun removes => by cases removes

theorem vids_record (device : Device) (slot : Nat) (entry : Record) :
    (device.record slot entry).vids slot = device.vids slot ++ [entry.1] := by
  unfold Device.vids Device.record
  simp only
  rw [Function.update_self, List.map_append]
  rfl

theorem Synced.record (synced : Synced slot device) {kind : Kind} {vid : Vid}
    (here : device.pc = .waiting slot kind vid) (present : vid ∈ device.rids) :
    Synced slot (device.record slot (vid, kind)) := by
  have phase := synced.phase
  simp only [Phase, here] at phase
  obtain ⟨_, unrecorded, mirrors, queue, parent, childless, _⟩ := phase
  have settled : device.queue = [] := queue.resolve_right fun pending => pending.1 present
  have vids := vids_record device slot (vid, kind)
  have mem_vids : ∀ other, other ∈ (device.record slot (vid, kind)).vids slot ↔
      other ∈ device.vids slot ∨ other = vid := by
    intro other
    rw [vids, List.mem_append, List.mem_singleton]
  refine ⟨⟨settled, mirrors.settled ?_ rfl ?_⟩, ?_, synced.known, ?_, ?_, synced.log⟩
  · exact iff_of_true present ((mem_vids vid).mpr (Or.inr rfl))
  · exact fun other different => (mem_vids other).trans (or_iff_left different)
  · rw [vids, List.nodup_append]
    refine ⟨synced.nodup, List.nodup_singleton _, ?_⟩
    intro other member last same
    rw [List.mem_singleton.mp same]
    intro equal
    rw [equal] at member
    exact unrecorded member
  · intro member inside group equal
    rw [mem_vids] at inside ⊢
    cases inside with
    | inl before =>
        obtain ⟨recorded, different⟩ := synced.grouped member before group equal
        exact ⟨Or.inl recorded, different⟩
    | inr last =>
        subst last
        have recorded := parent group equal
        refine ⟨Or.inl recorded, ?_⟩
        rintro rfl
        exact unrecorded recorded
  · change ((Function.update device.created slot _) slot).Pairwise _
    rw [Function.update_self, List.pairwise_append]
    refine ⟨synced.ordered, List.pairwise_singleton _ _, ?_⟩
    intro earlier inside later last
    rw [List.mem_singleton.mp last]
    exact childless earlier.1 (List.mem_map_of_mem inside)

theorem Synced.giveUp (synced : Synced slot device) {own : Nat} {kind : Kind} {vid : Vid}
    (here : device.pc = .waiting own kind vid) (absent : vid ∉ device.rids)
    (timely : device.queue = []) : Synced slot { device with pc := .idle } := by
  have phase := synced.phase
  simp only [Phase, here] at phase
  obtain ⟨_, unrecorded, mirrors, _⟩ := phase
  refine synced.at ⟨timely, mirrors.settled ?_ rfl fun other _ => Iff.rfl⟩
  exact iff_of_false absent unrecorded

theorem Synced.remove (synced : Synced slot device) (idle : device.pc = .idle) {kind : Kind}
    {vid : Vid} (present : vid ∈ device.rids)
    (childless : ∀ member ∈ device.rids, device.groupOf member ≠ some vid) :
    Synced slot { device with pc := .removing slot kind vid none } := by
  have phase := synced.phase
  simp only [Phase, idle] at phase
  obtain ⟨queue, mirrors⟩ := phase
  refine synced.at ⟨rfl, queue, mirrors, present, ?_, fun _ absurd => by cases absurd⟩
  exact fun member inside => childless member ((mirrors member id).mpr inside)

theorem Synced.cleanup (synced : Synced slot device) (idle : device.pc = .idle) :
    Synced slot { device with pc := .cleaning slot (device.created slot).reverse } := by
  have phase := synced.phase
  simp only [Phase, idle] at phase
  obtain ⟨queue, mirrors⟩ := phase
  exact synced.at ⟨rfl, queue, mirrors, (List.reverse_reverse _).symm⟩

/-- The record a cleanup comes to is the last one, so it is nobody's group, and it is live. -/
theorem Synced.advance (synced : Synced slot device) {own : Nat} {vid : Vid} {kind : Kind}
    {todo : List Record} (here : device.pc = .cleaning own ((vid, kind) :: todo)) :
    Synced slot { device with
      pc := if vid ∈ device.rids then .removing own kind vid (some todo)
        else .cleaning own todo } := by
  have phase := synced.phase
  simp only [Phase, here] at phase
  obtain ⟨rfl, queue, mirrors, records⟩ := phase
  rw [List.reverse_cons] at records
  have member : vid ∈ device.vids own := by
    rw [Device.vids, records, List.map_append]
    exact List.mem_append_right _ (List.mem_singleton_self vid)
  have present : vid ∈ device.rids := (mirrors vid id).mpr member
  rw [if_pos present]
  refine synced.at ⟨rfl, queue, mirrors, present, ?_, ?_⟩
  · intro child inside equal
    obtain ⟨recorded, different⟩ := synced.grouped child inside vid equal
    rw [Device.vids, records, List.map_append, List.mem_append] at inside
    cases inside with
    | inl earlier =>
        obtain ⟨entry, among, same⟩ := List.mem_map.mp earlier
        have ordered := synced.ordered
        rw [records, List.pairwise_append] at ordered
        subst same
        exact ordered.2.2 entry among (vid, kind) (List.mem_singleton_self _) equal
    | inr last =>
        exact different (List.mem_singleton.mp last).symm
  · rintro _ ⟨⟩
    exact ⟨kind, records⟩

theorem Synced.push (synced : Synced slot device) {own : Nat} {kind : Kind} {vid : Vid}
    {todo : Option (List Record)} (here : device.pc = .removing own kind vid todo) :
    Synced slot { device.inject ⟨.remove, kind, own, vid, decide (vid ∈ device.rids)⟩ with
      pc := .removed own vid todo } := by
  have phase := synced.phase
  simp only [Phase, here] at phase
  obtain ⟨rfl, queue, mirrors, present, childless, rest⟩ := phase
  refine ⟨⟨rfl, (mirrors vid id).mp present, fun other _ => mirrors other id,
    Or.inr ⟨present, kind, decide (vid ∈ device.rids), ?_⟩, childless, rest⟩, synced.nodup,
    synced.known, synced.grouped, synced.ordered, ?_⟩
  · change device.queue ++ _ = _
    rw [queue]
    rfl
  · exact synced.log_append fun _ => decide_eq_true present

theorem created_drop (device : Device) (slot : Nat) (vid : Vid) (todo : Option (List Record)) :
    (device.drop slot vid todo).created slot =
      (device.created slot).filter fun entry => entry.1 ≠ vid :=
  Function.update_self ..

theorem mem_vids_drop {slot : Nat} {vid other : Vid} {todo : Option (List Record)} :
    other ∈ (device.drop slot vid todo).vids slot ↔ other ∈ device.vids slot ∧ other ≠ vid := by
  unfold Device.vids
  rw [created_drop]
  simp only [List.mem_map, List.mem_filter, decide_eq_true_eq]
  constructor
  · rintro ⟨entry, ⟨among, different⟩, rfl⟩
    exact ⟨⟨entry, among, rfl⟩, different⟩
  · rintro ⟨⟨entry, among, rfl⟩, different⟩
    exact ⟨entry, ⟨among, different⟩, rfl⟩

/-- Where the VIDs are distinct, dropping that of the last record leaves the others. -/
theorem filter_last {records : List Record} {vid : Vid} {kind : Kind}
    (nodup : ((records ++ [(vid, kind)]).map Prod.fst).Nodup) :
    (records ++ [(vid, kind)]).filter (fun entry => entry.1 ≠ vid) = records := by
  rw [List.map_append, List.nodup_append] at nodup
  rw [List.filter_append, List.filter_eq_self.mpr, List.filter_eq_nil_iff.mpr, List.append_nil]
  · intro entry last
    rw [List.mem_singleton.mp last]
    simp
  · intro entry among
    rw [decide_eq_true_eq]
    exact nodup.2.2 entry.1 (List.mem_map_of_mem among) vid (List.mem_singleton_self vid)

/-- The object is gone, and so is its record. -/
theorem Synced.drop (synced : Synced slot device) {own : Nat} {vid : Vid}
    {todo : Option (List Record)} (here : device.pc = .removed own vid todo)
    (gone : vid ∉ device.rids) : Synced slot (device.drop own vid todo) := by
  have phase := synced.phase
  simp only [Phase, here] at phase
  obtain ⟨rfl, _, mirrors, queue, childless, rest⟩ := phase
  have settled : device.queue = [] := queue.resolve_right fun pending => gone pending.1
  have mirrored : MirrorsBut own (device.drop own vid todo) fun _ => False := by
    refine mirrors.settled ?_ rfl fun other different => ?_
    · exact iff_of_false gone fun member => (mem_vids_drop.mp member).2 rfl
    · exact mem_vids_drop.trans (and_iff_left different)
  refine ⟨?_, ?_, ?_, ?_, ?_, synced.log⟩
  · cases todo with
    | none => exact ⟨settled, mirrored⟩
    | some records =>
        obtain ⟨kind, split⟩ := rest records rfl
        refine ⟨rfl, settled, mirrored, ?_⟩
        have nodup := synced.nodup
        rw [Device.vids, split] at nodup
        rw [created_drop, split, filter_last nodup]
  · unfold Device.vids
    rw [created_drop]
    exact synced.nodup.sublist (List.filter_sublist.map Prod.fst)
  · intro other present
    have known := synced.known other present
    unfold Device.drop
    simp only
    rw [if_neg gone, Finset.mem_erase]
    refine ⟨?_, known⟩
    rintro rfl
    exact gone present
  · intro member inside group equal
    rw [mem_vids_drop] at inside ⊢
    obtain ⟨recorded, different⟩ := synced.grouped member inside.1 group equal
    refine ⟨⟨recorded, ?_⟩, different⟩
    rintro rfl
    exact childless member inside.1 equal
  · rw [created_drop]
    exact synced.ordered.sublist List.filter_sublist

theorem Synced.finish (synced : Synced slot device) {own : Nat}
    (here : device.pc = .cleaning own []) :
    Synced slot { device with pc := .idle, created := Function.update device.created own [] } ∧
      device.rids = ∅ := by
  have phase := synced.phase
  simp only [Phase, here] at phase
  obtain ⟨rfl, queue, mirrors, records⟩ := phase
  have same : Function.update device.created own [] = device.created := by
    rw [Function.update_eq_self_iff]
    exact records.symm
  rw [same]
  refine ⟨synced.at ⟨queue, mirrors⟩, ?_⟩
  rw [Finset.eq_empty_iff_forall_notMem]
  intro vid present
  have member := (mirrors vid id).mp present
  rw [Device.vids, records] at member
  cases member

/-! ## syncd -/

theorem Synced.syncd_create (synced : Synced slot device) {own : Nat} {kind : Kind} {vid : Vid}
    (here : device.pc = .waiting own kind vid) {injection : Injection} {rest : List Injection}
    (queue : device.queue = injection :: rest) (ok : Bool) :
    injection.op = .create ∧
      Synced slot { device with
        queue := rest, rids := if ok then insert injection.vid device.rids else device.rids } := by
  have phase := synced.phase
  simp only [Phase, here] at phase
  obtain ⟨rfl, unrecorded, mirrors, pending, parent, childless, used⟩ := phase
  rw [queue] at pending
  obtain ⟨absent, kind', live, only⟩ := pending.resolve_left (List.cons_ne_nil _ _)
  obtain ⟨rfl, rfl⟩ := List.cons.inj only
  refine ⟨rfl, ⟨?_, synced.nodup, ?_, synced.grouped, synced.ordered, synced.log⟩⟩
  · unfold Phase
    simp only
    rw [here]
    refine ⟨rfl, unrecorded, fun other different => ?_, Or.inl trivial, parent, childless, used⟩
    have before := mirrors other different
    cases ok with
    | false => exact before
    | true => exact (Finset.mem_insert.trans (or_iff_right different)).trans before
  · intro other present
    cases ok with
    | false => exact synced.known other present
    | true =>
        cases Finset.mem_insert.mp present with
        | inl same =>
            rw [same]
            exact used
        | inr before => exact synced.known other before

theorem Synced.syncd_remove (synced : Synced slot device) {own : Nat} {vid : Vid}
    {todo : Option (List Record)} (here : device.pc = .removed own vid todo)
    {injection : Injection} {rest : List Injection} (queue : device.queue = injection :: rest)
    (ok : Bool) :
    injection.op = .remove ∧
      Synced slot { device with
        queue := rest
        rids := if ok then device.rids.erase injection.vid else device.rids } := by
  have phase := synced.phase
  simp only [Phase, here] at phase
  obtain ⟨rfl, recorded, mirrors, pending, childless, others⟩ := phase
  rw [queue] at pending
  obtain ⟨present, kind', live, only⟩ := pending.resolve_left (List.cons_ne_nil _ _)
  obtain ⟨rfl, rfl⟩ := List.cons.inj only
  refine ⟨rfl, ⟨?_, synced.nodup, ?_, synced.grouped, synced.ordered, synced.log⟩⟩
  · unfold Phase
    simp only
    rw [here]
    refine ⟨rfl, recorded, fun other different => ?_, Or.inl trivial, childless, others⟩
    have before := mirrors other different
    cases ok with
    | false => exact before
    | true => exact (Finset.mem_erase.trans (and_iff_right different)).trans before
  · intro other left
    cases ok with
    | false => exact synced.known other left
    | true => exact synced.known other (Finset.mem_of_mem_erase left)

/-- Only the two waiting calls have an operation under way. -/
theorem Synced.syncd (synced : Synced slot device) {injection : Injection}
    {rest : List Injection} (queue : device.queue = injection :: rest) (ok : Bool) :
    Synced slot { device with
      queue := rest
      rids := if ok then
          match injection.op with
          | .create => insert injection.vid device.rids
          | .remove => device.rids.erase injection.vid
        else device.rids } := by
  have busy : device.queue ≠ [] := by
    rw [queue]
    exact List.cons_ne_nil _ _
  have phase := synced.phase
  cases here : device.pc with
  | idle =>
      simp only [Phase, here] at phase
      exact absurd phase.1 busy
  | cleaning own todo =>
      simp only [Phase, here] at phase
      exact absurd phase.2.1 busy
  | removing own kind vid todo =>
      simp only [Phase, here] at phase
      exact absurd phase.2.1 busy
  | waiting own kind vid =>
      obtain ⟨creates, after⟩ := synced.syncd_create here queue ok
      rw [here] at after
      rw [creates]
      exact after
  | removed own vid todo =>
      obtain ⟨removes, after⟩ := synced.syncd_remove here queue ok
      rw [here] at after
      rw [removes]
      exact after

theorem Synced.step (synced : Synced slot device) {action : Action}
    (timely : Timely slot device action) (stepped : device.step action = some next) :
    Synced slot next := by
  cases action with
  | new => exact absurd timely id
  | refuse => exact absurd timely id
  | create own kind n group =>
      obtain ⟨⟨idle, _⟩, rfl⟩ := Device.step_create.mp stepped
      obtain ⟨rfl, unused, recorded⟩ := timely
      exact synced.create idle unused recorded
  | found =>
      obtain ⟨own, kind, vid, here, present, rfl⟩ := Device.step_found.mp stepped
      have phase := synced.phase
      simp only [Phase, here] at phase
      obtain ⟨rfl, _⟩ := phase
      exact synced.record here present
  | giveUp =>
      obtain ⟨own, kind, vid, here, absent, rfl⟩ := Device.step_giveUp.mp stepped
      exact synced.giveUp here absent timely
  | remove own kind vid =>
      obtain ⟨⟨idle, _⟩, rfl⟩ := Device.step_remove.mp stepped
      obtain ⟨rfl, childless⟩ := timely
      split
      next present => exact synced.remove idle present childless
      next => exact synced
  | cleanup own =>
      obtain ⟨⟨idle, _⟩, rfl⟩ := Device.step_cleanup.mp stepped
      obtain rfl : own = slot := timely
      exact synced.cleanup idle
  | next =>
      obtain ⟨own, vid, kind, todo, here, rfl⟩ := Device.step_next.mp stepped
      exact synced.advance here
  | push =>
      obtain ⟨own, kind, vid, todo, here, rfl⟩ := Device.step_push.mp stepped
      exact synced.push here
  | settle =>
      obtain ⟨own, vid, todo, here, rfl⟩ := Device.step_settle.mp stepped
      exact synced.drop here (timely own vid todo here)
  | finish =>
      obtain ⟨own, here, rfl⟩ := Device.step_finish.mp stepped
      exact (synced.finish here).1
  | syncd ok =>
      obtain ⟨injection, rest, queue, rfl⟩ := Device.step_syncd.mp stepped
      exact synced.syncd queue ok

/-! ## Whole runs -/

/-- Removals are for live VIDs, and for groups without members; what a cleanup has come to the
end of leaves nothing once syncd is idle. -/
structure Complete (device : Device) : Prop where
  removes : ∀ injection ∈ device.log, injection.op = .remove → injection.live = true
  members : ∀ own kind group todo, device.pc = .removing own kind group todo →
    ∀ member ∈ device.rids, device.groupOf member ≠ some group
  cleaned : ∀ finished later last, device.step .finish = some finished →
    (∀ action ∈ later, ∃ ok, action = .syncd ok) → machine.run finished later = some last →
    last.queue = [] → last.rids = ∅

theorem Synced.complete (synced : Synced slot device) : Complete device := by
  refine ⟨synced.log, ?_, ?_⟩
  · intro own kind group todo here member present
    have phase := synced.phase
    simp only [Phase, here] at phase
    obtain ⟨_, _, mirrors, _, childless, _⟩ := phase
    exact childless member ((mirrors member id).mp present)
  · intro finished later last ends syncdOnly reached _
    obtain ⟨own, here, rfl⟩ := Device.step_finish.mp ends
    obtain ⟨after, empty⟩ := synced.finish here
    have phase := after.phase
    simp only [Phase] at phase
    cases later with
    | nil =>
        cases reached
        exact empty
    | cons action rest =>
        obtain ⟨ok, rfl⟩ := syncdOnly action (List.mem_cons_self ..)
        obtain ⟨next, stepped, _⟩ := machine.run_cons.mp reached
        obtain ⟨injection, others, queue, _⟩ := Device.step_syncd.mp stepped
        rw [phase.1] at queue
        cases queue

/-- In a run of one instance in which syncd is done before the calls look and no group is removed
before its members, a cleanup is complete. -/
theorem cleanup_complete (slot : Nat) (actions : List Action) (device : Device)
    (timely : machine.Along (Timely slot) (Device.alone slot) actions)
    (reached : machine.run (Device.alone slot) actions = some device) : Complete device := by
  have synced : Synced slot device := machine.invariant_of_run
    (fun synced timely stepped => synced.step timely stepped) (Synced.initial slot) timely reached
  exact synced.complete

/-- A group that the cleanup removes. -/
theorem cleanup_complete_group :
    ∃ device, machine.run (Device.alone 1)
        [.create 1 .group 1 none, .syncd true, .found, .cleanup 1, .next, .push, .syncd true,
          .settle] = some device ∧ Complete device := by
  refine ⟨_, rfl, cleanup_complete 1
    [.create 1 .group 1 none, .syncd true, .found, .cleanup 1, .next, .push, .syncd true, .settle]
    _ ?_ rfl⟩
  refine ⟨⟨rfl, by decide, fun _ equal => by cases equal⟩, ?_⟩
  rintro _ ⟨⟩
  refine ⟨trivial, ?_⟩
  rintro _ ⟨⟩
  refine ⟨trivial, ?_⟩
  rintro _ ⟨⟩
  refine ⟨rfl, ?_⟩
  rintro _ ⟨⟩
  refine ⟨trivial, ?_⟩
  rintro _ ⟨⟩
  refine ⟨trivial, ?_⟩
  rintro _ ⟨⟩
  refine ⟨trivial, ?_⟩
  rintro _ ⟨⟩
  refine ⟨?_, fun _ _ => trivial⟩
  rintro _ _ _ ⟨⟩
  decide

/-- An object that comes after `wait_rid` gave up, a removal that is looked at too early and then
made again, and a group that is removed with its member there. -/
theorem cleanup_incomplete :
    ¬ (∀ actions device, machine.run (Device.alone 1) actions = some device → Complete device) ∧
      (∃ actions device, machine.run (Device.alone 1) actions = some device ∧
        ∃ injection ∈ device.log, injection.op = .remove ∧ injection.live = false) ∧
      ∃ actions device, machine.run (Device.alone 1) actions = some device ∧
        ∃ member ∈ device.rids, device.groupOf member = some (vidOf .group 1 1) ∧
          device.pc = .removing 1 .group (vidOf .group 1 1) none := by
  refine ⟨fun always => ?_, ?_, ?_⟩
  · have complete := always [.create 1 .group 1 none, .giveUp, .syncd true, .cleanup 1] _ rfl
    have empty := complete.cleaned _ [] _ rfl (fun _ member => by cases member) rfl rfl
    revert empty
    decide
  · refine ⟨[.create 1 .group 1 none, .syncd true, .found, .remove 1 .group (vidOf .group 1 1),
      .push, .settle, .remove 1 .group (vidOf .group 1 1), .syncd true, .push], _, rfl, ?_⟩
    exact ⟨⟨.remove, .group, 1, vidOf .group 1 1, false⟩, by decide, rfl, rfl⟩
  · refine ⟨[.create 1 .group 1 none, .syncd true, .found,
      .create 1 .member 1 (some (vidOf .group 1 1)), .syncd true, .found,
      .remove 1 .group (vidOf .group 1 1)], _, rfl, ?_⟩
    exact ⟨vidOf .member 1 1, by decide, rfl, rfl⟩

end OnboxFvt.Dlb.Objects
