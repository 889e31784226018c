import Mathlib
import OnboxFvt.Dlb.Preview

/-!
# The queues the engine should watch

`expected_watched` lists the lossless queues in ascending order and pads them with
others up to four.  Its answer is the window of the lossless set; the set itself
grows with the enabled priorities as long as each port is read through one map.
-/

namespace OnboxFvt.Dlb

open Library Python

/-- `range(_DLB_PFC_MAX_UC_Q)`. -/
def unicastQueues : List Int :=
  [0, 1, 2, 3, 4, 5, 6, 7]

/-- The loop that pads up to `_DLB_PFC_NUM_COS` queues. -/
def pad (lossless : Finset Int) (cosq : List Int) : List Int → List Int
  | [] => cosq
  | q :: rest =>
      if 4 ≤ cosq.length then cosq
      else pad lossless (if q ∉ lossless then cosq ++ [q] else cosq) rest

/-- The end of `expected_watched`, given the lossless queues. -/
def watched (lossless : Finset Int) : Option (List Int) :=
  if lossless = ∅ then none
  else
    let cosq := pad lossless ((unicastQueues.filter (· ∈ lossless)).take 4) unicastQueues
    if cosq.length = 4 then some cosq else none

/-- `expected_watched`; the outer `none` is a `ValueError`. -/
def expectedWatched (db : ConfigDb) (off on : List PortPrio)
    (remap : AList fun _ : PortPrio => Int) : Option (Option (List Int)) :=
  (losslessQueues db off on remap).map watched

/-! ## The window of a set of queues -/

/-- The four smallest queues of the set, or all of them and the smallest others. -/
structure Watches (lossless : Finset Int) (cosq : List Int) : Prop where
  four : cosq.length = 4
  distinct : cosq.Nodup
  accepted : ∀ q ∈ cosq, Accepted q
  queues : cosq = lossless.sort.take 4 ++
    (Finset.Icc 0 7 \ lossless).sort.take (4 - lossless.card)

theorem pad_eq (lossless : Finset Int) (cosq rest : List Int) :
    pad lossless cosq rest =
      cosq ++ (rest.filter (· ∉ lossless)).take (4 - cosq.length) := by
  induction rest generalizing cosq with
  | nil => simp [pad]
  | cons q rest inductionHypothesis =>
      rw [pad]
      by_cases full : 4 ≤ cosq.length
      · rw [if_pos full, Nat.sub_eq_zero_of_le full, List.take_zero, List.append_nil]
      · rw [if_neg full, inductionHypothesis]
        by_cases among : q ∈ lossless
        · rw [if_neg (not_not.mpr among), List.filter_cons_of_neg (by simpa using among)]
        · rw [if_pos among, List.filter_cons_of_pos (by simpa using among), List.append_assoc,
            List.length_append, List.length_singleton,
            show 4 - cosq.length = (4 - (cosq.length + 1)) + 1 by omega, List.take_succ_cons]
          rfl

/-- A part of the queues in their order is that part sorted. -/
theorem filter_unicastQueues {chosen : Int → Prop} [DecidablePred chosen] {queues : Finset Int}
    (same : ∀ q, q ∈ queues ↔ Accepted q ∧ chosen q) :
    unicastQueues.filter chosen = queues.sort := by
  have ascending : unicastQueues.Pairwise (· ≤ ·) := by decide
  have distinct : unicastQueues.Nodup := by decide
  have range : ∀ q, q ∈ unicastQueues ↔ Accepted q := by
    intro q
    simp only [unicastQueues, Accepted, List.mem_cons, List.not_mem_nil, or_false]
    omega
  have members : (unicastQueues.filter chosen).toFinset = queues := by
    ext q
    rw [List.mem_toFinset, List.mem_filter, range, same, decide_eq_true_iff]
  rw [← members]
  exact ((List.toFinset_sort (· ≤ ·) (distinct.filter _)).mpr (ascending.filter _)).symm

theorem watched_empty : watched ∅ = none :=
  rfl

/-- The four smallest queues and, as far as there are fewer, the smallest others. -/
noncomputable def window (lossless : Finset Int) : List Int :=
  lossless.sort.take 4 ++ (Finset.Icc 0 7 \ lossless).sort.take (4 - lossless.card)

section Window

variable {lossless : Finset Int}

theorem pad_unicastQueues (lossless : Finset Int) :
    pad lossless (lossless.sort.take 4) unicastQueues = window lossless := by
  have outside : unicastQueues.filter (· ∉ lossless) = (Finset.Icc 0 7 \ lossless).sort := by
    refine filter_unicastQueues fun q => ?_
    rw [Finset.mem_sdiff, Finset.mem_Icc, Accepted]
    refine and_congr_left fun _ => ?_
    omega
  rw [pad_eq, outside, window, List.length_take, Finset.length_sort]
  congr 2
  omega

theorem nodup_window (lossless : Finset Int) : (window lossless).Nodup := by
  rw [window, List.nodup_append]
  refine ⟨(lossless.sort_nodup _).sublist (List.take_sublist ..),
    (Finset.sort_nodup _ _).sublist (List.take_sublist ..), fun a first b padding same => ?_⟩
  have lossless_a := (Finset.mem_sort _).mp (List.mem_of_mem_take first)
  have other_b := (Finset.mem_sort _).mp (List.mem_of_mem_take padding)
  exact (Finset.mem_sdiff.mp other_b).2 (same ▸ lossless_a)

variable (accepted : ∀ q ∈ lossless, Accepted q)

include accepted

theorem length_window : (window lossless).length = 4 := by
  have subset : lossless ⊆ Finset.Icc 0 7 := by
    intro q member
    have := accepted q member
    rw [Accepted] at this
    rw [Finset.mem_Icc]
    omega
  have total : lossless.card + (Finset.Icc 0 7 \ lossless).card = 8 := by
    rw [add_comm, Finset.card_sdiff_add_card_eq_card subset]
    rfl
  rw [window, List.length_append, List.length_take, List.length_take, Finset.length_sort,
    Finset.length_sort]
  omega

theorem accepted_window : ∀ q ∈ window lossless, Accepted q := by
  intro q member
  rw [window, List.mem_append] at member
  rcases member with first | padding
  · exact accepted q ((Finset.mem_sort _).mp (List.mem_of_mem_take first))
  · have other := (Finset.mem_sort _).mp (List.mem_of_mem_take padding)
    have := Finset.mem_Icc.mp (Finset.mem_sdiff.mp other).1
    rw [Accepted]
    omega

theorem watched_eq (nonempty : lossless ≠ ∅) :
    ∃ cosq, watched lossless = some cosq ∧ Watches lossless cosq := by
  have inside : unicastQueues.filter (· ∈ lossless) = lossless.sort :=
    filter_unicastQueues fun q => (and_iff_right_of_imp (accepted q)).symm
  refine ⟨window lossless, ?_, length_window accepted, nodup_window lossless,
    accepted_window accepted, rfl⟩
  rw [watched, if_neg nonempty, inside]
  dsimp only
  rw [pad_unicastQueues, if_pos (length_window accepted)]

end Window

/-! ## The answers -/

/-- The values of the priority maps are integers. -/
def ConfigDb.IntegerMaps (db : ConfigDb) : Prop :=
  ∀ name p queue, (db.priorityToQueue name).lookup p = some queue → int? queue ≠ none

/-- The call returns: `None` for no lossless queue, else the window of the set. -/
def Answers (db : ConfigDb) (off on : List PortPrio) (remap : AList fun _ : PortPrio => Int) :
    Prop :=
  ∃ lossless answer, losslessQueues db off on remap = some lossless ∧
    expectedWatched db off on remap = some answer ∧ (answer = none ↔ lossless = ∅) ∧
      ∀ cosq, answer = some cosq → Watches lossless cosq

/-- Every queue of the first set is in the second, which is returned if the first is. -/
def Grows (before after : Option (Finset Int)) : Prop :=
  ∀ values, before = some values → ∃ others, after = some others ∧ values ⊆ others

section Calls

variable {db : ConfigDb} {off on : List PortPrio} {remap : AList fun _ : PortPrio => Int}

theorem readQueue_pmap (integers : db.IntegerMaps) (name : Text) (p : Int) :
    readQueue (pmap db name) p ≠ none := by
  rw [readQueue, pmap]
  split
  next queue found =>
    by_cases named : name.isEmpty = true
    · rw [if_pos named, AList.lookup_empty] at found
      cases found
    · rw [if_neg named] at found
      exact integers name _ queue found
  next => exact Option.some_ne_none p

theorem previewQueue_ne_none (integers : db.IntegerMaps) (pair : PortPrio) :
    previewQueue db remap pair ≠ none := by
  rw [previewQueue]
  split
  next queue _ => exact Option.some_ne_none queue
  next => exact readQueue_pmap integers _ _

theorem losslessQueues_returns (integers : db.IntegerMaps) (readable : db.Readable) :
    ∃ lossless, losslessQueues db off on remap = some lossless := by
  rw [← Option.ne_none_iff_exists']
  intro raised
  obtain ⟨pair, _, failed⟩ := (losslessQueues_collects off on remap readable).failed.mp raised
  exact previewQueue_ne_none integers pair failed

theorem answers_iff (integers : db.IntegerMaps) : Answers db off on remap ↔ db.Readable := by
  constructor
  · rintro ⟨lossless, answer, returned, -⟩
    by_contra unreadable
    rw [losslessQueues_unreadable off on remap unreadable] at returned
    cases returned
  · intro readable
    obtain ⟨lossless, returned⟩ := losslessQueues_returns integers readable
    have accepted : ∀ q ∈ lossless, Accepted q := fun q member =>
      (((losslessQueues_collects off on remap readable).values lossless returned q).mp member).1
    have called : expectedWatched db off on remap = some (watched lossless) := by
      rw [expectedWatched, returned]
      rfl
    refine ⟨lossless, watched lossless, returned, called, ?_⟩
    by_cases empty : lossless = ∅
    · subst empty
      exact ⟨iff_of_true watched_empty rfl, fun cosq some => by cases some⟩
    · obtain ⟨cosq, answered, window⟩ := watched_eq accepted empty
      refine ⟨iff_of_false (by rw [answered]; exact Option.some_ne_none cosq) empty, ?_⟩
      rintro other same
      rw [answered] at same
      cases same
      exact window

/-! ## One more pair enabled -/

/-- Turning on a pair in the preview. -/
theorem grows_on (integers : db.IntegerMaps) {on' : List PortPrio}
    (more : ∀ pair ∈ on, pair ∈ on') :
    Grows (losslessQueues db off on remap) (losslessQueues db off on' remap) := by
  intro values returned
  by_cases readable : db.Readable
  · obtain ⟨others, returned'⟩ := @losslessQueues_returns db off on' remap integers readable
    refine ⟨others, returned', fun queue member => ?_⟩
    obtain ⟨accepted, pair, ⟨enabled, kept⟩, read⟩ :=
      ((losslessQueues_collects off on remap readable).values values returned queue).mp member
    refine ((losslessQueues_collects off on' remap readable).values others returned' queue).mpr
      ⟨accepted, pair, ⟨enabled.imp_right (more pair), kept⟩, read⟩
  · rw [losslessQueues_unreadable off on remap readable] at returned
    cases returned

/-- A pair turned on for a port whose bound map is not looked at as none of its
priorities is enabled. -/
def ReadUnbound (db : ConfigDb) (off on : List PortPrio) (remap : AList fun _ : PortPrio => Int)
    (pair : PortPrio) : Prop :=
  db.prios pair.1 = [] ∧ (db.row pair.1).mapName ≠ [] ∧ pair ∈ on ∧ pair ∉ off ∧
    remap.lookup pair = none

/-- The queue a call reads for a pair once a priority of `port` is enabled. -/
def queueAfter (db : ConfigDb) (remap : AList fun _ : PortPrio => Int) (port : Text)
    (pair : PortPrio) : Option Int :=
  match remap.lookup pair with
  | some queue => some queue
  | none =>
      readQueue (pmap db (if pair.1 = port then (db.row port).mapName else db.seenMap pair.1))
        pair.2

/-- The identity queues of a port that has its map looked at from now on are still
read for some pair. -/
def StillRead (db : ConfigDb) (off on : List PortPrio) (remap : AList fun _ : PortPrio => Int)
    (pair : PortPrio) : Prop :=
  ∀ p, ReadUnbound db off on remap (pair.1, p) → Accepted p →
    ∃ other, Enabled db off (pair :: on) other ∧ queueAfter db remap pair.1 other = some p

section Enabling

variable {pair : PortPrio} {db' : ConfigDb}

theorem enabled_applied (applied : Applied db [] [pair] ∅ db') (readable : db.Readable)
    (other : PortPrio) : Enabled db' off on other ↔ Enabled db off (pair :: on) other := by
  have added := applied.enabled other.1 other.2 (readable other.1)
  rw [Enabled, Enabled, added, Enabled, List.mem_cons]
  simp [or_assoc]

/-- Bound maps are read as before. -/
theorem readQueue_applied (applied : Applied db [] [pair] ∅ db') (port : Text) (p : Int) :
    readQueue (pmap db' (db'.row port).mapName) p =
      readQueue (pmap db (db.row port).mapName) p := by
  by_cases named : (db.row port).mapName = []
  · rw [applied.identity port p named (AList.lookup_empty _), named]
    rfl
  · rw [applied.bound port named]
    exact applied.others port p named fun other _ => AList.lookup_empty _

theorem previewQueue_applied (applied : Applied db [] [pair] ∅ db') (readable : db.Readable)
    (other : PortPrio) : previewQueue db' remap other = queueAfter db remap pair.1 other := by
  have added (p : Int) := applied.enabled other.1 p (readable other.1)
  rw [previewQueue, queueAfter]
  cases remap.lookup other with
  | some queue => rfl
  | none =>
      dsimp only
      by_cases same : other.1 = pair.1
      · have enabled : pair.2 ∈ db'.prios other.1 := (added pair.2).mpr (by simp [Enabled, same])
        have seen : db'.seenMap other.1 = (db'.row other.1).mapName :=
          if_neg (List.ne_nil_of_mem enabled)
        rw [if_pos same, seen, readQueue_applied applied, same]
      · have kept (p : Int) : p ∈ db'.prios other.1 ↔ p ∈ db.prios other.1 := by
          have different : (other.1, p) ≠ pair := by
            rintro rfl
            exact same rfl
          rw [added, Enabled]
          simp [different]
        rw [if_neg same]
        by_cases none : db.prios other.1 = []
        · have none' : db'.prios other.1 = [] := by
            rw [List.eq_nil_iff_forall_not_mem] at none ⊢
            exact fun p member => none p ((kept p).mp member)
          rw [ConfigDb.seenMap, ConfigDb.seenMap, if_pos none, if_pos none']
          rfl
        · obtain ⟨p, member⟩ := List.exists_mem_of_ne_nil _ none
          have some' : db'.prios other.1 ≠ [] := List.ne_nil_of_mem ((kept p).mpr member)
          rw [ConfigDb.seenMap, ConfigDb.seenMap, if_neg none, if_neg some']
          exact readQueue_applied applied other.1 other.2

/-- Only an identity queue can be lost. -/
theorem queueAfter_of_not_readUnbound {other : PortPrio} (enabled : Enabled db off on other)
    (bound : ¬ (other.1 = pair.1 ∧ ReadUnbound db off on remap other)) :
    queueAfter db remap pair.1 other = previewQueue db remap other := by
  rw [queueAfter, previewQueue]
  cases unmoved : remap.lookup other with
  | some queue => rfl
  | none =>
      dsimp only
      by_cases same : other.1 = pair.1
      · rw [if_pos same, ← same, ConfigDb.seenMap]
        by_cases none : db.prios other.1 = []
        · have listed : other ∈ on := by
            refine enabled.1.resolve_left fun member => ?_
            rw [none] at member
            cases member
          have named : (db.row other.1).mapName = [] := by
            by_contra named
            exact bound ⟨same, none, named, listed, enabled.2, unmoved⟩
          rw [if_pos none, named]
        · rw [if_neg none]
      · rw [if_neg same]

/-- Without its bound map a priority is read through the identity. -/
theorem previewQueue_of_readUnbound {other : PortPrio}
    (unbound : ReadUnbound db off on remap other) :
    previewQueue db remap other = some other.2 := by
  rw [previewQueue, unbound.2.2.2.2, ConfigDb.seenMap, if_pos unbound.1]
  rfl

section Returned

variable (integers : db.IntegerMaps) (applied : Applied db [] [pair] ∅ db') (readable : db.Readable)

include applied readable

/-- The queues of the configuration with the pair enabled, by what was there before. -/
theorem mem_applied_iff {others : Finset Int}
    (returned : losslessQueues db' off on remap = some others) (queue : Int) :
    queue ∈ others ↔ Accepted queue ∧ ∃ other, Enabled db off (pair :: on) other ∧
      queueAfter db remap pair.1 other = some queue := by
  have collected := losslessQueues_collects off on remap (applied.readable_iff.mpr readable)
  rw [collected.values others returned]
  refine and_congr_right fun _ => exists_congr fun other => ?_
  rw [enabled_applied applied readable, previewQueue_applied applied readable]

include integers

theorem losslessQueues_applied_returns :
    ∃ others, losslessQueues db' off on remap = some others := by
  have collected := losslessQueues_collects off on remap (applied.readable_iff.mpr readable)
  rw [← Option.ne_none_iff_exists']
  intro raised
  obtain ⟨other, _, failed⟩ := collected.failed.mp raised
  rw [previewQueue_applied applied readable, queueAfter] at failed
  split at failed
  next => cases failed
  next => exact readQueue_pmap integers _ _ failed

end Returned

/-- A queue that was read is still read for some pair. -/
theorem exists_queueAfter (still : StillRead db off on remap pair) {queue : Int}
    (accepted : Accepted queue) {other : PortPrio} (enabled : Enabled db off on other)
    (read : previewQueue db remap other = some queue) :
    ∃ next, Enabled db off (pair :: on) next ∧ queueAfter db remap pair.1 next = some queue := by
  by_cases lost : other.1 = pair.1 ∧ ReadUnbound db off on remap other
  · obtain ⟨same, unbound⟩ := lost
    obtain rfl :=
      Option.some_injective _ ((previewQueue_of_readUnbound unbound).symm.trans read)
    refine still other.2 ?_ accepted
    rw [← same]
    exact unbound
  · refine ⟨other, ⟨enabled.1.imp_right (List.mem_cons_of_mem pair), enabled.2⟩, ?_⟩
    rw [queueAfter_of_not_readUnbound enabled lost]
    exact read

/-- Enabling a pair in CONFIG_DB keeps the set exactly when the identity queues of its port
are still read. -/
theorem grows_applied_iff (integers : db.IntegerMaps) (applied : Applied db [] [pair] ∅ db') :
    Grows (losslessQueues db off on remap) (losslessQueues db' off on remap) ↔
      (db.Readable → StillRead db off on remap pair) := by
  by_cases readable : db.Readable
  · have first := losslessQueues_collects off on remap readable
    obtain ⟨values, returned⟩ := @losslessQueues_returns db off on remap integers readable
    rw [imp_iff_right readable]
    constructor
    · intro grows p unbound accepted
      obtain ⟨others, returned', included⟩ := grows values returned
      have member : p ∈ values := (first.values values returned p).mpr
        ⟨accepted, (pair.1, p), ⟨Or.inr unbound.2.2.1, unbound.2.2.2.1⟩,
          previewQueue_of_readUnbound unbound⟩
      exact ((mem_applied_iff applied readable returned' p).mp (included member)).2
    · intro still values' same
      obtain rfl := Option.some_injective _ (returned.symm.trans same)
      obtain ⟨others, returned'⟩ :=
        @losslessQueues_applied_returns db off on remap pair db' integers applied readable
      refine ⟨others, returned', fun queue member => ?_⟩
      obtain ⟨accepted, other, enabled, read⟩ := (first.values values returned queue).mp member
      exact (mem_applied_iff applied readable returned' queue).mpr
        ⟨accepted, exists_queueAfter still accepted enabled read⟩
  · refine iff_of_true ?_ (fun readable' => absurd readable' readable)
    intro values returned
    rw [losslessQueues_unreadable off on remap readable] at returned
    cases returned

end Enabling

/-! ## Another order -/

/-- The parts of `pfc_enable`. -/
def Row.parts (row : Row) : List Text :=
  splitOn ',' (strip (row.pfcEnable.getD []))

/-- A row whose priorities are listed in another order. -/
structure Row.Reordered (row row' : Row) : Prop where
  parts : row'.parts.Perm row.parts
  map : row'.mapName = row.mapName

/-- The same content; the ports, priorities and map entries come in another order. -/
structure ConfigDb.Reordered (db db' : ConfigDb) : Prop where
  rows : ∀ port, (db.row port).Reordered (db'.row port)
  maps : ∀ name p, (db'.priorityToQueue name).lookup p = (db.priorityToQueue name).lookup p

theorem Row.prios?_parts (row : Row) :
    row.prios? = collect? int? (row.parts.filter fun x => isDigit (strip x)) := by
  rw [Row.prios?, Row.parts]
  split
  next empty =>
    rw [List.isEmpty_iff.mp empty]
    rfl
  next => rfl

section Order

variable {db' : ConfigDb} {off' on' : List PortPrio} {remap' : AList fun _ : PortPrio => Int}

theorem Row.Reordered.mem_filter_iff {row row' : Row} (same : row.Reordered row') (x : Text) :
    x ∈ row'.parts.filter (fun x => isDigit (strip x)) ↔
      x ∈ row.parts.filter fun x => isDigit (strip x) :=
  (same.parts.filter _).mem_iff

theorem Row.Reordered.prios?_eq_none_iff {row row' : Row} (same : row.Reordered row') :
    row'.prios? = none ↔ row.prios? = none := by
  rw [Row.prios?_parts, Row.prios?_parts, collect?_eq_none, collect?_eq_none]
  exact exists_congr fun x => and_congr_left fun _ => same.mem_filter_iff x

theorem Row.Reordered.mem_prios_iff {row row' : Row} (same : row.Reordered row') (p : Int) :
    p ∈ row'.prios?.getD [] ↔ p ∈ row.prios?.getD [] := by
  have none_iff := same.prios?_eq_none_iff
  cases read : row.prios? with
  | none => rw [none_iff.mpr read]
  | some prios =>
      cases read' : row'.prios? with
      | none =>
          rw [none_iff.mp read'] at read
          cases read
      | some prios' =>
          rw [Row.prios?_parts] at read read'
          rw [Option.getD_some, Option.getD_some, mem_collect? read, mem_collect? read']
          exact exists_congr fun x => and_congr_left fun _ => same.mem_filter_iff x

theorem readable_reordered (same : db.Reordered db') : db'.Readable ↔ db.Readable :=
  forall_congr' fun port => (same.rows port).prios?_eq_none_iff.not

theorem seenMap_reordered (same : db.Reordered db') (port : Text) :
    db'.seenMap port = db.seenMap port := by
  have none_iff : db'.prios port = [] ↔ db.prios port = [] := by
    rw [List.eq_nil_iff_forall_not_mem, List.eq_nil_iff_forall_not_mem]
    exact forall_congr' fun p => ((same.rows port).mem_prios_iff p).not
  rw [ConfigDb.seenMap, ConfigDb.seenMap, (same.rows port).map]
  exact if_congr none_iff rfl rfl

/-- The set does not depend on an order. -/
theorem losslessQueues_reordered (same : db.Reordered db')
    (off_iff : ∀ pair, pair ∈ off' ↔ pair ∈ off) (on_iff : ∀ pair, pair ∈ on' ↔ pair ∈ on)
    (remap_eq : ∀ pair, remap'.lookup pair = remap.lookup pair) :
    losslessQueues db' off' on' remap' = losslessQueues db off on remap := by
  by_cases readable : db.Readable
  · have enabled_eq : Enabled db' off' on' = Enabled db off on := by
      funext pair
      have listed : pair.2 ∈ db'.prios pair.1 ↔ pair.2 ∈ db.prios pair.1 :=
        (same.rows pair.1).mem_prios_iff pair.2
      rw [Enabled, Enabled, off_iff, on_iff, listed]
    have queue_eq : previewQueue db' remap' = previewQueue db remap := by
      funext pair
      rw [previewQueue, previewQueue, remap_eq, seenMap_reordered same, readQueue, readQueue, pmap,
        pmap]
      by_cases named : (db.seenMap pair.1).isEmpty = true
      · rw [if_pos named, if_pos named]
      · rw [if_neg named, if_neg named, same.maps]
    have first := losslessQueues_collects off on remap readable
    have second := losslessQueues_collects off' on' remap' ((readable_reordered same).mpr readable)
    rw [enabled_eq, queue_eq] at second
    exact (collects_eq_iff second first (fun _ => False) fun _ _ _ => rfl).mpr
      (Or.inr fun _ _ differs => differs.elim)
  · rw [losslessQueues_unreadable off on remap readable,
      losslessQueues_unreadable off' on' remap' ((readable_reordered same).not.mpr readable)]

end Order

end Calls

/-- The call answers exactly when every `pfc_enable` can be read; turning a pair on in the
preview keeps the lossless queues, enabling it in CONFIG_DB does as long as the identity queues
of its port are still read; and no order matters. -/
theorem expected_watched_iff (db : ConfigDb) (off on : List PortPrio)
    (remap : AList fun _ : PortPrio => Int) (integers : db.IntegerMaps) :
    (Answers db off on remap ↔ db.Readable) ∧
      (∀ on', (∀ pair ∈ on, pair ∈ on') →
        Grows (losslessQueues db off on remap) (losslessQueues db off on' remap)) ∧
      (∀ pair db', Applied db [] [pair] ∅ db' →
        (Grows (losslessQueues db off on remap) (losslessQueues db' off on remap) ↔
          (db.Readable → StillRead db off on remap pair))) ∧
      ∀ db' off' on' remap', db.Reordered db' → (∀ pair, pair ∈ off' ↔ pair ∈ off) →
        (∀ pair, pair ∈ on' ↔ pair ∈ on) →
        (∀ pair : PortPrio, remap'.lookup pair = remap.lookup pair) →
          expectedWatched db' off' on' remap' = expectedWatched db off on remap :=
  ⟨answers_iff integers, fun _ more => grows_on integers more,
    fun _ _ applied => grows_applied_iff integers applied,
    fun _ _ _ _ same off_iff on_iff remap_eq =>
      congrArg (Option.map watched) (losslessQueues_reordered same off_iff on_iff remap_eq)⟩

theorem integerMaps_oneRow (pfcEnable : String) : (oneRow pfcEnable).IntegerMaps := by
  intro name p queue found
  have entry := AList.mem_lookup_iff.mp (Option.mem_def.mpr found)
  have five : queue = "5".toList := by
    rcases List.mem_cons.mp entry with same | none
    · cases same
      rfl
    · cases none
  rw [five]
  decide

theorem readable_oneRow {pfcEnable : String} {prios : List Int}
    (read : ((oneRow pfcEnable).row ethernet0).prios? = some prios) :
    (oneRow pfcEnable).Readable := by
  intro port
  by_cases same : port = ethernet0
  · rw [same, read]
    exact Option.some_ne_none prios
  · rw [row_oneRow, if_neg same]
    exact Option.some_ne_none []

/-- A port with a priority on and a bound map. -/
theorem expected_watched_on_enabled_port :
    Answers (oneRow "4,3") [] [] ∅ ∧
      Grows (losslessQueues (oneRow "4,3") [] [] ∅)
        (losslessQueues (oneRow "4,3") [] [(ethernet0, 6)] ∅) := by
  obtain ⟨answers, grows, -⟩ := expected_watched_iff (oneRow "4,3") [] [] ∅ (integerMaps_oneRow _)
  refine ⟨answers.mpr (readable_oneRow (show _ = some [4, 3] by decide)), grows _ ?_⟩
  simp

/-- With nothing enabled on the port, priority 3 turned on reads queue 3; once priority 4 is
enabled there too, it reads queue 5 of the bound map and queue 3 is gone.  A superscript
two passes `isdigit`, and `int` raises. -/
theorem identity_queue_lost :
    Applied (oneRow "") [] [(ethernet0, 4)] ∅ (oneRow "4") ∧
      losslessQueues (oneRow "") [] [(ethernet0, 3)] ∅ = some {3} ∧
      losslessQueues (oneRow "4") [] [(ethernet0, 3)] ∅ = some {4, 5} ∧
      ¬ Grows (losslessQueues (oneRow "") [] [(ethernet0, 3)] ∅)
        (losslessQueues (oneRow "4") [] [(ethernet0, 3)] ∅) ∧
      expectedWatched (oneRow "3,²") [] [] ∅ = none := by
  have before : losslessQueues (oneRow "") [] [(ethernet0, 3)] ∅ = some {3} := by decide
  have after : losslessQueues (oneRow "4") [] [(ethernet0, 3)] ∅ = some {4, 5} := by decide
  refine ⟨applied_oneRow [] [4] (by decide) (by decide) (by simp), before, after, ?_,
    by decide⟩
  intro grows
  obtain ⟨others, returned, included⟩ := grows {3} before
  obtain rfl := Option.some_injective _ (after.symm.trans returned)
  exact absurd (included (Finset.mem_singleton_self 3)) (by decide)

end OnboxFvt.Dlb
