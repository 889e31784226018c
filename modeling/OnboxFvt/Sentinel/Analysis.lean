import Mathlib.Data.List.AList
import OnboxFvt.Sentinel.Conservation

/-!
# Classifying the leaks of a run

`tools/analyze_sentinel.py` reads the report file after the run.  It replays what was
added and removed without knowing the keys of the baseline: a key removed before any
test added it must have been there from the start, and it is forgotten.
-/

namespace OnboxFvt.Sentinel

open Library Python

/-- `nodeid.split("::", 1)[0]`. -/
def mod (nodeid : Text) : Text :=
  ((cut? "::".toList nodeid).map Prod.fst).getD nodeid

structure Storm where
  nodeid : Text
  dfdb : Int
  dneigh : Int
  fdb : Nat
  neigh : Nat

/-- Added, removed and the rest of `main`'s event for a line; baseline lines are skipped, and
a heal has neither list. -/
def Line.event? : Line → Option (Text × List Text × List Text)
  | .baseline _ _ _ => none
  | .record made => some (made.nodeid, made.added, made.removed)
  | .heal nodeid _ => some (nodeid, [], [])

def Line.storm? : Line → Option Storm
  | .record made =>
      if made.dfdb > 4 ∨ made.dneigh > 4 then
        some ⟨made.nodeid, made.dfdb, made.dneigh, made.fdb, made.neigh⟩
      else none
  | _ => none

/-- Why a removal is listed as an anomaly. -/
inductive Why where
  | removedBaselineKey
  | crossModule (creator : Text)
  deriving DecidableEq

structure Replay where
  outstanding : AList fun _ : Text => Text
  /-- The key, the test that removed it and why it is listed. -/
  cross : List (Text × Text × Why)
  /-- The key, the test that added it and the test that removed it. -/
  benign : List (Text × Text × Text)

namespace Replay

def add (nid : Text) (replay : Replay) (key : Text) : Replay :=
  { replay with outstanding := replay.outstanding.insert key nid }

def remove (nid : Text) (replay : Replay) (key : Text) : Replay :=
  match replay.outstanding.lookup key with
  | none => { replay with cross := replay.cross ++ [(key, nid, .removedBaselineKey)] }
  | some creator =>
      let popped := { replay with outstanding := replay.outstanding.erase key }
      if mod creator = mod nid then
        { popped with benign := replay.benign ++ [(key, creator, nid)] }
      else { popped with cross := replay.cross ++ [(key, nid, .crossModule creator)] }

def event (replay : Replay) (event : Text × List Text × List Text) : Replay :=
  event.2.2.foldl (remove event.1) (event.2.1.foldl (add event.1) replay)

end Replay

structure Analysis where
  trueLeak : AList fun _ : Text => Text
  cross : List (Text × Text × Why)
  benign : List (Text × Text × Text)
  storms : List Storm

def analyze (lines : List Line) : Analysis :=
  let replay := (lines.filterMap Line.event?).foldl Replay.event ⟨∅, [], []⟩
  ⟨replay.outstanding, replay.cross, replay.benign, lines.filterMap Line.storm?⟩

/-! ## The creator the replay remembers -/

theorem Replay.lookup_add (nid : Text) (added : List Text) (replay : Replay) (key : Text) :
    (added.foldl (add nid) replay).outstanding.lookup key =
      if key ∈ added then some nid else replay.outstanding.lookup key := by
  induction added generalizing replay with
  | nil => rfl
  | cons first rest inductionHypothesis =>
      rw [List.foldl_cons, inductionHypothesis]
      by_cases later : key ∈ rest
      · simp [later]
      · by_cases same : key = first
        · rw [if_neg later, if_pos (same ▸ List.mem_cons_self ..), add, same]
          exact AList.lookup_insert _
        · simp [add, later, same]

theorem Replay.lookup_remove_one (nid : Text) (replay : Replay) (removed key : Text) :
    (replay.remove nid removed).outstanding.lookup key =
      if key = removed then none else replay.outstanding.lookup key := by
  unfold remove
  cases created : replay.outstanding.lookup removed with
  | none =>
      by_cases same : key = removed
      · rw [if_pos same, same]
        exact created
      · rw [if_neg same]
  | some creator =>
      have popped : (replay.outstanding.erase removed).lookup key =
          if key = removed then none else replay.outstanding.lookup key := by
        by_cases same : key = removed
        · rw [if_pos same, same]
          exact AList.lookup_erase _ _
        · rw [if_neg same]
          exact AList.lookup_erase_ne same
      simp only
      split
      · exact popped
      · exact popped

theorem Replay.lookup_remove (nid : Text) (removed : List Text) (replay : Replay) (key : Text) :
    (removed.foldl (remove nid) replay).outstanding.lookup key =
      if key ∈ removed then none else replay.outstanding.lookup key := by
  induction removed generalizing replay with
  | nil => rfl
  | cons first rest inductionHypothesis =>
      rw [List.foldl_cons, inductionHypothesis, lookup_remove_one]
      by_cases later : key ∈ rest
      · simp [later]
      · by_cases same : key = first
        · simp [same]
        · simp [later, same]

theorem Replay.lookup_event (replay : Replay) (nid : Text) (added removed : List Text)
    (key : Text) :
    (replay.event (nid, added, removed)).outstanding.lookup key =
      if key ∈ removed then none
      else if key ∈ added then some nid else replay.outstanding.lookup key := by
  rw [event, lookup_remove, lookup_add]

/-- What the replay of records remembers. -/
def creator (records : List Record) (key : Text) : Option Text :=
  ((records.map fun made => (made.nodeid, made.added, made.removed)).foldl Replay.event
    ⟨∅, [], []⟩).outstanding.lookup key

theorem creator_concat (records : List Record) (made : Record) (key : Text) :
    creator (records ++ [made]) key =
      if key ∈ made.removed then none
      else if key ∈ made.added then some made.nodeid else creator records key := by
  rw [creator, List.map_append, List.foldl_append]
  exact Replay.lookup_event _ _ _ _ _

/-- Heals and baselines do not count. -/
theorem lookup_trueLeak (lines : List Line) (key : Text) :
    (analyze lines).trueLeak.lookup key = creator (lines.filterMap Line.record?) key := by
  induction lines using List.reverseRecOn with
  | nil => rfl
  | append_singleton rest line inductionHypothesis =>
      simp only [analyze, List.filterMap_append, List.foldl_append] at inductionHypothesis ⊢
      cases line with
      | baseline cfgKeys fdb neigh =>
          have recorded : List.filterMap Line.record? [Line.baseline cfgKeys fdb neigh] = [] := rfl
          rw [recorded, List.append_nil]
          exact inductionHypothesis
      | heal nodeid ports =>
          have recorded : List.filterMap Line.record? [Line.heal nodeid ports] = [] := rfl
          rw [recorded, List.append_nil]
          exact inductionHypothesis
      | record made =>
          have recorded : List.filterMap Line.record? [Line.record made] = [made] := rfl
          have event : List.filterMap Line.event? [Line.record made] =
              [(made.nodeid, made.added, made.removed)] := rfl
          rw [recorded, creator_concat, event, List.foldl_cons, List.foldl_nil,
            Replay.lookup_event, inductionHypothesis]

/-! ## Which keys are outstanding at the end -/

/-- The last test that added the key. -/
def lastAdder (records : List Record) (key : Text) : Option Text :=
  ((records.filter fun made => decide (key ∈ made.added)).getLast?).map Record.nodeid

def RemovedBySome (records : List Record) (key : Text) : Prop :=
  ∃ made ∈ records, key ∈ made.removed

theorem lastAdder_concat (records : List Record) (made : Record) (key : Text) :
    lastAdder (records ++ [made]) key =
      if key ∈ made.added then some made.nodeid else lastAdder records key := by
  unfold lastAdder
  by_cases added : key ∈ made.added <;> simp [List.filter_append, added]

theorem removedBySome_concat (records : List Record) (made : Record) (key : Text) :
    RemovedBySome (records ++ [made]) key ↔ RemovedBySome records key ∨ key ∈ made.removed := by
  simp [RemovedBySome, or_and_right, exists_or]

/-- The history of one key, as far as the replay depends on it. -/
structure KeyHistory (baseline : Snapshot) (final : Finset Text) (records : List Record)
    (key : Text) : Prop where
  present : key ∈ final → creator records key = lastAdder records key
  absent : key ∉ final → creator records key = none
  /-- A key that is there was added, or it is an untouched key of the baseline. -/
  added : key ∈ final →
    ((lastAdder records key).isSome ↔ key ∉ baseline.cfg ∨ RemovedBySome records key)
  gone : key ∉ final → key ∉ baseline.cfg ∨ RemovedBySome records key

/-- A record that says of the key whether it came or went, in the four cases of that. -/
theorem KeyHistory.concat {baseline : Snapshot} {earlier later : Finset Text}
    {records : List Record} {key : Text} (history : KeyHistory baseline earlier records key)
    {made : Record} (addition : key ∈ made.added ↔ key ∈ later ∧ key ∉ earlier)
    (removal : key ∈ made.removed ↔ key ∈ earlier ∧ key ∉ later) :
    KeyHistory baseline later (records ++ [made]) key := by
  obtain ⟨present, absent, added, gone⟩ := history
  by_cases before : key ∈ earlier
  · have kept : key ∉ made.added := fun member => (addition.mp member).2 before
    by_cases after : key ∈ later
    · have stays : key ∉ made.removed := fun member => (removal.mp member).2 after
      constructor <;>
        simp [creator_concat, lastAdder_concat, removedBySome_concat, kept, stays, after,
          present before, added before]
    · have leaves : key ∈ made.removed := removal.mpr ⟨before, after⟩
      constructor <;> simp [creator_concat, removedBySome_concat, leaves, after]
  · have stays : key ∉ made.removed := fun member => before (removal.mp member).1
    by_cases after : key ∈ later
    · have enters : key ∈ made.added := addition.mpr ⟨after, before⟩
      constructor <;>
        simp [creator_concat, lastAdder_concat, removedBySome_concat, enters, stays, after,
          gone before]
    · have kept : key ∉ made.added := fun member => after (addition.mp member).1
      constructor <;>
        simp [creator_concat, removedBySome_concat, kept, stays, after, absent before,
          gone before]

theorem keyHistory (baseline : Snapshot) (seen : List (Text × Snapshot)) (key : Text) :
    KeyHistory baseline (latest baseline seen).cfg
      ((windows baseline seen).filterMap (recordOf baseline)) key := by
  induction seen using List.reverseRecOn with
  | nil =>
      constructor
      · intro _
        rfl
      · intro _
        rfl
      · intro present
        simpa [lastAdder, windows, RemovedBySome, latest] using present
      · intro absent
        exact Or.inl absent
  | append_singleton rest observation inductionHypothesis =>
      rw [windows_concat, latest_concat, List.filterMap_append]
      have addition := @reports_added baseline
        ⟨observation.1, latest baseline rest, observation.2⟩ key
      have removal := @reports_removed baseline
        ⟨observation.1, latest baseline rest, observation.2⟩ key
      cases reported : recordOf baseline ⟨observation.1, latest baseline rest, observation.2⟩ with
      | none =>
          rw [List.filterMap_cons_none reported, List.filterMap_nil, List.append_nil,
            (recordOf_eq_none reported).1]
          exact inductionHypothesis
      | some made =>
          rw [List.filterMap_cons_some reported, List.filterMap_nil]
          rw [reported] at addition removal
          simp only [Option.mem_def, Option.some.injEq, exists_eq_left'] at addition removal
          exact inductionHypothesis.concat addition removal

/-- What is outstanding at the end, and on whom it is blamed. -/
theorem creator_eq (baseline : Snapshot) (seen : List (Text × Snapshot)) (key : Text) :
    let records := (windows baseline seen).filterMap (recordOf baseline)
    (creator records key = none ↔ ¬ (key ∈ (latest baseline seen).cfg ∧
      (key ∉ baseline.cfg ∨ RemovedBySome records key))) ∧
      ∀ nodeid, creator records key = some nodeid → lastAdder records key = some nodeid := by
  intro records
  have history := keyHistory baseline seen key
  by_cases final : key ∈ (latest baseline seen).cfg
  · refine ⟨?_, fun nodeid created => (history.present final).symm.trans created⟩
    rw [history.present final, ← Option.not_isSome_iff_eq_none, history.added final]
    simp [final, records]
  · refine ⟨by simp [final, records, history.absent final], fun nodeid created => ?_⟩
    rw [history.absent final] at created
    cases created

/-! ## When the true leaks are the leaks -/

variable {baseline : Snapshot} {seen : List (Text × Snapshot)} {session : Session}

theorem Session.Follows.lookup_trueLeak (reached : session.Follows baseline seen) (key : Text) :
    (analyze session.report).trueLeak.lookup key =
      creator ((windows baseline seen).filterMap (recordOf baseline)) key := by
  rw [Sentinel.lookup_trueLeak, reached.logged, reached.records]

/-- Besides the new keys, those of the baseline that were removed and put back are reported. -/
theorem Session.Follows.leaked_iff (reached : session.Follows baseline seen) (key : Text) :
    key ∈ (analyze session.report).trueLeak ↔
      key ∈ (latest baseline seen).cfg ∧
        (key ∉ baseline.cfg ∨ RemovedBySome session.records key) := by
  rw [← AList.lookup_isSome, reached.lookup_trueLeak, reached.records, ← not_iff_not,
    Option.not_isSome_iff_eq_none]
  exact (creator_eq baseline seen key).1

theorem Session.Follows.blame (reached : session.Follows baseline seen) {key nodeid : Text}
    (found : (analyze session.report).trueLeak.lookup key = some nodeid) :
    lastAdder session.records key = some nodeid := by
  rw [reached.lookup_trueLeak] at found
  rw [reached.records]
  exact (creator_eq baseline seen key).2 nodeid found

/-- The reported keys are those of the final set that are not in the baseline, each with
the last test that added it. -/
structure ExactLeaks (baseline final : Finset Text) (records : List Record)
    (reported : AList fun _ : Text => Text) : Prop where
  keys : ∀ key, key ∈ reported ↔ key ∈ final \ baseline
  blame : ∀ key nodeid, reported.lookup key = some nodeid → lastAdder records key = some nodeid

theorem true_leaks_exact_iff (sh : Answers) (baseline : Snapshot)
    (read : snapshot sh = some baseline) (old : List Line) (events : List Event) :
    ∃ session, (Session.initial old).captureBaseline true sh = some session ∧
      ∃ final, (session.run events).cleanCfg = some final ∧
        (ExactLeaks baseline.cfg final (session.run events).records
            (analyze (session.run events).report).trueLeak ↔
          ∀ key ∈ baseline.cfg, RemovedBySome (session.run events).records key →
            key ∉ final) := by
  obtain ⟨session, captured, follows⟩ := Session.captureBaseline_follows old read
  have reached := follows.run events
  rw [List.nil_append] at reached
  refine ⟨session, captured, _, reached.cleanCfg, ?_⟩
  constructor
  · intro exact key known removed final
    have member := (exact.keys key).mp ((reached.leaked_iff key).mpr ⟨final, Or.inr removed⟩)
    exact (Finset.mem_sdiff.mp member).2 known
  · intro untouched
    constructor
    · intro key
      rw [reached.leaked_iff, Finset.mem_sdiff]
      constructor
      · rintro ⟨final, unknown | removed⟩
        · exact ⟨final, unknown⟩
        · exact ⟨final, fun known => untouched key known removed final⟩
      · rintro ⟨final, unknown⟩
        exact ⟨final, Or.inl unknown⟩
    · intro key nodeid found
      exact reached.blame found

theorem true_leaks_exact_iff_quiet :
    ∃ session, (Session.initial []).captureBaseline true (fun _ => some []) = some session ∧
      ∃ final, (session.run [.testEnds "t".toList fun _ => some "VLAN|Vlan10".toList]).cleanCfg =
          some final ∧
        (ExactLeaks ∅ final
            (session.run [.testEnds "t".toList fun _ => some "VLAN|Vlan10".toList]).records
            (analyze (session.run
              [.testEnds "t".toList fun _ => some "VLAN|Vlan10".toList]).report).trueLeak ↔
          ∀ key ∈ (∅ : Finset Text), RemovedBySome
            (session.run [.testEnds "t".toList fun _ => some "VLAN|Vlan10".toList]).records key →
              key ∉ final) :=
  true_leaks_exact_iff (fun _ => some []) quiet rfl []
    [.testEnds "t".toList fun _ => some "VLAN|Vlan10".toList]

/-- A session with one key, which the first test removes and the second puts back. -/
def oneKey : Snapshot :=
  { cfg := {"VLAN|Vlan10".toList}, fdb := 1, neigh := 1
    watched := ⟨watchedKeys.map fun key => (key, "VLAN|Vlan10".toList), by decide⟩ }

def putBack : List Event :=
  [.testEnds "removes".toList fun _ => some [],
    .testEnds "restores".toList fun _ => some "VLAN|Vlan10".toList]

theorem restored_key_is_reported :
    ∃ session, (Session.initial []).captureBaseline true (fun _ => some "VLAN|Vlan10".toList) =
        some session ∧
      ∃ final, (session.run putBack).cleanCfg = some final ∧
        ¬ ExactLeaks oneKey.cfg final (session.run putBack).records
          (analyze (session.run putBack).report).trueLeak := by
  have read : snapshot (fun _ => some "VLAN|Vlan10".toList) = some oneKey := rfl
  obtain ⟨session, captured, follows⟩ := Session.captureBaseline_follows [] read
  have reached := follows.run putBack
  refine ⟨session, captured, _, reached.cleanCfg, fun exact => ?_⟩
  have known : "VLAN|Vlan10".toList ∈ oneKey.cfg := Finset.mem_singleton_self _
  have removed : RemovedBySome (session.run putBack).records "VLAN|Vlan10".toList := by
    obtain ⟨made, reported, member⟩ := (@reports_removed oneKey
      ⟨"removes".toList, oneKey, quiet⟩ "VLAN|Vlan10".toList).mpr
        ⟨known, Finset.notMem_empty _⟩
    rw [reached.records]
    exact ⟨made, List.mem_filterMap.mpr ⟨_, List.mem_cons_self .., reported⟩, member⟩
  have leaked := (exact.keys _).mp ((reached.leaked_iff _).mpr ⟨known, Or.inr removed⟩)
  exact (Finset.mem_sdiff.mp leaked).2 known

end OnboxFvt.Sentinel
