import Mathlib.Data.List.Nodup
import OnboxFvt.Library.Dict
import OnboxFvt.Sentinel.Fingerprint

/-!
# The records of the sentinel add up

A test whose snapshot fails opens no window: what it changed is seen in the window of
the next test that has a snapshot.
-/

namespace OnboxFvt.Sentinel

open Library Python

def Event.observed : Event → Option (Text × Snapshot)
  | .testEnds nodeid sh => (snapshot sh).map fun cur => (nodeid, cur)
  | .heals _ _ => none

def observations (events : List Event) : List (Text × Snapshot) :=
  events.filterMap Event.observed

/-- The record the sentinel keeps of a window, if any. -/
def recordOf (baseline : Snapshot) (window : Window Text Snapshot) : Option Record :=
  let made := Record.between baseline.fdb baseline.neigh window.tag window.before.cfg
    window.before.watched.items window.after
  if made.dirty then some made else none

def Line.record? : Line → Option Record
  | .record made => some made
  | _ => none

/-! ## A session follows its observations -/

structure Session.Follows (baseline : Snapshot) (seen : List (Text × Snapshot))
    (session : Session) : Prop where
  sh : session.sh = true
  cleanCfg : session.cleanCfg = some (latest baseline seen).cfg
  baseFdb : session.baseFdb = baseline.fdb
  baseNeigh : session.baseNeigh = baseline.neigh
  watch : session.watch = some (latest baseline seen).watched
  records : session.records = (windows baseline seen).filterMap (recordOf baseline)
  logged : session.report.filterMap Line.record? = session.records

variable {baseline : Snapshot} {seen : List (Text × Snapshot)} {session : Session}

theorem Session.captureBaseline_follows {sh : Answers} (report : List Line)
    (read : snapshot sh = some baseline) :
    ∃ session, (Session.initial report).captureBaseline true sh = some session ∧
      session.Follows baseline [] := by
  refine ⟨_, by rw [captureBaseline, if_pos rfl, read, Option.map_some], ?_⟩
  constructor <;> rfl

theorem Session.Follows.step (follows : session.Follows baseline seen) (event : Event) :
    (session.step event).Follows baseline (seen ++ event.observed.toList) := by
  cases event with
  | heals nodeid ports =>
      rw [Event.observed, Option.toList_none, List.append_nil]
      refine ⟨follows.sh, follows.cleanCfg, follows.baseFdb, follows.baseNeigh, follows.watch,
        follows.records, ?_⟩
      rw [Session.step, Session.recordHeal, List.filterMap_append, follows.logged]
      exact List.append_nil _
  | testEnds nodeid sh =>
      rw [Session.step, Session.runtestTeardown, if_pos rfl]
      unfold Session.checkAfterTest
      rw [follows.cleanCfg, follows.sh]
      cases read : snapshot sh with
      | none =>
          rw [Event.observed, read, Option.map_none, Option.toList_none, List.append_nil]
          exact follows
      | some cur =>
          rw [Event.observed, read, Option.map_some, Option.toList_some]
          simp only [Option.map_some, Option.getD_some, follows.watch, follows.baseFdb,
            follows.baseNeigh]
          refine ⟨rfl, ?_, rfl, rfl, ?_, ?_, ?_⟩
          · rw [latest_concat]
          · rw [latest_concat]
          · rw [windows_concat, List.filterMap_append, ← follows.records]
            by_cases dirty : (Record.between baseline.fdb baseline.neigh nodeid
                (latest baseline seen).cfg (latest baseline seen).watched.items cur).dirty = true
            · simp [recordOf, dirty]
            · simp [recordOf, dirty]
          · by_cases dirty : (Record.between baseline.fdb baseline.neigh nodeid
                (latest baseline seen).cfg (latest baseline seen).watched.items cur).dirty = true
            · simp [dirty, Line.record?, follows.logged]
            · simp [dirty, follows.logged]

theorem Session.Follows.run (follows : session.Follows baseline seen) (events : List Event) :
    (session.run events).Follows baseline (seen ++ observations events) := by
  induction events generalizing session seen with
  | nil =>
      rw [observations, List.filterMap_nil, List.append_nil]
      exact follows
  | cons event rest inductionHypothesis =>
      have continued := inductionHypothesis (follows.step event)
      rw [List.append_assoc] at continued
      have together : observations (event :: rest) =
          event.observed.toList ++ observations rest := by
        rw [observations, observations, List.filterMap_cons]
        cases event.observed <;> rfl
      rw [together]
      exact continued

/-! ## What a record says of its window -/

theorem recordOf_eq_some {window : Window Text Snapshot} {made : Record}
    (reported : recordOf baseline window = some made) :
    made = Record.between baseline.fdb baseline.neigh window.tag window.before.cfg
      window.before.watched.items window.after := by
  simp only [recordOf] at reported
  split at reported
  · exact (Option.some.inj reported).symm
  · cases reported

theorem subset_of_nothing_left {first second : Finset Text}
    (nothing : (first \ second).sort = []) : first ⊆ second := by
  intro key present
  by_contra absent
  have member : key ∈ (first \ second).sort :=
    (Finset.mem_sort _).mpr (Finset.mem_sdiff.mpr ⟨present, absent⟩)
  rw [nothing] at member
  cases member

theorem recordOf_eq_none {window : Window Text Snapshot}
    (silent : recordOf baseline window = none) :
    window.after.cfg = window.before.cfg ∧
      wchanged window.before.watched.items window.after.watched.items = [] := by
  simp only [recordOf] at silent
  split at silent
  · cases silent
  · next clean =>
      simp only [Record.dirty, Record.between, Bool.or_eq_true, Bool.not_eq_true',
        not_or, Bool.not_eq_false, List.isEmpty_iff] at clean
      obtain ⟨⟨⟨⟨added, removed⟩, _⟩, _⟩, unchanged⟩ := clean
      refine ⟨Finset.Subset.antisymm ?_ ?_, unchanged⟩
      · exact subset_of_nothing_left added
      · exact subset_of_nothing_left removed

theorem reports_added (window : Window Text Snapshot) (key : Text) :
    (∃ made ∈ recordOf baseline window, key ∈ made.added) ↔
      key ∈ window.after.cfg ∧ key ∉ window.before.cfg := by
  cases reported : recordOf baseline window with
  | none =>
      rw [(recordOf_eq_none reported).1]
      simp
  | some made =>
      rw [recordOf_eq_some reported]
      simp [Record.between]

theorem reports_removed (window : Window Text Snapshot) (key : Text) :
    (∃ made ∈ recordOf baseline window, key ∈ made.removed) ↔
      key ∈ window.before.cfg ∧ key ∉ window.after.cfg := by
  cases reported : recordOf baseline window with
  | none =>
      rw [(recordOf_eq_none reported).1]
      simp
  | some made =>
      rw [recordOf_eq_some reported]
      simp [Record.between]

/-! ## The watched keys -/

namespace Watched

theorem distinct (watched : Watched) : (watched.items.map Prod.fst).Nodup := by
  rw [watched.complete]
  decide

theorem lookup_eq_none_iff (watched : Watched) (key : Text) :
    watched.items.lookup key = none ↔ key ∉ watchedKeys := by
  rw [← watched.complete]
  exact Dict.lookup_eq_none_iff

def value (watched : Watched) (key : Text) : Text :=
  (watched.items.lookup key).getD []

/-- Two readings have the same keys. -/
theorem lookup_cases (prev cur : Watched) (key : Text) :
    prev.items.lookup key = none ∧ cur.items.lookup key = none ∨
      ∃ was now, prev.items.lookup key = some was ∧ cur.items.lookup key = some now := by
  by_cases listed : key ∈ watchedKeys
  · right
    have before := mt (prev.lookup_eq_none_iff key).mp (not_not.mpr listed)
    have after := mt (cur.lookup_eq_none_iff key).mp (not_not.mpr listed)
    obtain ⟨was, previous⟩ := Option.ne_none_iff_exists'.mp before
    obtain ⟨now, current⟩ := Option.ne_none_iff_exists'.mp after
    exact ⟨was, now, previous, current⟩
  · left
    exact ⟨(prev.lookup_eq_none_iff key).mpr listed, (cur.lookup_eq_none_iff key).mpr listed⟩

end Watched

theorem mem_wchanged (prev cur : Watched) (change : Change) :
    change ∈ wchanged prev.items cur.items ↔
      change.was = prev.value change.key ∧ change.now = cur.value change.key ∧
        change.was ≠ change.now := by
  obtain ⟨key, was, now⟩ := change
  simp only [Watched.value]
  constructor
  · intro member
    obtain ⟨item, inside, made⟩ := List.mem_filterMap.mp member
    split at made
    · next differs =>
        cases Option.some.inj made
        have current : cur.items.lookup item.1 = some item.2 :=
          (Dict.lookup_eq_some_iff cur.distinct).mpr inside
        obtain ⟨_, absent⟩ | ⟨before, _, previous, _⟩ := prev.lookup_cases cur item.1
        · rw [current] at absent
          cases absent
        · rw [previous] at differs ⊢
          rw [current]
          exact ⟨rfl, rfl, fun equal => differs equal.symm⟩
    · cases made
  · rintro ⟨was_eq, now_eq, differs⟩
    obtain ⟨previous, current⟩ | ⟨before, value, previous, current⟩ := prev.lookup_cases cur key
    · rw [current] at now_eq
      rw [previous] at was_eq
      exact absurd (was_eq.trans now_eq.symm) differs
    · rw [current, Option.getD_some] at now_eq
      rw [previous, Option.getD_some] at was_eq
      subst now_eq was_eq
      refine List.mem_filterMap.mpr
        ⟨(key, now), (Dict.lookup_eq_some_iff cur.distinct).mp current, ?_⟩
      rw [previous]
      exact if_pos (Ne.symm differs)

theorem reports_changed (window : Window Text Snapshot) (change : Change) :
    (∃ made ∈ recordOf baseline window, change ∈ made.watchedChanged) ↔
      change.was = window.before.watched.value change.key ∧
        change.now = window.after.watched.value change.key ∧ change.was ≠ change.now := by
  rw [← mem_wchanged]
  cases reported : recordOf baseline window with
  | none =>
      rw [(recordOf_eq_none reported).2]
      simp
  | some made =>
      rw [recordOf_eq_some reported]
      simp [Record.between]

/-! ## Folding the records -/

/-- A key set after the changes of a record. -/
def Record.applyKeys (keys : Finset Text) (made : Record) : Finset Text :=
  (keys \ made.removed.toFinset) ∪ made.added.toFinset

/-- The watched values after the changes of a record. -/
def Record.applyWatched (values : Text → Text) (made : Record) : Text → Text :=
  made.watchedChanged.foldl
    (fun values change => Function.update values change.key change.now) values

theorem applyKeys_window (window : Window Text Snapshot) :
    (recordOf baseline window).elim window.before.cfg
      (Record.applyKeys window.before.cfg) = window.after.cfg := by
  cases reported : recordOf baseline window with
  | none => exact (recordOf_eq_none reported).1.symm
  | some made =>
      rw [Option.elim_some, recordOf_eq_some reported]
      ext key
      simp only [Record.applyKeys, Record.between, Finset.sort_toFinset, Finset.mem_union,
        Finset.mem_sdiff]
      by_cases before : key ∈ window.before.cfg <;> by_cases after : key ∈ window.after.cfg <;>
        simp [before, after]

theorem foldl_update_of_agree {changes : List Change} {target : Text → Text}
    (agree : ∀ change ∈ changes, change.now = target change.key) (values : Text → Text)
    (key : Text) :
    changes.foldl (fun values change => Function.update values change.key change.now) values key =
      if ∃ change ∈ changes, change.key = key then target key else values key := by
  induction changes generalizing values with
  | nil => simp
  | cons change rest inductionHypothesis =>
      have now : change.now = target change.key := agree change (List.mem_cons_self ..)
      rw [List.foldl_cons, inductionHypothesis fun other member =>
        agree other (List.mem_cons_of_mem _ member)]
      by_cases later : ∃ other ∈ rest, other.key = key
      · rw [if_pos later, if_pos]
        obtain ⟨other, member, same⟩ := later
        exact ⟨other, List.mem_cons_of_mem _ member, same⟩
      · by_cases same : change.key = key
        · rw [if_neg later, if_pos ⟨change, List.mem_cons_self .., same⟩, same, now, same]
          rw [Function.update_self]
        · rw [if_neg later, if_neg, Function.update_of_ne (Ne.symm same)]
          rintro ⟨other, member, equal⟩
          rcases List.mem_cons.mp member with rfl | inRest
          · exact same equal
          · exact later ⟨other, inRest, equal⟩

theorem applyWatched_window (window : Window Text Snapshot) :
    (recordOf baseline window).elim window.before.watched.value
      (Record.applyWatched window.before.watched.value) = window.after.watched.value := by
  have changes := @reports_changed baseline window
  cases reported : recordOf baseline window with
  | none =>
      funext key
      by_contra differs
      obtain ⟨made, impossible, _⟩ :=
        (changes ⟨key, window.before.watched.value key, window.after.watched.value key⟩).mpr
          ⟨rfl, rfl, differs⟩
      rw [reported] at impossible
      cases impossible
  | some made =>
      have exact : ∀ change, change ∈ made.watchedChanged ↔
          change.was = window.before.watched.value change.key ∧
            change.now = window.after.watched.value change.key ∧ change.was ≠ change.now := by
        intro change
        rw [← changes, reported]
        simp
      funext key
      rw [Option.elim_some, Record.applyWatched,
        foldl_update_of_agree fun change member => ((exact change).mp member).2.1]
      split
      · rfl
      · next none =>
          by_contra differs
          exact none ⟨⟨key, _, _⟩, (exact ⟨key, _, _⟩).mpr ⟨rfl, rfl, differs⟩, rfl⟩

/-! ## Additions and removals of one key alternate -/

/-- The reports of one key in a record: true for added, false for removed. -/
def Record.marks (key : Text) (made : Record) : List Bool :=
  (made.added.filter (· = key)).map (fun _ => true) ++
    (made.removed.filter (· = key)).map fun _ => false

theorem filter_sort_eq (keys : Finset Text) (key : Text) :
    keys.sort.filter (· = key) = if key ∈ keys then [key] else [] := by
  rw [List.filter_eq]
  rw [List.Nodup.count (Finset.sort_nodup ..)]
  simp only [Finset.mem_sort]
  split <;> rfl

theorem marks_window (key : Text) (window : Window Text Snapshot) :
    (recordOf baseline window).elim [] (Record.marks key) =
      if decide (key ∈ window.before.cfg) = decide (key ∈ window.after.cfg) then []
      else [decide (key ∈ window.after.cfg)] := by
  cases reported : recordOf baseline window with
  | none => simp [(recordOf_eq_none reported).1]
  | some made =>
      rw [Option.elim_some, recordOf_eq_some reported]
      simp only [Record.marks, Record.between, filter_sort_eq, Finset.mem_sdiff]
      by_cases before : key ∈ window.before.cfg <;> by_cases after : key ∈ window.after.cfg <;>
        simp [before, after]

/-! ## Conservation -/

/-- What the records of a session say of the snapshots it has seen since the baseline. -/
structure Conserved (baseline : Snapshot) (seen : List (Text × Snapshot))
    (records : List Record) : Prop where
  keys : records.foldl Record.applyKeys baseline.cfg = (latest baseline seen).cfg
  watched : records.foldl Record.applyWatched baseline.watched.value =
    (latest baseline seen).watched.value
  /-- The records are those of the windows, one at most for each. -/
  attributed : ∃ record : Window Text Snapshot → Option Record,
    records = (windows baseline seen).filterMap record ∧
      ∀ window, (∀ made ∈ record window, made.nodeid = window.tag) ∧
        (∀ key, (∃ made ∈ record window, key ∈ made.added) ↔
          key ∈ window.after.cfg ∧ key ∉ window.before.cfg) ∧
        (∀ key, (∃ made ∈ record window, key ∈ made.removed) ↔
          key ∈ window.before.cfg ∧ key ∉ window.after.cfg) ∧
        ∀ change, (∃ made ∈ record window, change ∈ made.watchedChanged) ↔
          change.was = window.before.watched.value change.key ∧
            change.now = window.after.watched.value change.key ∧ change.was ≠ change.now
  alternating : ∀ key,
    List.IsChain (· ≠ ·) (decide (key ∈ baseline.cfg) :: records.flatMap (Record.marks key))

theorem conserved_windows (baseline : Snapshot) (seen : List (Text × Snapshot)) :
    Conserved baseline seen ((windows baseline seen).filterMap (recordOf baseline)) where
  keys := replay_windows Snapshot.cfg applyKeys_window baseline seen
  watched := replay_windows (fun snap => snap.watched.value) applyWatched_window baseline seen
  attributed := by
    refine ⟨recordOf baseline, rfl, fun window => ⟨?_, reports_added window,
      reports_removed window, reports_changed window⟩⟩
    intro made reported
    rw [recordOf_eq_some reported]
    rfl
  alternating := fun key =>
    marks_alternate (fun snap => decide (key ∈ snap.cfg)) (marks_window key) baseline seen

/-- A device whose databases are empty. -/
def quiet : Snapshot :=
  { cfg := ∅, fdb := 0, neigh := 0
    watched := ⟨watchedKeys.map fun key => (key, []), by decide⟩ }

end OnboxFvt.Sentinel
