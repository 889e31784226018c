import OnboxFvt.Sentinel.Conservation

/-!
# The summary of a run

`summary_lines` of `framework/sentinel.py`.  A record is kept of a test whose watched keys
have new contents as well, but the summary prints only the keys and the counts of a record.
-/

namespace OnboxFvt.Sentinel

open Library Python

/-- A part of a line, between the semicolons. -/
inductive Bit where
  | added (keys : List Text)
  | removed (keys : List Text)
  | fdb (dfdb : Int)
  | neigh (dneigh : Int)
  deriving DecidableEq

structure Residue where
  nodeid : Text
  bits : List Bit
  deriving DecidableEq

/-- A line of the summary, as what is printed in it. -/
inductive SummaryLine where
  | healed (count : Nat)
  | heal (nodeid : Text) (ports : List Text)
  | clean
  | residual (count : Nat)
  | residue (shown : Residue)
  deriving DecidableEq

namespace SummaryLine

def residue? : SummaryLine → Option Residue
  | residue shown => some shown
  | _ => none

end SummaryLine

def Record.bits (r : Record) : List Bit :=
  (if r.added.isEmpty then [] else [.added r.added]) ++
    (if r.removed.isEmpty then [] else [.removed r.removed]) ++
    (if fdbDelta < r.dfdb then [.fdb r.dfdb] else []) ++
    (if neighDelta < r.dneigh then [.neigh r.dneigh] else [])

def Record.residue (r : Record) : Residue where
  nodeid := r.nodeid
  bits := r.bits

namespace Session

def healLines (session : Session) : List SummaryLine :=
  if session.heals.isEmpty then []
  else .healed session.heals.length :: session.heals.map fun h => .heal h.1 h.2

def summaryLines (on : Bool) (session : Session) : List SummaryLine :=
  let out := session.healLines
  if !on then out
  else if session.records.isEmpty then out ++ [.clean]
  else out ++ .residual session.records.length ::
    session.records.map fun r => .residue r.residue

end Session

/-! ## Tests that leave residual state -/

section Windows

variable (baseline : Snapshot) (window : Window Text Snapshot)

/-- A dynamic count is above its threshold. -/
def Grown : Prop :=
  fdbDelta < (window.after.fdb : Int) - baseline.fdb ∨
    neighDelta < (window.after.neigh : Int) - baseline.neigh

/-- Keys were added or removed, or a dynamic count is above its threshold. -/
def Loud : Prop :=
  window.after.cfg ≠ window.before.cfg ∨ Grown baseline window

def Leaves : Prop :=
  Loud baseline window ∨
    ∃ key ∈ watchedKeys, window.before.watched.value key ≠ window.after.watched.value key

instance : Decidable (Grown baseline window) :=
  inferInstanceAs (Decidable (_ ∨ _))

instance : Decidable (Loud baseline window) :=
  inferInstanceAs (Decidable (_ ∨ _))

instance : Decidable (Leaves baseline window) :=
  inferInstanceAs (Decidable (_ ∨ _))

/-- What is printed is a residue of the test. -/
def Names : Bit → Prop
  | .added keys => keys ≠ [] ∧ ∀ key ∈ keys, key ∈ window.after.cfg ∧ key ∉ window.before.cfg
  | .removed keys => keys ≠ [] ∧ ∀ key ∈ keys, key ∈ window.before.cfg ∧ key ∉ window.after.cfg
  | .fdb dfdb => dfdb = window.after.fdb - baseline.fdb ∧ fdbDelta < dfdb
  | .neigh dneigh => dneigh = window.after.neigh - baseline.neigh ∧ neighDelta < dneigh

/-- The line of a test names a residue. -/
structure Reports (line : Residue) : Prop where
  nodeid : line.nodeid = window.tag
  named : ∃ bit ∈ line.bits, Names baseline window bit

end Windows

/-- One line with a residue for each test that left any, and the clean message exactly when
none did. -/
structure Summarises (baseline : Snapshot) (seen : List (Text × Snapshot))
    (lines : List SummaryLine) : Prop where
  residues : List.Forall₂ (Reports baseline)
    ((windows baseline seen).filter (Leaves baseline ·)) (lines.filterMap SummaryLine.residue?)
  clean : .clean ∈ lines ↔ ∀ window ∈ windows baseline seen, ¬ Leaves baseline window

/-! ## What is recorded and what is printed -/

variable {baseline : Snapshot} {window : Window Text Snapshot}

theorem sort_sdiff_eq_nil {first second : Finset Text} :
    (first \ second).sort = [] ↔ first ⊆ second := by
  rw [← Finset.sdiff_eq_empty_iff_subset, ← List.toFinset_eq_empty_iff, Finset.sort_toFinset]

theorem cfg_eq_iff : window.after.cfg = window.before.cfg ↔
    (window.after.cfg \ window.before.cfg).sort = [] ∧
      (window.before.cfg \ window.after.cfg).sort = [] := by
  rw [sort_sdiff_eq_nil, sort_sdiff_eq_nil]
  exact Finset.Subset.antisymm_iff

theorem wchanged_eq_nil (prev cur : Watched) :
    wchanged prev.items cur.items = [] ↔
      ∀ key ∈ watchedKeys, prev.value key = cur.value key := by
  rw [List.eq_nil_iff_forall_not_mem]
  constructor
  · intro silent key _
    by_contra differs
    exact silent ⟨key, _, _⟩ ((mem_wchanged prev cur _).mpr ⟨rfl, rfl, differs⟩)
  · intro same change member
    obtain ⟨was, now, differs⟩ := (mem_wchanged prev cur change).mp member
    by_cases listed : change.key ∈ watchedKeys
    · exact differs (was.trans ((same _ listed).trans now.symm))
    · rw [Watched.value, (prev.lookup_eq_none_iff _).mpr listed] at was
      rw [Watched.value, (cur.lookup_eq_none_iff _).mpr listed] at now
      exact differs (was.trans now.symm)

theorem Record.dirty_eq_false_iff (made : Record) : ¬ made.dirty = true ↔
    ((made.added = [] ∧ made.removed = []) ∧
      ¬ fdbDelta < made.dfdb ∧ ¬ neighDelta < made.dneigh) ∧ made.watchedChanged = [] := by
  simp [Record.dirty, and_assoc]

theorem dirty_between_iff : (Record.between baseline.fdb baseline.neigh window.tag
    window.before.cfg window.before.watched.items window.after).dirty = true ↔
      Leaves baseline window := by
  have watched := wchanged_eq_nil window.before.watched window.after.watched
  rw [← not_iff_not, Record.dirty_eq_false_iff, Leaves, Loud, not_or, not_or, Ne, not_not,
    cfg_eq_iff, Grown, not_or]
  refine and_congr Iff.rfl (watched.trans ?_)
  simp only [not_exists, not_and, Ne, not_not]

theorem recordOf_eq_none_iff : recordOf baseline window = none ↔ ¬ Leaves baseline window := by
  rw [← dirty_between_iff, recordOf]
  split
  next dirty => exact iff_of_false (Option.some_ne_none _) (not_not.mpr dirty)
  next clean => exact iff_of_true rfl clean

/-- Everything printed of a record is a residue. -/
theorem names_of_mem_bits {made : Record} (reported : recordOf baseline window = some made)
    {bit : Bit} (member : bit ∈ made.bits) : Names baseline window bit := by
  have added := fun key => (@reports_added baseline window key).mp
  have removed := fun key => (@reports_removed baseline window key).mp
  rw [reported] at added removed
  simp only [Record.bits, List.mem_append] at member
  rcases member with ((member | member) | member) | member
  · split at member
    next => cases member
    next nonempty =>
      rw [List.mem_singleton.mp member]
      exact ⟨by simpa using nonempty, fun key listed => added key ⟨made, rfl, listed⟩⟩
  · split at member
    next => cases member
    next nonempty =>
      rw [List.mem_singleton.mp member]
      exact ⟨by simpa using nonempty, fun key listed => removed key ⟨made, rfl, listed⟩⟩
  · split at member
    next above =>
      rw [List.mem_singleton.mp member]
      exact ⟨by rw [recordOf_eq_some reported]; rfl, above⟩
    next => cases member
  · split at member
    next above =>
      rw [List.mem_singleton.mp member]
      exact ⟨by rw [recordOf_eq_some reported]; rfl, above⟩
    next => cases member

theorem Record.bits_eq_nil_iff (made : Record) : made.bits = [] ↔
    (made.added = [] ∧ made.removed = []) ∧
      ¬ fdbDelta < made.dfdb ∧ ¬ neighDelta < made.dneigh := by
  simp [Record.bits, and_assoc]

/-- Something is printed of a record exactly where more than watched contents changed. -/
theorem reports_residue_iff {made : Record} (reported : recordOf baseline window = some made) :
    Reports baseline window made.residue ↔ Loud baseline window := by
  have silent : made.bits = [] ↔ ¬ Loud baseline window := by
    rw [Record.bits_eq_nil_iff, Loud, not_or, Ne, not_not, cfg_eq_iff, Grown, not_or,
      recordOf_eq_some reported]
    rfl
  constructor
  · rintro ⟨-, bit, member, -⟩
    by_contra quiet
    rw [Record.residue, silent.mpr quiet] at member
    cases member
  · intro loud
    refine ⟨by rw [recordOf_eq_some reported]; rfl, ?_⟩
    obtain ⟨bit, member⟩ := List.exists_mem_of_ne_nil _ fun empty => silent.mp empty loud
    exact ⟨bit, member, names_of_mem_bits reported member⟩

/-- The lines of a run, one for each test that left residual state. -/
theorem forall₂_residues_iff (seen : List (Window Text Snapshot)) :
    List.Forall₂ (Reports baseline) (seen.filter (Leaves baseline ·))
        ((seen.filterMap (recordOf baseline)).map Record.residue) ↔
      ∀ window ∈ seen, Leaves baseline window → Loud baseline window := by
  induction seen with
  | nil => exact iff_of_true .nil nofun
  | cons window rest inductionHypothesis =>
      rw [List.forall_mem_cons, ← inductionHypothesis]
      cases reported : recordOf baseline window with
      | none =>
          have clean := recordOf_eq_none_iff.mp reported
          rw [List.filter_cons_of_neg (by simpa using clean),
            List.filterMap_cons_none reported]
          exact (and_iff_right fun leaves => absurd leaves clean).symm
      | some made =>
          have leaves : Leaves baseline window := by
            by_contra clean
            rw [recordOf_eq_none_iff.mpr clean] at reported
            cases reported
          rw [List.filter_cons_of_pos (by simpa using leaves),
            List.filterMap_cons_some reported, List.map_cons, List.forall₂_cons,
            reports_residue_iff reported]
          exact and_congr_left fun _ => (imp_iff_right leaves).symm

/-! ## The summary of a session -/

namespace Session

theorem mem_healLines {session : Session} {line : SummaryLine} (member : line ∈ session.healLines) :
    line.residue? = none ∧ line ≠ .clean := by
  rw [healLines] at member
  split at member
  next => cases member
  next =>
      rcases List.mem_cons.mp member with rfl | later
      · exact ⟨rfl, nofun⟩
      · obtain ⟨heal, -, rfl⟩ := List.mem_map.mp later
        exact ⟨rfl, nofun⟩

theorem residues_summaryLines (session : Session) :
    (session.summaryLines true).filterMap SummaryLine.residue? =
      session.records.map Record.residue := by
  have heals : session.healLines.filterMap SummaryLine.residue? = [] :=
    List.filterMap_eq_nil_iff.mpr fun line member => (mem_healLines member).1
  have lines (records : List Record) :
      (records.map fun r => SummaryLine.residue r.residue).filterMap SummaryLine.residue? =
        records.map Record.residue := by
    rw [List.filterMap_map]
    exact congrFun List.filterMap_eq_map records
  rw [summaryLines, Bool.not_true, if_neg Bool.false_ne_true]
  split
  next none =>
      rw [List.filterMap_append, heals, List.isEmpty_iff.mp none]
      rfl
  next =>
      rw [List.filterMap_append, heals, List.nil_append, List.filterMap_cons_none rfl, lines]

theorem clean_mem_summaryLines (session : Session) :
    .clean ∈ session.summaryLines true ↔ session.records = [] := by
  have heals : SummaryLine.clean ∉ session.healLines := fun member => (mem_healLines member).2 rfl
  rw [summaryLines, Bool.not_true, if_neg Bool.false_ne_true, ← List.isEmpty_iff]
  split
  next none => exact iff_of_true (List.mem_append_right _ (List.mem_singleton_self _)) none
  next some =>
      refine iff_of_false ?_ some
      rw [List.mem_append, not_or]
      refine ⟨heals, fun member => ?_⟩
      obtain ⟨made, -, line⟩ := List.mem_map.mp ((List.mem_cons.mp member).resolve_left nofun)
      cases line

/-- The summary of a session that follows its observations. -/
theorem Follows.summarises_iff {session : Session} {seen : List (Text × Snapshot)}
    (follows : session.Follows baseline seen) :
    Summarises baseline seen (session.summaryLines true) ↔
      ∀ window ∈ windows baseline seen, Leaves baseline window → Loud baseline window := by
  have clean : .clean ∈ session.summaryLines true ↔
      ∀ window ∈ windows baseline seen, ¬ Leaves baseline window := by
    rw [clean_mem_summaryLines, follows.records, List.filterMap_eq_nil_iff]
    exact forall₂_congr fun window _ => recordOf_eq_none_iff
  rw [← forall₂_residues_iff, ← follows.records, ← residues_summaryLines]
  exact ⟨Summarises.residues, fun residues => ⟨residues, clean⟩⟩

end Session

/-- The summary of a run names a residue of every test that left any, exactly where none of
them left nothing but new contents of watched keys. -/
theorem summary_names_iff (sh : Answers) (baseline : Snapshot)
    (read : snapshot sh = some baseline) (old : List Line) (events : List Event) :
    ∃ session, (Session.initial old).captureBaseline true sh = some session ∧
      (Summarises baseline (observations events) ((session.run events).summaryLines true) ↔
        ∀ window ∈ windows baseline (observations events),
          Leaves baseline window → Loud baseline window) := by
  obtain ⟨session, captured, follows⟩ := Session.captureBaseline_follows old read
  have reached := follows.run events
  rw [List.nil_append] at reached
  exact ⟨session, captured, reached.summarises_iff⟩

theorem summary_names_quiet :
    ∃ session, (Session.initial []).captureBaseline true (fun _ => some []) = some session ∧
      (Summarises quiet (observations [.testEnds "t".toList fun _ => some []])
          ((session.run [.testEnds "t".toList fun _ => some []]).summaryLines true) ↔
        ∀ window ∈ windows quiet (observations [.testEnds "t".toList fun _ => some []]),
          Leaves quiet window → Loud quiet window) :=
  summary_names_iff (fun _ => some []) quiet rfl [] [.testEnds "t".toList fun _ => some []]

def ntpAnswers : Answers := fun cmd =>
  some (if cmd = "sonic-db-cli CONFIG_DB HGETALL 'NTP|global'".toList then "x".toList else [])

/-- A device whose databases are empty except for one watched key. -/
def ntpSet : Snapshot :=
  { quiet with
    watched := ⟨("NTP|global".toList, "x".toList) ::
      (watchedKeys.drop 1).map fun key => (key, []), by decide⟩ }

/-- The line of a test that leaves only a watched key has nothing after the separator. -/
theorem watched_leak_not_named :
    ∃ session, (Session.initial []).captureBaseline true (fun _ => some []) = some session ∧
      ¬ Summarises quiet (observations [.testEnds "t".toList ntpAnswers])
        ((session.run [.testEnds "t".toList ntpAnswers]).summaryLines true) := by
  have read : snapshot (fun _ => some []) = some quiet := rfl
  have changed : snapshot ntpAnswers = some ntpSet := rfl
  have seen : observations [.testEnds "t".toList ntpAnswers] = [("t".toList, ntpSet)] := by
    rw [observations, List.filterMap_cons_some (by rw [Event.observed, changed, Option.map_some])]
    rfl
  obtain ⟨session, captured, follows⟩ := Session.captureBaseline_follows [] read
  have reached := follows.run [.testEnds "t".toList ntpAnswers]
  rw [List.nil_append] at reached
  refine ⟨session, captured, fun summarises => ?_⟩
  have loud := reached.summarises_iff.mp summarises ⟨"t".toList, quiet, ntpSet⟩
    (by rw [seen]; exact List.mem_singleton_self _)
    (Or.inr ⟨"NTP|global".toList, by decide, by decide⟩)
  rcases loud with keys | grown
  · exact keys rfl
  · revert grown
    decide

end OnboxFvt.Sentinel
