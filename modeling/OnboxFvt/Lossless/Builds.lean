import OnboxFvt.BufAudit.Schedulers
import OnboxFvt.Library.Run
import OnboxFvt.Lossless.BindQueue

/-!
# Lossless builds and their undoing

`build_lossless` of `framework/lossless.py` and `LosslessBuild.undo`.  All builds with one prefix
share one buffer profile, so that the undoing of one may find it in use by another.
-/

namespace OnboxFvt.Lossless

open Library Python

def tcNames : List Text :=
  ["BE".toList, "AF1".toList, "AF2".toList, "AF3".toList, "AF4".toList, "EF".toList,
    "CS6".toList, "CS7".toList]

def tcName (n : Fin 8) : Text :=
  tcNames.getD n []

def hgetall (db : Dict Text Fields) (key : Text) : Fields :=
  (db.lookup key).getD []

def bufferPgTable : Text :=
  "BUFFER_PG|".toList

def bufferPgKey (port : Text) (pg : Fin 8) : Text :=
  bufferPgTable ++ port ++ '|' :: decimal pg

def bufferProfileKey (name : Text) : Text :=
  "BUFFER_PROFILE|".toList ++ name

def profileField : Text :=
  "profile".toList

/-- `_pfc_enabled_set`. -/
def pfcEnabledSet (db : Dict Text Fields) (port : Text) : List Int :=
  let raw := ((hgetall db ("PORT_QOS_MAP|".toList ++ port)).lookup "pfc_enable".toList).getD []
  ((splitOn ',' raw).filter fun x => isDigit (strip x)).filterMap int?

/-- `pick_pg`, with its mode. -/
def pickPg (db : Dict Text Fields) (port : Text) (prefer : Fin 8) : Fin 8 × Text :=
  let cands := prefer :: ([3, 4, 2, 1, 5] : List (Fin 8)).filter (· ≠ prefer)
  match cands.find? fun pg => decide ((pg.val : Int) ∈ pfcEnabledSet db port) with
  | some pg => (pg, "existing-pfc".toList)
  | none =>
      match cands.find? fun pg => (hgetall db (bufferPgKey port pg)).isEmpty with
      | some pg => (pg, "fresh".toList)
      | none => (prefer, "conflicted".toList)

/-- What `undo` calls. -/
inductive Deferred
  | profileDel
  | pgDel
  deriving DecidableEq

structure LosslessBuild where
  port : Text
  pg : Fin 8
  tc : Text
  profile : Option Text
  xoff : Int
  size : Int
  steps : List (Text × Bool)
  issued : List Text
  deferred : List Deferred
  deriving DecidableEq

/-- What a test asks for. -/
structure Wanted where
  port : Text
  dscp : Nat
  pg : Fin 8
  headroomBytes : Nat
  minBytes : Nat
  staticThBytes : Option Nat
  dynamicTh : Option Int
  xonOffset : Nat

/-- The row that the new profile gets, if any, after how many polls the row of the priority group
is there, and whether its PFC is seen to be on. -/
structure BuildAnswers where
  stored : Fields
  lands : Option Nat
  pfc : Bool

/-- `v or w` of what `_int0` reads. -/
def orElse (first second : Int) : Int :=
  if first = 0 then second else first

def thresholdOption (wanted : Wanted) : Text :=
  match wanted.staticThBytes, wanted.dynamicTh with
  | some (bytes + 1), none => "--static-th ".toList ++ decimal (bytes + 1)
  | _, dynamicTh => "--dynamic-th ".toList ++ integer (dynamicTh.getD 1)

def addProfileCommand (prof : Text) (wanted : Wanted) : Text :=
  "buffer profile add ".toList ++ prof ++ " --headroom ".toList ++ decimal wanted.headroomBytes ++
    " --xon-offset ".toList ++ decimal wanted.xonOffset ++ " --min-th ".toList ++
    decimal wanted.minBytes ++ ' ' :: thresholdOption wanted

def addPgCommand (port : Text) (pg : Fin 8) (prof : Text) : Text :=
  "interface buffer priority-group lossless add ".toList ++ port ++ ' ' :: decimal pg ++
    ' ' :: prof

/-- The row of a priority group that is bound to a profile. -/
def boundPg (prof : Text) : Fields :=
  [(profileField, prof)]

/-- A profile is added where there is none. -/
def addProfile (db : Dict Text Fields) (prof : Text) (stored : Fields) : Dict Text Fields :=
  if (hgetall db (bufferProfileKey prof)).isEmpty && !stored.isEmpty then
    db.set (bufferProfileKey prof) stored
  else db

def BuildAnswers.landed (answers : BuildAnswers) : Bool :=
  answers.lands.any (· < 8)

def classified (db : Dict Text Fields) (dscp : Nat) (pg : Fin 8) : List (Text × Bool) :=
  [("default_dscp_to_tc".toList, decide
      ((hgetall db "DSCP_TO_TC_MAP|default".toList).lookup (decimal dscp) = some (tcName pg))),
    ("default_tc_to_queue".toList, decide
      ((hgetall db "TC_TO_QUEUE_MAP|default".toList).lookup (tcName pg) = some (decimal pg)))]

/-- `build_lossless` with the profile `{prefix}_prof`, and CONFIG_DB before what comes next. -/
def buildLossless (prof : Text) (db : Dict Text Fields) (wanted : Wanted)
    (answers : BuildAnswers) : LosslessBuild × Dict Text Fields :=
  let port := wanted.port
  let pg := (pickPg db port wanted.pg).1
  let build : LosslessBuild :=
    { port, pg
      tc := tcName pg
      profile := none
      xoff := 0
      size := 0
      steps := ("pick_pg".toList, true) :: classified db wanted.dscp pg
      issued := []
      deferred := [] }
  let existing := hgetall db (bufferPgKey port pg)
  if !existing.isEmpty then
    let old := BufAudit.refName (existing.lookup profileField)
    let ph := hgetall db (bufferProfileKey old)
    ({ build with
        profile := some old
        xoff := orElse (BufAudit.int0 (ph.lookup "xoff".toList))
          (BufAudit.int0 (ph.lookup "headroom".toList))
        size := orElse (BufAudit.int0 (ph.lookup "size".toList))
          (BufAudit.int0 (ph.lookup "min_th".toList))
        steps := build.steps ++ [("bind_pg".toList, true),
          ("pfc_on".toList, decide ((pg.val : Int) ∈ pfcEnabledSet db port))] }, db)
  else
    let added := addProfile db prof answers.stored
    let ph := hgetall added (bufferProfileKey prof)
    let issued := [addProfileCommand prof wanted]
    if ph.isEmpty then
      ({ build with
          steps := build.steps ++ [("create_profile".toList, false)]
          issued }, added)
    else
      ({ build with
          profile := some prof
          xoff := orElse (orElse (BufAudit.int0 (ph.lookup "xoff".toList))
            (BufAudit.int0 (ph.lookup "headroom".toList))) wanted.headroomBytes
          size := orElse (orElse (BufAudit.int0 (ph.lookup "size".toList))
            (BufAudit.int0 (ph.lookup "min_th".toList))) wanted.minBytes
          steps := build.steps ++ [("create_profile".toList, true),
            ("bind_pg".toList, answers.landed), ("pfc_on".toList, answers.pfc)]
          issued := issued ++ [addPgCommand port pg prof]
          deferred := .profileDel :: if answers.landed then [.pgDel] else [] },
        -- A row that comes after the last poll is there all the same.
        if answers.lands.isSome then added.set (bufferPgKey port pg) (boundPg prof) else added)

/-- A row of a priority group refers to the profile. -/
def inUse (db : Dict Text Fields) (prof : Text) : Bool :=
  db.keys.any fun key => startsWith bufferPgTable key &&
    decide (BufAudit.refName ((hgetall db key).lookup profileField) = prof)

def LosslessBuild.pgKey (build : LosslessBuild) : Text :=
  bufferPgKey build.port build.pg

/-- A profile in use is not deleted. -/
def Deferred.call (prof : Text) (build : LosslessBuild) (db : Dict Text Fields) :
    Deferred → Dict Text Fields
  | .profileDel => if inUse db prof then db else db.erase (bufferProfileKey prof)
  | .pgDel => db.erase build.pgKey

def LosslessBuild.undo (prof : Text) (db : Dict Text Fields) (build : LosslessBuild) :
    Dict Text Fields :=
  build.deferred.reverse.foldl (Deferred.call prof build) db

/-! ## Builds of several tests -/

structure Builds where
  db : Dict Text Fields
  undone : List LosslessBuild
  deriving DecidableEq

/-- Tests build, and undo what they have built, in any order. -/
inductive BuildAction
  | build (wanted : Wanted) (answers : BuildAnswers)
  | undo (build : LosslessBuild)

/-- The profile of the builds with a prefix. -/
def profileName (pre : Text) : Text :=
  pre ++ "_prof".toList

def lossless (prof : Text) : Machine Builds BuildAction where
  step state action :=
    match action with
    | .build wanted answers =>
        some {
          db := (buildLossless prof state.db wanted answers).2
          undone := (buildLossless prof state.db wanted answers).1 :: state.undone }
    | .undo build =>
        if build ∈ state.undone then
          some { db := build.undo prof state.db, undone := state.undone.erase build }
        else none

/-- A bind leaves its row after it has been polled for, and `undo` does not know of it. -/
def BuildAction.LandsLate (prof : Text) (state : Builds) : BuildAction → Prop
  | .build wanted answers =>
      (buildLossless prof state.db wanted answers).1.deferred = [.profileDel] ∧
        answers.lands.isSome = true
  | .undo _ => False

/-! ## Rows -/

theorem hgetall_set (db : Dict Text Fields) (key other : Text) (row : Fields) :
    hgetall (db.set key row) other = if key = other then row else hgetall db other := by
  rw [hgetall, Dict.lookup_set]
  split <;> rfl

theorem hgetall_erase (db : Dict Text Fields) (key other : Text) :
    hgetall (db.erase key) other = if key = other then [] else hgetall db other := by
  rw [hgetall, Dict.lookup_erase]
  split <;> rfl

theorem profileKey_not_pg {prof key : Text} (row : bufferPgTable <+: key) :
    key ≠ bufferProfileKey prof := by
  rintro rfl
  rcases List.prefix_or_prefix_of_prefix row (List.prefix_append _ _) with begins | begins
  · exact absurd begins (by decide)
  · exact absurd begins (by decide)

theorem LosslessBuild.row_pgKey (build : LosslessBuild) : bufferPgTable <+: build.pgKey := by
  rw [pgKey, bufferPgKey, List.append_assoc]
  exact List.prefix_append _ _

theorem LosslessBuild.pgKey_ne_profileKey (build : LosslessBuild) (prof : Text) :
    build.pgKey ≠ bufferProfileKey prof :=
  profileKey_not_pg build.row_pgKey

/-- What refers to the profile now and did not before is a row of a priority group. -/
theorem owner_of_inUse {prof : Text} (named : prof ≠ []) {db first : Dict Text Fields}
    (unused : inUse first prof = false) (used : inUse db prof = true) :
    ∃ key, hgetall db key ≠ hgetall first key ∧ key ≠ bufferProfileKey prof := by
  obtain ⟨key, -, refers⟩ := List.any_eq_true.mp used
  rw [Bool.and_eq_true, decide_eq_true_eq, startsWith_iff] at refers
  obtain ⟨row, names⟩ := refers
  refine ⟨key, fun same => ?_, profileKey_not_pg row⟩
  rw [same] at names
  by_cases member : key ∈ first.keys
  · have free := List.any_eq_false.mp unused key member
    rw [Bool.and_eq_true, decide_eq_true_eq, startsWith_iff] at free
    exact free ⟨row, names⟩
  · rw [hgetall, Dict.lookup_eq_none_iff.mpr member] at names
    exact named (names.symm.trans (by decide))

/-! ## What the builds own -/

/-- Every row that has changed is that of the profile or that of an open build. -/
structure Held (prof : Text) (first db : Dict Text Fields) (undone : List LosslessBuild) :
    Prop where
  other : ∀ key, hgetall db key = hgetall first key ∨ key = bufferProfileKey prof ∨
    ∃ build ∈ undone, .pgDel ∈ build.deferred ∧ key = build.pgKey
  own : ∀ build ∈ undone, .pgDel ∈ build.deferred →
    hgetall db build.pgKey ≠ [] ∧ hgetall first build.pgKey = []
  shape : ∀ build ∈ undone, build.deferred = [] ∨ build.deferred = [.profileDel] ∨
    build.deferred = [.profileDel, .pgDel]
  apart : undone.Pairwise fun build other =>
    .pgDel ∈ build.deferred → .pgDel ∈ other.deferred → build.pgKey ≠ other.pgKey

/-- And the profile will be deleted by one of them. -/
structure Owned (prof : Text) (first db : Dict Text Fields) (undone : List LosslessBuild) :
    Prop extends Held prof first db undone where
  profile : hgetall db (bufferProfileKey prof) ≠ [] →
    ∃ build ∈ undone, .profileDel ∈ build.deferred

variable {prof : Text} {first db : Dict Text Fields} {undone : List LosslessBuild}

theorem Held.perm {others : List LosslessBuild} (held : Held prof first db undone)
    (same : undone.Perm others) : Held prof first db others where
  other key := (held.other key).imp_right fun changed => changed.imp_right
    fun ⟨build, member, rest⟩ => ⟨build, same.subset member, rest⟩
  own build member := held.own build (same.symm.subset member)
  shape build member := held.shape build (same.symm.subset member)
  apart := (same.pairwise_iff fun apart second first' => (apart first' second).symm).mp held.apart

/-! ## Undoing -/

/-- A build that deletes no row of a priority group may be forgotten. -/
theorem Held.forget {build : LosslessBuild} (held : Held prof first db (build :: undone))
    (rowless : .pgDel ∉ build.deferred) : Held prof first db undone where
  other key := by
    refine (held.other key).imp_right fun changed => changed.imp_right ?_
    rintro ⟨owner, member, row, same⟩
    rcases List.mem_cons.mp member with rfl | later
    · exact absurd row rowless
    · exact ⟨owner, later, row, same⟩
  own owner member := held.own owner (List.mem_cons_of_mem build member)
  shape owner member := held.shape owner (List.mem_cons_of_mem build member)
  apart := (List.pairwise_cons.mp held.apart).2

theorem Held.pgDel {build : LosslessBuild} (held : Held prof first db (build :: undone))
    (row : .pgDel ∈ build.deferred) : Held prof first (db.erase build.pgKey) undone where
  other key := by
    rw [hgetall_erase]
    by_cases same : build.pgKey = key
    · rw [if_pos same, ← same]
      exact Or.inl (held.own build (List.mem_cons_self ..) row).2.symm
    · rw [if_neg same]
      refine (held.other key).imp_right fun changed => changed.imp_right ?_
      rintro ⟨owner, member, theirs, equal⟩
      rcases List.mem_cons.mp member with rfl | later
      · exact absurd equal.symm same
      · exact ⟨owner, later, theirs, equal⟩
  own owner member theirs := by
    have different := (List.pairwise_cons.mp held.apart).1 owner member row theirs
    rw [hgetall_erase, if_neg different]
    exact held.own owner (List.mem_cons_of_mem build member) theirs
  shape owner member := held.shape owner (List.mem_cons_of_mem build member)
  apart := (List.pairwise_cons.mp held.apart).2

theorem Held.profileDel_mem (held : Held prof first db undone) {build : LosslessBuild}
    (member : build ∈ undone) (row : .pgDel ∈ build.deferred) : .profileDel ∈ build.deferred := by
  rcases held.shape build member with shape | shape | shape
  · rw [shape] at row
    cases row
  · rw [shape] at row
    simp at row
  · rw [shape]
    simp

/-- The profile is deleted, or an open build still uses it. -/
theorem Held.profileDel (named : prof ≠ []) (unused : inUse first prof = false)
    (held : Held prof first db undone) (build : LosslessBuild) :
    Owned prof first (Deferred.call prof build db .profileDel) undone := by
  rw [Deferred.call]
  split
  next used =>
    refine ⟨held, fun _ => ?_⟩
    obtain ⟨key, changed, other⟩ := owner_of_inUse named unused used
    obtain same | same | ⟨owner, member, row, -⟩ := held.other key
    · exact absurd same changed
    · exact absurd same other
    · exact ⟨owner, member, held.profileDel_mem member row⟩
  next free =>
    refine ⟨⟨fun key => ?_, fun owner member row => ?_, held.shape, held.apart⟩, fun there => ?_⟩
    · by_cases same : bufferProfileKey prof = key
      · exact Or.inr (Or.inl same.symm)
      · rw [hgetall_erase, if_neg same]
        exact held.other key
    · rw [hgetall_erase, if_neg (owner.pgKey_ne_profileKey prof).symm]
      exact held.own owner member row
    · rw [hgetall_erase, if_pos rfl] at there
      exact absurd rfl there

theorem Owned.undo (named : prof ≠ []) (unused : inUse first prof = false)
    {build : LosslessBuild} (owned : Owned prof first db undone) (member : build ∈ undone) :
    Owned prof first (build.undo prof db) (undone.erase build) := by
  have same := List.perm_cons_erase member
  have held := owned.toHeld.perm same
  rw [LosslessBuild.undo]
  rcases owned.shape build member with shape | shape | shape
  · rw [shape]
    refine ⟨held.forget (by simp [shape]), fun there => ?_⟩
    obtain ⟨owner, listed, deletes⟩ := owned.profile there
    rcases List.mem_cons.mp (same.subset listed) with rfl | later
    · rw [shape] at deletes
      cases deletes
    · exact ⟨owner, later, deletes⟩
  · rw [shape]
    exact (held.forget (by simp [shape])).profileDel named unused build
  · rw [shape]
    exact (held.pgDel (by simp [shape])).profileDel named unused build

/-! ## Building -/

theorem hgetall_addProfile (db : Dict Text Fields) (prof : Text) (stored : Fields) {key : Text}
    (other : key ≠ bufferProfileKey prof) :
    hgetall (addProfile db prof stored) key = hgetall db key := by
  rw [addProfile]
  split
  · rw [hgetall_set, if_neg (Ne.symm other)]
  · rfl

/-- A build that deletes no row of a priority group is one more. -/
theorem Held.remember {build : LosslessBuild} (held : Held prof first db undone)
    (shape : build.deferred = [] ∨ build.deferred = [.profileDel]) :
    Held prof first db (build :: undone) := by
  have rowless : .pgDel ∉ build.deferred := by
    rcases shape with shape | shape <;> simp [shape]
  refine ⟨fun key => ?_, fun owner member row => ?_, fun owner member => ?_, ?_⟩
  · exact (held.other key).imp_right fun changed => changed.imp_right
      fun ⟨owner, member, rest⟩ => ⟨owner, List.mem_cons_of_mem build member, rest⟩
  · rcases List.mem_cons.mp member with rfl | later
    · exact absurd row rowless
    · exact held.own owner later row
  · rcases List.mem_cons.mp member with rfl | later
    · exact shape.imp_right Or.inl
    · exact held.shape owner later
  · exact List.pairwise_cons.mpr ⟨fun _ _ row => absurd row rowless, held.apart⟩

/-- A build that has found a row, or could not make the profile, owns nothing. -/
theorem Owned.idle {build : LosslessBuild} (owned : Owned prof first db undone)
    (nothing : build.deferred = []) : Owned prof first db (build :: undone) := by
  refine ⟨owned.toHeld.remember (Or.inl nothing), fun there => ?_⟩
  obtain ⟨owner, member, deletes⟩ := owned.profile there
  exact ⟨owner, List.mem_cons_of_mem build member, deletes⟩

theorem Held.addProfile (held : Held prof first db undone) (stored : Fields) :
    Held prof first (addProfile db prof stored) undone where
  other key := by
    by_cases same : key = bufferProfileKey prof
    · exact Or.inr (Or.inl same)
    · rw [hgetall_addProfile db prof stored same]
      exact held.other key
  own owner member row := by
    rw [hgetall_addProfile db prof stored (owner.pgKey_ne_profileKey prof)]
    exact held.own owner member row
  shape := held.shape
  apart := held.apart

/-- A build with a profile to delete. -/
theorem Held.profileOnly {build : LosslessBuild} (held : Held prof first db undone)
    (deletes : build.deferred = [.profileDel]) : Owned prof first db (build :: undone) :=
  ⟨held.remember (Or.inr deletes), fun _ => ⟨build, List.mem_cons_self .., by simp [deletes]⟩⟩

/-- And one with a row of its own. -/
theorem Held.bound {build : LosslessBuild} (held : Held prof first db undone)
    (deletes : build.deferred = [.profileDel, .pgDel]) (absent : hgetall db build.pgKey = []) :
    Owned prof first (db.set build.pgKey (boundPg prof)) (build :: undone) := by
  have fresh : ∀ owner ∈ undone, .pgDel ∈ owner.deferred → build.pgKey ≠ owner.pgKey :=
    fun owner member row same => (held.own owner member row).1 (same ▸ absent)
  refine ⟨⟨fun key => ?_, fun owner member row => ?_, fun owner member => ?_, ?_⟩, fun _ => ?_⟩
  · by_cases same : build.pgKey = key
    · exact Or.inr (Or.inr ⟨build, List.mem_cons_self .., by simp [deletes], same.symm⟩)
    · rw [hgetall_set, if_neg same]
      exact (held.other key).imp_right fun changed => changed.imp_right
        fun ⟨owner, member, rest⟩ => ⟨owner, List.mem_cons_of_mem build member, rest⟩
  · rcases List.mem_cons.mp member with rfl | later
    · rw [hgetall_set, if_pos rfl]
      refine ⟨List.cons_ne_nil _ _, ?_⟩
      obtain same | same | ⟨other, listed, theirs, same⟩ := held.other owner.pgKey
      · exact same.symm.trans absent
      · exact absurd same (owner.pgKey_ne_profileKey prof)
      · exact absurd same (fresh other listed theirs)
    · rw [hgetall_set, if_neg (fresh owner later row)]
      exact held.own owner later row
  · rcases List.mem_cons.mp member with rfl | later
    · exact Or.inr (Or.inr deletes)
    · exact held.shape owner later
  · exact List.pairwise_cons.mpr ⟨fun owner member _ => fresh owner member, held.apart⟩
  · exact ⟨build, List.mem_cons_self .., by simp [deletes]⟩

/-- What a build can come to. -/
inductive Built (prof : Text) (db : Dict Text Fields) (wanted : Wanted) (answers : BuildAnswers) :
    LosslessBuild → Dict Text Fields → Prop
  | found {build : LosslessBuild} : build.deferred = [] → Built prof db wanted answers build db
  | unmade {build : LosslessBuild} : build.deferred = [] →
      hgetall (addProfile db prof answers.stored) (bufferProfileKey prof) = [] →
      Built prof db wanted answers build (addProfile db prof answers.stored)
  | unbound {build : LosslessBuild} : build.deferred = [.profileDel] →
      answers.lands.isSome = false →
      Built prof db wanted answers build (addProfile db prof answers.stored)
  | late {build : LosslessBuild} : build.deferred = [.profileDel] →
      answers.lands.isSome = true → hgetall db build.pgKey = [] →
      Built prof db wanted answers build
        ((addProfile db prof answers.stored).set build.pgKey (boundPg prof))
  | bound {build : LosslessBuild} : build.deferred = [.profileDel, .pgDel] →
      hgetall db build.pgKey = [] → Built prof db wanted answers build
        ((addProfile db prof answers.stored).set build.pgKey (boundPg prof))

theorem built (prof : Text) (db : Dict Text Fields) (wanted : Wanted) (answers : BuildAnswers) :
    Built prof db wanted answers (buildLossless prof db wanted answers).1
      (buildLossless prof db wanted answers).2 := by
  unfold buildLossless
  dsimp only
  split
  · exact .found rfl
  next absent =>
    rw [Bool.not_eq_true, Bool.not_eq_false', List.isEmpty_iff] at absent
    split
    next missing => exact .unmade rfl (List.isEmpty_iff.mp missing)
    next made =>
      cases seen : answers.landed with
      | false =>
          cases lands : answers.lands.isSome with
          | false => exact .unbound rfl lands
          | true => exact .late rfl lands absent
      | true =>
          have lands : answers.lands.isSome = true := by
            rw [BuildAnswers.landed] at seen
            cases shape : answers.lands with
            | none =>
                rw [shape] at seen
                cases seen
            | some polls => rfl
          rw [lands]
          exact .bound rfl absent

theorem Owned.build (owned : Owned prof first db undone) {wanted : Wanted}
    {answers : BuildAnswers} {build : LosslessBuild} {after : Dict Text Fields}
    (built : Built prof db wanted answers build after)
    (timely : ¬(build.deferred = [.profileDel] ∧ answers.lands.isSome = true)) :
    Owned prof first after (build :: undone) := by
  have added := owned.toHeld.addProfile answers.stored
  cases built with
  | found nothing => exact owned.idle nothing
  | unmade nothing missing => exact Owned.idle ⟨added, fun there => absurd missing there⟩ nothing
  | unbound deletes _ => exact added.profileOnly deletes
  | late deletes lands _ => exact absurd ⟨deletes, lands⟩ timely
  | bound deletes absent =>
      refine added.bound deletes ?_
      rw [hgetall_addProfile db prof answers.stored (build.pgKey_ne_profileKey prof)]
      exact absent

/-! ## Late rows -/

/-- A row of a priority group that no open build will delete. -/
structure Stuck (key : Text) (db : Dict Text Fields) (undone : List LosslessBuild) : Prop where
  row : bufferPgTable <+: key
  there : hgetall db key ≠ []
  unowned : ∀ build ∈ undone, .pgDel ∈ build.deferred → build.pgKey ≠ key

theorem Stuck.build {key : Text} (stuck : Stuck key db undone) {wanted : Wanted}
    {answers : BuildAnswers} {build : LosslessBuild} {after : Dict Text Fields}
    (built : Built prof db wanted answers build after) : Stuck key after (build :: undone) := by
  have kept : hgetall (addProfile db prof answers.stored) key ≠ [] := by
    rw [hgetall_addProfile db prof answers.stored (profileKey_not_pg stuck.row)]
    exact stuck.there
  have other : hgetall db build.pgKey = [] → build.pgKey ≠ key :=
    fun absent same => stuck.there (same ▸ absent)
  refine ⟨stuck.row, ?_, fun owner member row => ?_⟩
  · cases built with
    | found => exact stuck.there
    | unmade => exact kept
    | unbound => exact kept
    | late _ _ absent =>
        rw [hgetall_set, if_neg (other absent)]
        exact kept
    | bound _ absent =>
        rw [hgetall_set, if_neg (other absent)]
        exact kept
  · rcases List.mem_cons.mp member with rfl | later
    · cases built with
      | found nothing => simp [nothing] at row
      | unmade nothing => simp [nothing] at row
      | unbound deletes => simp [deletes] at row
      | late deletes => simp [deletes] at row
      | bound _ absent => exact other absent
    · exact stuck.unowned owner later row

theorem Stuck.undo {key : Text} {build : LosslessBuild} (stuck : Stuck key db undone)
    (member : build ∈ undone) : Stuck key (build.undo prof db) (undone.erase build) := by
  have call : ∀ (deferred : List Deferred), (.pgDel ∈ deferred → build.pgKey ≠ key) →
      ∀ db : Dict Text Fields, hgetall db key ≠ [] →
        hgetall (deferred.foldl (Deferred.call prof build) db) key ≠ [] := by
    intro deferred
    induction deferred with
    | nil => exact fun _ _ there => there
    | cons first rest inductionHypothesis =>
        intro unowned db there
        rw [List.foldl_cons]
        refine inductionHypothesis (fun row => unowned (List.mem_cons_of_mem first row)) _ ?_
        cases first with
        | profileDel =>
            rw [Deferred.call]
            split
            · exact there
            · rw [hgetall_erase, if_neg (profileKey_not_pg stuck.row).symm]
              exact there
        | pgDel =>
            rw [Deferred.call, hgetall_erase, if_neg (unowned (List.mem_cons_self ..))]
            exact there
  refine ⟨stuck.row, ?_, fun owner listed => stuck.unowned owner (List.mem_of_mem_erase listed)⟩
  exact call _ (fun row => stuck.unowned build member (List.mem_reverse.mp row)) db stuck.there

/-- A late row was not there at first, and no build owns it. -/
theorem Owned.late (owned : Owned prof first db undone) {build : LosslessBuild}
    (deletes : build.deferred = [.profileDel]) (absent : hgetall db build.pgKey = [])
    (stored : Fields) : hgetall first build.pgKey = [] ∧
      Stuck build.pgKey ((addProfile db prof stored).set build.pgKey (boundPg prof))
        (build :: undone) := by
  have fresh : ∀ owner ∈ undone, .pgDel ∈ owner.deferred → owner.pgKey ≠ build.pgKey :=
    fun owner member row same => (owned.own owner member row).1 (same ▸ absent)
  refine ⟨?_, build.row_pgKey, ?_, fun owner member row => ?_⟩
  · obtain same | same | ⟨owner, member, row, same⟩ := owned.other build.pgKey
    · exact same.symm.trans absent
    · exact absurd same (build.pgKey_ne_profileKey prof)
    · exact absurd same.symm (fresh owner member row)
  · rw [hgetall_set, if_pos rfl]
    exact List.cons_ne_nil _ _
  · rcases List.mem_cons.mp member with rfl | later
    · simp [deletes] at row
    · exact fresh owner later row

/-! ## Runs -/

theorem Owned.step (named : prof ≠ []) (unused : inUse first prof = false)
    {action : BuildAction} {state next : Builds} (owned : Owned prof first state.db state.undone)
    (timely : ¬action.LandsLate prof state)
    (stepped : (lossless prof).step state action = some next) :
    Owned prof first next.db next.undone := by
  cases action with
  | build wanted answers =>
      cases stepped
      exact owned.build (built prof state.db wanted answers) timely
  | undo build =>
      obtain ⟨member, same⟩ := Option.ite_none_right_eq_some.mp stepped
      cases same
      exact owned.undo named unused member

theorem Stuck.step {key : Text} {action : BuildAction} {state next : Builds}
    (stuck : Stuck key state.db state.undone)
    (stepped : (lossless prof).step state action = some next) :
    Stuck key next.db next.undone := by
  cases action with
  | build wanted answers =>
      cases stepped
      exact stuck.build (built prof state.db wanted answers)
  | undo build =>
      obtain ⟨member, same⟩ := Option.ite_none_right_eq_some.mp stepped
      cases same
      exact stuck.undo member

theorem Owned.stuck {action : BuildAction} {state next : Builds}
    (owned : Owned prof first state.db state.undone) (late : action.LandsLate prof state)
    (stepped : (lossless prof).step state action = some next) :
    ∃ key, hgetall first key = [] ∧ Stuck key next.db next.undone := by
  cases action with
  | undo build => exact late.elim
  | build wanted answers =>
      cases stepped
      obtain ⟨deletes, lands⟩ := late
      have way := built prof state.db wanted answers
      generalize (buildLossless prof state.db wanted answers).1 = build at *
      generalize (buildLossless prof state.db wanted answers).2 = after at *
      cases way with
      | found nothing => simp [nothing] at deletes
      | unmade nothing => simp [nothing] at deletes
      | unbound _ never => simp [never] at lands
      | late _ _ absent => exact ⟨_, owned.late deletes absent answers.stored⟩
      | bound both => simp [both] at deletes

/-- A run is timely and its builds own what has changed, or it has left a row for good. -/
theorem owned_or_stuck (named : prof ≠ []) (unused : inUse first prof = false)
    {actions : List BuildAction} {state last : Builds}
    (owned : Owned prof first state.db state.undone)
    (reached : (lossless prof).run state actions = some last) :
    (lossless prof).Along (fun state action => ¬action.LandsLate prof state) state actions ∧
        Owned prof first last.db last.undone ∨
      ¬(lossless prof).Along (fun state action => ¬action.LandsLate prof state) state actions ∧
        ∃ key, hgetall first key = [] ∧ Stuck key last.db last.undone := by
  refine (lossless prof).spared_or_fated (fun state action => action.LandsLate prof state)
    (fun state => Owned prof first state.db state.undone)
    (fun state => ∃ key, hgetall first key = [] ∧ Stuck key state.db state.undone)
    ?_ ?_ ?_ owned reached
  · exact fun owned timely stepped => owned.step named unused timely stepped
  · exact fun owned late stepped => owned.stuck late stepped
  · rintro _ _ _ ⟨key, new, stuck⟩ stepped
    exact ⟨key, new, stuck.step stepped⟩

def wantedOn (port : Text) : Wanted :=
  { port, dscp := 26, pg := 3, headroomBytes := 203200, minBytes := 4318, staticThBytes := none
    dynamicTh := some 1, xonOffset := 131072 }

/-- The profile is stored, and the row is there at the first poll. -/
def atOnce : BuildAnswers :=
  ⟨[("xoff".toList, "203200".toList)], some 0, true⟩

def firstBuild : LosslessBuild × Dict Text Fields :=
  buildLossless (profileName "FVTLL".toList) [] (wantedOn "Ethernet0".toList) atOnce

def secondBuild : LosslessBuild × Dict Text Fields :=
  buildLossless (profileName "FVTLL".toList) firstBuild.2 (wantedOn "Ethernet4".toList) atOnce

/-- The profile is in use by the second build when the first is undone. -/
def overlappingBuilds : List BuildAction :=
  [.build (wantedOn "Ethernet0".toList) atOnce, .build (wantedOn "Ethernet4".toList) atOnce,
    .undo firstBuild.1, .undo secondBuild.1]

theorem overlappingBuilds_run : ((lossless (profileName "FVTLL".toList)).run ⟨[], []⟩
    overlappingBuilds) = some ⟨[], []⟩ := by
  decide

end OnboxFvt.Lossless
