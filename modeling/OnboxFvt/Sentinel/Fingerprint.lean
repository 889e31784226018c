import Mathlib.Data.Char
import Mathlib.Data.Finset.Sort
import Mathlib.Data.List.Lex
import OnboxFvt.Library.Collect
import OnboxFvt.Library.Windows
import OnboxFvt.Python.Text

/-!
# The contamination sentinel

`framework/sentinel.py`.  After the teardown of a test the sentinel takes a snapshot
of the device, compares it with the previous one and records what changed; then the
snapshot becomes the one to compare with.  Learned FDB entries and neighbours are
compared with the baseline of the session.

A `Session` is the module's `_STATE` together with the report file, which is always
writable here.
-/

namespace OnboxFvt.Sentinel

open Library Python

/-- What `sh.run(cmd, check=False)` prints while a snapshot is taken; `none` where it raises. -/
abbrev Answers := Text → Option Text

def fdbDelta : Int := 4

def neighDelta : Int := 4

def volatilePrefixes : List Text :=
  ["MGMT_VRF_CONFIG|vrf_global".toList]

def keys (sh : Answers) (db pat : Text) : Option (Finset Text) :=
  (sh ("sonic-db-cli ".toList ++ db ++ " KEYS '".toList ++ pat ++ "'".toList)).map fun out =>
    ((splitlines out).filter fun line =>
      !line.isEmpty && !volatilePrefixes.any (startsWith · line)).toFinset

def watchedKeys : List Text :=
  ["NTP|global".toList, "STP|GLOBAL".toList, "DEVICE_METADATA|localhost".toList,
    "MGMT_VRF_CONFIG|vrf_global".toList, "AAA|authentication".toList]

/-- A dictionary with the watched keys. -/
structure Watched where
  items : List (Text × Text)
  complete : items.map Prod.fst = watchedKeys

def readWatched (sh : Answers) (key : Text) : Option (Text × Text) :=
  (sh ("sonic-db-cli CONFIG_DB HGETALL '".toList ++ key ++ "'".toList)).map fun out =>
    (key, strip out)

theorem readWatched_complete {sh : Answers} {names : List Text} {items : List (Text × Text)}
    (collected : collect? (readWatched sh) names = some items) :
    items.map Prod.fst = names := by
  induction names generalizing items with
  | nil =>
      cases collected
      rfl
  | cons name rest inductionHypothesis =>
      obtain ⟨item, found, remaining⟩ := Option.bind_eq_some_iff.mp collected
      obtain ⟨others, gathered, equal⟩ := Option.map_eq_some_iff.mp remaining
      obtain ⟨out, _, pair⟩ := Option.map_eq_some_iff.mp found
      subst equal pair
      rw [List.map_cons, inductionHypothesis gathered]

def watched (sh : Answers) : Option Watched :=
  (collect? (readWatched sh) watchedKeys).pmap Watched.mk fun _ => readWatched_complete

structure Snapshot where
  cfg : Finset Text
  fdb : Nat
  neigh : Nat
  watched : Watched

def snapshot (sh : Answers) : Option Snapshot := do
  let cfg ← keys sh "CONFIG_DB".toList "*".toList
  let fdb ← keys sh "ASIC_DB".toList "ASIC_STATE:SAI_OBJECT_TYPE_FDB_ENTRY:*".toList
  let neigh ← keys sh "ASIC_DB".toList "ASIC_STATE:SAI_OBJECT_TYPE_NEIGHBOR_ENTRY:*".toList
  let watched ← watched sh
  return ⟨cfg, fdb.card, neigh.card, watched⟩

structure Change where
  key : Text
  was : Text
  now : Text
  deriving DecidableEq

structure Record where
  nodeid : Text
  added : List Text
  removed : List Text
  fdb : Nat
  dfdb : Int
  neigh : Nat
  dneigh : Int
  /-- `watched_changed`; the key is left out when nothing changed. -/
  watchedChanged : List Change
  deriving DecidableEq

/-- A line of the report file. -/
inductive Line where
  | baseline (cfgKeys fdb neigh : Nat)
  | record (made : Record)
  | heal (nodeid : Text) (ports : List Text)

structure Session where
  /-- `_STATE["sh"]` is set. -/
  sh : Bool
  cleanCfg : Option (Finset Text)
  baseFdb : Nat
  baseNeigh : Nat
  watch : Option Watched
  records : List Record
  heals : List (Text × List Text)
  report : List Line

namespace Session

def initial (report : List Line) : Session :=
  { sh := false, cleanCfg := none, baseFdb := 0, baseNeigh := 0, watch := none,
    records := [], heals := [], report := report }

def captureBaseline (on : Bool) (session : Session) (sh : Answers) : Option Session :=
  if on then
    (snapshot sh).map fun snap =>
      { session with
        sh := true, cleanCfg := some snap.cfg, baseFdb := snap.fdb, baseNeigh := snap.neigh,
        watch := some snap.watched,
        report := [.baseline snap.cfg.card snap.fdb snap.neigh] }
  else some session

end Session

/-- The dictionary comprehension of `check_after_test`. -/
def wchanged (prev cur : List (Text × Text)) : List Change :=
  cur.filterMap fun item =>
    if item.2 ≠ (prev.lookup item.1).getD item.2 then
      some ⟨item.1, (prev.lookup item.1).getD [], item.2⟩
    else none

/-! `sorted` of the keys goes by the order of the texts. -/

local instance transText : IsTrans Text (· ≤ ·) :=
  inferInstance

local instance antisymmText : Std.Antisymm (α := Text) (· ≤ ·) :=
  inferInstance

local instance totalText : Std.Total (α := Text) (· ≤ ·) :=
  inferInstance

/-- The record of a test, whether or not it is worth keeping. -/
def Record.between (baseFdb baseNeigh : Nat) (nodeid : Text) (cleanCfg : Finset Text)
    (prevW : List (Text × Text)) (cur : Snapshot) : Record :=
  { nodeid := nodeid
    added := (cur.cfg \ cleanCfg).sort
    removed := (cleanCfg \ cur.cfg).sort
    fdb := cur.fdb
    dfdb := cur.fdb - baseFdb
    neigh := cur.neigh
    dneigh := cur.neigh - baseNeigh
    watchedChanged := wchanged prevW cur.watched.items }

def Record.dirty (made : Record) : Bool :=
  !made.added.isEmpty || !made.removed.isEmpty || decide (fdbDelta < made.dfdb) ||
    decide (neighDelta < made.dneigh) || !made.watchedChanged.isEmpty

namespace Session

def checkAfterTest (on : Bool) (session : Session) (nodeid : Text) (sh : Answers) :
    Option Session :=
  match on, session.cleanCfg, session.sh with
  | true, some cleanCfg, true =>
      (snapshot sh).map fun cur =>
        let prevW := (session.watch.map Watched.items).getD []
        let made := Record.between session.baseFdb session.baseNeigh nodeid cleanCfg prevW cur
        { session with
          cleanCfg := some cur.cfg
          watch := some cur.watched
          records := if made.dirty then session.records ++ [made] else session.records
          report := if made.dirty then session.report ++ [.record made] else session.report }
  | _, _, _ => some session

/-- `pytest_runtest_teardown`: what the check raises is swallowed. -/
def runtestTeardown (on : Bool) (session : Session) (nodeid : Text) (sh : Answers) : Session :=
  if on then (session.checkAfterTest on nodeid sh).getD session else session

def recordHeal (session : Session) (nodeid : Text) (ports : List Text) : Session :=
  { session with
    heals := session.heals ++ [(nodeid, ports)]
    report := session.report ++ [.heal nodeid ports] }

end Session

/-- What happens after the baseline: tests end, and the port guard heals ports. -/
inductive Event where
  | testEnds (nodeid : Text) (sh : Answers)
  | heals (nodeid : Text) (ports : List Text)

def Session.step (session : Session) : Event → Session
  | .testEnds nodeid sh => session.runtestTeardown true nodeid sh
  | .heals nodeid ports => session.recordHeal nodeid ports

def Session.run (session : Session) (events : List Event) : Session :=
  events.foldl Session.step session

end OnboxFvt.Sentinel
