import Mathlib.Data.List.AList
import OnboxFvt.Library.Collect
import OnboxFvt.Python.Text

/-!
# The lossless queues of a device

`pfc_config` and `lossless_queues` of `framework/dlb.py`, over the rows of CONFIG_DB
they read.  Dictionaries are association lists; of a Python set only the members
matter, so it is a list.  `none` is the `ValueError` of an `int` that fails.
-/

namespace OnboxFvt.Dlb

open Library Python

/-- The fields of a `PORT_QOS_MAP` row that are read. -/
structure Row where
  pfcEnable : Option Text
  pfcToQueueMap : Option Text

/-- `priorityToQueue name` is the hash `PFC_PRIORITY_TO_QUEUE_MAP|name`. -/
structure ConfigDb where
  portQosMap : AList fun _ : Text => Row
  priorityToQueue : Text → AList fun _ : Text => Text

abbrev PortPrio := Text × Int

/-- `str` of an integer. -/
def str (number : Int) : Text :=
  (toString number).toList

namespace Row

def prios? (row : Row) : Option (List Int) :=
  let raw := strip (row.pfcEnable.getD [])
  if raw.isEmpty then some []
  else collect? int? ((splitOn ',' raw).filter fun x => isDigit (strip x))

def mapName (row : Row) : Text :=
  ((splitOn '|' (stripChars ['[', ']'] (row.pfcToQueueMap.getD []))).getLast?).getD []

end Row

abbrev PfcConfig := AList fun _ : Text => List Int × Text

/-- The loop of `pfc_config` over the rows. -/
def pfcConfigFrom (out : PfcConfig) : List (Sigma fun _ : Text => Row) → Option PfcConfig
  | [] => some out
  | ⟨port, row⟩ :: rest =>
      row.prios?.bind fun prios =>
        pfcConfigFrom (if prios.isEmpty then out else out.insert port (prios, row.mapName)) rest

def pfcConfig (db : ConfigDb) : Option PfcConfig :=
  pfcConfigFrom ∅ db.portQosMap.entries

/-- A round of the loop over `on`. -/
def turnOn (cfg : PfcConfig) (pair : PortPrio) : PfcConfig :=
  let entry := (cfg.lookup pair.1).getD ([], [])
  cfg.insert pair.1 (entry.1 ++ [pair.2], entry.2)

/-- The map a name stands for; a port without a name has the identity map. -/
def pmap (db : ConfigDb) (mapname : Text) : AList fun _ : Text => Text :=
  if mapname.isEmpty then ∅ else db.priorityToQueue mapname

def readQueue (pmap : AList fun _ : Text => Text) (p : Int) : Option Int :=
  match pmap.lookup (str p) with
  | some queue => int? queue
  | none => some p

/-- The queues of one port. -/
def portQueues (db : ConfigDb) (off : List PortPrio) (remap : AList fun _ : PortPrio => Int)
    (port : Text) (entry : List Int × Text) : Option (List Int) :=
  collect?
    (fun p =>
      match remap.lookup (port, p) with
      | some queue => some queue
      | none => readQueue (pmap db entry.2) p)
    (entry.1.filter fun p => (port, p) ∉ off)

/-- Queues that the engine accepts, `_DLB_PFC_MAX_UC_Q` being 8. -/
def Accepted (queue : Int) : Prop :=
  0 ≤ queue ∧ queue < 8

instance (queue : Int) : Decidable (Accepted queue) :=
  inferInstanceAs (Decidable (_ ∧ _))

def losslessQueues (db : ConfigDb) (off on : List PortPrio)
    (remap : AList fun _ : PortPrio => Int) : Option (Finset Int) :=
  (pfcConfig db).bind fun cfg =>
    (collect? (fun item : Sigma fun _ : Text => List Int × Text =>
        portQueues db off remap item.1 item.2) (on.foldl turnOn cfg).entries).map fun queues =>
      (queues.flatten.filter Accepted).toFinset

/-! ## What the loops compute -/

/-- A port without a row is like one whose row has neither field. -/
def ConfigDb.row (db : ConfigDb) (port : Text) : Row :=
  (db.portQosMap.lookup port).getD { pfcEnable := none, pfcToQueueMap := none }

/-- The priorities enabled on a port, where its row can be read. -/
def ConfigDb.prios (db : ConfigDb) (port : Text) : List Int :=
  (db.row port).prios?.getD []

/-- The map the preview reads a port's priorities through. -/
def ConfigDb.seenMap (db : ConfigDb) (port : Text) : Text :=
  if db.prios port = [] then [] else (db.row port).mapName

def ConfigDb.Readable (db : ConfigDb) : Prop :=
  ∀ port, (db.row port).prios? ≠ none

def entryOf (cfg : PfcConfig) (port : Text) : List Int × Text :=
  (cfg.lookup port).getD ([], [])

theorem pfcConfigFrom_eq_none {out : PfcConfig} {rows : List (Sigma fun _ : Text => Row)} :
    pfcConfigFrom out rows = none ↔ ∃ entry ∈ rows, entry.2.prios? = none := by
  induction rows generalizing out with
  | nil => simp [pfcConfigFrom]
  | cons entry rest inductionHypothesis =>
      obtain ⟨port, row⟩ := entry
      cases read : row.prios? with
      | none => simp [pfcConfigFrom, read]
      | some prios => simp [pfcConfigFrom, read, inductionHypothesis]

theorem lookup_pfcConfigFrom {out cfg : PfcConfig} {rows : List (Sigma fun _ : Text => Row)}
    (distinct : rows.NodupKeys) (loaded : pfcConfigFrom out rows = some cfg) (port : Text) :
    cfg.lookup port =
      match rows.dlookup port with
      | none => out.lookup port
      | some row =>
          if (row.prios?.getD []).isEmpty then out.lookup port
          else some (row.prios?.getD [], row.mapName) := by
  induction rows generalizing out with
  | nil =>
      cases loaded
      rfl
  | cons entry rest inductionHypothesis =>
      obtain ⟨own, row⟩ := entry
      obtain ⟨prios, read, continued⟩ := Option.bind_eq_some_iff.mp loaded
      have later := inductionHypothesis (List.nodupKeys_cons.mp distinct).2 continued
      have fresh : rest.dlookup own = none :=
        List.dlookup_eq_none.mpr (List.nodupKeys_cons.mp distinct).1
      rw [later]
      by_cases same : port = own
      · subst same
        rw [fresh, List.dlookup_cons_eq]
        cases prios <;> simp [read]
      · rw [List.dlookup_cons_ne _ _ same]
        have untouched : (if prios.isEmpty then out else out.insert own (prios, row.mapName)).lookup
            port = out.lookup port := by
          split
          next => rfl
          next => exact AList.lookup_insert_ne same
        rw [untouched]

theorem pfcConfig_eq_none {db : ConfigDb} : pfcConfig db = none ↔ ¬ db.Readable := by
  rw [pfcConfig, pfcConfigFrom_eq_none]
  constructor
  · rintro ⟨⟨port, row⟩, member, failed⟩ readable
    refine readable port ?_
    rw [ConfigDb.row,
      show db.portQosMap.lookup port = some row from AList.mem_lookup_iff.mpr member]
    exact failed
  · intro unreadable
    rw [ConfigDb.Readable, not_forall] at unreadable
    obtain ⟨port, failed⟩ := unreadable
    rw [not_not] at failed
    cases found : db.portQosMap.lookup port with
    | none =>
        rw [ConfigDb.row, found] at failed
        cases failed
    | some row =>
        rw [ConfigDb.row, found] at failed
        exact ⟨⟨port, row⟩, AList.mem_lookup_iff.mp found, failed⟩

theorem entryOf_pfcConfig {db : ConfigDb} {cfg : PfcConfig} (loaded : pfcConfig db = some cfg)
    (port : Text) : entryOf cfg port = (db.prios port, db.seenMap port) := by
  have found := lookup_pfcConfigFrom db.portQosMap.nodupKeys loaded port
  have same : db.portQosMap.entries.dlookup port = db.portQosMap.lookup port := rfl
  rw [entryOf, found, same, ConfigDb.seenMap, ConfigDb.prios, ConfigDb.row]
  cases db.portQosMap.lookup port with
  | none => rfl
  | some row => cases enabled : row.prios?.getD [] <;> simp [enabled]

theorem entryOf_turnOn (cfg : PfcConfig) (on : List PortPrio) (port : Text) :
    (entryOf (on.foldl turnOn cfg) port).2 = (entryOf cfg port).2 ∧
      ∀ p, p ∈ (entryOf (on.foldl turnOn cfg) port).1 ↔
        p ∈ (entryOf cfg port).1 ∨ (port, p) ∈ on := by
  induction on generalizing cfg with
  | nil => simp
  | cons pair rest inductionHypothesis =>
      obtain ⟨kept, added⟩ := inductionHypothesis (turnOn cfg pair)
      obtain ⟨own, prio⟩ := pair
      rw [List.foldl_cons, kept]
      simp only [added]
      by_cases same : port = own
      · subst same
        simp [entryOf, turnOn, or_assoc]
      · simp [entryOf, turnOn, AList.lookup_insert_ne same, same]

/-- The pairs a call looks at: enabled or turned on, and not turned off. -/
def Enabled (db : ConfigDb) (off on : List PortPrio) (pair : PortPrio) : Prop :=
  (pair.2 ∈ db.prios pair.1 ∨ pair ∈ on) ∧ pair ∉ off

/-- The queue a call reads for a pair. -/
def previewQueue (db : ConfigDb) (remap : AList fun _ : PortPrio => Int) (pair : PortPrio) :
    Option Int :=
  match remap.lookup pair with
  | some queue => some queue
  | none => readQueue (pmap db (db.seenMap pair.1)) pair.2

section Loop

variable {db : ConfigDb} {cfg : PfcConfig} (off on : List PortPrio)
  (remap : AList fun _ : PortPrio => Int)

/-- The entries of the dictionary after the loop over `on`. -/
theorem mem_entries_iff (loaded : pfcConfig db = some cfg) (pair : PortPrio) :
    (∃ entry ∈ (on.foldl turnOn cfg).entries,
        entry.1 = pair.1 ∧ pair.2 ∈ entry.2.1.filter fun p => (entry.1, p) ∉ off) ↔
      Enabled db off on pair := by
  obtain ⟨port, p⟩ := pair
  have enabled := (entryOf_turnOn cfg on port).2 p
  rw [entryOf_pfcConfig loaded] at enabled
  rw [Enabled, ← enabled, entryOf]
  constructor
  · rintro ⟨⟨own, entry⟩, member, rfl, listed⟩
    have found := AList.mem_lookup_iff.mpr member
    rw [Option.mem_def.mp found]
    simpa using listed
  · rintro ⟨listed, going⟩
    cases found : (on.foldl turnOn cfg).lookup port with
    | none =>
        rw [found] at listed
        cases listed
    | some entry =>
        rw [found] at listed
        refine ⟨⟨port, entry⟩, AList.mem_lookup_iff.mp found, rfl, ?_⟩
        exact List.mem_filter.mpr ⟨listed, by simpa using going⟩

/-- The pairs a call looks at on one port. -/
def pairsOf (off : List PortPrio) (entry : Sigma fun _ : Text => List Int × Text) :
    List PortPrio :=
  (entry.2.1.filter fun p => (entry.1, p) ∉ off).map (Prod.mk entry.1)

theorem mem_pairs_iff (loaded : pfcConfig db = some cfg) (pair : PortPrio) :
    pair ∈ (on.foldl turnOn cfg).entries.flatMap (pairsOf off) ↔ Enabled db off on pair := by
  rw [← mem_entries_iff off on loaded, List.mem_flatMap]
  refine exists_congr fun entry => and_congr_right fun _ => ?_
  rw [pairsOf, List.mem_map]
  constructor
  · rintro ⟨p, listed, rfl⟩
    exact ⟨rfl, listed⟩
  · rintro ⟨same, listed⟩
    exact ⟨pair.2, listed, Prod.ext same rfl⟩

theorem portQueues_of_mem (loaded : pfcConfig db = some cfg)
    {entry : Sigma fun _ : Text => List Int × Text}
    (member : entry ∈ (on.foldl turnOn cfg).entries) :
    portQueues db off remap entry.1 entry.2 =
      collect? (previewQueue db remap) (pairsOf off entry) := by
  have bound := (entryOf_turnOn cfg on entry.1).1
  rw [entryOf_pfcConfig loaded, entryOf, Option.mem_def.mp (AList.mem_lookup_iff.mpr member)]
    at bound
  rw [portQueues, show entry.2.2 = db.seenMap entry.1 from bound, pairsOf, ← collect?_comp]
  rfl

/-- `lossless_queues` collects the queues of the enabled pairs. -/
theorem losslessQueues_collects (readable : db.Readable) :
    Collects (Enabled db off on) (previewQueue db remap) Accepted
      (losslessQueues db off on remap) := by
  cases loaded : pfcConfig db with
  | none => exact absurd readable (pfcConfig_eq_none.mp loaded)
  | some cfg =>
      have ports (entry) (member : entry ∈ (on.foldl turnOn cfg).entries) :=
        portQueues_of_mem off on remap loaded member
      have gathered : losslessQueues db off on remap =
          (collect? (previewQueue db remap) ((on.foldl turnOn cfg).entries.flatMap
            (pairsOf off))).map fun queues => (queues.filter Accepted).toFinset := by
        rw [losslessQueues, loaded, Option.bind_some, collect?_congr ports, ← collect?_flatten,
          Option.map_map]
        rfl
      rw [gathered]
      exact collects_of_collect? _ _ (mem_pairs_iff off on loaded)

end Loop

theorem losslessQueues_unreadable {db : ConfigDb} (off on : List PortPrio)
    (remap : AList fun _ : PortPrio => Int) (unreadable : ¬ db.Readable) :
    losslessQueues db off on remap = none := by
  rw [losslessQueues, pfcConfig_eq_none.mpr unreadable]
  rfl

end OnboxFvt.Dlb
