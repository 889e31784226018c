import OnboxFvt.Library.Dict
import OnboxFvt.Library.Glob
import OnboxFvt.Library.PointwiseFold
import OnboxFvt.Python.TextFacts

/-!
# Purging orphan interface rows

`purge_orphan_l3_rows` of `framework/hygiene.py`.  An empty list of ports is taken for no list
at all, and then the rows of every port are swept.
-/

namespace OnboxFvt.Hygiene

open Library Python

abbrev Fields := Dict Text Text

structure ConfigDb where
  rows : Dict Text Fields
  distinct : rows.keys.Nodup

/-- A name of a port, which has none of the characters a glob pattern gives a meaning to. -/
structure PortName where
  text : Text
  literal : Literal text
  barless : '|' ∉ text

def interfaceTable : Text :=
  "INTERFACE".toList

def interfaceKey (name : Text) : Text :=
  interfaceTable ++ '|' :: name

/-- The one part after the first of a key with two parts. -/
def bareName? (key : Text) : Option Text :=
  match splitOn '|' key with
  | [_, name] => some name
  | _ => none

def vrfName (row : Fields) : Text :=
  (row.lookup "vrf_name".toList).getD []

structure Purge where
  db : Dict Text Fields
  purged : List Text

section Purge

variable (glob : Glob)

def dbKeys (db : Dict Text Fields) (pattern : Text) : List Text :=
  db.keys.filter (glob.isMatch pattern)

/-- The row a key stands for is deleted. -/
def isPurged (want : Option (List Text)) (db : Dict Text Fields) (key name : Text) : Bool :=
  want.all (name ∈ ·) && (dbKeys glob db (interfaceKey name ++ ['|', '*'])).isEmpty &&
    (vrfName ((db.lookup key).getD [])).isEmpty

/-- A round of the loop. -/
def purgeKey (want : Option (List Text)) (state : Purge) (key : Text) : Purge :=
  match bareName? key with
  | none => state
  | some name =>
      if isPurged glob want state.db key name then
        { db := state.db.erase (interfaceKey name), purged := state.purged ++ [name] }
      else state

/-- `set(ports) if ports else None`. -/
def wanted (ports : Option (List Text)) : Option (List Text) :=
  ports.filter fun names => !names.isEmpty

def purgeOrphanL3Rows (db : Dict Text Fields) (ports : Option (List Text)) : Purge :=
  (dbKeys glob db (interfaceKey ['*'])).foldl (purgeKey glob (wanted ports))
    { db := db, purged := [] }

end Purge

/-- The key is that of a bare row of a listed port, without address and without VRF. -/
def Orphan (db : Dict Text Fields) (ports : List PortName) (key : Text) : Prop :=
  ∃ port ∈ ports, key = interfaceKey port.text ∧
    (∃ row, db.lookup key = some row ∧ vrfName row = []) ∧
    ∀ other ∈ db.keys, ¬ key ++ ['|'] <+: other

/-- The orphan rows are gone, every other row is as it was. -/
structure Purges (db : Dict Text Fields) (ports : List PortName) (left : Dict Text Fields) :
    Prop where
  gone : ∀ key, Orphan db ports key → left.lookup key = none
  kept : ∀ key, ¬ Orphan db ports key → left.lookup key = db.lookup key

def hasAddress (db : Dict Text Fields) (name : Text) : Bool :=
  db.keys.any (startsWith (interfaceKey name ++ ['|']))

theorem hasAddress_iff {db : Dict Text Fields} {name : Text} : hasAddress db name = true ↔
    ∃ other ∈ db.keys, interfaceKey name ++ ['|'] <+: other := by
  rw [hasAddress, List.any_eq_true]
  simp only [startsWith_iff]

/-! ## Bare keys -/

theorem barless_interfaceTable : '|' ∉ interfaceTable := by
  decide

theorem interfaceKey_eq (name : Text) :
    interfaceKey name = ['|'].intercalate [interfaceTable, name] := by
  rw [List.intercalate_cons_cons, List.intercalate_singleton, List.append_assoc]
  rfl

theorem bareName?_interfaceKey {name : Text} (barless : '|' ∉ name) :
    bareName? (interfaceKey name) = some name := by
  have solid : ∀ part ∈ [interfaceTable, name], '|' ∉ part :=
    List.forall_mem_cons.mpr ⟨barless_interfaceTable, List.forall_mem_singleton.mpr barless⟩
  rw [bareName?, interfaceKey_eq, splitOn,
    List.splitOn_intercalate '|' solid (List.cons_ne_nil _ _)]

/-- A key of the table with two parts is that of a bare row. -/
theorem eq_interfaceKey {key name : Text} (begins : interfaceKey [] <+: key)
    (bare : bareName? key = some name) : key = interfaceKey name ∧ '|' ∉ name := by
  rw [bareName?] at bare
  split at bare
  next first second parts =>
      cases bare
      have joined : ['|'].intercalate (splitOn '|' key) = key := List.intercalate_splitOn '|'
      have barless (part : Text) (member : part ∈ splitOn '|' key) : '|' ∉ part :=
        notMem_of_mem_splitOn member
      rw [parts] at barless
      rw [parts] at joined
      obtain ⟨rest, split⟩ := begins
      rw [← joined, List.intercalate_cons_cons, List.intercalate_singleton, List.append_assoc,
        interfaceKey, List.append_assoc] at split
      have same := (append_cons_inj_left barless_interfaceTable
        (barless first (by simp))).mp split
      rw [interfaceKey_eq, same.1]
      exact ⟨joined.symm, barless name (by simp)⟩
  next => cases bare

/-- A bare key is not below another one. -/
theorem not_below_bare {name : Text} (barless : '|' ∉ name) (other : Text) :
    ¬ interfaceKey other ++ ['|'] <+: interfaceKey name := by
  intro begins
  rw [interfaceKey, interfaceKey, List.append_assoc, List.prefix_append_right_inj,
    List.cons_append, List.prefix_cons_inj] at begins
  exact barless (begins.subset (by simp))

/-! ## With a list of ports -/

section Loop

variable (glob : Glob)

/-- A round is visible only at the key it is about. -/
theorem lookup_purgeKey_of_ne (want : Option (List Text)) (state : Purge) {key here : Text}
    (begins : interfaceKey [] <+: key) (other : key ≠ here) :
    (purgeKey glob want state key).db.lookup here = state.db.lookup here := by
  rw [purgeKey]
  cases bare : bareName? key with
  | none => rfl
  | some name =>
      dsimp only
      split
      next =>
          rw [Dict.lookup_erase, ← (eq_interfaceKey begins bare).1, if_neg other]
      next => rfl

/-- The rows of addresses stay. -/
theorem hasAddress_purgeKey (want : Option (List Text)) (state : Purge) {key : Text}
    (begins : interfaceKey [] <+: key) (name : Text) :
    hasAddress (purgeKey glob want state key).db name = hasAddress state.db name := by
  rw [purgeKey]
  cases bare : bareName? key with
  | none => rfl
  | some found =>
      dsimp only
      split
      next =>
          have barless := (eq_interfaceKey begins bare).2
          rw [Bool.eq_iff_iff, hasAddress_iff, hasAddress_iff]
          constructor
          · rintro ⟨other, listed, below⟩
            exact ⟨other, (Dict.mem_keys_erase.mp listed).1, below⟩
          · rintro ⟨other, listed, below⟩
            refine ⟨other, Dict.mem_keys_erase.mpr ⟨listed, ?_⟩, below⟩
            rintro rfl
            exact not_below_bare barless name below
      next => rfl

theorem literal_interfaceKey {name : Text} (literal : Literal name) :
    Literal (interfaceKey name) := by
  have start : Literal (interfaceTable ++ ['|']) := literal_of_all (by decide)
  rw [interfaceKey, List.append_cons]
  exact literal_append start literal

/-- The keys listed for a port are those of its addresses. -/
theorem isPurged_of_literal (names : List Text) (db : Dict Text Fields) (key : Text) {name : Text}
    (literal : Literal name) : isPurged glob (some names) db key name =
      (decide (name ∈ names) && !hasAddress db name &&
        (vrfName ((db.lookup key).getD [])).isEmpty) := by
  have literal' : Literal (interfaceKey name ++ ['|']) :=
    literal_append (literal_interfaceKey literal) (literal_of_all (by decide))
  have addresses : (dbKeys glob db (interfaceKey name ++ ['|', '*'])).isEmpty =
      !hasAddress db name := by
    rw [Bool.eq_iff_iff, List.isEmpty_iff, Bool.not_eq_true', ← Bool.not_eq_true, hasAddress_iff,
      dbKeys, List.filter_eq_nil_iff, List.append_cons]
    simp only [glob.star literal', not_exists, not_and]
  rw [isPurged, addresses, Option.all_some]

theorem begins_of_mem {db : Dict Text Fields} {key : Text}
    (listed : key ∈ dbKeys glob db (interfaceKey ['*'])) :
    key ∈ db.keys ∧ interfaceKey [] <+: key := by
  have literal : Literal (interfaceKey []) := literal_interfaceKey literal_nil
  obtain ⟨member, passed⟩ := List.mem_filter.mp listed
  refine ⟨member, (glob.star literal key).mp ?_⟩
  rw [interfaceKey, List.append_assoc]
  exact passed

theorem mem_of_begins {db : Dict Text Fields} {key : Text} (listed : key ∈ db.keys)
    (begins : interfaceKey [] <+: key) : key ∈ dbKeys glob db (interfaceKey ['*']) := by
  have passed := (glob.star (literal_interfaceKey literal_nil) key).mpr begins
  rw [interfaceKey, List.append_assoc] at passed
  exact List.mem_filter.mpr ⟨listed, passed⟩

/-- What a row of a listed port is purged to. -/
def purgedTo (seen : Option Fields × Bool) : Option Fields × Bool :=
  (if !seen.2 && (vrfName (seen.1.getD [])).isEmpty then none else seen.1, seen.2)

/-- The round at the key of a listed port. -/
theorem look_purgeKey {names : List Text} {port : PortName} (listed : port.text ∈ names)
    (state : Purge) :
    let state' := purgeKey glob (some names) state (interfaceKey port.text)
    (state'.db.lookup (interfaceKey port.text), hasAddress state'.db port.text) =
      purgedTo (state.db.lookup (interfaceKey port.text), hasAddress state.db port.text) := by
  have begins : interfaceKey [] <+: interfaceKey port.text := ⟨port.text, by simp [interfaceKey]⟩
  dsimp only
  rw [hasAddress_purgeKey glob (some names) state begins, purgedTo]
  refine Prod.ext ?_ rfl
  dsimp only
  rw [purgeKey, bareName?_interfaceKey port.barless]
  dsimp only
  rw [isPurged_of_literal glob names state.db _ port.literal, decide_eq_true listed,
    Bool.true_and]
  split
  next => rw [Dict.lookup_erase, if_pos rfl]
  next => rfl

theorem nodup_dbKeys {db : Dict Text Fields} (distinct : db.keys.Nodup) (pattern : Text) :
    (dbKeys glob db pattern).Nodup :=
  distinct.filter _

variable {glob} {db : Dict Text Fields}

theorem lookup_purge_listed (distinct : db.keys.Nodup) {names : List Text} {port : PortName}
    (listed : port.text ∈ names) :
    (purgeOrphanL3Rows glob db (some names)).db.lookup (interfaceKey port.text) =
      (purgedTo (db.lookup (interfaceKey port.text), hasAddress db port.text)).1 := by
  have nonempty : wanted (some names) = some names := by
    rw [wanted, Option.filter_some, if_pos]
    simpa using List.ne_nil_of_mem listed
  have seen := look_foldl (purgeKey glob (some names))
    (fun state => (state.db.lookup (interfaceKey port.text), hasAddress state.db port.text))
    purgedTo (interfaceKey port.text) (nodup_dbKeys glob distinct (interfaceKey ['*']))
    (fun key member other state => ?_) (look_purgeKey glob listed) ⟨db, []⟩
  · rw [purgeOrphanL3Rows, nonempty]
    refine (congrArg Prod.fst seen).trans ?_
    split
    next => rfl
    next missing =>
        have absent : db.lookup (interfaceKey port.text) = none := by
          rw [Dict.lookup_eq_none_iff]
          intro member
          exact missing (mem_of_begins glob member ⟨port.text, by simp [interfaceKey]⟩)
        rw [absent, purgedTo]
        split <;> rfl
  · obtain ⟨-, begins⟩ := begins_of_mem glob member
    exact Prod.ext (lookup_purgeKey_of_ne glob _ state begins other)
      (hasAddress_purgeKey glob _ state begins _)

theorem lookup_purge_other {names : List Text} (nonempty : names ≠ []) {key : Text}
    (other : ∀ name ∈ names, key ≠ interfaceKey name) :
    (purgeOrphanL3Rows glob db (some names)).db.lookup key = db.lookup key := by
  have listed : wanted (some names) = some names := by
    rw [wanted, Option.filter_some, if_pos]
    simpa using nonempty
  rw [purgeOrphanL3Rows, listed]
  refine look_foldl_of_unseen (purgeKey glob (some names)) (fun state => state.db.lookup key)
    (fun round member state => ?_) ⟨db, []⟩
  obtain ⟨-, begins⟩ := begins_of_mem glob member
  by_cases same : round = key
  · rw [purgeKey]
    cases bare : bareName? round with
    | none => rfl
    | some name =>
        have keyed := (eq_interfaceKey begins bare).1
        have unlisted : name ∉ names := fun member => other name member (same.symm.trans keyed)
        dsimp only
        rw [isPurged, Option.all_some, decide_eq_false unlisted, Bool.false_and, Bool.false_and,
          if_neg Bool.false_ne_true]
  · exact lookup_purgeKey_of_ne glob _ state begins same

/-! ## Without a list -/

theorem lookup_purgeKey_eq_none (want : Option (List Text)) {key : Text} (state : Purge)
    (round : Text) (gone : state.db.lookup key = none) :
    (purgeKey glob want state round).db.lookup key = none := by
  rw [purgeKey]
  cases bareName? round with
  | none => exact gone
  | some name =>
      dsimp only
      split
      next =>
          rw [Dict.lookup_erase, gone]
          exact ite_self none
      next => exact gone

/-- The loop leaves everything only where no round deletes anything at the start. -/
theorem foldl_purgeKey_kept_iff (want : Option (List Text)) {keys : List Text} {state : Purge}
    (present : ∀ key ∈ keys, key ∈ state.db.keys ∧ interfaceKey [] <+: key) :
    (∀ key, (keys.foldl (purgeKey glob want) state).db.lookup key = state.db.lookup key) ↔
      ∀ key ∈ keys, ∀ name, bareName? key = some name →
        isPurged glob want state.db key name = false := by
  induction keys generalizing state with
  | nil => exact iff_of_true (fun _ => rfl) nofun
  | cons key rest inductionHypothesis =>
      obtain ⟨⟨listed, begins⟩, later⟩ := List.forall_mem_cons.mp present
      rw [List.foldl_cons, List.forall_mem_cons]
      by_cases purged : ∃ name, bareName? key = some name ∧
          isPurged glob want state.db key name = true
      · obtain ⟨name, bare, deleted⟩ := purged
        refine iff_of_false (fun kept => ?_) (fun silent => ?_)
        · have erased : (purgeKey glob want state key).db.lookup key = none := by
            simp only [purgeKey, bare, deleted, if_true]
            rw [Dict.lookup_erase, if_pos (eq_interfaceKey begins bare).1.symm]
          have gone := foldl_preserves (fun state : Purge => state.db.lookup key = none)
            (@lookup_purgeKey_eq_none glob want key) rest erased
          rw [kept key, Dict.lookup_eq_none_iff] at gone
          exact gone listed
        · rw [silent.1 name bare] at deleted
          cases deleted
      · have silent : ∀ name, bareName? key = some name →
            isPurged glob want state.db key name = false := by
          intro name bare
          rw [← Bool.not_eq_true]
          exact fun deleted => purged ⟨name, bare, deleted⟩
        have same : purgeKey glob want state key = state := by
          rw [purgeKey]
          cases bare : bareName? key with
          | none => rfl
          | some name =>
              dsimp only
              rw [silent name bare, if_neg Bool.false_ne_true]
        rw [same, inductionHypothesis later]
        exact (and_iff_right silent).symm

end Loop

/-- A bare row without VRF for which no address is listed. -/
def Leftover (glob : Glob) (db : Dict Text Fields) (name : Text) : Prop :=
  '|' ∉ name ∧ (∃ row, db.lookup (interfaceKey name) = some row ∧ vrfName row = []) ∧
    ∀ other ∈ db.keys, glob.isMatch (interfaceKey name ++ ['|', '*']) other = false

theorem isPurged_none_iff {glob : Glob} {db : Dict Text Fields} {name : Text}
    (listed : interfaceKey name ∈ db.keys) (barless : '|' ∉ name) :
    isPurged glob none db (interfaceKey name) name = true ↔ Leftover glob db name := by
  obtain ⟨row, found⟩ : ∃ row, db.lookup (interfaceKey name) = some row := by
    rw [← Option.ne_none_iff_exists']
    exact fun absent => Dict.lookup_eq_none_iff.mp absent listed
  rw [isPurged, found, Leftover, found]
  simp [dbKeys, barless, and_comm]

/-- Without a list nothing is purged exactly where a sweep of the device finds nothing. -/
theorem sweep_keeps_iff (glob : Glob) (db : Dict Text Fields) :
    (∀ key, (purgeOrphanL3Rows glob db (some [])).db.lookup key = db.lookup key) ↔
      ∀ name, ¬ Leftover glob db name := by
  have kept := @foldl_purgeKey_kept_iff glob none (dbKeys glob db (interfaceKey ['*']))
    ⟨db, []⟩ fun key member => begins_of_mem glob member
  refine kept.trans ⟨fun silent name leftover => ?_, fun clean key member name bare => ?_⟩
  · have listed : interfaceKey name ∈ db.keys := by
      obtain ⟨-, ⟨row, found, -⟩, -⟩ := leftover
      exact List.mem_map_of_mem (Dict.mem_of_lookup found)
    have begins : interfaceKey [] <+: interfaceKey name := ⟨name, by simp [interfaceKey]⟩
    have purged := silent _ (mem_of_begins glob listed begins) name
      (bareName?_interfaceKey leftover.1)
    rw [(isPurged_none_iff listed leftover.1).mpr leftover] at purged
    cases purged
  · obtain ⟨listed, begins⟩ := begins_of_mem glob member
    obtain ⟨rfl, barless⟩ := eq_interfaceKey begins bare
    rw [← Bool.not_eq_true, isPurged_none_iff listed barless]
    exact clean name

theorem purges_of_listed (glob : Glob) (config : ConfigDb) {ports : List PortName}
    (nonempty : ports ≠ []) : Purges config.rows ports
      (purgeOrphanL3Rows glob config.rows (some (ports.map PortName.text))).db where
  gone := by
    rintro key ⟨port, member, rfl, ⟨row, found, unbound⟩, alone⟩
    have unaddressed : hasAddress config.rows port.text = false := by
      rw [← Bool.not_eq_true, hasAddress_iff]
      rintro ⟨other, listed, below⟩
      exact alone other listed below
    rw [lookup_purge_listed config.distinct (List.mem_map_of_mem member), purgedTo, found,
      unaddressed, Option.getD_some, unbound]
    rfl
  kept := by
    intro key settled
    by_cases listed : ∃ port ∈ ports, key = interfaceKey port.text
    · obtain ⟨port, member, rfl⟩ := listed
      rw [lookup_purge_listed config.distinct (List.mem_map_of_mem member), purgedTo]
      dsimp only
      split
      next purged =>
          obtain ⟨unaddressed, unbound⟩ := Bool.and_eq_true_iff.mp purged
          cases found : config.rows.lookup (interfaceKey port.text) with
          | none => rfl
          | some row =>
              refine absurd ⟨port, member, rfl, ⟨row, found, ?_⟩, fun other inside below => ?_⟩
                settled
              · simpa [found] using unbound
              · rw [hasAddress_iff.mpr ⟨other, inside, below⟩] at unaddressed
                cases unaddressed
      next => rfl
    · refine lookup_purge_other (mt List.map_eq_nil_iff.mp nonempty) fun name member same => ?_
      obtain ⟨port, inside, rfl⟩ := List.mem_map.mp member
      exact listed ⟨port, inside, same⟩

/-- Exactly the orphan rows of the listed ports are purged, unless the list is empty and there
is a row that a sweep of the device takes for an orphan. -/
theorem purge_exact_iff (glob : Glob) (config : ConfigDb) (ports : List PortName) :
    Purges config.rows ports (purgeOrphanL3Rows glob config.rows
        (some (ports.map PortName.text))).db ↔
      (ports = [] → ∀ name, ¬ Leftover glob config.rows name) := by
  by_cases empty : ports = []
  · subst empty
    have none : ∀ key, ¬ Orphan config.rows [] key := by
      rintro key ⟨port, member, -⟩
      cases member
    rw [← sweep_keeps_iff, imp_iff_right rfl]
    exact ⟨fun purges key => purges.kept key (none key),
      fun kept => ⟨fun key orphan => absurd orphan (none key), fun key _ => kept key⟩⟩
  · exact iff_of_true (purges_of_listed glob config empty) fun same => absurd same empty

/-- The row every port has at boot, for one port. -/
def bootRow : ConfigDb where
  rows := [(interfaceKey "Ethernet0".toList, [("mtu".toList, "9100".toList)])]
  distinct := by decide

/-- No port is listed, and the row of a port is gone. -/
theorem empty_list_sweeps : ¬ Purges bootRow.rows []
    (purgeOrphanL3Rows Glob.trailingStar bootRow.rows (some [])).db := by
  intro purges
  have kept := purges.kept (interfaceKey "Ethernet0".toList) (by
    rintro ⟨port, member, -⟩
    cases member)
  revert kept
  decide

end OnboxFvt.Hygiene
