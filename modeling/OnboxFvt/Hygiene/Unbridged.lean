import OnboxFvt.Hygiene.OrphanRows
import OnboxFvt.Verify.Routes

/-!
# Waiting for a port to leave its bridge

`wait_port_unbridged` of `framework/hygiene.py`.  Every command reads the database as it is at
that moment; the object id is cut from the key without its `oid:`, so that no VLAN member is
ever found to name it.
-/

namespace OnboxFvt.Hygiene

open Library Python Verify

def bridgePortTable : Text :=
  "ASIC_STATE:SAI_OBJECT_TYPE_BRIDGE_PORT:".toList

def vlanMemberTable : Text :=
  "ASIC_STATE:SAI_OBJECT_TYPE_VLAN_MEMBER:".toList

def bridgePortKey (number : Nat) : Text :=
  bridgePortTable ++ oid number

def portIdOf (row : Fields) : Option Text :=
  row.lookup "SAI_BRIDGE_PORT_ATTR_PORT_ID".toList

def bridgePortIdOf (row : Fields) : Option Text :=
  row.lookup "SAI_VLAN_MEMBER_ATTR_BRIDGE_PORT_ID".toList

/-- A state of ASIC_DB.  Object ids are written with `oid:`, in keys and in attributes. -/
structure AsicDb where
  rows : Dict Text Fields
  keyed : ∀ key ∈ rows.keys, bridgePortTable <+: key → ∃ number, key = bridgePortKey number
  named : ∀ entry ∈ rows, ∀ id, bridgePortIdOf entry.2 = some id → ∃ number, id = oid number

/-- `db_hgetall`. -/
def AsicDb.hgetall (db : AsicDb) (key : Text) : Fields :=
  (db.rows.lookup key).getD []

/-- The state the keys are listed in, and for each of them the state its row is read in. -/
structure Scan where
  listing : AsicDb
  reading : Nat → AsicDb

/-- A round of the loop: the key is looked for, then the members are scanned. -/
structure Round where
  present : AsicDb
  members : Scan

/-- What was answered, and the state read last. -/
structure Wait where
  answer : Bool
  last : Option AsicDb

/-- `key.rsplit(":", 1)[-1]`. -/
def lastPart (key : Text) : Text :=
  match cutLast? ':' key with
  | some (_, part) => part
  | none => key

/-- Rows are read up to the first hit; `last` is the state read last before. -/
def searchFrom (hit : Fields → Bool) : AsicDb → List (Text × AsicDb) → Option Text × AsicDb
  | last, [] => (none, last)
  | _, (key, db) :: rest => if hit (db.hgetall key) then (some key, db) else searchFrom hit db rest

section Wait

variable (glob : ExactGlob)

/-- The keys listed, each with the state its row is read in. -/
def Scan.visits (scan : Scan) (table : Text) : List (Text × AsicDb) :=
  (dbKeys glob.toGlob scan.listing.rows (table ++ ['*'])).mapIdx fun n key =>
    (key, scan.reading n)

def Scan.search (scan : Scan) (table : Text) (hit : Fields → Bool) : Option Text × AsicDb :=
  searchFrom hit scan.listing (scan.visits glob table)

/-- `_no_l2_membership`, and the state read last. -/
def noL2Membership (bpKey : Text) (scan : Scan) : Bool × AsicDb :=
  match scan.search glob vlanMemberTable (bridgePortIdOf · == some (lastPart bpKey)) with
  | (none, last) => (true, last)
  | (some _, last) => (false, last)

def waitRounds (bpKey : Text) : AsicDb → List Round → Wait
  | last, [] => { answer := false, last := some last }
  | _, round :: rest =>
      if (dbKeys glob.toGlob round.present.rows bpKey).isEmpty then
        { answer := true, last := some round.present }
      else
        match noL2Membership glob bpKey round.members with
        | (true, last) => { answer := true, last := some last }
        | (false, last) => waitRounds bpKey last rest

/-- The rounds are those the timeout leaves time for. -/
def waitPortUnbridged (oid : Text) (scan : Scan) (rounds : List Round) : Wait :=
  if oid.isEmpty then { answer := true, last := none }
  else
    match scan.search glob bridgePortTable (portIdOf · == some oid) with
    | (none, last) => { answer := true, last := some last }
    | (some bpKey, last) => waitRounds glob bpKey last rounds

end Wait

/-! ## What the answer should mean -/

def IsBridgePort (db : AsicDb) (port number : Nat) : Prop :=
  portIdOf (db.hgetall (bridgePortKey number)) = some (oid port)

def HasMember (db : AsicDb) (number : Nat) : Prop :=
  ∃ key ∈ db.rows.keys, vlanMemberTable <+: key ∧
    bridgePortIdOf (db.hgetall key) = some (oid number)

/-- No bridge port of the port has a VLAN member. -/
def LeftL2 (db : AsicDb) (port : Nat) : Prop :=
  ∀ number, IsBridgePort db port number → ¬ HasMember db number

/-- A positive answer holds of the state read last. -/
def Wait.Sound (wait : Wait) (port : Nat) : Prop :=
  wait.answer = true → ∃ db, wait.last = some db ∧ LeftL2 db port

section Early

variable (glob : ExactGlob)

/-- The state a scan that hits nothing ends in. -/
def Scan.last (scan : Scan) (table : Text) : AsicDb :=
  ((scan.visits glob table).getLast?.map Prod.snd).getD scan.listing

/-- The state a round ends in that finds no member. -/
def Round.last (round : Round) (bpKey : Text) : AsicDb :=
  if bpKey ∈ round.present.rows.keys then round.members.last glob vlanMemberTable
  else round.present

/-- The port has left its bridge before the wait: where the scan for its bridge port ends
without having read one, and else where the first round of the loop ends. -/
def LeftBefore (port : Nat) (scan : Scan) (rounds : List Round) : Prop :=
  match (scan.visits glob bridgePortTable).find? fun visit =>
      portIdOf (visit.2.hgetall visit.1) == some (oid port) with
  | none => LeftL2 (scan.last glob bridgePortTable) port
  | some (bpKey, _) => ∀ first ∈ rounds.head?, LeftL2 (first.last glob bpKey) port

end Early

theorem sound_positive {db : AsicDb} {port : Nat} :
    Wait.Sound { answer := true, last := some db } port ↔ LeftL2 db port := by
  rw [Wait.Sound, imp_iff_right rfl]
  constructor
  · rintro ⟨other, last, left⟩
    rwa [Option.some.inj last]
  · exact fun left => ⟨db, rfl, left⟩

/-! ## Object ids and keys -/

theorem colon_mem_oid (number : Nat) : ':' ∈ oid number :=
  List.mem_append_left _ (by decide)

theorem colon_notMem_lastPart (key : Text) : ':' ∉ lastPart key := by
  rw [lastPart]
  split
  next cut => exact notMem_of_cutLast cut
  next uncut => exact notMem_of_uncut uncut

/-- What is cut from a key is not the id of an object. -/
theorem lastPart_ne_oid (key : Text) (number : Nat) : lastPart key ≠ oid number := by
  intro same
  have absent := colon_notMem_lastPart key
  rw [same] at absent
  exact absent (colon_mem_oid number)

theorem names_no_lastPart (db : AsicDb) (key bpKey : Text) :
    (bridgePortIdOf (db.hgetall key) == some (lastPart bpKey)) = false := by
  rw [beq_eq_false_iff_ne]
  intro names
  rw [AsicDb.hgetall] at names
  cases found : db.rows.lookup key with
  | none =>
      rw [found] at names
      cases names
  | some row =>
      rw [found] at names
      obtain ⟨number, written⟩ := db.named (key, row) (Dict.mem_of_lookup found) _ names
      exact lastPart_ne_oid bpKey number written

theorem isHexDigit_globCharacters : ∀ c ∈ globCharacters, isHexDigit c = false :=
  forall_of_all (by decide)

theorem literal_oid (number : Nat) : Literal (oid number) := by
  have digits : Literal (Nat.toDigits 16 number) := by
    intro c digit special
    have hex := isHexDigit_of_mem_toDigits digit
    rw [isHexDigit_globCharacters c special] at hex
    cases hex
  exact literal_append (literal_of_all (by decide)) digits

theorem literal_bridgePortTable : Literal bridgePortTable :=
  literal_of_all (by decide)

theorem literal_bridgePortKey (number : Nat) : Literal (bridgePortKey number) :=
  literal_append literal_bridgePortTable (literal_oid number)

/-! ## Scans -/

section Search

variable {hit : Fields → Bool}

theorem searchFrom_of_none {visits : List (Text × AsicDb)} (last : AsicDb)
    (missed : visits.find? (fun visit => hit (visit.2.hgetall visit.1)) = none) :
    searchFrom hit last visits = (none, (visits.getLast?.map Prod.snd).getD last) := by
  induction visits generalizing last with
  | nil => rfl
  | cons visit rest inductionHypothesis =>
      rw [List.find?_cons] at missed
      cases here : hit (visit.2.hgetall visit.1) with
      | true =>
          rw [here] at missed
          cases missed
      | false =>
          rw [here] at missed
          rw [searchFrom, here, if_neg Bool.false_ne_true, inductionHypothesis _ missed,
            List.getLast?_cons]
          cases rest.getLast? <;> rfl

theorem searchFrom_of_some {visits : List (Text × AsicDb)} (last : AsicDb)
    {visit : Text × AsicDb}
    (found : visits.find? (fun visit => hit (visit.2.hgetall visit.1)) = some visit) :
    searchFrom hit last visits = (some visit.1, visit.2) := by
  induction visits generalizing last with
  | nil => cases found
  | cons first rest inductionHypothesis =>
      rw [List.find?_cons] at found
      cases here : hit (first.2.hgetall first.1) with
      | true =>
          rw [here] at found
          cases found
          rw [searchFrom, here, if_pos rfl]
      | false =>
          rw [here] at found
          rw [searchFrom, here, if_neg Bool.false_ne_true]
          exact inductionHypothesis _ found

end Search

section Early

variable (glob : ExactGlob)

/-- No member is found, whichever members there are. -/
theorem noL2Membership_eq (bpKey : Text) (scan : Scan) :
    noL2Membership glob bpKey scan = (true, scan.last glob vlanMemberTable) := by
  have missed : (scan.visits glob vlanMemberTable).find? (fun visit =>
      bridgePortIdOf (visit.2.hgetall visit.1) == some (lastPart bpKey)) = none := by
    rw [List.find?_eq_none]
    intro visit _
    rw [names_no_lastPart visit.2 visit.1 bpKey]
    exact Bool.false_ne_true
  have searched := @searchFrom_of_none (bridgePortIdOf · == some (lastPart bpKey)) _
    scan.listing missed
  rw [noL2Membership, Scan.search, searched]
  rfl

/-- A key that was visited is that of a bridge port. -/
theorem bridgePortKey_of_visit {scan : Scan} {visit : Text × AsicDb}
    (visited : visit ∈ scan.visits glob bridgePortTable) :
    ∃ number, visit.1 = bridgePortKey number := by
  obtain ⟨n, inside, rfl⟩ := List.mem_mapIdx.mp visited
  obtain ⟨listed, passed⟩ := List.mem_filter.mp (List.getElem_mem inside)
  exact scan.listing.keyed _ listed ((glob.star literal_bridgePortTable _).mp passed)

/-- The first round answers. -/
theorem waitRounds_cons (number : Nat) (last : AsicDb) (first : Round) (rest : List Round) :
    waitRounds glob (bridgePortKey number) last (first :: rest) =
      { answer := true, last := some (first.last glob (bridgePortKey number)) } := by
  have listed : (dbKeys glob.toGlob first.present.rows (bridgePortKey number)).isEmpty = true ↔
      bridgePortKey number ∉ first.present.rows.keys := by
    rw [List.isEmpty_iff, dbKeys, List.filter_eq_nil_iff]
    simp only [glob.exact (literal_bridgePortKey number)]
    exact ⟨fun others member => others _ member rfl,
      fun absent key member same => absent (same ▸ member)⟩
  rw [waitRounds, Round.last, noL2Membership_eq]
  by_cases present : bridgePortKey number ∈ first.present.rows.keys
  · rw [if_neg (mt listed.mp (not_not_intro present)), if_pos present]
  · rw [if_pos (listed.mpr present), if_neg present]

end Early

/-- The wait is sound exactly for a port that has left its bridge before. -/
theorem unbridged_sound_iff (glob : ExactGlob) (port : Nat) (scan : Scan) (rounds : List Round) :
    (waitPortUnbridged glob (oid port) scan rounds).Sound port ↔
      LeftBefore glob port scan rounds := by
  have known : (oid port).isEmpty = false :=
    List.isEmpty_eq_false_iff.mpr (List.ne_nil_of_mem (colon_mem_oid port))
  rw [waitPortUnbridged, known, if_neg Bool.false_ne_true, LeftBefore, Scan.search]
  cases found : (scan.visits glob bridgePortTable).find? fun visit =>
      portIdOf (visit.2.hgetall visit.1) == some (oid port) with
  | none =>
      rw [@searchFrom_of_none (portIdOf · == some (oid port)) _ scan.listing found]
      exact sound_positive
  | some visit =>
      rw [@searchFrom_of_some (portIdOf · == some (oid port)) _ scan.listing visit found]
      obtain ⟨number, keyed⟩ := bridgePortKey_of_visit glob (List.mem_of_find?_eq_some found)
      dsimp only
      rw [keyed]
      cases rounds with
      | nil => exact iff_of_true (fun answer => absurd answer Bool.false_ne_true) nofun
      | cons first rest =>
          rw [waitRounds_cons, sound_positive, List.head?_cons]
          exact ⟨fun left round same => Option.some.inj same ▸ left, fun left => left first rfl⟩

/-- A port in a VLAN. -/
def bridged : AsicDb where
  rows := [(bridgePortKey 0x3a, [("SAI_BRIDGE_PORT_ATTR_PORT_ID".toList, oid 0x10)]),
    (vlanMemberTable ++ oid 0x27, [("SAI_VLAN_MEMBER_ATTR_BRIDGE_PORT_ID".toList, oid 0x3a)])]
  keyed := by
    intro key member begins
    rcases List.mem_cons.mp member with rfl | other
    · exact ⟨0x3a, rfl⟩
    · rw [List.mem_singleton.mp other] at begins
      exact absurd begins (by decide)
  named := by
    intro entry member id names
    rcases List.mem_cons.mp member with rfl | other
    · cases names
    · rw [List.mem_singleton.mp other] at names
      exact ⟨0x3a, (Option.some.inj names).symm⟩

/-- The port stays in its VLAN, and the wait ends at once. -/
theorem bridged_port_passed : ¬ (waitPortUnbridged ExactGlob.trailingStar (oid 0x10)
    { listing := bridged, reading := fun _ => bridged }
    [{ present := bridged, members := { listing := bridged, reading := fun _ => bridged } }]).Sound
      0x10 := by
  intro sound
  obtain ⟨db, last, left⟩ := sound (by decide)
  have same : db = bridged := Option.some.inj (last.symm.trans rfl)
  rw [same] at left
  refine left 0x3a (by unfold IsBridgePort; decide) ?_
  exact ⟨vlanMemberTable ++ oid 0x27, by decide, List.prefix_append _ _, by decide⟩

end OnboxFvt.Hygiene
