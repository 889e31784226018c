import OnboxFvt.Cli.Session
import OnboxFvt.Hygiene.OrphanRows

/-!
# Sweeping what the QoS tests leave

`sweep_test_qos_artifacts` of `framework/hygiene.py`.  What refers to a scheduler of a test is
unbound first; then the schedulers, the WRED and the buffer profiles of the tests are deleted,
in up to four tries each.  A device does what a command asks, or refuses it.
-/

namespace OnboxFvt.Hygiene

open Library Python

/-- CONFIG_DB, the commands of `config` by their words, and the patches that remove what the
tokens of a pointer show. -/
structure Device (World : Type) where
  db : World → Dict Text Fields
  config : List Text → World → World
  remove : List Text → World → World

inductive Kind
  | scheduler
  | wredProfile
  | bufferProfile
  deriving DecidableEq

def Kind.table : Kind → Text
  | scheduler => "SCHEDULER|".toList
  | wredProfile => "WRED_PROFILE|".toList
  | bufferProfile => "BUFFER_PROFILE|".toList

def Kind.command : Kind → List Text
  | scheduler => ["scheduler".toList, "del".toList]
  | wredProfile => ["wred-profile".toList, "del".toList]
  | bufferProfile => ["buffer".toList, "profile".toList, "del".toList]

def Kind.all : List Kind :=
  [.scheduler, .wredProfile, .bufferProfile]

def portQosMapTable : Text :=
  "PORT_QOS_MAP|".toList

def queueTable : Text :=
  "QUEUE|".toList

def schedulerField : Text :=
  "scheduler".toList

def testPrefix : Text :=
  "FVT".toList

/-- The name of the scheduler a row is bound to, in brackets and with its table or without. -/
def boundScheduler (row : Fields) : Text :=
  Cli.lastPart (stripChars ['[', ']'] ((row.lookup schedulerField).getD []))

def boundToTest (row : Fields) : Bool :=
  startsWith testPrefix (boundScheduler row)

/-- `k.split("|", 1)[-1]`. -/
def objectName (key : Text) : Text :=
  ((cut? ['|'] key).map Prod.snd).getD key

/-- The port and the queue of a key with three parts. -/
def queueOf? (key : Text) : Option (Text × Text) :=
  match splitOn '|' key with
  | [_, port, queue] => some (port, queue)
  | _ => none

section Sweep

variable {World : Type} (glob : ExactGlob) (device : Device World)

def hgetall (world : World) (key : Text) : Fields :=
  ((device.db world).lookup key).getD []

def unbindPort (world : World) (key : Text) : World :=
  if boundToTest (hgetall device world key) then
    device.remove ["PORT_QOS_MAP".toList, Cli.lastPart key, schedulerField] world
  else world

def unbindQueue (world : World) (key : Text) : World :=
  match queueOf? key with
  | some (port, queue) =>
      if boundToTest (hgetall device world key) then
        device.config ["port-queue".toList, "del".toList, port, queue] world
      else world
  | none => world

/-- So many tries to delete the object with this key. -/
def deleteObject (kind : Kind) : Nat → World → Text → World
  | 0, world, _ => world
  | tries + 1, world, key =>
      if (dbKeys glob.toGlob (device.db world) key).isEmpty then world
      else deleteObject kind tries (device.config (kind.command ++ [objectName key]) world) key

def deleteObjects (world : World) (kind : Kind) : World :=
  (dbKeys glob.toGlob (device.db world) (kind.table ++ testPrefix ++ ['*'])).foldl
    (deleteObject glob device kind 4) world

def unbindAll (world : World) : World :=
  let world := (dbKeys glob.toGlob (device.db world) (portQosMapTable ++ ['*'])).foldl
    (unbindPort device) world
  (dbKeys glob.toGlob (device.db world) (queueTable ++ ['*'])).foldl (unbindQueue device) world

def sweepTestQosArtifacts (world : World) : World :=
  Kind.all.foldl (deleteObjects glob device) (unbindAll glob device world)

end Sweep

/-! ## What commands do -/

/-- One row is changed, or what reads as one. -/
def Changes (before after : Dict Text Fields) (key : Text)
    (change : Option Fields → Option Fields) : Prop :=
  ∀ other, after.lookup other =
    if other = key then change (before.lookup other) else before.lookup other

def Same (before after : Dict Text Fields) : Prop :=
  ∀ key, after.lookup key = before.lookup key

def unscheduled (row : Option Fields) : Option Fields :=
  row.map (Dict.erase · schedulerField)

/-- Every command of the sweep does what it is for or nothing. -/
structure Obeys {World : Type} (device : Device World) : Prop where
  unbindPort : ∀ port world,
    let after := device.remove ["PORT_QOS_MAP".toList, port, schedulerField] world
    Same (device.db world) (device.db after) ∨
      Changes (device.db world) (device.db after) (portQosMapTable ++ port) unscheduled
  unbindQueue : ∀ port queue world,
    let after := device.config ["port-queue".toList, "del".toList, port, queue] world
    Same (device.db world) (device.db after) ∨
      Changes (device.db world) (device.db after) (queueTable ++ port ++ '|' :: queue)
        fun _ => none
  delete : ∀ (kind : Kind) name world,
    let after := device.config (kind.command ++ [name]) world
    Same (device.db world) (device.db after) ∨
      Changes (device.db world) (device.db after) (kind.table ++ name) fun _ => none

/-- The names of ports have no separator, and those of the objects of tests are plain. -/
structure WellKeyed (db : Dict Text Fields) : Prop where
  ports : ∀ port, portQosMapTable ++ port ∈ db.keys → '|' ∉ port
  objects : ∀ (kind : Kind) name, kind.table ++ (testPrefix ++ name) ∈ db.keys → Literal name

/-! ## What belongs to the tests -/

/-- The key of an object of a test. -/
def TestObject (key : Text) : Prop :=
  ∃ kind : Kind, kind.table ++ testPrefix <+: key

instance (key : Text) : Decidable (TestObject key) :=
  decidable_of_iff (Kind.all.any fun kind => startsWith (kind.table ++ testPrefix) key) <| by
    rw [List.any_eq_true]
    constructor
    · rintro ⟨kind, -, begins⟩
      exact ⟨kind, startsWith_iff.mp begins⟩
    · rintro ⟨kind, begins⟩
      exact ⟨kind, by cases kind <;> decide, startsWith_iff.mpr begins⟩

def PortRow (key : Text) : Prop :=
  portQosMapTable <+: key

instance (key : Text) : Decidable (PortRow key) :=
  inferInstanceAs (Decidable (_ <+: _))

def QueueRow (key : Text) : Prop :=
  queueTable <+: key ∧ (queueOf? key).isSome = true

instance (key : Text) : Decidable (QueueRow key) :=
  inferInstanceAs (Decidable (_ ∧ _))

/-- What unbinding leaves of a row. -/
def unboundRow (key : Text) (row : Option Fields) : Option Fields :=
  if boundToTest (row.getD []) then
    if PortRow key then unscheduled row else if QueueRow key then none else row
  else row

/-! ## Keys -/

theorem portRow_not_queueRow {key : Text} (port : PortRow key) : ¬ QueueRow key := by
  rintro ⟨queue, -⟩
  rcases List.prefix_or_prefix_of_prefix port queue with begins | begins
  · exact absurd begins (by decide)
  · exact absurd begins (by decide)

theorem portRow_of_mem {glob : ExactGlob} {db : Dict Text Fields} {key : Text}
    (listed : key ∈ dbKeys glob.toGlob db (portQosMapTable ++ ['*'])) :
    key ∈ db.keys ∧ PortRow key := by
  obtain ⟨member, passed⟩ := List.mem_filter.mp listed
  exact ⟨member, (glob.star (literal_of_all (by decide)) key).mp passed⟩

theorem mem_of_portRow {glob : ExactGlob} {db : Dict Text Fields} {key : Text}
    (member : key ∈ db.keys) (port : PortRow key) :
    key ∈ dbKeys glob.toGlob db (portQosMapTable ++ ['*']) :=
  List.mem_filter.mpr ⟨member, (glob.star (literal_of_all (by decide)) key).mpr port⟩

theorem mem_queueKeys_iff {glob : ExactGlob} {db : Dict Text Fields} {key : Text} :
    key ∈ dbKeys glob.toGlob db (queueTable ++ ['*']) ↔ key ∈ db.keys ∧ queueTable <+: key := by
  rw [dbKeys, List.mem_filter, glob.star (literal_of_all (by decide))]

theorem mem_objectKeys_iff {glob : ExactGlob} {db : Dict Text Fields} {kind : Kind} {key : Text} :
    key ∈ dbKeys glob.toGlob db (kind.table ++ testPrefix ++ ['*']) ↔
      key ∈ db.keys ∧ kind.table ++ testPrefix <+: key := by
  rw [dbKeys, List.mem_filter, glob.star]
  cases kind <;> exact literal_of_all (by decide)

theorem lastPart_separator {first last : Text} (barless : '|' ∉ last) :
    Cli.lastPart (first ++ '|' :: last) = last := by
  rw [Cli.lastPart, splitOn, List.splitOn_append_cons_self, List.splitOn_eq_singleton barless,
    List.getLast?_concat]
  rfl

/-- The key of a port row is written again from the name of its port. -/
theorem portKey_lastPart {db : Dict Text Fields} (keyed : WellKeyed db) {key : Text}
    (member : key ∈ db.keys) (port : PortRow key) :
    portQosMapTable ++ Cli.lastPart key = key := by
  obtain ⟨name, rfl⟩ := port
  have table : portQosMapTable = "PORT_QOS_MAP".toList ++ ['|'] := by decide
  have last : Cli.lastPart (portQosMapTable ++ name) = name := by
    rw [table, List.append_assoc, List.singleton_append,
      lastPart_separator (keyed.ports name member)]
  rw [last]

/-- And that of a queue row from its port and its queue. -/
theorem queueKey_of_queueOf? {key port queue : Text} (begins : queueTable <+: key)
    (parts : queueOf? key = some (port, queue)) : queueTable ++ port ++ '|' :: queue = key := by
  obtain ⟨rest, rfl⟩ := begins
  have table : queueTable = "QUEUE".toList ++ ['|'] := by decide
  have joined : ['|'].intercalate (splitOn '|' rest) = rest := List.intercalate_splitOn '|'
  have split : splitOn '|' (queueTable ++ rest) = "QUEUE".toList :: splitOn '|' rest := by
    rw [table, List.append_assoc, splitOn]
    exact List.splitOn_append_cons_self_of_not_mem (by decide) rest
  rw [queueOf?, split] at parts
  split at parts
  next same =>
      cases parts
      rw [(List.cons.inj same).2] at joined
      rw [← joined, List.intercalate_cons_cons, List.intercalate_singleton]
      simp
  next => cases parts

theorem objectName_table (kind : Kind) (name : Text) : objectName (kind.table ++ name) = name := by
  obtain ⟨word, table, barless⟩ : ∃ word, kind.table = word ++ ['|'] ∧ '|' ∉ word := by
    cases kind
    · exact ⟨"SCHEDULER".toList, by decide, by decide⟩
    · exact ⟨"WRED_PROFILE".toList, by decide, by decide⟩
    · exact ⟨"BUFFER_PROFILE".toList, by decide, by decide⟩
  rw [objectName, table, List.append_assoc, List.singleton_append, cut?_separator barless]
  rfl

/-! ## Whatever the device refuses -/

/-- What can become of the row of a key. -/
inductive Fate (key : Text) : Option Fields → Option Fields → Prop
  | kept (row : Option Fields) : Fate key row row
  | unbound {row : Option Fields} : PortRow key → boundToTest (row.getD []) = true →
      Fate key row (unscheduled row)
  | gone {row : Option Fields} :
      QueueRow key ∧ boundToTest (row.getD []) = true ∨ TestObject key → Fate key row none

theorem boundToTest_nil : boundToTest [] = false := by
  decide

theorem boundToTest_unscheduled (row : Option Fields) :
    boundToTest ((unscheduled row).getD []) = false := by
  cases row with
  | none => exact boundToTest_nil
  | some row =>
      rw [unscheduled, Option.map_some, Option.getD_some, boundToTest, boundScheduler,
        Dict.lookup_erase, if_pos rfl]
      exact boundToTest_nil

theorem Fate.trans {key : Text} {first middle last : Option Fields} (fate : Fate key first middle)
    (later : Fate key middle last) : Fate key first last := by
  cases fate with
  | kept => exact later
  | unbound port bound =>
      cases later with
      | kept => exact .unbound port bound
      | unbound _ again =>
          rw [boundToTest_unscheduled] at again
          cases again
      | gone why =>
          refine .gone (why.imp_left ?_)
          rintro ⟨queue, -⟩
          exact absurd queue (portRow_not_queueRow port)
  | gone why =>
      cases later with
      | kept => exact .gone why
      | unbound _ bound =>
          rw [Option.getD_none, boundToTest_nil] at bound
          cases bound
      | gone => exact .gone why

/-- Every row has met one of its fates. -/
def Fated (before after : Dict Text Fields) : Prop :=
  ∀ key, Fate key (before.lookup key) (after.lookup key)

theorem Same.fated {before after : Dict Text Fields} (same : Same before after) :
    Fated before after := by
  intro key
  rw [same key]
  exact .kept _

theorem Changes.fated {before after : Dict Text Fields} {key : Text}
    {change : Option Fields → Option Fields} (changes : Changes before after key change)
    (fate : Fate key (before.lookup key) (change (before.lookup key))) : Fated before after := by
  intro other
  rw [changes other]
  split
  next same => exact same ▸ fate
  next => exact .kept _

theorem Fated.trans {first middle last : Dict Text Fields} (fated : Fated first middle)
    (later : Fated middle last) : Fated first last :=
  fun key => (fated key).trans (later key)

/-- No key is new. -/
theorem Fated.keys {before after : Dict Text Fields} (fated : Fated before after) {key : Text}
    (member : key ∈ after.keys) : key ∈ before.keys := by
  by_contra absent
  have fate := fated key
  rw [Dict.lookup_eq_none_iff.mpr absent] at fate
  have there : after.lookup key ≠ none := fun gone => Dict.lookup_eq_none_iff.mp gone member
  cases fated' : after.lookup key with
  | none => exact there fated'
  | some row =>
      rw [fated'] at fate
      cases fate

theorem WellKeyed.fated {before after : Dict Text Fields} (keyed : WellKeyed before)
    (fated : Fated before after) : WellKeyed after where
  ports port member := keyed.ports port (fated.keys member)
  objects kind name member := keyed.objects kind name (fated.keys member)

section Obeying

variable {World : Type} {glob : ExactGlob} {device : Device World} (obeys : Obeys device)

include obeys

theorem fated_unbindPort {world : World} {key : Text} (own : portQosMapTable ++ Cli.lastPart key =
    key) : Fated (device.db world) (device.db (unbindPort device world key)) := by
  rw [unbindPort]
  split
  next bound =>
      rcases obeys.unbindPort (Cli.lastPart key) world with same | changes
      · exact same.fated
      · rw [own] at changes
        exact changes.fated (.unbound ⟨_, own⟩ bound)
  next => exact Same.fated fun _ => rfl

theorem fated_unbindQueue {world : World} {key : Text} (begins : queueTable <+: key) :
    Fated (device.db world) (device.db (unbindQueue device world key)) := by
  rw [unbindQueue]
  cases parts : queueOf? key with
  | none => exact Same.fated fun _ => rfl
  | some portQueue =>
      obtain ⟨port, queue⟩ := portQueue
      dsimp only
      split
      next bound =>
          rcases obeys.unbindQueue port queue world with same | changes
          · exact same.fated
          · rw [queueKey_of_queueOf? begins parts] at changes
            have row : QueueRow key := ⟨begins, by rw [parts]; rfl⟩
            exact changes.fated (.gone (Or.inl ⟨row, bound⟩))
      next => exact Same.fated fun _ => rfl

theorem fated_delete (kind : Kind) {world : World} {name : Text}
    (object : TestObject (kind.table ++ name)) : Fated (device.db world)
      (device.db (device.config (kind.command ++ [name]) world)) := by
  rcases obeys.delete kind name world with same | changes
  · exact same.fated
  · exact changes.fated (.gone (Or.inr object))

theorem fated_deleteObject (kind : Kind) (tries : Nat) {world : World} {name : Text}
    (object : TestObject (kind.table ++ name)) : Fated (device.db world)
      (device.db (deleteObject glob device kind tries world (kind.table ++ name))) := by
  induction tries generalizing world with
  | zero => exact Same.fated fun _ => rfl
  | succ tries inductionHypothesis =>
      rw [deleteObject]
      split
      · exact Same.fated fun _ => rfl
      · rw [objectName_table]
        exact (fated_delete obeys kind object).trans inductionHypothesis

theorem fated_deleteObjects (world : World) (kind : Kind) :
    Fated (device.db world) (device.db (deleteObjects glob device world kind)) := by
  refine List.foldlRecOn (motive := fun after => Fated (device.db world) (device.db after)) _ _
    (Same.fated fun _ => rfl) fun after fated key listed => ?_
  obtain ⟨name, rfl⟩ := (mem_objectKeys_iff.mp listed).2
  rw [List.append_assoc]
  exact fated.trans (fated_deleteObject obeys kind 4 ⟨kind, by simp⟩)

variable (glob) in
theorem fated_unbindAll {world : World} (keyed : WellKeyed (device.db world)) :
    Fated (device.db world) (device.db (unbindAll glob device world)) := by
  refine List.foldlRecOn (motive := fun after => Fated (device.db world) (device.db after)) _ _
    (List.foldlRecOn (motive := fun after => Fated (device.db world) (device.db after)) _ _
      (Same.fated fun _ => rfl) fun after fated key listed => ?_) fun after fated key listed => ?_
  · obtain ⟨member, port⟩ := portRow_of_mem listed
    exact fated.trans (fated_unbindPort obeys (portKey_lastPart keyed member port))
  · exact fated.trans (fated_unbindQueue obeys (mem_queueKeys_iff.mp listed).2)

end Obeying

/-- Whatever the device refuses, a sweep touches only what the tests have left: a port row may
lose a scheduler of a test, a queue row bound to one may go, and an object of a test may go. -/
theorem sweep_touches {World : Type} (glob : ExactGlob) (device : Device World)
    (obeys : Obeys device) (world : World) (keyed : WellKeyed (device.db world)) :
    Fated (device.db world) (device.db (sweepTestQosArtifacts glob device world)) :=
  List.foldlRecOn (motive := fun after => Fated (device.db world) (device.db after)) _ _
    (fated_unbindAll glob obeys keyed) fun after fated kind _ =>
      fated.trans (fated_deleteObjects obeys after kind)

/-! ## A device that refuses only what it must -/

def Referenced (refers : Text → Fields → Text → Prop) (row? : Text → Option Fields)
    (object : Text) : Prop :=
  ∃ key row, row? key = some row ∧ refers key row object

/-- What is asked to be unbound is; an object that a row refers to stays; another one is deleted
within four tries.  No object of a test refers to an object. -/
structure Orderly {World : Type} (device : Device World) (refers : Text → Fields → Text → Prop) :
    Prop extends Obeys device where
  unbindsPort : ∀ port world,
    Changes (device.db world)
      (device.db (device.remove ["PORT_QOS_MAP".toList, port, schedulerField] world))
      (portQosMapTable ++ port) unscheduled
  unbindsQueue : ∀ port queue world,
    Changes (device.db world)
      (device.db (device.config ["port-queue".toList, "del".toList, port, queue] world))
      (queueTable ++ port ++ '|' :: queue) fun _ => none
  stubborn : ∀ (kind : Kind) name world,
    Referenced refers (fun key => (device.db world).lookup key) (kind.table ++ name) →
      Same (device.db world) (device.db (device.config (kind.command ++ [name]) world))
  patient : ∀ (kind : Kind) name world,
    ¬Referenced refers (fun key => (device.db world).lookup key) (kind.table ++ name) →
      (device.db (Nat.iterate (device.config (kind.command ++ [name])) 4 world)).lookup
        (kind.table ++ name) = none
  bindings : ∀ {key row object}, refers key row object → ¬TestObject key

section Orderly

variable {World : Type} {glob : ExactGlob} {device : Device World}
  {refers : Text → Fields → Text → Prop} (orderly : Orderly device refers)

include orderly

/-! ### Unbinding -/

def unboundOnce (row : Option Fields) : Option Fields :=
  if boundToTest (row.getD []) then unscheduled row else row

omit orderly in
theorem unboundOnce_idempotent (row : Option Fields) :
    unboundOnce (unboundOnce row) = unboundOnce row := by
  by_cases bound : boundToTest (row.getD []) = true
  · rw [unboundOnce.eq_1 row, if_pos bound, unboundOnce, boundToTest_unscheduled,
      if_neg Bool.false_ne_true]
  · rw [unboundOnce.eq_1 row, if_neg bound, unboundOnce, if_neg bound]

theorem lookup_unbindPort {world : World} {key : Text}
    (own : portQosMapTable ++ Cli.lastPart key = key) (here : Text) :
    (device.db (unbindPort device world key)).lookup here =
      if here = key then unboundOnce ((device.db world).lookup here)
      else (device.db world).lookup here := by
  rw [unbindPort, hgetall]
  split
  next bound =>
      rw [orderly.unbindsPort (Cli.lastPart key) world here, own]
      split
      next same => rw [same, unboundOnce, if_pos bound]
      next => rfl
  next free =>
      split
      next same => rw [same, unboundOnce, if_neg free]
      next => rfl

theorem lookup_unbindPorts {world : World} (keyed : WellKeyed (device.db world)) (here : Text) :
    (device.db ((dbKeys glob.toGlob (device.db world) (portQosMapTable ++ ['*'])).foldl
      (unbindPort device) world)).lookup here =
      if PortRow here then unboundOnce ((device.db world).lookup here)
      else (device.db world).lookup here := by
  have own {key : Text}
      (listed : key ∈ dbKeys glob.toGlob (device.db world) (portQosMapTable ++ ['*'])) :
      portQosMapTable ++ Cli.lastPart key = key :=
    portKey_lastPart keyed (portRow_of_mem listed).1 (portRow_of_mem listed).2
  rw [look_foldl_of_hits (unbindPort device) (fun after => (device.db after).lookup here)
    unboundOnce (here = ·) (fun key listed after => lookup_unbindPort orderly (own listed) here)
    unboundOnce_idempotent]
  simp only [exists_eq_right']
  by_cases port : PortRow here
  · rw [if_pos port]
    by_cases member : here ∈ (device.db world).keys
    · rw [if_pos (mem_of_portRow member port)]
    · have absent := Dict.lookup_eq_none_iff.mpr member
      rw [if_neg fun listed => member (portRow_of_mem listed).1, absent]
      rfl
  · rw [if_neg port, if_neg fun listed => port (portRow_of_mem listed).2]

def unqueued (key : Text) (row : Option Fields) : Option Fields :=
  if (queueOf? key).isSome = true ∧ boundToTest (row.getD []) = true then none else row

omit orderly in
theorem unqueued_idempotent (key : Text) (row : Option Fields) :
    unqueued key (unqueued key row) = unqueued key row := by
  rw [unqueued.eq_1 key row]
  split
  next => rw [unqueued, ite_self]
  next free => rw [unqueued, if_neg free]

theorem lookup_unbindQueue {world : World} {key : Text} (begins : queueTable <+: key)
    (here : Text) : (device.db (unbindQueue device world key)).lookup here =
      if here = key then unqueued here ((device.db world).lookup here)
      else (device.db world).lookup here := by
  rw [unbindQueue, hgetall]
  cases parts : queueOf? key with
  | none =>
      dsimp only
      split
      next same =>
          subst same
          rw [unqueued, parts]
          exact (if_neg fun both => Bool.false_ne_true both.1).symm
      next => rfl
  | some portQueue =>
      obtain ⟨port, queue⟩ := portQueue
      dsimp only
      split
      next bound =>
          rw [orderly.unbindsQueue port queue world here, queueKey_of_queueOf? begins parts]
          split
          next same => rw [same, unqueued, parts, if_pos ⟨rfl, bound⟩]
          next => rfl
      next free =>
          split
          next same => rw [same, unqueued, if_neg fun both => free both.2]
          next => rfl

theorem lookup_unbindQueues (world : World) (here : Text) :
    (device.db ((dbKeys glob.toGlob (device.db world) (queueTable ++ ['*'])).foldl
      (unbindQueue device) world)).lookup here =
      if queueTable <+: here then unqueued here ((device.db world).lookup here)
      else (device.db world).lookup here := by
  rw [look_foldl_of_hits (unbindQueue device) (fun after => (device.db after).lookup here)
    (unqueued here) (here = ·)
    (fun key listed after => lookup_unbindQueue orderly (mem_queueKeys_iff.mp listed).2 here)
    (unqueued_idempotent here)]
  simp only [exists_eq_right']
  by_cases queue : queueTable <+: here
  · rw [if_pos queue]
    by_cases member : here ∈ (device.db world).keys
    · rw [if_pos (mem_queueKeys_iff.mpr ⟨member, queue⟩)]
    · have absent := Dict.lookup_eq_none_iff.mpr member
      rw [if_neg fun listed => member (mem_queueKeys_iff.mp listed).1, absent, unqueued, ite_self]
  · rw [if_neg queue, if_neg fun listed => queue (mem_queueKeys_iff.mp listed).2]

variable (glob) in
theorem lookup_unbindAll {world : World} (keyed : WellKeyed (device.db world)) (here : Text) :
    (device.db (unbindAll glob device world)).lookup here =
      unboundRow here ((device.db world).lookup here) := by
  rw [unbindAll, lookup_unbindQueues orderly, lookup_unbindPorts orderly keyed, unboundRow]
  by_cases port : PortRow here
  · have other : ¬queueTable <+: here := by
      intro queue
      rcases List.prefix_or_prefix_of_prefix port queue with begins | begins <;>
        exact absurd begins (by decide)
    rw [if_pos port, if_neg other, if_pos port, unboundOnce]
  · rw [if_neg port, if_neg port]
    by_cases queue : queueTable <+: here
    · rw [if_pos queue, unqueued]
      by_cases bound : boundToTest (((device.db world).lookup here).getD []) = true
      · rw [if_pos bound]
        by_cases parts : (queueOf? here).isSome = true
        · rw [if_pos ⟨parts, bound⟩, if_pos ⟨queue, parts⟩]
        · rw [if_neg fun both => parts both.1, if_neg fun row => parts row.2]
      · rw [if_neg fun both => bound both.2, if_neg bound]
    · have row : ¬QueueRow here := fun row => queue row.1
      rw [if_neg queue, if_neg row, ite_self]

/-! ### Deleting -/

omit orderly in
theorem isEmpty_dbKeys_iff {db : Dict Text Fields} {key : Text} (literal : Literal key) :
    (dbKeys glob.toGlob db key).isEmpty = true ↔ db.lookup key = none := by
  rw [List.isEmpty_iff, dbKeys, List.filter_eq_nil_iff, Dict.lookup_eq_none_iff]
  constructor
  · intro apart member
    exact apart key member ((glob.exact literal key).mpr rfl)
  · intro absent other member passed
    exact absent ((glob.exact literal other).mp passed ▸ member)

variable (glob device) in
omit orderly in
/-- Deleting stops when the object is gone, or after the last try. -/
theorem deleteObject_tries (kind : Kind) {name : Text} (literal : Literal (kind.table ++ name))
    (tries : Nat) (world : World) :
    ∃ made, deleteObject glob device kind tries world (kind.table ++ name) =
        Nat.iterate (device.config (kind.command ++ [name])) made world ∧
      (made = tries ∨ (device.db (Nat.iterate (device.config (kind.command ++ [name])) made
        world)).lookup (kind.table ++ name) = none) := by
  induction tries generalizing world with
  | zero => exact ⟨0, rfl, Or.inl rfl⟩
  | succ tries inductionHypothesis =>
      rw [deleteObject]
      split
      next gone => exact ⟨0, rfl, Or.inr ((isEmpty_dbKeys_iff literal).mp gone)⟩
      next =>
          rw [objectName_table]
          obtain ⟨made, same, ended⟩ := inductionHypothesis
            (device.config (kind.command ++ [name]) world)
          exact ⟨made + 1, same, ended.imp_left (congrArg (· + 1))⟩

theorem same_iterate (kind : Kind) {name : Text} {world : World}
    (referenced : Referenced refers (fun key => (device.db world).lookup key)
      (kind.table ++ name)) (made : Nat) :
    Same (device.db world)
      (device.db (Nat.iterate (device.config (kind.command ++ [name])) made world)) := by
  induction made generalizing world with
  | zero => exact fun _ => rfl
  | succ made inductionHypothesis =>
      have once := orderly.stubborn kind name world referenced
      have still : Referenced refers (fun key => (device.db (device.config
          (kind.command ++ [name]) world)).lookup key) (kind.table ++ name) := by
        obtain ⟨key, row, found, refer⟩ := referenced
        exact ⟨key, row, (once key).trans found, refer⟩
      exact fun key => (inductionHypothesis still key).trans (once key)

variable (glob) in
theorem lookup_deleteObject (kind : Kind) {name : Text} (literal : Literal (kind.table ++ name))
    (world : World) :
    (Referenced refers (fun key => (device.db world).lookup key) (kind.table ++ name) →
      Same (device.db world)
        (device.db (deleteObject glob device kind 4 world (kind.table ++ name)))) ∧
    (¬Referenced refers (fun key => (device.db world).lookup key) (kind.table ++ name) →
      (device.db (deleteObject glob device kind 4 world (kind.table ++ name))).lookup
        (kind.table ++ name) = none) := by
  obtain ⟨made, same, ended⟩ := deleteObject_tries glob device kind literal 4 world
  rw [same]
  refine ⟨fun referenced => same_iterate orderly kind referenced made, fun free => ?_⟩
  rcases ended with rfl | gone
  · exact orderly.patient kind name world free
  · exact gone

theorem lookup_deleteObject_other (kind : Kind) (tries : Nat) {name : Text} {world : World}
    {here : Text} (other : here ≠ kind.table ++ name) :
    (device.db (deleteObject glob device kind tries world (kind.table ++ name))).lookup here =
      (device.db world).lookup here := by
  induction tries generalizing world with
  | zero => rfl
  | succ tries inductionHypothesis =>
      rw [deleteObject]
      split
      · rfl
      · rw [objectName_table, inductionHypothesis]
        rcases orderly.delete kind name world with same | changes
        · exact same here
        · rw [changes here, if_neg other]

omit orderly in
theorem referenced_congr {first second : Text → Option Fields} {object : Text}
    (bindings : ∀ {key row object}, refers key row object → ¬TestObject key)
    (same : ∀ key, ¬TestObject key → first key = second key) :
    Referenced refers first object ↔ Referenced refers second object := by
  constructor
  · rintro ⟨key, row, found, refer⟩
    exact ⟨key, row, same key (bindings refer) ▸ found, refer⟩
  · rintro ⟨key, row, found, refer⟩
    exact ⟨key, row, (same key (bindings refer)).symm ▸ found, refer⟩

open Classical in
/-- An object is left if it is referred to. -/
noncomputable def spared (seen : Option Fields × Prop) : Option Fields × Prop :=
  (if seen.2 then seen.1 else none, seen.2)

omit orderly in
theorem spared_idempotent (seen : Option Fields × Prop) : spared (spared seen) = spared seen := by
  classical
  obtain ⟨row, referenced⟩ := seen
  by_cases left : referenced <;> simp [spared, left]

/-- What there is to see of an object. -/
def Device.seen (device : Device World) (refers : Text → Fields → Text → Prop) (here : Text)
    (world : World) : Option Fields × Prop :=
  ((device.db world).lookup here,
    Referenced refers (fun key => (device.db world).lookup key) here)

theorem seen_deleteObject (kind : Kind) {name : Text} (literal : Literal (kind.table ++ name))
    (object : TestObject (kind.table ++ name)) (world : World) (here : Text) :
    device.seen refers here (deleteObject glob device kind 4 world (kind.table ++ name)) =
      if here = kind.table ++ name then spared (device.seen refers here world)
      else device.seen refers here world := by
  have kept : Referenced refers (fun key => (device.db (deleteObject glob device kind 4 world
      (kind.table ++ name))).lookup key) here =
      Referenced refers (fun key => (device.db world).lookup key) here := by
    refine propext (referenced_congr orderly.bindings fun key apart => ?_)
    exact lookup_deleteObject_other orderly kind 4 fun same => apart (same ▸ object)
  rw [Device.seen, kept]
  obtain ⟨held, freed⟩ := lookup_deleteObject glob orderly kind literal world
  by_cases same : here = kind.table ++ name
  · subst same
    rw [if_pos rfl, Device.seen, spared]
    by_cases referenced : Referenced refers (fun key => (device.db world).lookup key)
        (kind.table ++ name)
    · rw [if_pos referenced, held referenced]
    · rw [if_neg referenced, freed referenced]
  · rw [if_neg same, lookup_deleteObject_other orderly kind 4 same]
    rfl

theorem seen_deleteObjects {world : World} (keyed : WellKeyed (device.db world)) (kind : Kind)
    (here : Text) : device.seen refers here (deleteObjects glob device world kind) =
      if kind.table ++ testPrefix <+: here then spared (device.seen refers here world)
      else device.seen refers here world := by
  have literal {key : Text} (listed : key ∈ dbKeys glob.toGlob (device.db world)
      (kind.table ++ testPrefix ++ ['*'])) : ∃ name, key = kind.table ++ (testPrefix ++ name) ∧
        Literal (kind.table ++ (testPrefix ++ name)) := by
    obtain ⟨member, name, rfl⟩ := mem_objectKeys_iff.mp listed
    rw [List.append_assoc] at member ⊢
    have front : Literal (kind.table ++ testPrefix) := by
      cases kind <;> exact literal_of_all (by decide)
    refine ⟨name, rfl, ?_⟩
    rw [← List.append_assoc]
    exact literal_append front (keyed.objects kind name member)
  rw [deleteObjects, look_foldl_of_hits (deleteObject glob device kind 4)
    (device.seen refers here) spared (here = ·)
    (fun key listed after => by
      obtain ⟨name, rfl, plain⟩ := literal listed
      exact seen_deleteObject orderly kind plain ⟨kind, by simp⟩ after here)
    spared_idempotent]
  simp only [exists_eq_right']
  by_cases begins : kind.table ++ testPrefix <+: here
  · rw [if_pos begins]
    by_cases member : here ∈ (device.db world).keys
    · rw [if_pos (mem_objectKeys_iff.mpr ⟨member, begins⟩)]
    · have absent := Dict.lookup_eq_none_iff.mpr member
      rw [if_neg fun listed => member (mem_objectKeys_iff.mp listed).1, Device.seen, absent, spared,
        ite_self]
  · rw [if_neg begins, if_neg fun listed => begins (mem_objectKeys_iff.mp listed).2]

variable (glob) in
theorem seen_sweep {world : World} (keyed : WellKeyed (device.db world)) (here : Text) :
    device.seen refers here (sweepTestQosArtifacts glob device world) =
      if TestObject here then spared (device.seen refers here (unbindAll glob device world))
      else device.seen refers here (unbindAll glob device world) := by
  have start := keyed.fated (fated_unbindAll glob orderly.toObeys keyed)
  have stages : ∀ (kinds : List Kind) (after : World), WellKeyed (device.db after) →
      device.seen refers here (kinds.foldl (deleteObjects glob device) after) =
        if ∃ kind ∈ kinds, kind.table ++ testPrefix <+: here then
          spared (device.seen refers here after)
        else device.seen refers here after := by
    intro kinds
    induction kinds with
    | nil => simp
    | cons kind rest inductionHypothesis =>
        intro after keyed
        rw [List.foldl_cons, inductionHypothesis _
          (keyed.fated (fated_deleteObjects orderly.toObeys after kind)),
          seen_deleteObjects orderly keyed kind here]
        by_cases begins : kind.table ++ testPrefix <+: here
        · simp [begins, spared_idempotent]
        · simp [begins]
  have every : (∃ kind ∈ Kind.all, kind.table ++ testPrefix <+: here) ↔ TestObject here := by
    constructor
    · rintro ⟨kind, -, begins⟩
      exact ⟨kind, begins⟩
    · rintro ⟨kind, begins⟩
      exact ⟨kind, by cases kind <;> decide, begins⟩
  rw [sweepTestQosArtifacts, stages _ _ start]
  simp only [every]

end Orderly

open Classical in
/-- On a device that refuses only what it must, an object of a test survives the sweep exactly
if a row that is not unbound refers to it; everything else is as unbinding leaves it. -/
theorem sweep_exact {World : Type} (glob : ExactGlob) (device : Device World)
    (refers : Text → Fields → Text → Prop) (orderly : Orderly device refers) (world : World)
    (keyed : WellKeyed (device.db world)) (key : Text) :
    (device.db (sweepTestQosArtifacts glob device world)).lookup key =
      if TestObject key ∧ ¬Referenced refers
          (fun key => unboundRow key ((device.db world).lookup key)) key then none
      else unboundRow key ((device.db world).lookup key) := by
  have unbound : (fun key => (device.db (unbindAll glob device world)).lookup key) =
      fun key => unboundRow key ((device.db world).lookup key) :=
    funext fun key => lookup_unbindAll glob orderly keyed key
  have seen := congrArg Prod.fst (seen_sweep glob orderly keyed key)
  rw [Device.seen] at seen
  dsimp only at seen
  rw [seen, ← lookup_unbindAll glob orderly keyed key, ← unbound]
  by_cases object : TestObject key
  · rw [if_pos object, spared, Device.seen]
    dsimp only
    split
    next referenced => rw [if_neg fun both => both.2 referenced]
    next free => rw [if_pos ⟨object, free⟩]
  · rw [if_neg object, if_neg fun both => object both.1]
    rfl

/-! ## A strict device -/

/-- A field of the rows of a table that names an object. -/
structure Binding where
  table : Text
  field : Text
  kind : Kind
  deriving DecidableEq

def bindings : List Binding :=
  [⟨portQosMapTable, schedulerField, .scheduler⟩, ⟨queueTable, schedulerField, .scheduler⟩,
    ⟨queueTable, "wred_profile".toList, .wredProfile⟩,
    ⟨"BUFFER_PG|".toList, "profile".toList, .bufferProfile⟩,
    ⟨"BUFFER_QUEUE|".toList, "profile".toList, .bufferProfile⟩]

/-- The row names the object, in brackets and with its table or without. -/
def Refers (key : Text) (row : Fields) (object : Text) : Prop :=
  ∃ binding ∈ bindings, binding.table <+: key ∧
    (row.lookup binding.field).map (fun value =>
      binding.kind.table ++ Cli.lastPart (stripChars ['[', ']'] value)) = some object

instance (key : Text) (row : Fields) (object : Text) : Decidable (Refers key row object) :=
  inferInstanceAs (Decidable (∃ binding ∈ bindings, _ ∧ _))

def inUse (db : Dict Text Fields) (object : Text) : Bool :=
  db.keys.any fun key => decide (Refers key ((db.lookup key).getD []) object)

/-- The object a command deletes. -/
def deleted? (words : List Text) : Option Text :=
  (Kind.all.find? fun kind => decide (words.dropLast = kind.command)).bind fun kind =>
    words.getLast?.map (kind.table ++ ·)

/-- Where CONFIG_DB is all there is, and an object that is named in it cannot be deleted. -/
def strictDevice : Device (Dict Text Fields) where
  db db := db
  config words db :=
    match deleted? words, words with
    | some object, _ => if inUse db object then db else db.erase object
    | none, [_, _, port, queue] => db.erase (queueTable ++ port ++ '|' :: queue)
    | none, _ => db
  remove tokens db :=
    match tokens with
    | [_, port, field] =>
        match db.lookup (portQosMapTable ++ port) with
        | some row => db.set (portQosMapTable ++ port) (row.erase field)
        | none => db
    | _ => db

theorem inUse_iff {db : Dict Text Fields} {object : Text} :
    inUse db object = true ↔ Referenced Refers (fun key => db.lookup key) object := by
  rw [inUse, List.any_eq_true]
  constructor
  · rintro ⟨key, member, refers⟩
    cases found : db.lookup key with
    | none => exact absurd member (Dict.lookup_eq_none_iff.mp found)
    | some row =>
        rw [found] at refers
        exact ⟨key, row, found, of_decide_eq_true refers⟩
  · rintro ⟨key, row, found, refers⟩
    dsimp only at found
    refine ⟨key, ?_, ?_⟩
    · by_contra absent
      rw [Dict.lookup_eq_none_iff.mpr absent] at found
      cases found
    · rw [found]
      exact decide_eq_true refers

theorem deleted?_command (kind : Kind) (name : Text) :
    deleted? (kind.command ++ [name]) = some (kind.table ++ name) := by
  rw [deleted?, List.dropLast_concat, List.getLast?_concat]
  cases kind <;> rfl

theorem config_command (kind : Kind) (name : Text) (db : Dict Text Fields) :
    strictDevice.config (kind.command ++ [name]) db =
      if inUse db (kind.table ++ name) then db else db.erase (kind.table ++ name) := by
  simp only [strictDevice, deleted?_command]

/-- What has gone stays away. -/
theorem lookup_config_of_gone (kind : Kind) {name : Text} {db : Dict Text Fields}
    (gone : db.lookup (kind.table ++ name) = none) :
    (strictDevice.config (kind.command ++ [name]) db).lookup (kind.table ++ name) = none := by
  rw [config_command]
  split
  · exact gone
  · rw [Dict.lookup_erase, if_pos rfl]

theorem changes_erase (db : Dict Text Fields) (key : Text) :
    Changes db (db.erase key) key fun _ => none := by
  intro other
  rw [Dict.lookup_erase]
  simp only [eq_comm]

theorem strictDevice_unbindsPort (port : Text) (db : Dict Text Fields) :
    Changes db (strictDevice.remove ["PORT_QOS_MAP".toList, port, schedulerField] db)
      (portQosMapTable ++ port) unscheduled := by
  intro other
  cases found : db.lookup (portQosMapTable ++ port) with
  | none =>
      simp only [strictDevice, found]
      split
      next same => rw [same, found]; rfl
      next => rfl
  | some row =>
      simp only [strictDevice, found, Dict.lookup_set]
      by_cases same : other = portQosMapTable ++ port
      · rw [if_pos same, same, found]
        simp [unscheduled]
      · rw [if_neg same]
        simp [Ne.symm same]

theorem strictDevice_unbindsQueue (port queue : Text) (db : Dict Text Fields) :
    Changes db (strictDevice.config ["port-queue".toList, "del".toList, port, queue] db)
      (queueTable ++ port ++ '|' :: queue) fun _ => none :=
  changes_erase db _

theorem strictDevice_orderly : Orderly strictDevice Refers where
  unbindPort port db := Or.inr (strictDevice_unbindsPort port db)
  unbindQueue port queue db := Or.inr (strictDevice_unbindsQueue port queue db)
  delete kind name db := by
    dsimp only
    rw [config_command]
    split
    · exact Or.inl fun _ => rfl
    · exact Or.inr (changes_erase db _)
  unbindsPort := strictDevice_unbindsPort
  unbindsQueue := strictDevice_unbindsQueue
  stubborn kind name db referenced := by
    have used : inUse db (kind.table ++ name) = true := inUse_iff.mpr referenced
    rw [config_command, if_pos used]
    exact fun _ => rfl
  patient kind name db free := by
    have unused : ¬inUse db (kind.table ++ name) = true := fun used => free (inUse_iff.mp used)
    have once : (strictDevice.config (kind.command ++ [name]) db).lookup (kind.table ++ name) =
        none := by
      rw [config_command, if_neg unused, Dict.lookup_erase, if_pos rfl]
    exact lookup_config_of_gone kind (lookup_config_of_gone kind (lookup_config_of_gone kind once))
  bindings := by
    rintro key row object ⟨binding, listed, begins, -⟩ ⟨kind, object⟩
    have apart : ∀ binding ∈ bindings, ∀ kind ∈ Kind.all,
        ¬binding.table <+: kind.table ++ testPrefix ∧
          ¬kind.table ++ testPrefix <+: binding.table := by
      decide
    have every : kind ∈ Kind.all := by cases kind <;> decide
    rcases List.prefix_or_prefix_of_prefix begins object with first | second
    · exact (apart binding listed kind every).1 first
    · exact (apart binding listed kind every).2 second

/-- What `WellKeyed` asks, key by key. -/
def keyedWell (key : Text) : Bool :=
  (!startsWith portQosMapTable key || !(key.drop portQosMapTable.length).contains '|') &&
    Kind.all.all fun kind => !startsWith (kind.table ++ testPrefix) key ||
      (key.drop (kind.table ++ testPrefix).length).all fun c => decide (c ∉ globCharacters)

theorem wellKeyed_of_all {db : Dict Text Fields} (keyed : db.keys.all keyedWell = true) :
    WellKeyed db where
  ports port member := by
    have checked := List.all_eq_true.mp keyed _ member
    rw [keyedWell, Bool.and_eq_true, startsWith_iff.mpr (List.prefix_append _ _),
      List.drop_left] at checked
    simpa using checked.1
  objects kind name member := by
    have checked := List.all_eq_true.mp keyed _ member
    rw [keyedWell, Bool.and_eq_true, List.all_eq_true] at checked
    have kindly := checked.2 kind (by cases kind <;> decide)
    rw [← List.append_assoc, startsWith_iff.mpr (List.prefix_append _ _), List.drop_left] at kindly
    exact literal_of_all (by simpa using kindly)

/-- A scheduler of a test still bound to a port, and a WRED profile of a test to a queue. -/
def leftovers : Dict Text Fields :=
  [("PORT_QOS_MAP|Ethernet0".toList, [(schedulerField, "FVT_SCHED".toList)]),
    ("QUEUE|Ethernet0|3".toList, [("wred_profile".toList, "FVT_WRED".toList)]),
    ("SCHEDULER|FVT_SCHED".toList, []), ("WRED_PROFILE|FVT_WRED".toList, [])]

/-- Only the rows there are can refer to an object. -/
theorem unreferenced_of_all {db : Dict Text Fields} {object : Text}
    (free : ∀ key ∈ db.keys, ¬Refers key ((unboundRow key (db.lookup key)).getD []) object) :
    ¬Referenced Refers (fun key => unboundRow key (db.lookup key)) object := by
  rintro ⟨key, row, found, refers⟩
  dsimp only at found
  by_cases member : key ∈ db.keys
  · have apart := free key member
    rw [found] at apart
    exact apart refers
  · rw [Dict.lookup_eq_none_iff.mpr member, unboundRow, Option.getD_none, boundToTest_nil,
      if_neg Bool.false_ne_true] at found
    cases found

theorem leftovers_wellKeyed : WellKeyed (strictDevice.db leftovers) :=
  wellKeyed_of_all (by decide)

theorem leftovers_touched : Fated (strictDevice.db leftovers)
    (strictDevice.db (sweepTestQosArtifacts ExactGlob.trailingStar strictDevice leftovers)) :=
  sweep_touches ExactGlob.trailingStar strictDevice strictDevice_orderly.toObeys leftovers
    leftovers_wellKeyed

/-- The scheduler goes with its binding, the profile of the queue stays. -/
theorem leftovers_swept :
    (strictDevice.db (sweepTestQosArtifacts ExactGlob.trailingStar strictDevice leftovers)).lookup
      "SCHEDULER|FVT_SCHED".toList = none ∧
    (strictDevice.db (sweepTestQosArtifacts ExactGlob.trailingStar strictDevice leftovers)).lookup
      "WRED_PROFILE|FVT_WRED".toList = some [] := by
  constructor
  · rw [sweep_exact ExactGlob.trailingStar strictDevice Refers strictDevice_orderly leftovers
      leftovers_wellKeyed]
    exact if_pos ⟨by decide, unreferenced_of_all (by decide)⟩
  · rw [sweep_exact ExactGlob.trailingStar strictDevice Refers strictDevice_orderly leftovers
      leftovers_wellKeyed, if_neg fun both => both.2 ⟨"QUEUE|Ethernet0|3".toList,
        [("wred_profile".toList, "FVT_WRED".toList)], by decide, by decide⟩]
    decide

end OnboxFvt.Hygiene
