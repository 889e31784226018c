import OnboxFvt.Dlb.Lossless

/-!
# Previewing a PFC change

`lossless_queues` with `on`, `off` and `remap` against `lossless_queues` of the
configuration after the change.  The two read a pair through different maps when
the port has a bound map but no priority enabled, as `cfg.get(port, (set(), ""))`
then drops the binding, and when the map is shared with a port remapped there.
-/

namespace OnboxFvt.Dlb

open Library Python

/-- `db'` is `db` with the pairs of `on` added to `pfc_enable`, those of `off` then
removed, and the maps pointed as `remap` says.  A remapped port without a bound
map is bound to one that is the identity elsewhere. -/
structure Applied (db : ConfigDb) (off on : List PortPrio)
    (remap : AList fun _ : PortPrio => Int) (db' : ConfigDb) : Prop where
  readable : ∀ port, (db'.row port).prios? = none ↔ (db.row port).prios? = none
  enabled : ∀ port p, (db.row port).prios? ≠ none →
    (p ∈ db'.prios port ↔ Enabled db off on (port, p))
  bound : ∀ port, (db.row port).mapName ≠ [] → (db'.row port).mapName = (db.row port).mapName
  unbound : ∀ port, (db.row port).mapName = [] → (∀ p, remap.lookup (port, p) = none) →
    (db'.row port).mapName = []
  given : ∀ port p queue, remap.lookup (port, p) = some queue →
    readQueue (pmap db' (db'.row port).mapName) p = some queue
  identity : ∀ port p, (db.row port).mapName = [] → remap.lookup (port, p) = none →
    readQueue (pmap db' (db'.row port).mapName) p = some p
  others : ∀ port p, (db.row port).mapName ≠ [] →
    (∀ other, (db.row other).mapName = (db.row port).mapName → remap.lookup (other, p) = none) →
    readQueue (pmap db' (db.row port).mapName) p = readQueue (pmap db (db.row port).mapName) p

/-- The preview reads the pair through another map than the changed configuration has. -/
def Misread (db : ConfigDb) (remap : AList fun _ : PortPrio => Int) (pair : PortPrio) : Prop :=
  remap.lookup pair = none ∧ (db.row pair.1).mapName ≠ [] ∧
    (db.prios pair.1 = [] ∨
      ∃ other, (db.row other).mapName = (db.row pair.1).mapName ∧
        remap.lookup (other, pair.2) ≠ none)

/-- The queue a configuration gives a pair, without a preview. -/
def configQueue (db : ConfigDb) (pair : PortPrio) : Option Int :=
  readQueue (pmap db (db.row pair.1).mapName) pair.2

variable {db db' : ConfigDb} {off on : List PortPrio} {remap : AList fun _ : PortPrio => Int}

theorem previewQueue_of_not_misread (applied : Applied db off on remap db') {pair : PortPrio}
    (right : ¬ Misread db remap pair) : previewQueue db remap pair = configQueue db' pair := by
  obtain ⟨port, p⟩ := pair
  rw [previewQueue, configQueue]
  cases moved : remap.lookup (port, p) with
  | some queue => exact (applied.given port p queue moved).symm
  | none =>
      by_cases named : (db.row port).mapName = []
      · have seen : db.seenMap port = [] := by simp [ConfigDb.seenMap, named]
        rw [applied.identity port p named moved, seen]
        rfl
      · rw [Misread, not_and, not_and, not_or, not_exists] at right
        obtain ⟨some, alone⟩ := right moved named
        have seen : db.seenMap port = (db.row port).mapName := if_neg some
        rw [seen, applied.bound port named]
        refine (applied.others port p named fun other same => ?_).symm
        by_contra moved
        exact alone other ⟨same, moved⟩

theorem Applied.readable_iff (applied : Applied db off on remap db') :
    db'.Readable ↔ db.Readable :=
  forall_congr' fun port => (applied.readable port).not

/-- Without arguments the preview is the configuration itself. -/
theorem losslessQueues_plain_collects (applied : Applied db off on remap db')
    (readable : db.Readable) :
    Collects (Enabled db off on) (configQueue db') Accepted (losslessQueues db' [] [] ∅) := by
  have plain : Collects (Enabled db' [] []) (previewQueue db' ∅) Accepted
      (losslessQueues db' [] [] ∅) :=
    losslessQueues_collects [] [] ∅ (applied.readable_iff.mpr readable)
  have same : ∀ pair, Enabled db' [] [] pair ↔ Enabled db off on pair := by
    rintro ⟨port, p⟩
    rw [← applied.enabled port p (readable port)]
    simp [Enabled]
  have alike : ∀ pair, Enabled db off on pair →
      previewQueue db' ∅ pair = configQueue db' pair := by
    rintro ⟨port, p⟩ enabled
    have member := (applied.enabled port p (readable port)).mpr enabled
    have seen : db'.seenMap port = (db'.row port).mapName := if_neg (List.ne_nil_of_mem member)
    rw [previewQueue, AList.lookup_empty, configQueue, seen]
  refine ⟨plain.failed.trans ?_, fun values gathered value =>
    (plain.values values gathered value).trans (and_congr_right fun _ => ?_)⟩
  · refine exists_congr fun pair => ?_
    rw [same]
    exact and_congr_right fun enabled => by rw [alike pair enabled]
  · refine exists_congr fun pair => ?_
    rw [same]
    exact and_congr_right fun enabled => by rw [alike pair enabled]

/-- The preview agrees with the changed configuration exactly when the configuration cannot be
read, a reading fails on both sides, or every misread pair is matched on the other side. -/
theorem preview_agrees_iff (db db' : ConfigDb) (off on : List PortPrio)
    (remap : AList fun _ : PortPrio => Int) (applied : Applied db off on remap db') :
    losslessQueues db off on remap = losslessQueues db' [] [] ∅ ↔
      ¬ db.Readable ∨
      (∃ pair, Enabled db off on pair ∧ previewQueue db remap pair = none) ∧
        (∃ pair, Enabled db off on pair ∧ configQueue db' pair = none) ∨
      ∀ pair, Enabled db off on pair → Misread db remap pair →
        Matched (Enabled db off on) (previewQueue db remap) (configQueue db') Accepted pair ∧
          Matched (Enabled db off on) (configQueue db') (previewQueue db remap) Accepted pair := by
  by_cases readable : db.Readable
  · rw [collects_eq_iff (losslessQueues_collects off on remap readable)
      (losslessQueues_plain_collects applied readable) (Misread db remap)
      fun pair _ right => previewQueue_of_not_misread applied right]
    exact (or_iff_right (not_not.mpr readable)).symm
  · rw [losslessQueues_unreadable off on remap readable,
      losslessQueues_unreadable [] [] ∅ (applied.readable_iff.not.mpr readable)]
    exact iff_of_true rfl (Or.inl readable)

/-! ## One port with a bound map -/

def ethernet0 : Text :=
  "Ethernet0".toList

def emptyRow : Row where
  pfcEnable := none
  pfcToQueueMap := none

/-- A device with one row, whose map sends priority 3 to queue 5. -/
def oneRow (pfcEnable : String) : ConfigDb where
  portQosMap := AList.singleton ethernet0
    { pfcEnable := some pfcEnable.toList, pfcToQueueMap := some "PFCQ".toList }
  priorityToQueue _ := AList.singleton "3".toList "5".toList

theorem row_oneRow (pfcEnable : String) (port : Text) :
    (oneRow pfcEnable).row port =
      if port = ethernet0 then
        { pfcEnable := some pfcEnable.toList, pfcToQueueMap := some "PFCQ".toList }
      else emptyRow := by
  by_cases same : port = ethernet0
  · subst same
    rfl
  · have missing : (oneRow pfcEnable).portQosMap.lookup port = none :=
      List.dlookup_cons_ne [] _ same
    rw [ConfigDb.row, missing, if_neg same]
    rfl

/-- Turning one priority on there changes the row and nothing else. -/
theorem applied_oneRow {before after : String} (prios prios' : List Int) {prio : Int}
    (first : ((oneRow before).row ethernet0).prios? = some prios)
    (second : ((oneRow after).row ethernet0).prios? = some prios')
    (added : ∀ p, p ∈ prios' ↔ p ∈ prios ∨ p = prio) :
    Applied (oneRow before) [] [(ethernet0, prio)] ∅ (oneRow after) := by
  have names : ∀ port, ((oneRow after).row port).mapName = ((oneRow before).row port).mapName := by
    intro port
    rw [row_oneRow, row_oneRow]
    split <;> rfl
  have elsewhere : ∀ port, port ≠ ethernet0 →
      (oneRow after).row port = (oneRow before).row port := by
    intro port other
    rw [row_oneRow, row_oneRow, if_neg other, if_neg other]
  refine ⟨?_, ?_, fun port _ => names port, fun port named _ => (names port).trans named, ?_, ?_,
    ?_⟩
  · intro port
    by_cases same : port = ethernet0
    · subst same
      simp [first, second]
    · rw [elsewhere port same]
  · intro port p _
    by_cases same : port = ethernet0
    · subst same
      simp [Enabled, ConfigDb.prios, first, second, added]
    · have none : ((oneRow before).row port).prios? = some [] := by
        rw [row_oneRow, if_neg same]
        rfl
      simp [Enabled, ConfigDb.prios, elsewhere port same, none, same]
  · intro port p queue moved
    rw [AList.lookup_empty] at moved
    cases moved
  · intro port p named _
    rw [names port, named]
    rfl
  · intro port p _ _
    rfl

/-- A device whose row already has a priority on: the binding is seen. -/
theorem preview_agrees_on_enabled_port :
    losslessQueues (oneRow "4") [] [(ethernet0, 3)] ∅ =
      losslessQueues (oneRow "4,3") [] [] ∅ := by
  refine (preview_agrees_iff (oneRow "4") (oneRow "4,3") [] [(ethernet0, 3)] ∅ ?_).mpr
    (Or.inr (Or.inr ?_))
  · exact applied_oneRow [4] [4, 3] (by decide) (by decide) (by simp)
  · rintro ⟨port, p⟩ _ ⟨_, named, unread⟩
    rcases unread with none | ⟨other, _, moved⟩
    · by_cases same : port = ethernet0
      · subst same
        have enabled : (oneRow "4").prios ethernet0 = [4] := by decide
        rw [enabled] at none
        cases none
      · rw [row_oneRow, if_neg same] at named
        exact absurd rfl named
    · exact absurd rfl moved

/-- With no priority on, turning 3 on previews queue 3 where the bound map gives queue 5. -/
theorem preview_loses_binding :
    ¬ ∀ (db db' : ConfigDb) (off on : List PortPrio) (remap : AList fun _ : PortPrio => Int),
      Applied db off on remap db' →
        losslessQueues db off on remap = losslessQueues db' [] [] ∅ := by
  intro always
  have agrees := always (oneRow "") (oneRow "3") [] [(ethernet0, 3)] ∅
    (applied_oneRow [] [3] (by decide) (by decide) (by simp))
  revert agrees
  decide

end OnboxFvt.Dlb
