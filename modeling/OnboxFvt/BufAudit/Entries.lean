import OnboxFvt.BufAudit.Schedulers
import OnboxFvt.Library.Audit

/-!
# Auditing tables with one entry a key

`profiles`, `wred_profiles`, `_index`, `audit_pg_headroom`, `audit_queue_thresholds`, `audit_wred`
and `audit_pfc` of `framework/bufaudit.py`.  Each is a `Check` of the rows of CONFIG_DB; what
`chip.cells` and `chip.has_table` answer are parameters.
-/

namespace OnboxFvt.BufAudit

open Library Python

def profiles (config : Dict Text Fields) : Dict Text Fields :=
  Dict.setAll [] ((tableRows "BUFFER_PROFILE".toList config).map fun row =>
    (entryName row.1, row.2))

def wredProfiles (config : Dict Text Fields) : Dict Text Fields :=
  Dict.setAll [] ((tableRows "WRED_PROFILE".toList config).map fun row =>
    (entryName row.1, row.2))

/-- `str(value)` of a field that may be missing. -/
def shown (value : Option Value) : Text :=
  (value.map Value.str).getD "None".toList

/-- `int0(entry.get(field))`. -/
def count (e : Entry) (field : Text) : Int :=
  int0 ((e.lookup field).map Value.str)

/-- A port and an index of it, on the chip. -/
abbrev Place := Value × Value

def place? (pid : Dict Text Value) (row : BindingRow) : Option Place :=
  (pid.lookup row.port).map fun id => (id, .number row.idx)

def apart (got want : Int) : Bool :=
  decide (2 < (got - want).natAbs)

/-! ## Headroom of priority groups -/

section Headroom

variable (profs : Dict Text Fields) (pid : Dict Text Value) (cells : Int → Int)

/-- The headroom wanted, for profiles with an `xoff`. -/
def headroom? (row : BindingRow) : Option Int :=
  let xoff := int0 (((profs.lookup row.value).getD []).lookup "xoff".toList)
  if xoff ≤ 0 then none else some (cells xoff)

def headroomFinding? (want : Int) : Option Entry → Option Text
  | none => some "(not programmed)".toList
  | some ent =>
      let got := count ent "HEADROOM_LIMIT_CELLS".toList
      if got = 0 then some "(not programmed)".toList
      else if apart got want then
        some ('(' :: integer got ++ "c want~".toList ++ integer want ++ "c)".toList)
      else none

theorem headroomFinding?_none (want : Int) : (headroomFinding? want none).isSome = true :=
  rfl

def headroomCheck : Check BindingRow Place Int Entry Text where
  key? := place? pid
  want? := headroom? profs cells
  finding? := headroomFinding?
  absent := headroomFinding?_none

end Headroom

/-- `none` is the exception of `expand_idx`. -/
def auditPgHeadroom (config : Dict Text Fields) (pid : Dict Text Value) (cells : Int → Int)
    (traversal : List Entry) : Option (Tally BindingRow Text) :=
  let profs := profiles config
  let ents := index (multiKey? "PORT_ID".toList "TM_PRI_GRP_ID".toList) traversal
  (bindingRows config "BUFFER_PG".toList "profile".toList).map
    ((headroomCheck profs pid cells).run ents)

/-! ## Thresholds of queues -/

section Thresholds

variable (profs : Dict Text Fields) (pid : Dict Text Value) (cells : Int → Int)

/-- The threshold a profile is checked for: the static one, else the guaranteed one. -/
inductive Threshold
  | static (want : Int)
  | guaranteed (want : Int)

/-- A profile with neither leaves nothing on the chip to check. -/
def threshold? (row : BindingRow) : Option Threshold :=
  let p := (profs.lookup row.value).getD []
  let st := int0 (p.lookup "static_th".toList)
  let mn := int0 (p.lookup "size".toList)
  if st ≤ 0 ∧ mn ≤ 0 then none
  else if 0 < st then some (.static (cells st))
  else some (.guaranteed (cells mn))

def thresholdFinding? : Threshold → Option Entry → Option Text
  | _, none => some "(no entry)".toList
  | .static want, some ent =>
      let got := count ent "SHARED_LIMIT_CELLS_STATIC".toList
      if apart got want then
        some ("(static ".toList ++ integer got ++ "c want~".toList ++ integer want ++ "c)".toList)
      else none
  | .guaranteed want, some ent =>
      let got := count ent "MIN_GUARANTEE_CELLS".toList
      if apart got want then
        some ("(min ".toList ++ integer got ++ "c want~".toList ++ integer want ++ "c)".toList)
      else none

theorem thresholdFinding?_none (want : Threshold) : (thresholdFinding? want none).isSome = true :=
  rfl

def thresholdCheck : Check BindingRow Place Threshold Entry Text where
  key? := place? pid
  want? := threshold? profs cells
  finding? := thresholdFinding?
  absent := thresholdFinding?_none

end Thresholds

def auditQueueThresholds (config : Dict Text Fields) (pid : Dict Text Value) (cells : Int → Int)
    (hasTable : Bool) (traversal : List Entry) : Option (Tally BindingRow Text) :=
  if hasTable then
    let profs := profiles config
    let ents := index (multiKey? "PORT_ID".toList "TM_UC_Q_ID".toList) traversal
    (bindingRows config "BUFFER_QUEUE".toList "profile".toList).map
      ((thresholdCheck profs pid cells).run ents)
  else some .nothing

/-! ## ECN marking -/

section Wred

variable (wp : Dict Text Fields) (pid : Dict Text Value)

/-- Whether the profile marks packets. -/
def marks (row : BindingRow) : Bool :=
  !contains "ecn_none".toList
    (lower ((((wp.lookup row.value).getD []).lookup "ecn".toList).getD []))

def wredFinding? : Bool → Option Entry → Option Text
  | _, none => some "(no entry)".toList
  | marks, some ent =>
      if marks && decide (count ent "ECN".toList ≠ 1) then
        some ("(ECN=".toList ++ shown (ent.lookup "ECN".toList) ++ [')'])
      else none

theorem wredFinding?_none (marks : Bool) : (wredFinding? marks none).isSome = true :=
  rfl

def wredCheck : Check BindingRow Place Bool Entry Text where
  key? := place? pid
  want? row := some (marks wp row)
  finding? := wredFinding?
  absent := wredFinding?_none

end Wred

def auditWred (config : Dict Text Fields) (pid : Dict Text Value) (hasTable : Bool)
    (traversal : List Entry) : Option (Tally BindingRow Text) :=
  if hasTable then
    let wp := wredProfiles config
    let ents := index (multiKey? "PORT_ID".toList "TM_UC_Q_ID".toList) traversal
    (bindingRows config "QUEUE".toList "wred_profile".toList).map ((wredCheck wp pid).run ents)
  else some .nothing

/-! ## Ports with flow control -/

section Pfc

variable (pid : Dict Text Value)

def pfcWant? (row : Text × Fields) : Option Unit :=
  if (strip ((row.2.lookup "pfc_enable".toList).getD [])).isEmpty then none else some ()

def pfcFinding? (_ : Unit) : Option Entry → Option Text
  | none => some "(no PC_PFC entry)".toList
  | some e =>
      if count e "ENABLE_TX".toList ≠ 1 ∨ count e "ENABLE_RX".toList ≠ 1 then
        some ("(tx=".toList ++ shown (e.lookup "ENABLE_TX".toList) ++ ",rx=".toList ++
          shown (e.lookup "ENABLE_RX".toList) ++ [')'])
      else none

theorem pfcFinding?_none (want : Unit) : (pfcFinding? want none).isSome = true :=
  rfl

def pfcCheck : Check (Text × Fields) Value Unit Entry Text where
  key? row := pid.lookup (entryName row.1)
  want? := pfcWant?
  finding? := pfcFinding?
  absent := pfcFinding?_none

end Pfc

def portRows (config : Dict Text Fields) : Dict Text Fields :=
  config.filter fun row => startsWith "PORT_QOS_MAP|Ethernet".toList row.1

def auditPfc (config : Dict Text Fields) (pid : Dict Text Value) (hasTable : Bool)
    (traversal : List Entry) : Tally (Text × Fields) Text :=
  if hasTable then
    (pfcCheck pid).run (index (fun e => e.lookup "PORT_ID".toList) traversal) (portRows config)
  else .nothing

/-! ## What the audits report -/

def text {Row : Type} (label : Row → Text) (found : Row × Text) : Text :=
  label found.1 ++ found.2

def pgLabel (row : BindingRow) : Text :=
  row.port ++ "/pg".toList ++ decimal row.idx

def queueLabel (row : BindingRow) : Text :=
  row.port ++ "/q".toList ++ decimal row.idx

theorem slashless_ethernet {port : Text} (named : isEthernet port = true) : '/' ∉ port := by
  rw [isEthernet] at named
  simp only [Bool.and_eq_true, List.all_eq_true] at named
  obtain ⟨⟨begins, -⟩, digits⟩ := named
  have line : '/' ∉ if port.getLast? = some '\n' then port.dropLast else port := by
    obtain ⟨rest, whole⟩ := startsWith_iff.mp begins
    rw [← whole, List.mem_append, not_or]
    refine ⟨by decide, fun member => ?_⟩
    have digit := digits '/' (by rw [← whole]; exact member)
    exact absurd digit (by decide)
  split at line
  next last =>
    intro member
    obtain ⟨front, rfl⟩ := List.getLast?_eq_some_iff.mp last
    rw [List.dropLast_concat] at line
    rcases List.mem_append.mp member with inside | equal
    · exact line inside
    · exact absurd (List.mem_singleton.mp equal) (by decide)
  · exact line

theorem ethernet_of_mem_bindingRows {config : Dict Text Fields} {table field : Text}
    {rows : List BindingRow} (bound : bindingRows config table field = some rows)
    {row : BindingRow} (member : row ∈ rows) : isEthernet row.port = true := by
  obtain ⟨groups, collected, rfl⟩ := Option.map_eq_some_iff.mp bound
  obtain ⟨group, listed, inside⟩ := List.mem_flatten.mp member
  obtain ⟨source, -, read⟩ := (mem_collect? collected group).mp listed
  rw [rowsOfKey] at read
  split at read
  · split at read
    next named =>
      dsimp only at read
      split at read
      · cases read
        cases inside
      · obtain ⟨indices, -, rfl⟩ := Option.map_eq_some_iff.mp read
        obtain ⟨index, -, rfl⟩ := List.mem_map.mp inside
        exact named
    · cases read
      cases inside
  · cases read
    cases inside

/-- No two bindings of different places have one text. -/
def Legible (label : BindingRow → Text) (audit : List Entry → Option (Tally BindingRow Text)) :
    Prop :=
  ∀ traversal tally, audit traversal = some tally →
    ∀ found ∈ tally.missing, ∀ found' ∈ tally.missing, text label found = text label found' →
      found.1.port = found'.1.port ∧ found.1.idx = found'.1.idx

theorem legible_run {Key Want : Type} [DecidableEq Key] {entryKey? : Entry → Option Key}
    (check : Check BindingRow Key Want Entry Text) {config : Dict Text Fields}
    {table field kind : Text} {label : BindingRow → Text}
    (labelled : ∀ row, label row = row.port ++ '/' :: (kind ++ decimal row.idx))
    (opens : ∀ want entry finding, check.finding? want entry = some finding →
      finding.head? = some '(') :
    Legible label fun traversal =>
      (bindingRows config table field).map (check.run (index entryKey? traversal)) := by
  intro traversal tally audited found listed found' listed' equal
  obtain ⟨rows, bound, rfl⟩ := Option.map_eq_some_iff.mp audited
  rw [check.run_missing] at listed listed'
  have shape : ∀ {found : BindingRow × Text},
      found ∈ rows.filterMap (check.flagged? (index entryKey? traversal)) →
        isEthernet found.1.port = true ∧ ∃ rest, text label found =
          found.1.port ++ '/' :: (kind ++ decimal found.1.idx ++ '(' :: rest) := by
    intro found listed
    obtain ⟨row, member, flagged⟩ := List.mem_filterMap.mp listed
    obtain ⟨key, -, flagged⟩ := Option.bind_eq_some_iff.mp flagged
    obtain ⟨want, -, flagged⟩ := Option.bind_eq_some_iff.mp flagged
    obtain ⟨finding, here, rfl⟩ := Option.map_eq_some_iff.mp flagged
    obtain ⟨rest, rfl⟩ := List.head?_eq_some_iff.mp (opens want _ finding here)
    refine ⟨ethernet_of_mem_bindingRows bound member, rest, ?_⟩
    simp [text, labelled]
  obtain ⟨named, rest, written⟩ := shape listed
  obtain ⟨named', rest', written'⟩ := shape listed'
  rw [written, written'] at equal
  obtain ⟨port, suffix⟩ := (append_cons_inj_left (slashless_ethernet named)
    (slashless_ethernet named')).mp equal
  rw [List.append_assoc, List.append_assoc, List.append_cancel_left_eq] at suffix
  exact ⟨port, (decimal_append_inj rfl rfl suffix).1⟩

theorem legible_nothing (label : BindingRow → Text) :
    Legible label fun _ => some Tally.nothing := by
  intro traversal tally audited found listed
  cases audited
  cases listed

theorem headroomFinding?_opens (want : Int) (entry : Option Entry) (finding : Text)
    (found : headroomFinding? want entry = some finding) : finding.head? = some '(' := by
  cases entry with
  | none => exact Option.some.inj found ▸ rfl
  | some ent =>
      rw [headroomFinding?] at found
      split at found
      · exact Option.some.inj found ▸ rfl
      · split at found
        · exact Option.some.inj found ▸ rfl
        · cases found

theorem thresholdFinding?_opens (want : Threshold) (entry : Option Entry) (finding : Text)
    (found : thresholdFinding? want entry = some finding) : finding.head? = some '(' := by
  cases entry with
  | none => exact Option.some.inj found ▸ rfl
  | some ent =>
      cases want <;>
        · rw [thresholdFinding?] at found
          split at found
          · exact Option.some.inj found ▸ rfl
          · cases found

theorem wredFinding?_opens (marks : Bool) (entry : Option Entry) (finding : Text)
    (found : wredFinding? marks entry = some finding) : finding.head? = some '(' := by
  cases entry with
  | none => exact Option.some.inj found ▸ rfl
  | some ent =>
      rw [wredFinding?] at found
      split at found
      · exact Option.some.inj found ▸ rfl
      · cases found

theorem pgLabel_eq (row : BindingRow) :
    pgLabel row = row.port ++ '/' :: ("pg".toList ++ decimal row.idx) := by
  simp [pgLabel]

theorem queueLabel_eq (row : BindingRow) :
    queueLabel row = row.port ++ '/' :: ("q".toList ++ decimal row.idx) := by
  simp [queueLabel]

theorem auditPgHeadroom_legible (config : Dict Text Fields) (pid : Dict Text Value)
    (cells : Int → Int) : Legible pgLabel (auditPgHeadroom config pid cells) :=
  legible_run (headroomCheck (profiles config) pid cells) pgLabel_eq headroomFinding?_opens

theorem auditQueueThresholds_legible (config : Dict Text Fields) (pid : Dict Text Value)
    (cells : Int → Int) (hasTable : Bool) :
    Legible queueLabel (auditQueueThresholds config pid cells hasTable) := by
  cases hasTable with
  | false => exact legible_nothing _
  | true =>
      exact legible_run (thresholdCheck (profiles config) pid cells) queueLabel_eq
        thresholdFinding?_opens

theorem auditWred_legible (config : Dict Text Fields) (pid : Dict Text Value)
    (hasTable : Bool) : Legible queueLabel (auditWred config pid hasTable) := by
  cases hasTable with
  | false => exact legible_nothing _
  | true =>
      exact legible_run (wredCheck (wredProfiles config) pid) queueLabel_eq wredFinding?_opens

/-! ## Losses -/

/-- The audit counts the same rows whatever the chip holds, lists all of them for an empty chip,
and lists a loss of entries exactly: the rows whose entries were lost, and those listed before. -/
def DetectsLoss {Row Key : Type} [DecidableEq Key] (entryKey? : Entry → Option Key)
    (key? : Row → Option Key) (audit : List Entry → Option (Tally Row Text)) : Prop :=
  ∀ (table : KeyedTable entryKey?) (keep : Entry → Bool) (after : Tally Row Text),
    audit (table.entries.filter keep) = some after →
      ∃ before blank, audit table.entries = some before ∧ audit [] = some blank ∧
        after.checked = blank.checked ∧ before.checked = blank.checked ∧
        blank.missing.length = blank.checked ∧
        ∀ row, row ∈ after.rows ↔ row ∈ before.rows ∨
          row ∈ blank.rows ∧ ∃ key, key? row = some key ∧ table.Loses keep key

theorem detectsLoss_run {Row Key Want : Type} [DecidableEq Key] {entryKey? : Entry → Option Key}
    (check : Check Row Key Want Entry Text) (rows : Option (List Row)) :
    DetectsLoss entryKey? check.key? fun traversal =>
      rows.map (check.run (index entryKey? traversal)) := by
  intro table keep after audited
  obtain ⟨listed, known, rfl⟩ := Option.map_eq_some_iff.mp audited
  refine ⟨check.run (index entryKey? table.entries) listed, check.run [] listed, ?_, ?_, ?_, ?_,
    ?_, check.rows_after_loss table keep listed⟩
  · rw [known]
    rfl
  · rw [known]
    rfl
  · rw [check.run_checked, check.run_checked]
  · rw [check.run_checked, check.run_checked]
  · rw [check.run_nil, check.run_checked]

/-- A chip without the table has nothing to lose. -/
theorem detectsLoss_nothing {Row Key : Type} [DecidableEq Key] (entryKey? : Entry → Option Key)
    (key? : Row → Option Key) : DetectsLoss entryKey? key? fun _ => some Tally.nothing := by
  intro table keep after audited
  cases audited
  exact ⟨_, _, rfl, rfl, rfl, rfl, rfl, fun row => by simp [Tally.nothing, Tally.rows]⟩

theorem auditPgHeadroom_detectsLoss (config : Dict Text Fields) (pid : Dict Text Value)
    (cells : Int → Int) :
    DetectsLoss (multiKey? "PORT_ID".toList "TM_PRI_GRP_ID".toList) (place? pid)
      (auditPgHeadroom config pid cells) :=
  detectsLoss_run (headroomCheck (profiles config) pid cells) _

theorem auditQueueThresholds_detectsLoss (config : Dict Text Fields) (pid : Dict Text Value)
    (cells : Int → Int) (hasTable : Bool) :
    DetectsLoss (multiKey? "PORT_ID".toList "TM_UC_Q_ID".toList) (place? pid)
      (auditQueueThresholds config pid cells hasTable) := by
  cases hasTable with
  | false => exact detectsLoss_nothing _ _
  | true => exact detectsLoss_run (thresholdCheck (profiles config) pid cells) _

theorem auditWred_detectsLoss (config : Dict Text Fields) (pid : Dict Text Value)
    (hasTable : Bool) :
    DetectsLoss (multiKey? "PORT_ID".toList "TM_UC_Q_ID".toList) (place? pid)
      (auditWred config pid hasTable) := by
  cases hasTable with
  | false => exact detectsLoss_nothing _ _
  | true => exact detectsLoss_run (wredCheck (wredProfiles config) pid) _

theorem auditPfc_detectsLoss (config : Dict Text Fields) (pid : Dict Text Value)
    (hasTable : Bool) :
    DetectsLoss (fun e => e.lookup "PORT_ID".toList) (fun row => pid.lookup (entryName row.1))
      fun traversal => some (auditPfc config pid hasTable traversal) := by
  cases hasTable with
  | false => exact detectsLoss_nothing _ _
  | true => exact detectsLoss_run (pfcCheck pid) (some (portRows config))

end OnboxFvt.BufAudit
