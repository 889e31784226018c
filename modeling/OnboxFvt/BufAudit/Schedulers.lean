import Mathlib.Data.List.DropRight
import Mathlib.Data.List.Flatten
import Mathlib.Data.List.Perm.Basic
import OnboxFvt.Library.Collect
import OnboxFvt.Library.Dict
import OnboxFvt.Python.Decimal
import OnboxFvt.Python.TextFacts

/-!
# Auditing queue schedulers

`binding_rows`, `_index_multi` and `audit_queue_schedulers` of `framework/bufaudit.py`.  The
bindings of CONFIG_DB, their index ranges expanded, are compared with every entry the chip
has for the same port and queue.
-/

namespace OnboxFvt.BufAudit

open Library Python

abbrev Fields := Dict Text Text

/-- A value in an entry of a chip table. -/
inductive Value
  | number (n : Int)
  | text (content : Text)
  deriving DecidableEq

/-- `str(value)`. -/
def Value.str : Value → Text
  | number n => integer n
  | text content => content

abbrev Entry := Dict Text Value

def int0 (v : Option Text) : Int :=
  (v.bind int?).getD 0

/-- `none` is the `ValueError` of a digit that is not decimal. -/
def expandIdx? (idxExpr : Text) : Option (List Nat) :=
  let s := strip idxExpr
  match cut? ['-'] s with
  | some (a, b) =>
      if isDigit a && isDigit b then
        (readNat? a).bind fun first => (readNat? b).map fun last =>
          List.range' first (last + 1 - first)
      else some []
  | none => if isDigit s then (readNat? s).map fun index => [index] else some []

/-- The keys of a table with their hashes. -/
def tableRows (table : Text) (config : Dict Text Fields) : Dict Text Fields :=
  config.filter fun row => startsWith (table ++ ['|']) row.1

/-- `k.split("|", 1)[1]`. -/
def entryName (key : Text) : Text :=
  ((cut? ['|'] key).map Prod.snd).getD []

def schedulers (config : Dict Text Fields) : Dict Text Fields :=
  Dict.setAll [] ((tableRows "SCHEDULER".toList config).map fun row => (entryName row.1, row.2))

def refName (v : Option Text) : Text :=
  ((splitOn '|' (stripChars ['[', ']'] (v.getD []))).getLast?).getD []

/-- `re.match(r"Ethernet\d+$", port)`; the end may be in front of a last line feed. -/
def isEthernet (port : Text) : Bool :=
  let line := if port.getLast? = some '\n' then port.dropLast else port
  startsWith "Ethernet".toList line && !(line.drop 8).isEmpty && (line.drop 8).all isDecimal

structure BindingRow where
  port : Text
  idx : Nat
  value : Text
  deriving DecidableEq

def rowsOfKey (field : Text) (row : Text × Fields) : Option (List BindingRow) :=
  match splitOn '|' row.1 with
  | _ :: port :: idxExpr :: _ =>
      if isEthernet port then
        let val := refName (row.2.lookup field)
        if val.isEmpty then some []
        else (expandIdx? idxExpr).map fun indices => indices.map fun i => ⟨port, i, val⟩
      else some []
  | _ => some []

def bindingRows (config : Dict Text Fields) (table field : Text) : Option (List BindingRow) :=
  (collect? (rowsOfKey field) (tableRows table config)).map List.flatten

/-- The values of the two fields, where an entry has both. -/
def multiKey? (pidField idxField : Text) (e : Entry) : Option (Value × Value) :=
  (e.lookup pidField).bind fun pid => (e.lookup idxField).map fun idx => (pid, idx)

def indexMulti (entries : List Entry) (pidField idxField : Text) :
    Dict (Value × Value) (List Entry) :=
  Dict.group (multiKey? pidField idxField) entries

/-- What a scheduler wants the chip to show. -/
inductive Want
  | strict
  | dwrr (weight : Int)
  deriving DecidableEq

/-- `none` where the loop goes on to the next binding. -/
def want? (s : Fields) : Option Want :=
  let stype := upper ((s.lookup "type".toList).getD [])
  let weight := int0 (s.lookup "weight".toList)
  if stype = "STRICT".toList then some .strict
  else if stype = "DWRR".toList ∧ ¬ weight ≤ 1 then some (.dwrr weight)
  else none

def Want.isMetBy (want : Want) (e : Entry) : Bool :=
  match want with
  | strict => decide ((e.lookup "SCHED_MODE".toList).map Value.str = some "SP".toList)
  | dwrr weight => decide (int0 ((e.lookup "WEIGHT".toList).map Value.str) = weight)

def Want.got (want : Want) (e : Entry) : Option Value :=
  match want with
  | strict => e.lookup "SCHED_MODE".toList
  | dwrr _ => e.lookup "WEIGHT".toList

inductive Finding
  | noNode
  | other (got : List (Option Value)) (want : Want)

structure Missing where
  port : Text
  idx : Nat
  finding : Finding

structure Audit where
  missing : List Missing
  checked : Nat

namespace Audit

variable (sched : Dict Text Fields) (ents : Dict (Value × Value) (List Entry))
  (pid : Dict Text Value)

/-- A round of the loop. -/
def auditRow (audit : Audit) (row : BindingRow) : Audit :=
  match pid.lookup row.port with
  | none => audit
  | some id =>
      match want? ((sched.lookup row.value).getD []) with
      | none => audit
      | some want =>
          let checked := audit.checked + 1
          let rows := (ents.lookup (id, .number row.idx)).getD []
          if rows.isEmpty then
            { missing := audit.missing ++ [⟨row.port, row.idx, .noNode⟩], checked }
          else if rows.any want.isMetBy then { audit with checked }
          else
            { missing := audit.missing ++ [⟨row.port, row.idx, .other (rows.map want.got) want⟩],
              checked }

end Audit

/-- `none` is the exception of `expand_idx`. -/
def auditQueueSchedulers (config : Dict Text Fields) (traversal : List Entry)
    (pid : Dict Text Value) : Option Audit :=
  let sched := schedulers config
  let ents := indexMulti traversal "PORT_ID".toList "TM_SCHEDULER_NODE_ID".toList
  (bindingRows config "QUEUE".toList "scheduler".toList).map fun rows =>
    rows.foldl (Audit.auditRow sched ents pid) { missing := [], checked := 0 }

/-! ## Databases whose bindings have an index or a range of them -/

/-- A number in ASCII digits. -/
structure Numeral where
  text : Text
  nonempty : text ≠ []
  plain : ∀ c ∈ text, c.isDigit = true

namespace Numeral

def value (numeral : Numeral) : Nat :=
  Nat.ofDigitChars 10 numeral.text 0

theorem readNat?_text (numeral : Numeral) : readNat? numeral.text = some numeral.value :=
  readNat?_digits numeral.plain numeral.nonempty

theorem isDigit_text (numeral : Numeral) : isDigit numeral.text = true :=
  isDigit_digits numeral.plain numeral.nonempty

theorem notMem_text (numeral : Numeral) {c : Char} (other : c.isDigit = false) :
    c ∉ numeral.text := by
  intro member
  rw [numeral.plain c member] at other
  cases other

end Numeral

inductive Index
  | single (n : Numeral)
  | range (first last : Numeral)

namespace Index

def text : Index → Text
  | single n => n.text
  | range first last => first.text ++ '-' :: last.text

def Has (i : Nat) : Index → Prop
  | single n => i = n.value
  | range first last => first.value ≤ i ∧ i ≤ last.value

theorem mem_text {index : Index} {c : Char} (member : c ∈ index.text) :
    c = '-' ∨ c.isDigit = true := by
  cases index with
  | single n => exact Or.inr (n.plain c member)
  | range first last =>
      rcases List.mem_append.mp member with here | there
      · exact Or.inr (first.plain c here)
      · exact (List.mem_cons.mp there).imp_right (last.plain c)

theorem strip_text (index : Index) : strip index.text = index.text := by
  refine strip_of_notSpace fun c member => ?_
  rcases mem_text member with rfl | digit
  · decide
  · exact isSpace_of_isDigit digit

theorem notMem_text (index : Index) : '|' ∉ index.text := by
  intro member
  rcases mem_text member with dash | digit
  · cases dash
  · cases digit

theorem expandIdx?_text (index : Index) :
    ∃ indices, expandIdx? index.text = some indices ∧ ∀ i, i ∈ indices ↔ index.Has i := by
  rw [expandIdx?, strip_text]
  cases index with
  | single n =>
      rw [text, cut?_of_notMem (n.notMem_text (by decide))]
      dsimp only
      rw [if_pos n.isDigit_text, n.readNat?_text]
      exact ⟨_, rfl, fun i => List.mem_singleton⟩
  | range first last =>
      rw [text, cut?_separator (first.notMem_text (by decide))]
      dsimp only
      rw [first.isDigit_text, last.isDigit_text, first.readNat?_text, last.readNat?_text]
      refine ⟨_, rfl, fun i => ?_⟩
      rw [List.mem_range'_1, Has]
      omega

end Index

def queueKey (port idxExpr : Text) : Text :=
  ['|'].intercalate ["QUEUE".toList, port, idxExpr]

/-- CONFIG_DB with a port and an index in every key of its QUEUE table. -/
structure ConfigDb where
  rows : Dict Text Fields
  distinct : rows.keys.Nodup
  indexed : ∀ key ∈ rows.keys, startsWith ("QUEUE".toList ++ ['|']) key = true →
    ∃ port, ∃ index : Index, '|' ∉ port ∧ key = queueKey port index.text

theorem splitOn_queueKey {port idxExpr : Text} (barless : '|' ∉ port) (barless' : '|' ∉ idxExpr) :
    splitOn '|' (queueKey port idxExpr) = ["QUEUE".toList, port, idxExpr] := by
  refine List.splitOn_intercalate '|' ?_ (List.cons_ne_nil _ _)
  rw [List.forall_mem_cons, List.forall_mem_cons, List.forall_mem_singleton]
  exact ⟨by decide, barless, barless'⟩

theorem queueKey_eq (port idxExpr : Text) :
    queueKey port idxExpr = "QUEUE".toList ++ ['|'] ++ (port ++ '|' :: idxExpr) := by
  rw [queueKey, List.intercalate_cons_cons, List.intercalate_cons_cons, List.intercalate_singleton,
    List.append_assoc port, List.singleton_append]

/-! ## Bindings -/

/-- The queue has the scheduler bound to it, as a bare name or one in brackets. -/
def Binds (config : ConfigDb) (port : Text) (i : Nat) (name : Text) : Prop :=
  ∃ index : Index, ∃ fields, '|' ∉ port ∧ (queueKey port index.text, fields) ∈ config.rows ∧
    index.Has i ∧ refName (fields.lookup "scheduler".toList) = name ∧ name ≠ []

theorem rowsOfKey_queueKey {port : Text} (barless : '|' ∉ port) (index : Index)
    (field : Text) (fields : Fields) :
    ∃ rows, rowsOfKey field (queueKey port index.text, fields) = some rows ∧
      ∀ row, row ∈ rows ↔ isEthernet row.port ∧ row.port = port ∧ index.Has row.idx ∧
        refName (fields.lookup field) = row.value ∧ row.value ≠ [] := by
  rw [rowsOfKey, splitOn_queueKey barless index.notMem_text]
  dsimp only
  by_cases ethernet : isEthernet port = true
  · rw [if_pos ethernet]
    by_cases unbound : refName (fields.lookup field) = []
    · rw [unbound]
      refine ⟨[], rfl, fun row => iff_of_false List.not_mem_nil ?_⟩
      rintro ⟨-, -, -, same, nonempty⟩
      exact nonempty same.symm
    · obtain ⟨indices, expanded, has⟩ := index.expandIdx?_text
      rw [if_neg (by simpa using unbound), expanded]
      refine ⟨_, rfl, fun row => ?_⟩
      rw [List.mem_map]
      constructor
      · rintro ⟨i, member, rfl⟩
        exact ⟨ethernet, rfl, (has i).mp member, rfl, unbound⟩
      · obtain ⟨own, i, value⟩ := row
        rintro ⟨-, rfl, inside, rfl, -⟩
        exact ⟨i, (has i).mpr inside, rfl⟩
  · rw [if_neg ethernet]
    refine ⟨[], rfl, fun row => iff_of_false List.not_mem_nil ?_⟩
    rintro ⟨named, rfl, -⟩
    exact ethernet named

theorem mem_tableRows {table : Text} {config : Dict Text Fields} {row : Text × Fields} :
    row ∈ tableRows table config ↔ row ∈ config ∧ startsWith (table ++ ['|']) row.1 = true :=
  List.mem_filter

theorem ConfigDb.queue_row (config : ConfigDb) {row : Text × Fields}
    (member : row ∈ tableRows "QUEUE".toList config.rows) :
    ∃ port, ∃ index : Index, '|' ∉ port ∧ row = (queueKey port index.text, row.2) := by
  obtain ⟨listed, queue⟩ := mem_tableRows.mp member
  obtain ⟨port, index, barless, key⟩ :=
    config.indexed row.1 (List.mem_map_of_mem listed) queue
  exact ⟨port, index, barless, Prod.ext key rfl⟩

/-- The rows are the bindings of the ports with a number. -/
theorem bindingRows_queue (config : ConfigDb) :
    ∃ rows, bindingRows config.rows "QUEUE".toList "scheduler".toList = some rows ∧
      ∀ row, row ∈ rows ↔ isEthernet row.port ∧ Binds config row.port row.idx row.value := by
  cases collected : collect? (rowsOfKey "scheduler".toList)
      (tableRows "QUEUE".toList config.rows) with
  | none =>
      obtain ⟨row, member, failed⟩ := collect?_eq_none.mp collected
      obtain ⟨port, index, barless, same⟩ := config.queue_row member
      obtain ⟨rows, read, -⟩ := rowsOfKey_queueKey barless index "scheduler".toList row.2
      rw [← same, failed] at read
      cases read
  | some parts =>
      rw [bindingRows, collected]
      refine ⟨parts.flatten, rfl, fun row => ?_⟩
      rw [List.mem_flatten]
      constructor
      · rintro ⟨rows, listed, inside⟩
        obtain ⟨source, member, read⟩ := (mem_collect? collected rows).mp listed
        obtain ⟨port, index, barless, same⟩ := config.queue_row member
        obtain ⟨others, read', mem⟩ := rowsOfKey_queueKey barless index "scheduler".toList source.2
        rw [← same, read, Option.some_inj] at read'
        obtain ⟨named, own, has, value, nonempty⟩ := (mem row).mp (read' ▸ inside)
        refine ⟨named, index, source.2, own ▸ barless, ?_, has, value, nonempty⟩
        rw [own, ← same]
        exact (mem_tableRows.mp member).1
      · rintro ⟨named, index, fields, barless, listed, has, value, nonempty⟩
        obtain ⟨rows, read, mem⟩ := rowsOfKey_queueKey barless index "scheduler".toList fields
        refine ⟨rows, (mem_collect? collected rows).mpr ⟨_, ?_, read⟩, ?_⟩
        · refine mem_tableRows.mpr ⟨listed, startsWith_iff.mpr ?_⟩
          exact ⟨_, (queueKey_eq _ _).symm⟩
        · exact (mem row).mpr ⟨named, rfl, has, value, nonempty⟩

/-! ## Schedulers -/

def schedulerKey (name : Text) : Text :=
  "SCHEDULER".toList ++ '|' :: name

theorem entryName_schedulerKey (name : Text) : entryName (schedulerKey name) = name := by
  have barless : '|' ∉ "SCHEDULER".toList := by decide
  exact congrArg (fun parts => (Option.map Prod.snd parts).getD []) (cut?_separator barless name)

theorem ConfigDb.scheduler_row (config : ConfigDb) {row : Text × Fields}
    (member : row ∈ tableRows "SCHEDULER".toList config.rows) :
    ∃ name, row = (schedulerKey name, row.2) := by
  obtain ⟨name, same⟩ := startsWith_iff.mp (mem_tableRows.mp member).2
  rw [← List.append_cons] at same
  exact ⟨name, Prod.ext same.symm rfl⟩

theorem schedulers_lookup (config : ConfigDb) (name : Text) :
    (schedulers config.rows).lookup name = config.rows.lookup (schedulerKey name) := by
  have table : (tableRows "SCHEDULER".toList config.rows).keys.Nodup :=
    config.distinct.sublist (List.filter_sublist.map Prod.fst)
  have named : (Dict.keys ((tableRows "SCHEDULER".toList config.rows).map
      fun row => (entryName row.1, row.2))).Nodup := by
    rw [Dict.keys, List.map_map]
    refine (List.Nodup.of_map _ table).map_on ?_
    intro first member second member' same
    obtain ⟨own, keyed⟩ := config.scheduler_row member
    obtain ⟨other, keyed'⟩ := config.scheduler_row member'
    have equal : own = other := by
      rw [Function.comp_apply, Function.comp_apply, keyed, keyed', entryName_schedulerKey,
        entryName_schedulerKey] at same
      exact same
    refine List.inj_on_of_nodup_map table member member' ?_
    rw [keyed, keyed', equal]
  rw [schedulers, Dict.setAll_of_nodup (by simpa using named), List.nil_append]
  refine Option.ext fun fields => ?_
  rw [Dict.lookup_eq_some_iff named, Dict.lookup_eq_some_iff config.distinct, List.mem_map]
  constructor
  · rintro ⟨row, member, same⟩
    obtain ⟨own, keyed⟩ := config.scheduler_row member
    rw [keyed, entryName_schedulerKey] at same
    rw [← (Prod.mk.inj same).1, ← (Prod.mk.inj same).2, ← keyed]
    exact (mem_tableRows.mp member).1
  · intro listed
    refine ⟨_, mem_tableRows.mpr ⟨listed, startsWith_iff.mpr ⟨name, ?_⟩⟩, ?_⟩
    · exact (List.append_cons ..).symm
    · rw [entryName_schedulerKey]

/-- The scheduler has a criterion the chip can be checked for. -/
def Wants (config : ConfigDb) (name : Text) (want : Want) : Prop :=
  ∃ s, config.rows.lookup (schedulerKey name) = some s ∧
    match want with
    | .strict => (s.lookup "type".toList).map upper = some "STRICT".toList
    | .dwrr weight => (s.lookup "type".toList).map upper = some "DWRR".toList ∧
        (s.lookup "weight".toList).bind int? = some weight ∧ 1 < weight

/-- The entry shows what the scheduler wants. -/
def Meets (want : Want) (e : Entry) : Prop :=
  match want with
  | .strict => ∃ mode, e.lookup "SCHED_MODE".toList = some mode ∧ mode.str = "SP".toList
  | .dwrr weight => ∃ shown, e.lookup "WEIGHT".toList = some shown ∧ int? shown.str = some weight

theorem int0_eq_iff {text : Option Text} {n : Int} (nonzero : n ≠ 0) :
    int0 text = n ↔ text.bind int? = some n := by
  rw [int0]
  cases text.bind int? with
  | none => simpa using Ne.symm nonzero
  | some value => simp

theorem upper_type_iff (s : Fields) {kind : Text} (filled : kind ≠ []) :
    upper ((s.lookup "type".toList).getD []) = kind ↔
      (s.lookup "type".toList).map upper = some kind := by
  cases s.lookup "type".toList with
  | none => exact iff_of_false filled.symm nofun
  | some stype => rw [Option.getD_some, Option.map_some, Option.some_inj]

theorem want?_strict_iff (s : Fields) :
    want? s = some .strict ↔ (s.lookup "type".toList).map upper = some "STRICT".toList := by
  rw [← upper_type_iff s (by decide), want?]
  constructor
  · intro wanted
    by_contra other
    rw [if_neg other] at wanted
    split at wanted <;> cases wanted
  · exact fun strict => if_pos strict

theorem want?_dwrr_iff (s : Fields) (weight : Int) : want? s = some (.dwrr weight) ↔
    (s.lookup "type".toList).map upper = some "DWRR".toList ∧
      (s.lookup "weight".toList).bind int? = some weight ∧ 1 < weight := by
  rw [← upper_type_iff s (by decide), want?]
  constructor
  · intro wanted
    split at wanted
    next => cases wanted
    next =>
      split at wanted
      next both =>
          cases wanted
          have nonzero : int0 (s.lookup "weight".toList) ≠ 0 := by omega
          exact ⟨both.1, (int0_eq_iff nonzero).mp rfl, by omega⟩
      next => cases wanted
  · rintro ⟨dwrr, read, heavy⟩
    have same := (int0_eq_iff (by omega)).mpr read
    rw [if_neg (by rw [dwrr]; decide), if_pos ⟨dwrr, by omega⟩, same]

theorem want?_eq_some_iff (config : ConfigDb) (name : Text) (want : Want) :
    want? (((schedulers config.rows).lookup name).getD []) = some want ↔
      Wants config name want := by
  rw [schedulers_lookup, Wants]
  cases config.rows.lookup (schedulerKey name) with
  | none =>
      have nothing : want? [] = none := by decide
      rw [Option.getD_none, nothing]
      exact iff_of_false nofun (by rintro ⟨s, missing, -⟩; cases missing)
  | some s =>
      simp only [Option.getD_some, Option.some_inj, exists_eq_left']
      cases want with
      | strict => exact want?_strict_iff s
      | dwrr weight => exact want?_dwrr_iff s weight

theorem isMetBy_iff {config : ConfigDb} {name : Text} {want : Want} (wants : Wants config name want)
    (e : Entry) : want.isMetBy e = true ↔ Meets want e := by
  cases want with
  | strict =>
      rw [Want.isMetBy, decide_eq_true_iff, Option.map_eq_some_iff]
      rfl
  | dwrr weight =>
      obtain ⟨s, -, -, -, heavy⟩ := wants
      rw [Want.isMetBy, decide_eq_true_iff, int0_eq_iff (by omega), Option.bind_eq_some_iff]
      simp [Meets]

/-! ## The loop -/

def Missing.binding (missing : Missing) : Text × Nat :=
  (missing.port, missing.idx)

section Loop

variable (sched : Dict Text Fields) (ents : Dict (Value × Value) (List Entry))
  (pid : Dict Text Value)

/-- What is wanted of which port of the chip, for a binding that is checked. -/
def checked? (row : BindingRow) : Option (Value × Want) :=
  (pid.lookup row.port).bind fun id =>
    (want? ((sched.lookup row.value).getD [])).map fun want => (id, want)

def flagged? (row : BindingRow) : Option (Text × Nat) :=
  (checked? sched pid row).bind fun (id, want) =>
    if ((ents.lookup (id, .number row.idx)).getD []).any want.isMetBy then none
    else some (row.port, row.idx)

theorem auditRow_eq (audit : Audit) (row : BindingRow) :
    (audit.auditRow sched ents pid row).missing.map Missing.binding =
        audit.missing.map Missing.binding ++ (flagged? sched ents pid row).toList ∧
      (audit.auditRow sched ents pid row).checked =
        audit.checked + (checked? sched pid row).toList.length := by
  rw [Audit.auditRow, flagged?, checked?]
  cases pid.lookup row.port with
  | none => simp
  | some id =>
      dsimp only
      cases want? ((sched.lookup row.value).getD []) with
      | none => simp
      | some want =>
          dsimp only [Option.bind_some, Option.map_some]
          by_cases empty : (ents.lookup (id, .number row.idx)).getD [] = []
          · simp [empty, Missing.binding]
          · rw [if_neg (by simpa using empty)]
            split <;> simp [Missing.binding]

theorem foldl_auditRow (rows : List BindingRow) (audit : Audit) :
    (rows.foldl (Audit.auditRow sched ents pid) audit).missing.map Missing.binding =
        audit.missing.map Missing.binding ++ rows.filterMap (flagged? sched ents pid) ∧
      (rows.foldl (Audit.auditRow sched ents pid) audit).checked =
        audit.checked + (rows.filterMap (checked? sched pid)).length := by
  induction rows generalizing audit with
  | nil => simp
  | cons row rest inductionHypothesis =>
      obtain ⟨missing, checked⟩ := inductionHypothesis (audit.auditRow sched ents pid row)
      obtain ⟨own, counted⟩ := auditRow_eq sched ents pid audit row
      rw [own, List.append_assoc] at missing
      rw [counted, Nat.add_assoc] at checked
      rw [List.foldl_cons, missing, checked]
      refine ⟨?_, ?_⟩
      · cases found : flagged? sched ents pid row <;> simp [found]
      · cases found : checked? sched pid row <;> simp [found, Nat.add_comm]

theorem flagged_le_checked (rows : List BindingRow) :
    (rows.filterMap (flagged? sched ents pid)).length ≤
      (rows.filterMap (checked? sched pid)).length := by
  rw [List.length_filterMap_eq_countP, List.length_filterMap_eq_countP]
  refine List.countP_mono_left fun row _ flagged => ?_
  obtain ⟨binding, flagged⟩ := Option.isSome_iff_exists.mp flagged
  obtain ⟨checked, found, -⟩ := Option.bind_eq_some_iff.mp flagged
  exact Option.isSome_iff_exists.mpr ⟨checked, found⟩

theorem flagged?_eq_some_iff {row : BindingRow} {binding : Text × Nat} :
    flagged? sched ents pid row = some binding ↔ ∃ id want, pid.lookup row.port = some id ∧
      want? ((sched.lookup row.value).getD []) = some want ∧
      (∀ e ∈ (ents.lookup (id, .number row.idx)).getD [], ¬ want.isMetBy e = true) ∧
      binding = (row.port, row.idx) := by
  rw [flagged?, checked?]
  cases pid.lookup row.port with
  | none => exact iff_of_false nofun (by rintro ⟨id, want, missing, -⟩; cases missing)
  | some id =>
      cases want? ((sched.lookup row.value).getD []) with
      | none => exact iff_of_false nofun (by rintro ⟨id, want, -, missing, -⟩; cases missing)
      | some want =>
          dsimp only [Option.bind_some, Option.map_some]
          split
          next met =>
            obtain ⟨e, member, meets⟩ := List.any_eq_true.mp met
            refine iff_of_false nofun ?_
            rintro ⟨_, _, same, same', unmet, -⟩
            cases same
            cases same'
            exact unmet e member meets
          next unmet =>
            rw [Option.some_inj]
            constructor
            · intro same
              refine ⟨id, want, rfl, rfl, fun e member meets => unmet ?_, same.symm⟩
              exact List.any_eq_true.mpr ⟨e, member, meets⟩
            · rintro ⟨_, _, -, -, -, same⟩
              exact same.symm

theorem lookup_indexMulti (entries : List Entry) (pidField idxField : Text) (pid idx : Value) :
    ((indexMulti entries pidField idxField).lookup (pid, idx)).getD [] =
      entries.filter fun e => decide (multiKey? pidField idxField e = some (pid, idx)) :=
  Dict.lookup_group (multiKey? pidField idxField) entries (pid, idx)

theorem multiKey?_eq_some_iff {pidField idxField : Text} {e : Entry} {pid idx : Value} :
    multiKey? pidField idxField e = some (pid, idx) ↔
      e.lookup pidField = some pid ∧ e.lookup idxField = some idx := by
  rw [multiKey?]
  cases e.lookup pidField <;> cases e.lookup idxField <;> simp

/-- Entries in another order do not change what is flagged. -/
theorem flagged?_perm {entries others : List Entry} (same : others.Perm entries)
    (pidField idxField : Text) :
    flagged? sched (indexMulti others pidField idxField) pid =
      flagged? sched (indexMulti entries pidField idxField) pid := by
  funext row
  rw [flagged?, flagged?]
  refine congrArg _ (funext fun (id, want) => ?_)
  dsimp only
  rw [lookup_indexMulti, lookup_indexMulti, (same.filter _).any_eq]

end Loop

/-! ## The audit -/

/-- A binding on a mapped port with a criterion that no entry of the chip meets. -/
def Flagged (config : ConfigDb) (traversal : List Entry) (pid : Dict Text Value) (port : Text)
    (idx : Nat) : Prop :=
  ∃ id name want, pid.lookup port = some id ∧ Binds config port idx name ∧
    Wants config name want ∧
    ∀ e ∈ traversal, e.lookup "PORT_ID".toList = some id →
      e.lookup "TM_SCHEDULER_NODE_ID".toList = some (.number idx) → ¬ Meets want e

theorem mem_flagged_iff (config : ConfigDb) (traversal : List Entry) (pid : Dict Text Value)
    {rows : List BindingRow}
    (bound : ∀ row, row ∈ rows ↔ isEthernet row.port ∧ Binds config row.port row.idx row.value)
    (port : Text) (idx : Nat) :
    (port, idx) ∈ rows.filterMap (flagged? (schedulers config.rows)
        (indexMulti traversal "PORT_ID".toList "TM_SCHEDULER_NODE_ID".toList) pid) ↔
      isEthernet port ∧ Flagged config traversal pid port idx := by
  rw [List.mem_filterMap]
  constructor
  · rintro ⟨row, member, flagged⟩
    obtain ⟨id, want, mapped, wanted, unmet, same⟩ := (flagged?_eq_some_iff ..).mp flagged
    cases same
    obtain ⟨named, binds⟩ := (bound row).mp member
    have wants := (want?_eq_some_iff config row.value want).mp wanted
    refine ⟨named, id, row.value, want, mapped, binds, wants, fun e listed here there => ?_⟩
    rw [lookup_indexMulti] at unmet
    rw [← isMetBy_iff wants]
    refine unmet e (List.mem_filter.mpr ⟨listed, decide_eq_true ?_⟩)
    exact multiKey?_eq_some_iff.mpr ⟨here, there⟩
  · rintro ⟨named, id, name, want, mapped, binds, wants, unmet⟩
    refine ⟨⟨port, idx, name⟩, (bound _).mpr ⟨named, binds⟩, (flagged?_eq_some_iff ..).mpr ?_⟩
    refine ⟨id, want, mapped, (want?_eq_some_iff config name want).mpr wants, ?_, rfl⟩
    intro e member
    rw [lookup_indexMulti] at member
    obtain ⟨listed, keyed⟩ := List.mem_filter.mp member
    obtain ⟨here, there⟩ := multiKey?_eq_some_iff.mp (of_decide_eq_true keyed)
    rw [isMetBy_iff wants]
    exact unmet e listed here there

/-- What the audit flags does not depend on the order of the entries; it is every binding that
is not met on a port with a number, and no more than what was checked. -/
theorem audit_exact (config : ConfigDb) (traversal : List Entry) (pid : Dict Text Value) :
    ∃ audit, auditQueueSchedulers config.rows traversal pid = some audit ∧
      (∀ port idx, (port, idx) ∈ audit.missing.map Missing.binding ↔
        isEthernet port ∧ Flagged config traversal pid port idx) ∧
      (∀ others : List Entry, others.Perm traversal →
        ∃ audit', auditQueueSchedulers config.rows others pid = some audit' ∧
          audit'.missing.map Missing.binding = audit.missing.map Missing.binding ∧
          audit'.checked = audit.checked) ∧
      audit.missing.length ≤ audit.checked := by
  obtain ⟨rows, read, bound⟩ := bindingRows_queue config
  have result : ∀ entries : List Entry, ∃ audit,
      auditQueueSchedulers config.rows entries pid = some audit ∧
      audit.missing.map Missing.binding = rows.filterMap (flagged? (schedulers config.rows)
        (indexMulti entries "PORT_ID".toList "TM_SCHEDULER_NODE_ID".toList) pid) ∧
      audit.checked = (rows.filterMap (checked? (schedulers config.rows) pid)).length := by
    intro entries
    have loop := foldl_auditRow (schedulers config.rows)
      (indexMulti entries "PORT_ID".toList "TM_SCHEDULER_NODE_ID".toList) pid rows ⟨[], 0⟩
    rw [List.map_nil, List.nil_append, Nat.zero_add] at loop
    rw [auditQueueSchedulers, read]
    exact ⟨_, rfl, loop⟩
  obtain ⟨audit, audited, missing, checked⟩ := result traversal
  refine ⟨audit, audited, fun port idx => ?_, fun others same => ?_, ?_⟩
  · rw [missing]
    exact mem_flagged_iff config traversal pid bound port idx
  · obtain ⟨audit', audited', missing', checked'⟩ := result others
    refine ⟨audit', audited', ?_, checked'.trans checked.symm⟩
    rw [missing', missing, flagged?_perm _ _ same]
  · rw [checked, ← List.length_map Missing.binding, missing]
    exact flagged_le_checked ..

/-! ## A port without a number -/

def recyclePort : Text :=
  "Ethernet-Rec0".toList

/-- A strict scheduler bound to a queue of a recycle port. -/
def recycleBinding : ConfigDb where
  rows := [(queueKey recyclePort "3".toList, [("scheduler".toList, "strict".toList)]),
    (schedulerKey "strict".toList, [("type".toList, "STRICT".toList)])]
  distinct := by decide
  indexed := by
    have three : ∀ c ∈ "3".toList, c.isDigit = true := forall_of_all (by decide)
    rw [Dict.keys, List.map_cons, List.map_cons, List.map_nil, List.forall_mem_cons,
      List.forall_mem_singleton]
    refine ⟨fun _ => ?_, fun queue => absurd queue (by decide)⟩
    exact ⟨recyclePort, .single ⟨"3".toList, by decide, three⟩, by decide, rfl⟩

/-- The port is mapped and the chip has no entry at all, and yet nothing is flagged. -/
theorem recycle_port_not_flagged :
    ¬ ∃ audit, auditQueueSchedulers recycleBinding.rows [] [(recyclePort, .number 1)] = some audit ∧
      ∀ port idx, (port, idx) ∈ audit.missing.map Missing.binding ↔
        Flagged recycleBinding [] [(recyclePort, .number 1)] port idx := by
  rintro ⟨audit, audited, flagged⟩
  have nothing : (auditQueueSchedulers recycleBinding.rows []
      [(recyclePort, .number 1)]).map (fun audit => audit.missing.map Missing.binding) =
        some [] := by
    decide
  rw [audited, Option.map_some, Option.some_inj] at nothing
  have three : ∀ c ∈ "3".toList, c.isDigit = true := forall_of_all (by decide)
  have bound : Binds recycleBinding recyclePort 3 "strict".toList :=
    ⟨.single ⟨"3".toList, by decide, three⟩, _, by decide, List.mem_cons_self .., rfl, rfl,
      by decide⟩
  have wants : Wants recycleBinding "strict".toList .strict := ⟨_, rfl, rfl⟩
  have member := (flagged recyclePort 3).mpr ⟨.number 1, _, _, rfl, bound, wants, nofun⟩
  rw [nothing] at member
  cases member

end OnboxFvt.BufAudit
