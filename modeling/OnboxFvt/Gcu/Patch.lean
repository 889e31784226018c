import Mathlib.Data.List.Nodup
import OnboxFvt.Library.JsonPatch
import OnboxFvt.Python.Text

/-!
# Patches of single entries

`Gcu.path`, `add_entry` and `remove_entry` of `framework/gcu.py` and `_unbind_port_qos` of
`framework/qos.py`.  CONFIG_DB is read as redis keys `TABLE|key` and patched as the
document of its tables.
-/

namespace OnboxFvt.Gcu

open Library Python

/-- The separator of redis keys, the characters of glob patterns and those that end a
quoted text. -/
def reserved : List Char :=
  ['|', '*', '?', '[', ']', '\\', '"', '\'']

/-- Names of tables. -/
abbrev Name :=
  { name : Text // ∀ c ∈ name, c ∉ reserved }

/-- Names of ports, which are written into a JSON pointer as they are. -/
abbrev PortName :=
  { name : Text // ∀ c ∈ name, c ∉ '/' :: '~' :: reserved }

theorem plain_of_all {name : Text} {excluded : List Char}
    (checked : (name.all fun c => !excluded.contains c) = true) :
    ∀ c ∈ name, c ∉ excluded := by
  intro c member
  have plain := List.all_eq_true.mp checked c member
  simpa using plain

structure ConfigDb where
  tables : List (Name × List (Text × Json))
  distinct : (tables.map Prod.fst).Nodup
  distinctKeys : ∀ table ∈ tables, (table.2.map Prod.fst).Nodup

namespace ConfigDb

def toJson (db : ConfigDb) : Json :=
  .object (db.tables.map fun table => (table.1.val, .object table.2))

def redisKeys (db : ConfigDb) : List Text :=
  db.tables.flatMap fun table => table.2.map fun entry => table.1.val ++ '|' :: entry.1

/-- `db_keys("CONFIG_DB", stem + "*")`, where the stem has no glob characters. -/
def dbKeys (db : ConfigDb) (stem : Text) : List Text :=
  db.redisKeys.filter (startsWith stem)

def entries (db : ConfigDb) (table : Name) : List (Text × Json) :=
  (db.tables.lookup table).getD []

end ConfigDb

def escape (token : Text) : Text :=
  replaceChar '/' "~1".toList (replaceChar '~' "~0".toList token)

def path (tokens : List Text) : Text :=
  tokens.flatMap fun token => '/' :: escape token

def addEntry (db : ConfigDb) (table : Name) (key : Text) (value : Json) : List PatchOp :=
  if (db.dbKeys (table.val ++ ['|'])).isEmpty then
    [.add (path [table.val]) (.object [(key, value)])]
  else [.add (path [table.val, key]) value]

def removeEntry (db : ConfigDb) (table : Name) (key : Text) : List PatchOp :=
  if (db.dbKeys (table.val ++ ['|'])).length ≤ 1 then [.remove (path [table.val])]
  else [.remove (path [table.val, key])]

def portQosMap : Name :=
  ⟨"PORT_QOS_MAP".toList, plain_of_all (by decide)⟩

/-- The patch that `_unbind_port_qos` writes; none where the table is empty. -/
def unbindPortQos (db : ConfigDb) (portName : PortName) : Option (List PatchOp) :=
  let keys := db.dbKeys "PORT_QOS_MAP|".toList
  if keys.isEmpty then none
  else if keys.length ≤ 1 then some [.remove "/PORT_QOS_MAP".toList]
  else some [.remove ("/PORT_QOS_MAP/".toList ++ portName.val)]

/-- A patch that cannot be applied leaves the database as it is. -/
def patched (json : Json) (patch : List PatchOp) : Json :=
  (applyPatch json patch).getD json

/-! ## Paths are read back -/

theorem escape_cons (c : Char) (rest : Text) :
    escape (c :: rest) =
      (if c = '~' then "~0".toList else if c = '/' then "~1".toList else [c]) ++ escape rest := by
  unfold escape replaceChar
  rw [List.flatMap_cons, List.flatMap_append]
  congr 1
  by_cases tilde : c = '~'
  · rw [if_pos tilde, if_pos tilde]
    rfl
  · rw [if_neg tilde, if_neg tilde, List.flatMap_singleton]

theorem unescape_cons_plain {c : Char} (plain : c ≠ '~') (rest : Text) :
    unescape (c :: rest) = (unescape rest).map fun token => c :: token := by
  rw [unescape.eq_def]
  split <;> simp_all

theorem unescape_escape (token : Text) : unescape (escape token) = some token := by
  induction token with
  | nil => rfl
  | cons c rest inductionHypothesis =>
      rw [escape_cons]
      by_cases tilde : c = '~'
      · rw [if_pos tilde, tilde]
        exact congrArg (Option.map fun token => '~' :: token) inductionHypothesis
      · by_cases slash : c = '/'
        · rw [if_neg tilde, if_pos slash, slash]
          exact congrArg (Option.map fun token => '/' :: token) inductionHypothesis
        · rw [if_neg tilde, if_neg slash, List.singleton_append, unescape_cons_plain tilde,
            inductionHypothesis]
          rfl

/-- The first replacement takes back the second one of `path`. -/
theorem replaceEscape_slash_escape (token : Text) :
    replaceEscape '1' '/' (escape token) = replaceChar '~' "~0".toList token := by
  induction token with
  | nil => rfl
  | cons c rest inductionHypothesis =>
      have unfolded : replaceChar '~' "~0".toList (c :: rest) =
          (if c = '~' then "~0".toList else [c]) ++ replaceChar '~' "~0".toList rest :=
        List.flatMap_cons
      rw [escape_cons, unfolded, ← inductionHypothesis]
      by_cases tilde : c = '~'
      · rw [if_pos tilde, if_pos tilde]
        exact (replaceEscape_elsewhere (by decide) _).trans
          (congrArg _ (replaceEscape_cons_plain (by decide) _))
      · rw [if_neg tilde, if_neg tilde]
        by_cases slash : c = '/'
        · rw [if_pos slash, slash]
          exact replaceEscape_here '1' '/' _
        · rw [if_neg slash]
          exact replaceEscape_cons_plain tilde _

theorem replaceEscape_tilde_replaceChar (token : Text) :
    replaceEscape '0' '~' (replaceChar '~' "~0".toList token) = token := by
  induction token with
  | nil => rfl
  | cons c rest inductionHypothesis =>
      have unfolded : replaceChar '~' "~0".toList (c :: rest) =
          (if c = '~' then "~0".toList else [c]) ++ replaceChar '~' "~0".toList rest :=
        List.flatMap_cons
      rw [unfolded]
      by_cases tilde : c = '~'
      · rw [if_pos tilde, tilde]
        exact (replaceEscape_here '0' '~' _).trans (congrArg _ inductionHypothesis)
      · rw [if_neg tilde]
        exact (replaceEscape_cons_plain tilde _).trans (congrArg _ inductionHypothesis)

theorem decodePart_escape (token : Text) : decodePart (escape token) = token := by
  unfold decodePart
  rw [replaceEscape_slash_escape, replaceEscape_tilde_replaceChar]

theorem slash_notMem_escape (token : Text) : '/' ∉ escape token := by
  induction token with
  | nil => exact List.not_mem_nil
  | cons c rest inductionHypothesis =>
      rw [escape_cons, List.mem_append, not_or]
      refine ⟨?_, inductionHypothesis⟩
      split
      · decide
      · split
        · decide
        · next other =>
            rw [List.mem_singleton]
            exact fun equal => other equal.symm

theorem path_cons (token : Text) (rest : List Text) :
    path (token :: rest) = '/' :: ['/'].intercalate ((token :: rest).map escape) := by
  induction rest generalizing token with
  | nil => simp [path]
  | cons next others inductionHypothesis =>
      have unfolded : path (token :: next :: others) =
          ('/' :: escape token) ++ path (next :: others) :=
        List.flatMap_cons
      rw [unfolded, inductionHypothesis next, List.map_cons, List.map_cons, List.map_cons,
        List.intercalate_cons_cons]
      simp

theorem collect?_escape (tokens : List Text) :
    collect? unescape (tokens.map escape) = some tokens := by
  have collected := Library.collect?_map fun token (_ : token ∈ tokens) => unescape_escape token
  rwa [List.map_id'] at collected

theorem slash_notMem_parts (tokens : List Text) : ∀ part ∈ tokens.map escape, '/' ∉ part := by
  intro part member
  obtain ⟨source, _, equal⟩ := List.mem_map.mp member
  subst equal
  exact slash_notMem_escape source

theorem pointer_path (tokens : List Text) : pointer? (path tokens) = some tokens := by
  cases tokens with
  | nil => rfl
  | cons token rest =>
      rw [path_cons]
      have parts : List.splitOn '/' (['/'].intercalate ((token :: rest).map escape)) =
          (token :: rest).map escape :=
        List.splitOn_intercalate '/' (slash_notMem_parts (token :: rest)) (List.cons_ne_nil _ _)
      change collect? unescape (List.splitOn '/' _) = _
      rw [parts, collect?_escape]

/-- In front of the first separator stands the empty text. -/
theorem splitOn_path (tokens : List Text) :
    List.splitOn '/' (path tokens) = [] :: tokens.map escape := by
  have joined : path tokens = ['/'].intercalate ([] :: tokens.map escape) := by
    cases tokens with
    | nil => rfl
    | cons token rest =>
        rw [path_cons, List.map_cons, List.intercalate_cons_cons]
        rfl
  rw [joined]
  apply List.splitOn_intercalate
  · intro part member
    cases member with
    | head => exact List.not_mem_nil
    | tail _ inside => exact slash_notMem_parts tokens part inside
  · exact List.cons_ne_nil _ _

theorem path_injective : Function.Injective path := by
  intro tokens others same
  have read : some tokens = some others := by
    rw [← pointer_path tokens, ← pointer_path others, same]
  exact Option.some.inj read

/-- The parts of a path are its tokens again, read strictly or by the two replacements, and
no other tokens have the same path. -/
theorem path_invertible (tokens : List Text) :
    (List.splitOn '/' (path tokens)).head? = some [] ∧
      (List.splitOn '/' (path tokens)).tail.map decodePart = tokens ∧
      pointer? (path tokens) = some tokens ∧
      ∀ others, others ≠ tokens → path others ≠ path tokens := by
  rw [splitOn_path]
  refine ⟨rfl, ?_, pointer_path tokens, fun others different same =>
    different (path_injective same)⟩
  rw [List.tail_cons, List.map_map]
  exact (List.map_congr_left fun token _ => decodePart_escape token).trans (List.map_id tokens)

theorem escape_portName (portName : PortName) : escape portName.val = portName.val := by
  obtain ⟨text, plain⟩ := portName
  induction text with
  | nil => rfl
  | cons c rest inductionHypothesis =>
      have first : c ∉ '/' :: '~' :: reserved := plain c (List.mem_cons_self ..)
      have tilde : c ≠ '~' := fun same => first (by rw [same]; decide)
      have slash : c ≠ '/' := fun same => first (by rw [same]; decide)
      have others := inductionHypothesis fun d member => plain d (List.mem_cons_of_mem _ member)
      simp only at others ⊢
      rw [escape_cons, if_neg tilde, if_neg slash, others]
      rfl

/-! ## What is listed -/

namespace ConfigDb

theorem takeWhile_key (name : Name) (key : Text) :
    (name.val ++ '|' :: key).takeWhile (· ≠ '|') = name.val := by
  have plain : ∀ c ∈ name.val, decide (c ≠ '|') = true := by
    intro c member
    rw [decide_eq_true_eq]
    rintro rfl
    exact name.property '|' member (by decide)
  rw [List.takeWhile_append_of_pos plain]
  simp

theorem startsWith_key {table other : Name} {key : Text} :
    startsWith (table.val ++ ['|']) (other.val ++ '|' :: key) = true ↔ other = table := by
  rw [startsWith, List.isPrefixOf_iff_prefix]
  constructor
  · rintro ⟨rest, split⟩
    rw [List.append_assoc, List.singleton_append] at split
    have fronts := congrArg (List.takeWhile (· ≠ '|')) split
    rw [takeWhile_key, takeWhile_key] at fronts
    exact Subtype.ext fronts.symm
  · intro same
    subst same
    exact ⟨key, by rw [List.append_assoc, List.singleton_append]⟩

theorem lookup_toJson (db : ConfigDb) (table : Name) :
    db.toJson.get? table.val = (db.tables.lookup table).map .object := by
  unfold toJson Json.get?
  simp only
  induction db.tables with
  | nil => rfl
  | cons first rest inductionHypothesis =>
      rw [List.map_cons, List.lookup_cons, List.lookup_cons]
      by_cases same : table = first.1
      · subst same
        simp
      · have different : table.val ≠ first.1.val := fun equal => same (Subtype.ext equal)
        rw [beq_eq_false_iff_ne.mpr same, beq_eq_false_iff_ne.mpr different]
        exact inductionHypothesis

theorem filter_keys (table : Name) (tables : List (Name × List (Text × Json)))
    (distinct : (tables.map Prod.fst).Nodup) :
    (tables.flatMap fun other => other.2.map fun entry => other.1.val ++ '|' :: entry.1).filter
        (startsWith (table.val ++ ['|'])) =
      ((tables.lookup table).getD []).map fun entry => table.val ++ '|' :: entry.1 := by
  induction tables with
  | nil => rfl
  | cons first rest inductionHypothesis =>
      obtain ⟨fresh, distinctRest⟩ := List.nodup_cons.mp distinct
      rw [List.flatMap_cons, List.filter_append, List.lookup_cons, inductionHypothesis distinctRest]
      by_cases same : table = first.1
      · subst same
        have absent : rest.lookup first.1 = none := by
          rw [List.lookup_eq_none_iff]
          intro other member
          rw [bne_iff_ne]
          exact fun equal => fresh (List.mem_map.mpr ⟨other, member, equal.symm⟩)
        have kept : (first.2.map fun entry => first.1.val ++ '|' :: entry.1).filter
            (startsWith (first.1.val ++ ['|'])) =
              first.2.map fun entry => first.1.val ++ '|' :: entry.1 := by
          rw [List.filter_eq_self]
          intro key member
          obtain ⟨entry, _, equal⟩ := List.mem_map.mp member
          subst equal
          exact startsWith_key.mpr rfl
        simp [absent, kept]
      · have dropped : (first.2.map fun entry => first.1.val ++ '|' :: entry.1).filter
            (startsWith (table.val ++ ['|'])) = [] := by
          rw [List.filter_eq_nil_iff]
          intro key member
          obtain ⟨entry, _, equal⟩ := List.mem_map.mp member
          subst equal
          exact fun starts => same (startsWith_key.mp starts).symm
        rw [dropped, beq_eq_false_iff_ne.mpr same, List.nil_append]

/-- The keys listed for a table are those of its entries. -/
theorem dbKeys_table (db : ConfigDb) (table : Name) :
    db.dbKeys (table.val ++ ['|']) =
      (db.entries table).map fun entry => table.val ++ '|' :: entry.1 :=
  filter_keys table db.tables db.distinct

def keys (db : ConfigDb) (table : Name) : List Text :=
  (db.entries table).map Prod.fst

theorem length_dbKeys (db : ConfigDb) (table : Name) :
    (db.dbKeys (table.val ++ ['|'])).length = (db.keys table).length := by
  rw [dbKeys_table, keys, List.length_map, List.length_map]

end ConfigDb

/-! ## What the patches change -/

def entry (json : Json) (table key : Text) : Option Json :=
  json.at? [table, key]

theorem ConfigDb.entry_toJson (db : ConfigDb) (table : Name) (key : Text) :
    entry db.toJson table.val key = (db.entries table).lookup key := by
  unfold entry Json.at? entries
  rw [db.lookup_toJson]
  cases db.tables.lookup table with
  | none => rfl
  | some members =>
      change (members.lookup key).bind (Json.at? []) = members.lookup key
      cases members.lookup key <;> rfl

/-- Every entry but one is as before. -/
def OnlyTouches (table key : Text) (before after : Json) : Prop :=
  ∀ otherTable otherKey, (otherTable, otherKey) ≠ (table, key) →
    entry after otherTable otherKey = entry before otherTable otherKey

theorem apart_of_table {table other key : Text} (different : other ≠ table) :
    Json.Apart [table] [other, key] := by
  constructor
  · intro inside
    exact different (List.cons_prefix_cons.mp inside).1.symm
  · intro inside
    exact different (List.cons_prefix_cons.mp inside).1

theorem apart_of_key {table key otherTable otherKey : Text}
    (different : (otherTable, otherKey) ≠ (table, key)) :
    Json.Apart [table, key] [otherTable, otherKey] := by
  have same_of_prefix : ∀ first second : List Text, first <+: second →
      first.length = second.length → first = second :=
    fun _ _ inside lengths => inside.eq_of_length lengths
  constructor
  · intro inside
    have equal := same_of_prefix _ _ inside rfl
    simp only [List.cons.injEq, and_true] at equal
    exact different (Prod.ext equal.1.symm equal.2.symm)
  · intro inside
    have equal := same_of_prefix _ _ inside rfl
    simp only [List.cons.injEq, and_true] at equal
    exact different (Prod.ext equal.1 equal.2)

theorem applyPatch_add (json value : Json) (tokens : List Text) :
    applyPatch json [.add (path tokens) value] = Json.add tokens value json := by
  simp [applyPatch, PatchOp.apply, pointer_path]

theorem applyPatch_remove (json : Json) (tokens : List Text) :
    applyPatch json [.remove (path tokens)] = Json.remove tokens json := by
  simp [applyPatch, PatchOp.apply, pointer_path]

theorem entry_empty {db : ConfigDb} {table : Name} (empty : (db.keys table).length = 0)
    (key : Text) : entry db.toJson table.val key = none := by
  rw [db.entry_toJson, List.eq_nil_of_map_eq_nil (List.eq_nil_of_length_eq_zero empty)]
  rfl

theorem add_entry_exists {db : ConfigDb} {table : Name} (present : (db.keys table).length ≠ 0)
    (key : Text) (value : Json) :
    ∃ after, Json.add [table.val, key] value db.toJson = some after := by
  have found := db.lookup_toJson table
  cases members : db.tables.lookup table with
  | none =>
      rw [ConfigDb.keys, ConfigDb.entries, members] at present
      exact absurd rfl present
  | some entries =>
      rw [members] at found
      unfold ConfigDb.toJson Json.get? at found
      unfold Json.add ConfigDb.toJson Json.within
      simp only at found ⊢
      rw [found]
      exact ⟨_, rfl⟩

/-- The new entry is there and all others are as they were. -/
theorem addEntry_adds (db : ConfigDb) (table : Name) (key : Text) (value : Json) :
    ∃ after, applyPatch db.toJson (addEntry db table key value) = some after ∧
      entry after table.val key = some value ∧ OnlyTouches table.val key db.toJson after := by
  unfold addEntry
  by_cases empty : (db.keys table).length = 0
  · have listed : (db.dbKeys (table.val ++ ['|'])).isEmpty = true := by
      rw [List.isEmpty_iff_length_eq_zero, db.length_dbKeys]
      exact empty
    rw [if_pos listed, applyPatch_add]
    obtain ⟨after, added⟩ : ∃ after,
        Json.add [table.val] (.object [(key, value)]) db.toJson = some after := ⟨_, rfl⟩
    have inside : ∀ other, entry after table.val other =
        (Json.object [(key, value)]).at? [other] := by
      intro other
      have step := Json.at?_append [table.val] [other] after
      rw [Json.at?_add added, Option.bind_some] at step
      exact step
    refine ⟨after, added, ?_, ?_⟩
    · rw [inside, Json.at?_cons_object, List.lookup_cons_self]
      rfl
    · intro otherTable otherKey different
      by_cases same : otherTable = table.val
      · subst same
        have otherName : otherKey ≠ key := fun equal => different (by rw [equal])
        rw [entry_empty empty, inside, Json.at?_cons_object, List.lookup_cons,
          beq_eq_false_iff_ne.mpr otherName]
        rfl
      · exact Json.at?_add_apart added (apart_of_table same)
  · have listed : ¬ (db.dbKeys (table.val ++ ['|'])).isEmpty = true := by
      rw [List.isEmpty_iff_length_eq_zero, db.length_dbKeys]
      exact empty
    rw [if_neg listed, applyPatch_add]
    obtain ⟨after, added⟩ := add_entry_exists empty key value
    refine ⟨after, added, Json.at?_add added, ?_⟩
    intro otherTable otherKey different
    exact Json.at?_add_apart added (apart_of_key different)

/-- At most the entry is gone; every other one is as before. -/
structure RemovesAtMost (table key : Text) (before after : Json) : Prop where
  others : OnlyTouches table key before after
  itself : entry after table key = none ∨ entry after table key = entry before table key

theorem RemovesAtMost.refl (table key : Text) (json : Json) :
    RemovesAtMost table key json json where
  others := fun _ _ _ => rfl
  itself := Or.inr rfl

/-- The table has more than one entry, or none but the one to remove. -/
def OnlyEntryIs (keys : List Text) (key : Text) : Prop :=
  ∀ other, keys = [other] → other = key

theorem patched_remove_entry (db : ConfigDb) (table : Name) (key : Text) :
    RemovesAtMost table.val key db.toJson
      (patched db.toJson [.remove (path [table.val, key])]) := by
  unfold patched
  rw [applyPatch_remove]
  cases removed : Json.remove [table.val, key] db.toJson with
  | none => exact RemovesAtMost.refl _ _ _
  | some after =>
      constructor
      · intro otherTable otherKey different
        exact Json.at?_remove_apart removed (apart_of_key different)
      · exact Or.inl (Json.at?_remove_below removed [])

/-- Where the entry to remove is all there can be, no other one is found. -/
theorem lookup_eq_none_of_few {members : List (Text × Json)} {key other : Text}
    (few : (members.map Prod.fst).length ≤ 1)
    (only : OnlyEntryIs (members.map Prod.fst) key) (different : other ≠ key) :
    members.lookup other = none := by
  cases members with
  | nil => rfl
  | cons first rest =>
      have one : rest = [] := by
        rw [List.length_map, List.length_cons] at few
        exact List.eq_nil_of_length_eq_zero (by omega)
      have name := only first.1 (by rw [one]; rfl)
      have otherName : other ≠ first.1 := fun equal => different (by rw [equal, name])
      rw [one, List.lookup_cons, beq_eq_false_iff_ne.mpr otherName]
      rfl

theorem patched_remove_table {db : ConfigDb} {table : Name} {key : Text}
    (few : (db.keys table).length ≤ 1) (only : OnlyEntryIs (db.keys table) key) :
    RemovesAtMost table.val key db.toJson (patched db.toJson [.remove (path [table.val])]) := by
  unfold patched
  rw [applyPatch_remove]
  cases removed : Json.remove [table.val] db.toJson with
  | none => exact RemovesAtMost.refl _ _ _
  | some after =>
      rw [Option.getD_some]
      constructor
      · intro otherTable otherKey different
        by_cases same : otherTable = table.val
        · subst same
          have gone : entry after table.val otherKey = none :=
            Json.at?_remove_below removed [otherKey]
          have other : otherKey ≠ key := fun equal => different (by rw [equal])
          rw [gone, db.entry_toJson]
          exact (lookup_eq_none_of_few few only other).symm
        · exact Json.at?_remove_apart removed (apart_of_table same)
      · exact Or.inl (Json.at?_remove_below removed [key])

/-- Removing the table loses the entry of any other key. -/
theorem onlyEntryIs_of_remove_table {db : ConfigDb} {table : Name} {key : Text}
    (removes : RemovesAtMost table.val key db.toJson
      (patched db.toJson [.remove (path [table.val])])) : OnlyEntryIs (db.keys table) key := by
  unfold patched at removes
  rw [applyPatch_remove] at removes
  intro other only
  by_contra different
  obtain ⟨entry', single, name⟩ := List.map_eq_singleton_iff.mp only
  have present : entry db.toJson table.val other = some entry'.2 := by
    rw [db.entry_toJson, single, ← name]
    exact List.lookup_cons_self
  have kept := removes.others table.val other fun equal => different (Prod.ext_iff.mp equal).2
  rw [present] at kept
  cases removed : Json.remove [table.val] db.toJson with
  | none =>
      have absent := Json.remove_eq_none (List.cons_ne_nil _ _) removed
      have below := Json.at?_append [table.val] [other] db.toJson
      rw [absent, Option.bind_none] at below
      exact Option.some_ne_none _ (present.symm.trans below)
  | some after =>
      rw [removed, Option.getD_some] at kept
      have gone : entry after table.val other = none := Json.at?_remove_below removed [other]
      rw [gone] at kept
      cases kept

theorem patched_remove_table_iff {db : ConfigDb} {table : Name} {key : Text}
    (few : (db.keys table).length ≤ 1) :
    RemovesAtMost table.val key db.toJson (patched db.toJson [.remove (path [table.val])]) ↔
      OnlyEntryIs (db.keys table) key := by
  constructor
  · exact onlyEntryIs_of_remove_table
  · exact patched_remove_table few

theorem removeEntry_iff (db : ConfigDb) (table : Name) (key : Text) :
    RemovesAtMost table.val key db.toJson (patched db.toJson (removeEntry db table key)) ↔
      OnlyEntryIs (db.keys table) key := by
  unfold removeEntry
  rw [db.length_dbKeys]
  by_cases few : (db.keys table).length ≤ 1
  · rw [if_pos few]
    exact patched_remove_table_iff few
  · rw [if_neg few]
    refine ⟨fun _ other only => ?_, fun _ => patched_remove_entry db table key⟩
    rw [only] at few
    exact absurd (Nat.le_refl 1) few

/-- What running the unbind leaves. -/
def unbound (db : ConfigDb) (portName : PortName) : Json :=
  match unbindPortQos db portName with
  | some patch => patched db.toJson patch
  | none => db.toJson

theorem unbound_eq (db : ConfigDb) (portName : PortName) :
    unbound db portName =
      if (db.keys portQosMap).length = 0 then db.toJson
      else patched db.toJson (removeEntry db portQosMap portName.val) := by
  have stem : ("PORT_QOS_MAP|".toList : Text) = portQosMap.val ++ ['|'] := rfl
  have tablePath : ("/PORT_QOS_MAP".toList : Text) = path [portQosMap.val] := rfl
  have entryPath : ("/PORT_QOS_MAP/".toList ++ portName.val : Text) =
      path [portQosMap.val, portName.val] := by
    have tableName : escape portQosMap.val = portQosMap.val := by decide
    simp only [path, List.flatMap_cons, List.flatMap_nil, tableName, escape_portName,
      List.append_nil]
    rfl
  unfold unbound unbindPortQos removeEntry
  rw [stem, tablePath, entryPath]
  simp only [List.isEmpty_iff_length_eq_zero, db.length_dbKeys]
  by_cases empty : (db.keys portQosMap).length = 0
  · rw [if_pos empty, if_pos empty]
  · rw [if_neg empty, if_neg empty]
    by_cases few : (db.keys portQosMap).length ≤ 1
    · rw [if_pos few, if_pos few]
    · rw [if_neg few, if_neg few]

theorem unbindPortQos_iff (db : ConfigDb) (portName : PortName) :
    RemovesAtMost portQosMap.val portName.val db.toJson (unbound db portName) ↔
      OnlyEntryIs (db.keys portQosMap) portName.val := by
  rw [unbound_eq]
  split
  next empty =>
    refine ⟨fun _ other only => ?_, fun _ => RemovesAtMost.refl _ _ _⟩
    rw [only] at empty
    cases empty
  next => exact removeEntry_iff db portQosMap portName.val

/-- Adding an entry touches no other one; removing one, or unbinding a port, does so exactly
unless the table's only entry is another one. -/
theorem patches_touch_their_entry_iff (db : ConfigDb) (table : Name) (portName : PortName)
    (key : Text) (value : Json) :
    (∃ after, applyPatch db.toJson (addEntry db table key value) = some after ∧
      entry after table.val key = some value ∧ OnlyTouches table.val key db.toJson after) ∧
    (RemovesAtMost table.val key db.toJson (patched db.toJson (removeEntry db table key)) ↔
      OnlyEntryIs (db.keys table) key) ∧
    (RemovesAtMost portQosMap.val portName.val db.toJson (unbound db portName) ↔
      OnlyEntryIs (db.keys portQosMap) portName.val) :=
  ⟨addEntry_adds db table key value, removeEntry_iff db table key, unbindPortQos_iff db portName⟩

/-- Only Ethernet4 has a binding. -/
def oneBinding : ConfigDb where
  tables := [(portQosMap, [("Ethernet4".toList, .object [("pfc_enable".toList, .scalar [])])])]
  distinct := List.nodup_singleton _
  distinctKeys := by
    intro table member
    cases List.mem_singleton.mp member
    exact List.nodup_singleton _

theorem other_port_loses_binding :
    ¬ RemovesAtMost portQosMap.val "Ethernet0".toList oneBinding.toJson
        (patched oneBinding.toJson (removeEntry oneBinding portQosMap "Ethernet0".toList)) ∧
      ¬ RemovesAtMost portQosMap.val "Ethernet0".toList oneBinding.toJson
        (unbound oneBinding ⟨"Ethernet0".toList, plain_of_all (by decide)⟩) := by
  have different : ((portQosMap.val, "Ethernet4".toList) : Text × Text) ≠
      (portQosMap.val, "Ethernet0".toList) := by decide
  constructor
  · intro removes
    cases removes.others portQosMap.val "Ethernet4".toList different
  · intro removes
    cases removes.others portQosMap.val "Ethernet4".toList different

end OnboxFvt.Gcu
