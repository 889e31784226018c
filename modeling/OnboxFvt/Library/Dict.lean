import OnboxFvt.Library.Table

/-!
# Dictionaries in insertion order

Setting a key that is there replaces its value in place, a new key goes to the end.
-/

namespace OnboxFvt.Library

variable {Key Value : Type*} [DecidableEq Key]

abbrev Dict (Key Value : Type*) := List (Key × Value)

namespace Dict

def keys (dict : Dict Key Value) : List Key :=
  dict.map Prod.fst

/-- `dict[key] = value`. -/
def set (dict : Dict Key Value) (key : Key) (value : Value) : Dict Key Value :=
  match dict with
  | [] => [(key, value)]
  | entry :: rest =>
      if entry.1 = key then (key, value) :: rest else entry :: set rest key value

def setAll (dict entries : Dict Key Value) : Dict Key Value :=
  entries.foldl (fun dict entry => dict.set entry.1 entry.2) dict

theorem set_of_notMem {dict : Dict Key Value} {key : Key} (value : Value)
    (fresh : key ∉ dict.keys) : dict.set key value = dict ++ [(key, value)] := by
  induction dict with
  | nil => rfl
  | cons entry rest inductionHypothesis =>
      obtain ⟨different, later⟩ := not_or.mp (mt List.mem_cons.mpr fresh)
      rw [set, if_neg (Ne.symm different), inductionHypothesis later, List.cons_append]

/-- Entries with keys of their own are all kept, in their order. -/
theorem setAll_of_nodup {dict entries : Dict Key Value}
    (distinct : (dict ++ entries).keys.Nodup) : dict.setAll entries = dict ++ entries := by
  induction entries generalizing dict with
  | nil => rw [List.append_nil]; rfl
  | cons entry rest inductionHypothesis =>
      have fresh : entry.1 ∉ dict.keys := by
        intro member
        rw [keys, List.map_append] at distinct
        exact (List.nodup_append.mp distinct).2.2 _ member _ (List.mem_cons_self ..) rfl
      rw [setAll, List.foldl_cons, set_of_notMem entry.2 fresh]
      rw [List.append_cons dict entry rest] at distinct ⊢
      exact inductionHypothesis distinct

omit [DecidableEq Key] in
theorem keys_cons (entry : Key × Value) (rest : Dict Key Value) :
    keys (entry :: rest) = entry.1 :: keys rest :=
  rfl

omit [DecidableEq Key] in
theorem keys_zip {keys : List Key} {values : List Value} (lengths : values.length = keys.length) :
    Dict.keys (keys.zip values) = keys :=
  List.map_fst_zip (Nat.le_of_eq lengths.symm)

theorem mem_keys_set (dict : Dict Key Value) (key other : Key) (value : Value) :
    other ∈ (dict.set key value).keys ↔ other = key ∨ other ∈ dict.keys := by
  induction dict with
  | nil => simp [set, keys]
  | cons entry rest inductionHypothesis =>
      rw [set]
      split
      next same => simp [keys_cons, same]
      next =>
        rw [keys_cons, keys_cons, List.mem_cons, List.mem_cons, inductionHypothesis]
        exact or_left_comm

theorem nodup_keys_set {dict : Dict Key Value} (distinct : dict.keys.Nodup) (key : Key)
    (value : Value) : (dict.set key value).keys.Nodup := by
  induction dict with
  | nil => simp [set, keys]
  | cons entry rest inductionHypothesis =>
      rw [keys_cons, List.nodup_cons] at distinct
      rw [set]
      split
      next same =>
        rw [keys_cons, List.nodup_cons, ← same]
        exact distinct
      next different =>
        rw [keys_cons, List.nodup_cons, mem_keys_set, not_or]
        exact ⟨⟨different, distinct.1⟩, inductionHypothesis distinct.2⟩

/-- A value in a dictionary after an entry has been set. -/
theorem mem_set {dict : Dict Key Value} {key : Key} {value : Value} {entry : Key × Value}
    (member : entry ∈ dict.set key value) : entry = (key, value) ∨ entry ∈ dict := by
  induction dict with
  | nil => exact Or.inl (List.mem_singleton.mp member)
  | cons first rest inductionHypothesis =>
      rw [set] at member
      split at member
      next =>
        exact (List.mem_cons.mp member).imp_right (List.mem_cons_of_mem first)
      next =>
        rcases List.mem_cons.mp member with same | later
        · exact Or.inr (same ▸ List.mem_cons_self ..)
        · exact (inductionHypothesis later).imp_right (List.mem_cons_of_mem first)

section Lookup

variable [BEq Key] [LawfulBEq Key]

theorem lookup_cons (entry : Key × Value) (rest : Dict Key Value) (key : Key) :
    List.lookup key (entry :: rest) =
      if entry.1 = key then some entry.2 else List.lookup key rest := by
  obtain ⟨own, value⟩ := entry
  by_cases same : own = key
  · subst same
    simp
  · have other : (key == own) = false := by simpa using Ne.symm same
    rw [List.lookup_cons, other, if_neg same]

omit [DecidableEq Key] in
theorem lookup_eq_none_iff {dict : Dict Key Value} {key : Key} :
    List.lookup key dict = none ↔ key ∉ dict.keys := by
  rw [List.lookup_eq_none_iff, keys, List.mem_map]
  constructor
  · rintro apart ⟨entry, member, same⟩
    simpa [same] using apart entry member
  · intro absent entry member
    rw [bne_iff_ne]
    rintro rfl
    exact absent ⟨entry, member, rfl⟩

omit [DecidableEq Key] in
theorem mem_of_lookup {dict : Dict Key Value} {key : Key}
    {value : Value} (found : List.lookup key dict = some value) : (key, value) ∈ dict := by
  obtain ⟨before, after, rfl, -⟩ := List.lookup_eq_some_iff.mp found
  simp

/-- Setting the value that is there changes nothing. -/
theorem set_lookup {dict : Dict Key Value} {key : Key} {value : Value}
    (found : List.lookup key dict = some value) : dict.set key value = dict := by
  induction dict with
  | nil => cases found
  | cons entry rest inductionHypothesis =>
      rw [lookup_cons] at found
      rw [set]
      by_cases same : entry.1 = key
      · rw [if_pos same, Option.some_inj] at found
        rw [if_pos same, ← same, ← found]
      · rw [if_neg same] at found
        rw [if_neg same, inductionHypothesis found]

theorem lookup_set (dict : Dict Key Value) (key other : Key) (value : Value) :
    List.lookup other (dict.set key value) =
      if key = other then some value else List.lookup other dict := by
  induction dict with
  | nil => rw [set, lookup_cons]
  | cons entry rest inductionHypothesis =>
      rw [set]
      by_cases here : entry.1 = key
      · rw [if_pos here, lookup_cons, lookup_cons, here]
        by_cases same : key = other <;> simp [same]
      · rw [if_neg here, lookup_cons, lookup_cons, inductionHypothesis]
        by_cases same : entry.1 = other
        · have distinct : key ≠ other := fun equal => here (same.trans equal.symm)
          rw [if_pos same, if_neg distinct, if_pos same]
        · rw [if_neg same, if_neg same]

/-- The dictionary without a key. -/
def erase (dict : Dict Key Value) (key : Key) : Dict Key Value :=
  dict.filter fun entry => entry.1 ≠ key

theorem lookup_erase (dict : Dict Key Value) (key other : Key) :
    List.lookup other (dict.erase key) = if key = other then none else List.lookup other dict := by
  induction dict with
  | nil => simp [erase]
  | cons entry rest inductionHypothesis =>
      rw [erase] at inductionHypothesis ⊢
      by_cases gone : entry.1 = key
      · rw [List.filter_cons_of_neg (by simpa using gone), inductionHypothesis, lookup_cons, gone]
        by_cases same : key = other
        · rw [if_pos same, if_pos same]
        · rw [if_neg same, if_neg same, if_neg same]
      · rw [List.filter_cons_of_pos (by simpa using gone), lookup_cons, inductionHypothesis,
          lookup_cons]
        by_cases same : entry.1 = other
        · have distinct : key ≠ other := fun equal => gone (same.trans equal.symm)
          rw [if_pos same, if_neg distinct, if_pos same]
        · rw [if_neg same, if_neg same]

omit [BEq Key] [LawfulBEq Key] in
theorem mem_keys_erase {dict : Dict Key Value} {key other : Key} :
    other ∈ (dict.erase key).keys ↔ other ∈ dict.keys ∧ other ≠ key := by
  rw [erase, keys, keys, List.mem_map, List.mem_map]
  constructor
  · rintro ⟨entry, member, rfl⟩
    obtain ⟨listed, different⟩ := List.mem_filter.mp member
    exact ⟨⟨entry, listed, rfl⟩, of_decide_eq_true different⟩
  · rintro ⟨⟨entry, listed, rfl⟩, different⟩
    exact ⟨entry, List.mem_filter.mpr ⟨listed, decide_eq_true different⟩, rfl⟩

/-- `dict.setdefault(key, []).append(item)`. -/
def push {Item : Type*} (dict : Dict Key (List Item)) (key : Key) (item : Item) :
    Dict Key (List Item) :=
  dict.set key ((List.lookup key dict).getD [] ++ [item])

theorem lookup_push {Item : Type*} (dict : Dict Key (List Item)) (key other : Key) (item : Item) :
    (List.lookup other (dict.push key item)).getD [] =
      (List.lookup other dict).getD [] ++ if key = other then [item] else [] := by
  rw [push, lookup_set]
  by_cases same : key = other
  · rw [if_pos same, if_pos same, same, Option.getD_some]
  · rw [if_neg same, if_neg same, List.append_nil]

/-- `push` of every item that has a key. -/
def group {Item : Type*} (key? : Item → Option Key) (items : List Item) : Dict Key (List Item) :=
  items.foldl (fun (dict : Dict Key (List Item)) item =>
    match key? item with
    | some own => dict.push own item
    | none => dict) []

/-- The items are grouped under their keys, in their order. -/
theorem lookup_group {Item : Type*} (key? : Item → Option Key) (items : List Item) (key : Key) :
    (List.lookup key (group key? items)).getD [] =
      items.filter fun item => decide (key? item = some key) := by
  induction items using List.reverseRecOn with
  | nil => rfl
  | append_singleton items item inductionHypothesis =>
      rw [group, List.foldl_append, List.foldl_cons, List.foldl_nil, List.filter_append,
        ← inductionHypothesis]
      cases own : key? item with
      | none => simp [own, group]
      | some found =>
          rw [lookup_push]
          by_cases same : found = key <;> simp [own, same, group]

theorem lookup_setAll (dict entries : Dict Key Value) (key : Key) :
    List.lookup key (dict.setAll entries) =
      (lastEntry entries key).or (List.lookup key dict) := by
  induction entries using List.reverseRecOn with
  | nil => rfl
  | append_singleton entries entry inductionHypothesis =>
      rw [setAll, List.foldl_append, List.foldl_cons, List.foldl_nil, lookup_set,
        lastEntry_concat]
      rw [setAll] at inductionHypothesis
      rw [inductionHypothesis]
      by_cases same : entry.1 = key <;> simp [same]

theorem lookup_of_nodup {dict : Dict Key Value} (distinct : dict.keys.Nodup)
    {entry : Key × Value} (member : entry ∈ dict) : List.lookup entry.1 dict = some entry.2 := by
  have overlaid := lookup_setAll ([] : Dict Key Value) dict entry.1
  rw [setAll_of_nodup (by simpa using distinct), List.nil_append,
    lastEntry_of_nodup distinct member] at overlaid
  exact overlaid

theorem lookup_eq_some_iff {dict : Dict Key Value} (distinct : dict.keys.Nodup) {key : Key}
    {value : Value} : List.lookup key dict = some value ↔ (key, value) ∈ dict :=
  ⟨mem_of_lookup, lookup_of_nodup distinct⟩

/-- Two rows of values under the same keys are the same dictionary only when they are
the same row. -/
theorem zip_lookup_iff {keys : List Key} {values others : List Value} (distinct : keys.Nodup)
    (lengths : values.length = keys.length) (lengths' : others.length = keys.length) :
    (∀ key, List.lookup key (keys.zip values) = List.lookup key (keys.zip others)) ↔
      values = others := by
  refine ⟨fun same => ?_, by rintro rfl _; rfl⟩
  refine List.ext_getElem (lengths.trans lengths'.symm) fun i here there => ?_
  have inside : i < keys.length := lengths ▸ here
  have found : ∀ (row : List Value) (length : row.length = keys.length) (bound : i < row.length),
      List.lookup keys[i] (keys.zip row) = some row[i] := by
    intro row length bound
    have member : (keys[i], row[i]) ∈ keys.zip row :=
      List.mem_iff_getElem.mpr ⟨i, by rw [List.length_zip]; omega, List.getElem_zip⟩
    exact lookup_of_nodup (by rwa [keys_zip length]) member
  have equal := same keys[i]
  rw [found values lengths here, found others lengths' there] at equal
  exact Option.some.inj equal

end Lookup

end Dict

/-! ## Items taken two by two -/

/-- `zip(items[0::2], items[1::2])`. -/
def pairs {Item : Type*} : List Item → List (Item × Item)
  | first :: second :: rest => (first, second) :: pairs rest
  | _ => []

section Pairs

variable {Item : Type*}

def unpair (entries : List (Item × Item)) : List Item :=
  entries.flatMap fun entry => [entry.1, entry.2]

theorem pairs_unpair (entries : List (Item × Item)) : pairs (unpair entries) = entries := by
  induction entries with
  | nil => rfl
  | cons entry rest inductionHypothesis =>
      rw [unpair, List.flatMap_cons]
      exact congrArg (entry :: ·) inductionHypothesis

theorem unpair_pairs_begins (items : List Item) : unpair (pairs items) <+: items := by
  fun_induction pairs items with
  | case1 first second rest inductionHypothesis =>
      exact (List.prefix_append_right_inj [first, second]).mpr inductionHypothesis
  | case2 => exact List.nil_prefix

theorem mem_of_mem_pairs {items : List Item} {entry : Item × Item} (member : entry ∈ pairs items) :
    entry.1 ∈ items ∧ entry.2 ∈ items := by
  have inside : ∀ item ∈ [entry.1, entry.2], item ∈ items := fun item listed =>
    (unpair_pairs_begins items).subset (List.mem_flatMap.mpr ⟨entry, member, listed⟩)
  exact ⟨inside _ (by simp), inside _ (by simp)⟩

end Pairs

end OnboxFvt.Library
