import OnboxFvt.Library.Nested

/-!
# Merging profiles

`_deep_merge` and `load` of `framework/profile.py`.  A value that is no mapping, a list or
a null as well, is a leaf.
-/

namespace OnboxFvt.Profile

open Library

variable {Key Leaf : Type} [DecidableEq Key]

mutual

/-- What `_deep_merge` leaves under a key that had the value `old?`. -/
def mergeValue (old? : Option (Nested Key Leaf)) : Nested Key Leaf → Nested Key Leaf
  | .leaf v => .leaf v
  | .node update =>
      match old? with
      | some (.node base) => .node (deepMerge base update)
      | _ => .node update

/-- A round of the loop. -/
def mergeEntry (base : List (Key × Nested Key Leaf)) :
    Key × Nested Key Leaf → List (Key × Nested Key Leaf)
  | (k, v) => Dict.set base k (mergeValue (base.lookup k) v)

/-- `_deep_merge` of two mappings. -/
def deepMerge (base : List (Key × Nested Key Leaf)) :
    List (Key × Nested Key Leaf) → List (Key × Nested Key Leaf)
  | [] => base
  | entry :: rest => deepMerge (mergeEntry base entry) rest

end

/-! ## Under a key -/

variable {base update : List (Key × Nested Key Leaf)}

theorem deepMerge_nil : deepMerge base [] = base := by
  rw [deepMerge]

theorem deepMerge_cons (base rest : List (Key × Nested Key Leaf)) (key : Key)
    (value : Nested Key Leaf) :
    deepMerge base ((key, value) :: rest) =
      deepMerge (Dict.set base key (mergeValue (base.lookup key) value)) rest := by
  rw [deepMerge, mergeEntry]

/-- Each key of the second mapping is merged with what the first one has there. -/
theorem lookup_deepMerge (distinct : (Dict.keys update).Nodup) (key : Key) :
    (deepMerge base update).lookup key =
      match update.lookup key with
      | some value => some (mergeValue (base.lookup key) value)
      | none => base.lookup key := by
  induction update generalizing base with
  | nil => rw [deepMerge]; rfl
  | cons entry rest inductionHypothesis =>
      obtain ⟨own, value⟩ := entry
      rw [Dict.keys_cons, List.nodup_cons] at distinct
      rw [deepMerge_cons, inductionHypothesis distinct.2, Dict.lookup_set, Dict.lookup_cons]
      by_cases same : own = key
      · subst same
        have absent : rest.lookup own = none := Dict.lookup_eq_none_iff.mpr distinct.1
        rw [if_pos rfl, if_pos rfl, absent]
      · rw [if_neg same, if_neg same]

theorem mergeValue_node (old? : Option (Nested Key Leaf)) (update : List (Key × Nested Key Leaf)) :
    (∃ base, old? = some (.node base) ∧
      mergeValue old? (.node update) = .node (deepMerge base update)) ∨
    ((∀ base, old? ≠ some (.node base)) ∧ mergeValue old? (.node update) = .node update) := by
  match old? with
  | none => exact Or.inr ⟨nofun, by rw [mergeValue]; nofun⟩
  | some (.leaf value) => exact Or.inr ⟨nofun, by rw [mergeValue]; nofun⟩
  | some (.node base) => exact Or.inl ⟨base, rfl, by rw [mergeValue]⟩

theorem mergeValue_none (value : Nested Key Leaf) : mergeValue none value = value := by
  cases value <;> rw [mergeValue]
  nofun

/-! ## Along a path -/

theorem at?_deepMerge_of_leaf {path : List Key} {value : Leaf}
    (proper : (Nested.node update).Proper)
    (held : (Nested.node update).at? path = some (.leaf value)) :
    (Nested.node (deepMerge base update)).at? path = some (.leaf value) := by
  induction path generalizing base update with
  | nil => cases held
  | cons key rest inductionHypothesis =>
      obtain ⟨distinct, below⟩ := Nested.proper_node.mp proper
      rw [Nested.at?_cons_node] at held
      obtain ⟨v, found, later⟩ := Option.bind_eq_some_iff.mp held
      rw [Nested.at?_cons_node, lookup_deepMerge distinct, found, Option.bind_some]
      cases v with
      | leaf own => rw [mergeValue]; exact later
      | node update =>
          have inside := below _ (Dict.mem_of_lookup found)
          rcases mergeValue_node (base.lookup key) update with ⟨base, -, merged⟩ | ⟨-, kept⟩
          · rw [merged]
            exact inductionHypothesis inside later
          · rw [kept]
            exact later

/-- No value there, and none that is not a mapping on the way. -/
def Free (update : Nested Key Leaf) (path : List Key) : Prop :=
  update.at? path = none ∧
    ∀ front, front <+: path → front ≠ path → ∀ value, update.at? front ≠ some (.leaf value)

theorem Free.below {key : Key} {path : List Key} {child : Nested Key Leaf}
    (free : Free (.node update) (key :: path)) (found : update.lookup key = some child) :
    Free child path := by
  constructor
  · have none := free.1
    rwa [Nested.at?_cons_node, found] at none
  · intro front begins proper value held
    refine free.2 (key :: front) ((List.prefix_cons_inj key).mpr begins)
      (fun same => proper (List.cons.inj same).2) value ?_
    rw [Nested.at?_cons_node, found]
    exact held

theorem not_free_leaf {path : List Key} {value : Leaf} : ¬ Free (.leaf value) path := by
  intro free
  by_cases empty : path = []
  · rw [empty] at free
    cases free.1
  · exact free.2 [] List.nil_prefix (Ne.symm empty) value rfl

theorem at?_deepMerge_of_free {path : List Key} (proper : (Nested.node update).Proper)
    (free : Free (.node update) path) :
    (Nested.node (deepMerge base update)).at? path = (Nested.node base).at? path := by
  induction path generalizing base update with
  | nil => cases free.1
  | cons key rest inductionHypothesis =>
      obtain ⟨distinct, below⟩ := Nested.proper_node.mp proper
      rw [Nested.at?_cons_node, Nested.at?_cons_node, lookup_deepMerge distinct]
      cases found : update.lookup key with
      | none => rfl
      | some v =>
          have freeBelow := free.below found
          cases v with
          | leaf value => exact absurd freeBelow not_free_leaf
          | node update =>
              have inside := below _ (Dict.mem_of_lookup found)
              dsimp only
              rw [Option.bind_some]
              rcases mergeValue_node (base.lookup key) update with
                ⟨old, same, merged⟩ | ⟨other, kept⟩
              · rw [merged, same, Option.bind_some]
                exact inductionHypothesis inside freeBelow
              · have nonempty : rest ≠ [] := by
                  rintro rfl
                  cases freeBelow.1
                rw [kept, freeBelow.1]
                match old : base.lookup key with
                | none => rfl
                | some (.leaf value) => exact (Nested.at?_leaf nonempty value).symm
                | some (.node entries) => exact absurd old (other entries)

/-! ## A second time -/

/-- A mapping that already holds what a merge would leave is left alone. -/
theorem deepMerge_eq_self
    (settled : ∀ entry ∈ update, ∃ value, base.lookup entry.1 = some value ∧
      mergeValue (some value) entry.2 = value) : deepMerge base update = base := by
  induction update with
  | nil => rw [deepMerge]
  | cons entry rest inductionHypothesis =>
      rw [List.forall_mem_cons] at settled
      obtain ⟨⟨value, found, same⟩, later⟩ := settled
      rw [deepMerge_cons, found, same, Dict.set_lookup found]
      exact inductionHypothesis later

theorem mergeValue_mergeValue {value : Nested Key Leaf} (proper : value.Proper)
    (old? : Option (Nested Key Leaf)) :
    mergeValue (some (mergeValue old? value)) value = mergeValue old? value := by
  induction proper generalizing old? with
  | leaf value => rw [mergeValue, mergeValue]
  | node distinct below inductionHypothesis =>
      rename_i update
      have again (base : List (Key × Nested Key Leaf)) :
          deepMerge (deepMerge base update) update = deepMerge base update := by
        refine deepMerge_eq_self fun entry member => ?_
        refine ⟨mergeValue (base.lookup entry.1) entry.2, ?_, inductionHypothesis entry member _⟩
        rw [lookup_deepMerge distinct, Dict.lookup_of_nodup distinct member]
      have own : deepMerge update update = update := by
        refine deepMerge_eq_self fun entry member => ?_
        have settled := inductionHypothesis entry member none
        rw [mergeValue_none] at settled
        exact ⟨entry.2, Dict.lookup_of_nodup distinct member, settled⟩
      rcases mergeValue_node old? update with ⟨base, -, merged⟩ | ⟨-, kept⟩
      · rw [merged, mergeValue, again]
      · rw [kept, mergeValue, own]

/-! ## Merging mappings -/

theorem proper_mergeValue {value : Nested Key Leaf} (proper : value.Proper)
    {old? : Option (Nested Key Leaf)} (old : ∀ tree, old? = some tree → tree.Proper) :
    (mergeValue old? value).Proper := by
  induction proper generalizing old? with
  | leaf value =>
      rw [mergeValue]
      exact .leaf value
  | node distinct below inductionHypothesis =>
      rename_i update
      rcases mergeValue_node old? update with ⟨base, same, equal⟩ | ⟨-, kept⟩
      · have proper := old _ same
        rw [equal]
        clear same equal old distinct
        induction update generalizing base with
        | nil => rwa [deepMerge]
        | cons entry rest restHypothesis =>
            rw [List.forall_mem_cons] at below inductionHypothesis
            rw [deepMerge_cons]
            refine restHypothesis below.2 inductionHypothesis.2 _ (Nested.proper_set proper _ ?_)
            refine inductionHypothesis.1 fun tree found => ?_
            exact (Nested.proper_node.mp proper).2 _ (Dict.mem_of_lookup found)
      · rw [kept]
        exact .node distinct below

/-- `_deep_merge(base, update)`. -/
def merge (base update : Mapping Key Leaf) : Mapping Key Leaf where
  entries := deepMerge base.entries update.entries
  proper := by
    have old : ∀ tree, some (Nested.node base.entries) = some tree → tree.Proper := by
      rintro tree same
      rw [← Option.some.inj same]
      exact base.proper
    have proper := proper_mergeValue update.proper old
    rwa [mergeValue] at proper

/-- What the second mapping holds is held by the merge, what it leaves free is as in the first
one, and merging it a second time changes nothing. -/
theorem merge_right_biased (base update : Mapping Key Leaf) :
    (∀ path value, update.at? path = some (.leaf value) →
      (merge base update).at? path = some (.leaf value)) ∧
    (∀ path, Free (.node update.entries) path → (merge base update).at? path = base.at? path) ∧
    merge (merge base update) update = merge base update := by
  refine ⟨fun path value held => at?_deepMerge_of_leaf update.proper held,
    fun path free => at?_deepMerge_of_free update.proper free, ?_⟩
  have again := mergeValue_mergeValue update.proper (some (.node base.entries))
  rw [mergeValue, mergeValue] at again
  exact Mapping.ext (Nested.node.inj again)

/-! ## The profile of a device -/

/-- `profiles.yaml`: the defaults and a section, perhaps a null one, for each device. -/
structure ProfileFile (Key Leaf : Type) where
  defaults : Mapping Key Leaf
  devices : Dict Key (Option (Mapping Key Leaf))

/-- `devs.get(name)`, where that is a section with something in it. -/
def ProfileFile.device? (file : ProfileFile Key Leaf) (name : Option Key) :
    Option (Mapping Key Leaf) :=
  ((name.bind fun key => file.devices.lookup key).bind id).filter fun found =>
    !found.entries.isEmpty

/-- `load`. -/
def load (file : ProfileFile Key Leaf) (platform hwsku : Option Key) : Mapping Key Leaf :=
  match (file.device? platform).or (file.device? hwsku) with
  | some dev => merge file.defaults dev
  | none => file.defaults

/-- A device without a section has the defaults, as if its section were empty. -/
theorem load_eq (file : ProfileFile Key Leaf) (platform hwsku : Option Key) :
    load file platform hwsku =
      merge file.defaults (((file.device? platform).or (file.device? hwsku)).getD .empty) := by
  rw [load]
  split
  next found => rw [found, Option.getD_some]
  next absent =>
      rw [absent, Option.getD_none]
      exact Mapping.ext deepMerge_nil.symm

end OnboxFvt.Profile
