import OnboxFvt.Gcu.Patch
import OnboxFvt.Library.Dict
import OnboxFvt.Library.Run

/-!
# Baselines of several tests

`build_baseline` of `framework/qos.py` and what it returns, as far as they change PORT_QOS_MAP.
A baseline that could not be bound is unbound all the same when it is undone, and
`_unbind_port_qos` then takes the row of another port along if that is the only one.
-/

namespace OnboxFvt.Gcu

open Library Python

section

variable {Row : Type*}

/-- What `_unbind_port_qos` leaves of the rows of PORT_QOS_MAP. -/
def unbindRows (rows : Dict Text Row) (port : Text) : Dict Text Row :=
  if rows.isEmpty then rows else if rows.length ≤ 1 then [] else rows.erase port

inductive Sub
  | add
  | update
  deriving DecidableEq

/-- Adding is refused where there is a row, and updating where there is none. -/
def portQosMapCommand (rows : Dict Text Row) (port : Text) (landed : Option Row) :
    Sub → Dict Text Row
  | .add => if (rows.lookup port).isSome then rows else (landed.map (rows.set port)).getD rows
  | .update => if (rows.lookup port).isSome then (landed.map (rows.set port)).getD rows else rows

/-- What the undoing of a baseline knows. -/
structure Baseline (Row : Type*) where
  port : Text
  orig : Option Row

/-- `build_baseline`, given the row that its command leaves, if any. -/
def buildBaseline (rows : Dict Text Row) (port : Text) (landed : Option Row) :
    Baseline Row × Dict Text Row :=
  let orig := rows.lookup port
  let sub := if orig.isSome then Sub.update else Sub.add
  (⟨port, orig⟩, portQosMapCommand rows port landed sub)

/-- Replacing a row that is not there is refused. -/
def Baseline.undo (rows : Dict Text Row) (baseline : Baseline Row) : Dict Text Row :=
  match baseline.orig with
  | some row =>
      if (rows.lookup baseline.port).isSome then rows.set baseline.port row else rows
  | none => unbindRows rows baseline.port

structure Baselines (Row : Type*) where
  rows : Dict Text Row
  stack : List (Baseline Row)

inductive BaselineAction (Row : Type*)
  | build (port : Text) (landed : Option Row)
  | undo

/-- The last baseline that has been built is the first to be undone. -/
def baselines : Machine (Baselines Row) (BaselineAction Row) where
  step state action :=
    match action with
    | .build port landed =>
        some {
          rows := (buildBaseline state.rows port landed).2
          stack := (buildBaseline state.rows port landed).1 :: state.stack }
    | .undo =>
        match state.stack with
        | [] => none
        | baseline :: rest => some ⟨baseline.undo state.rows, rest⟩

/-- A baseline without a row of its own to restore is undone while another port, which had a row
at first, has the only one. -/
def BaselineAction.TakesAlong (first : Dict Text Row) (state : Baselines Row) :
    BaselineAction Row → Prop
  | .build _ _ => False
  | .undo =>
      match state.stack with
      | [] => False
      | baseline :: _ => baseline.orig = none ∧
          ∃ other, state.rows.keys = [other] ∧ other ≠ baseline.port ∧
            (first.lookup other).isSome = true

/-! ## Rows -/

theorem lookup_unbindRows (rows : Dict Text Row) (port key : Text) :
    (unbindRows rows port).lookup key =
      if port = key ∨ rows.keys = [key] then none else rows.lookup key := by
  rw [unbindRows]
  match rows with
  | [] => simp
  | [entry] =>
      rw [if_neg (by simp), if_pos (by simp), Dict.lookup_cons]
      by_cases here : entry.1 = key
      · have single : Dict.keys [entry] = [key] := congrArg (fun name => [name]) here
        rw [if_pos (Or.inr single)]
        rfl
      · rw [if_neg here]
        split <;> rfl
  | first :: second :: rest =>
      have several : Dict.keys (first :: second :: rest) ≠ [key] := by simp [Dict.keys]
      rw [if_neg (by simp), if_neg (by simp), Dict.lookup_erase]
      simp only [several, or_false]

theorem lookup_buildBaseline (rows : Dict Text Row) (port key : Text) (landed : Option Row) :
    (buildBaseline rows port landed).2.lookup key =
      if port = key then landed.or (rows.lookup key) else rows.lookup key := by
  rw [buildBaseline]
  cases found : rows.lookup port with
  | none =>
      cases landed with
      | none => simp [portQosMapCommand]
      | some row => simp [portQosMapCommand, found, Dict.lookup_set]
  | some before =>
      cases landed with
      | none => simp [portQosMapCommand]
      | some row => simp [portQosMapCommand, found, Dict.lookup_set]

theorem Baseline.lookup_undo_of_some (rows : Dict Text Row) {baseline : Baseline Row} {row : Row}
    (shipped : baseline.orig = some row) (key : Text) :
    (baseline.undo rows).lookup key =
      if baseline.port = key then (rows.lookup key).map fun _ => row else rows.lookup key := by
  rw [undo, shipped]
  dsimp only
  cases found : rows.lookup baseline.port with
  | none =>
      by_cases same : baseline.port = key
      · rw [if_pos same, ← same, found]
        exact found
      · rw [if_neg same]
        rfl
  | some before =>
      rw [Option.isSome_some, if_pos rfl, Dict.lookup_set]
      by_cases same : baseline.port = key
      · rw [if_pos same, if_pos same, ← same, found]
        rfl
      · rw [if_neg same, if_neg same]

/-! ## Rows that are there at first -/

/-- What a port will have once the baselines have been undone. -/
def settled (key : Text) : List (Baseline Row) → Option Row → Option Row
  | [], current => current
  | baseline :: rest, current =>
      settled key rest (if baseline.port = key then baseline.orig else current)

/-- The row is there, and every baseline of its port has one to restore. -/
structure Kept (key : Text) (row : Row) (state : Baselines Row) : Prop where
  there : (state.rows.lookup key).isSome = true
  shipped : ∀ baseline ∈ state.stack, baseline.port = key → baseline.orig.isSome = true
  settles : settled key state.stack (state.rows.lookup key) = some row

/-- There is no row, or a baseline of the port will unbind it. -/
def Lost (key : Text) (state : Baselines Row) : Prop :=
  state.rows.lookup key = none ∨
    ∃ baseline ∈ state.stack, baseline.port = key ∧ baseline.orig = none

variable {first : Dict Text Row} {key : Text} {row : Row} {state next : Baselines Row}
  {action : BaselineAction Row}

theorem Kept.build (kept : Kept key row state) (port : Text) (landed : Option Row) :
    Kept key row ⟨(buildBaseline state.rows port landed).2,
      (buildBaseline state.rows port landed).1 :: state.stack⟩ := by
  refine ⟨?_, fun baseline member same => ?_, ?_⟩
  · rw [lookup_buildBaseline]
    split
    · rw [Option.isSome_or, kept.there, Bool.or_true]
    · exact kept.there
  · rcases List.mem_cons.mp member with rfl | later
    · have named : port = key := same
      exact named ▸ kept.there
    · exact kept.shipped baseline later same
  · rw [settled, lookup_buildBaseline]
    by_cases same : port = key
    · subst same
      exact (congrArg (settled port state.stack) (if_pos rfl)).trans kept.settles
    · rw [if_neg same]
      exact (congrArg (settled key state.stack) (if_neg same)).trans kept.settles

/-- Undoing a baseline of the port itself restores its row, and one of another port leaves it
alone unless it takes it along. -/
theorem Kept.undo {baseline : Baseline Row} {rest : List (Baseline Row)} {rows : Dict Text Row}
    (kept : Kept key row ⟨rows, baseline :: rest⟩)
    (alone : baseline.orig = none → rows.keys ≠ [key]) :
    Kept key row ⟨baseline.undo rows, rest⟩ := by
  have settles := kept.settles
  rw [settled] at settles
  have after : (baseline.undo rows).lookup key =
      if baseline.port = key then baseline.orig else rows.lookup key := by
    cases shipped : baseline.orig with
    | some before =>
        rw [baseline.lookup_undo_of_some rows shipped]
        obtain ⟨current, found⟩ := Option.isSome_iff_exists.mp kept.there
        rw [found]
        rfl
    | none =>
        have other : baseline.port ≠ key := by
          intro same
          have some' := kept.shipped baseline (List.mem_cons_self ..) same
          rw [shipped] at some'
          cases some'
        rw [Baseline.undo, shipped, if_neg other]
        exact (lookup_unbindRows rows baseline.port key).trans
          (if_neg (not_or.mpr ⟨other, alone shipped⟩))
  refine ⟨?_, fun other member => kept.shipped other (List.mem_cons_of_mem baseline member), ?_⟩
  · rw [after]
    split
    next same => exact kept.shipped baseline (List.mem_cons_self ..) same
    next => exact kept.there
  · rw [after]
    exact settles

theorem Kept.step (kept : Kept key row state) (present : first.lookup key = some row)
    (careful : ¬action.TakesAlong first state)
    (stepped : baselines.step state action = some next) : Kept key row next := by
  cases action with
  | build port landed =>
      cases stepped
      exact kept.build port landed
  | undo =>
      obtain ⟨rows, stack⟩ := state
      cases stack with
      | nil => cases stepped
      | cons baseline rest =>
          cases stepped
          refine kept.undo fun absent single => careful ⟨absent, key, single, fun same => ?_, ?_⟩
          · have shipped := kept.shipped baseline (List.mem_cons_self ..) same.symm
            rw [absent] at shipped
            cases shipped
          · rw [present]
            rfl

/-! ## Rows that are not -/

theorem Lost.step (lost : Lost key state) (stepped : baselines.step state action = some next) :
    Lost key next := by
  cases action with
  | build port landed =>
      cases stepped
      rcases lost with absent | ⟨baseline, member, rest⟩
      · by_cases same : port = key
        · subst same
          exact Or.inr ⟨_, List.mem_cons_self .., rfl, absent⟩
        · exact Or.inl ((lookup_buildBaseline state.rows port key landed).trans
            ((if_neg same).trans absent))
      · exact Or.inr ⟨baseline, List.mem_cons_of_mem _ member, rest⟩
  | undo =>
      obtain ⟨rows, stack⟩ := state
      cases stack with
      | nil => cases stepped
      | cons baseline rest =>
          cases stepped
          rcases lost with absent | ⟨owner, member, same, unbinds⟩
          · refine Or.inl ?_
            cases shipped : baseline.orig with
            | some before =>
                rw [baseline.lookup_undo_of_some rows shipped, absent]
                exact ite_self none
            | none =>
                rw [Baseline.undo, shipped]
                refine (lookup_unbindRows rows baseline.port key).trans ?_
                rw [absent]
                exact ite_self none
          · rcases List.mem_cons.mp member with rfl | later
            · refine Or.inl ?_
              rw [Baseline.undo, unbinds]
              exact (lookup_unbindRows rows owner.port key).trans (if_pos (Or.inl same))
            · exact Or.inr ⟨owner, later, same, unbinds⟩

theorem lost_of_takesAlong (takes : action.TakesAlong first state)
    (stepped : baselines.step state action = some next) :
    ∃ key, (first.lookup key).isSome = true ∧ Lost key next := by
  cases action with
  | build => exact takes.elim
  | undo =>
      obtain ⟨rows, stack⟩ := state
      cases stack with
      | nil => cases stepped
      | cons baseline rest =>
          cases stepped
          obtain ⟨absent, other, single, -, present⟩ := takes
          refine ⟨other, present, Or.inl ?_⟩
          rw [Baseline.undo, absent]
          exact (lookup_unbindRows rows baseline.port other).trans (if_pos (Or.inr single))

/-! ## Runs -/

theorem kept_or_lost {actions : List (BaselineAction Row)} {last : Baselines Row}
    (kept : ∀ key row, first.lookup key = some row → Kept key row state)
    (reached : baselines.run state actions = some last) :
    baselines.Along (fun state action => ¬action.TakesAlong first state) state actions ∧
        (∀ key row, first.lookup key = some row → Kept key row last) ∨
      ¬baselines.Along (fun state action => ¬action.TakesAlong first state) state actions ∧
        ∃ key, (first.lookup key).isSome = true ∧ Lost key last := by
  refine baselines.spared_or_fated (fun state action => action.TakesAlong first state)
    (fun state => ∀ key row, first.lookup key = some row → Kept key row state)
    (fun state => ∃ key, (first.lookup key).isSome = true ∧ Lost key state)
    ?_ ?_ ?_ kept reached
  · intro state action next kept careful stepped key row present
    exact (kept key row present).step present careful stepped
  · exact fun _ takes stepped => lost_of_takesAlong takes stepped
  · rintro _ _ _ ⟨key, present, lost⟩ stepped
    exact ⟨key, present, lost.step stepped⟩

/-- However baselines are nested: once all are undone, PORT_QOS_MAP reads as at first exactly if
no row that was there has been taken along. -/
theorem baselines_undone_iff (first last : Dict Text Row) (actions : List (BaselineAction Row))
    (reached : baselines.run ⟨first, []⟩ actions = some ⟨last, []⟩) :
    (∀ key, last.lookup key = first.lookup key) ↔
      baselines.Along (fun state action => ¬action.TakesAlong first state) ⟨first, []⟩
        actions := by
  have initially : ∀ key row, first.lookup key = some row → Kept key row ⟨first, []⟩ := by
    intro key row present
    refine ⟨?_, fun _ member => absurd member List.not_mem_nil, present⟩
    exact Option.isSome_iff_exists.mpr ⟨row, present⟩
  have gone : ∀ key, Lost key ⟨last, []⟩ → last.lookup key = none := by
    rintro key (absent | ⟨_, member, _⟩)
    · exact absent
    · cases member
  rcases kept_or_lost initially reached with ⟨along, kept⟩ | ⟨taken, key, present, lost⟩
  · refine iff_of_true (fun key => ?_) along
    cases found : first.lookup key with
    | none =>
        have lost : Lost key ⟨first, []⟩ := Or.inl found
        exact gone key (baselines.preserved_of_run Lost.step lost reached)
    | some row => exact (kept key row found).settles
  · refine iff_of_false (fun same => ?_) taken
    rw [← same key, gone key lost] at present
    cases present

/-- The row of the first port is restored, and the one that the second has got is removed. -/
def nestedBaselines : List (BaselineAction Nat) :=
  [.build "Ethernet0".toList (some 1), .build "Ethernet4".toList (some 1), .undo, .undo]

theorem nestedBaselines_careful :
    baselines.Along (fun state action => ¬action.TakesAlong [("Ethernet0".toList, 0)] state)
      ⟨[("Ethernet0".toList, 0)], []⟩ nestedBaselines :=
  (baselines_undone_iff [("Ethernet0".toList, 0)] [("Ethernet0".toList, 0)] nestedBaselines
    rfl).mp fun _ => rfl

end

/-! ## The patch -/

theorem entry_patched_remove (json : Json) (table key : Text) (tokens : List Text)
    (below : tokens <+: [table, key]) (named : tokens ≠ []) :
    entry (patched json [.remove (path tokens)]) table key = none := by
  obtain ⟨rest, whole⟩ := below
  rw [patched, applyPatch_remove, entry, ← whole]
  cases removed : Json.remove tokens json with
  | none =>
      rw [Option.getD_none, Json.at?_append, Json.remove_eq_none named removed]
      rfl
  | some after => exact Json.at?_remove_below removed rest

theorem entry_patched_remove_other (json : Json) (table : Text) {key other : Text}
    (different : other ≠ key) :
    entry (patched json [.remove (path [table, key])]) table other = entry json table other := by
  rw [patched, applyPatch_remove]
  cases removed : Json.remove [table, key] json with
  | none => rfl
  | some after =>
      have otherEntry : (table, other) ≠ (table, key) :=
        fun same => different (Prod.ext_iff.mp same).2
      exact Json.at?_remove_apart removed (apart_of_key otherEntry)

/-- The rows are those of the table that the patch is applied to. -/
theorem entry_unbound (db : ConfigDb) (portName : PortName) (key : Text) :
    entry (unbound db portName) portQosMap.val key =
      (unbindRows (db.entries portQosMap) portName.val).lookup key := by
  rw [unbound_eq, removeEntry, db.length_dbKeys, ConfigDb.keys, List.length_map, unbindRows]
  split
  next empty =>
    rw [if_pos (List.isEmpty_iff_length_eq_zero.mpr empty)]
    exact db.entry_toJson portQosMap key
  next several =>
    rw [if_neg fun empty => several (List.isEmpty_iff_length_eq_zero.mp empty)]
    split
    · exact entry_patched_remove _ _ _ [portQosMap.val] ⟨[key], rfl⟩ (List.cons_ne_nil _ _)
    · rw [Dict.lookup_erase]
      by_cases same : portName.val = key
      · rw [if_pos same, same]
        exact entry_patched_remove _ _ _ [portQosMap.val, key] ⟨[], rfl⟩ (List.cons_ne_nil _ _)
      · rw [if_neg same, entry_patched_remove_other _ _ (Ne.symm same)]
        exact db.entry_toJson portQosMap key

end OnboxFvt.Gcu
