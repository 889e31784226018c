import Mathlib.Data.Finset.Insert
import Mathlib.Data.List.Nodup
import Mathlib.Order.WellFounded

/-!
# Bounded retry over a dependency relation

Items are attempted one after the other; an attempt succeeds when every blocker
of the item has succeeded before.  A sweep attempts each item of a list once,
and retrying means sweeping again.  How many sweeps an item needs is the number
of blockers on some dependency chain that come after the item they block.
-/

namespace OnboxFvt.Library

universe u

variable {Item : Type u} [DecidableEq Item]

/-- The items done after one sweep that started with `done`. -/
def sweep (blockers : Item → Finset Item) : List Item → Finset Item → Finset Item
  | [], done => done
  | item :: rest, done =>
      sweep blockers rest (if blockers item ⊆ done then insert item done else done)

/-- The items done after `count` sweeps from nothing. -/
def sweeps (blockers : Item → Finset Item) (order : List Item) : Nat → Finset Item
  | 0 => ∅
  | count + 1 => sweep blockers order (sweeps blockers order count)

/-- A set that contains the blockers of its items. -/
def Settled (blockers : Item → Finset Item) (done : Finset Item) : Prop :=
  ∀ item ∈ done, blockers item ⊆ done

variable {blockers : Item → Finset Item}

theorem Settled.attempt {done : Finset Item} (settled : Settled blockers done) (item : Item) :
    Settled blockers (if blockers item ⊆ done then insert item done else done) := by
  by_cases ready : blockers item ⊆ done
  · rw [if_pos ready]
    intro other member
    rcases Finset.mem_insert.mp member with rfl | member
    · exact ready.trans (Finset.subset_insert _ _)
    · exact (settled other member).trans (Finset.subset_insert _ _)
  · rwa [if_neg ready]

theorem Settled.sweep {done : Finset Item} (settled : Settled blockers done)
    (order : List Item) : Settled blockers (sweep blockers order done) := by
  induction order generalizing done with
  | nil => exact settled
  | cons item rest inductionHypothesis => exact inductionHypothesis (settled.attempt item)

theorem settled_sweeps (order : List Item) (count : Nat) :
    Settled blockers (sweeps blockers order count) := by
  induction count with
  | zero => intro item member; simp [sweeps] at member
  | succ count inductionHypothesis => exact inductionHypothesis.sweep order

theorem subset_sweep (order : List Item) (done : Finset Item) :
    done ⊆ sweep blockers order done := by
  induction order generalizing done with
  | nil => exact Finset.Subset.refl _
  | cons item rest inductionHypothesis =>
      refine Finset.Subset.trans ?_ (inductionHypothesis _)
      split
      · exact Finset.subset_insert _ _
      · exact Finset.Subset.refl _

theorem mem_or_mem_of_mem_sweep {order : List Item} {done : Finset Item} {item : Item}
    (member : item ∈ sweep blockers order done) : item ∈ done ∨ item ∈ order := by
  induction order generalizing done with
  | nil => exact .inl member
  | cons head rest inductionHypothesis =>
      rcases inductionHypothesis member with earlier | later
      · split at earlier
        · rcases Finset.mem_insert.mp earlier with rfl | earlier
          · exact .inr (List.mem_cons_self ..)
          · exact .inl earlier
        · exact .inl earlier
      · exact .inr (List.mem_cons_of_mem _ later)

/-- Attempting a done item again changes nothing, so a retry may skip it. -/
theorem sweep_filter_notMem (order : List Item) (before done : Finset Item)
    (kept : before ⊆ done) :
    sweep blockers (order.filter (· ∉ before)) done = sweep blockers order done := by
  induction order generalizing done with
  | nil => rfl
  | cons item rest inductionHypothesis =>
      by_cases member : item ∈ before
      · have present : item ∈ done := kept member
        rw [List.filter_cons_of_neg (by simpa using member), sweep,
          Finset.insert_eq_of_mem present, ite_self]
        exact inductionHypothesis done kept
      · rw [List.filter_cons_of_pos (by simpa using member), sweep, sweep]
        refine inductionHypothesis _ (kept.trans ?_)
        split
        · exact Finset.subset_insert _ _
        · exact Finset.Subset.refl _

omit [DecidableEq Item] in
theorem pair_sublist_cons_iff {first second head : Item} {rest : List Item} :
    [first, second].Sublist (head :: rest) ↔
      [first, second].Sublist rest ∨ first = head ∧ second ∈ rest := by
  rw [List.sublist_cons_iff]
  refine or_congr_right ?_
  constructor
  · rintro ⟨tail, shape, inside⟩
    obtain ⟨rfl, rfl⟩ := List.cons.inj shape
    exact ⟨rfl, List.singleton_sublist.mp inside⟩
  · rintro ⟨rfl, member⟩
    exact ⟨[second], rfl, List.singleton_sublist.mpr member⟩

/-- What one sweep adds: an item whose blockers were done, or come earlier in
the sweep and are done by it too. -/
theorem mem_sweep_iff {order : List Item} (distinct : order.Nodup) {done : Finset Item}
    (settled : Settled blockers done) (item : Item) :
    item ∈ sweep blockers order done ↔
      item ∈ done ∨ item ∈ order ∧ ∀ blocker ∈ blockers item,
        blocker ∈ done ∨ [blocker, item].Sublist order ∧ blocker ∈ sweep blockers order done := by
  induction order generalizing done with
  | nil => simp [sweep]
  | cons head rest inductionHypothesis =>
      have fresh : head ∉ rest := (List.nodup_cons.mp distinct).1
      have step := inductionHypothesis (List.nodup_cons.mp distinct).2 (settled.attempt head)
      set next := if blockers head ⊆ done then insert head done else done with nextDef
      have mem_next : ∀ other, other ∈ next ↔
          other ∈ done ∨ other = head ∧ blockers head ⊆ done := by
        intro other
        rw [nextDef]
        by_cases ready : blockers head ⊆ done
        · simp [ready, or_comm]
        · simp [ready]
      change item ∈ sweep blockers rest next ↔ item ∈ done ∨ item ∈ head :: rest ∧
        ∀ blocker ∈ blockers item, blocker ∈ done ∨
          [blocker, item].Sublist (head :: rest) ∧ blocker ∈ sweep blockers rest next
      rw [step]
      constructor
      · rintro (now | ⟨member, ready⟩)
        · rcases (mem_next item).mp now with earlier | ⟨rfl, ready⟩
          · exact .inl earlier
          · exact .inr ⟨List.mem_cons_self .., fun blocker blocking => .inl (ready blocking)⟩
        · refine .inr ⟨List.mem_cons_of_mem _ member, fun blocker blocking => ?_⟩
          rcases ready blocker blocking with now | ⟨before, later⟩
          · rcases (mem_next blocker).mp now with earlier | ⟨rfl, _⟩
            · exact .inl earlier
            · exact .inr ⟨pair_sublist_cons_iff.mpr (.inr ⟨rfl, member⟩), subset_sweep _ _ now⟩
          · exact .inr ⟨before.cons _, later⟩
      · rintro (earlier | ⟨member, ready⟩)
        · exact .inl ((mem_next item).mpr (.inl earlier))
        · rcases List.mem_cons.mp member with rfl | member
          · -- the head has nothing before it, so its blockers were done
            refine .inl ((mem_next item).mpr (.inr ⟨rfl, fun blocker blocking => ?_⟩))
            rcases ready blocker blocking with earlier | ⟨before, _⟩
            · exact earlier
            · rcases pair_sublist_cons_iff.mp before with inside | ⟨_, inRest⟩
              · exact absurd (inside.subset (by simp)) fresh
              · exact absurd inRest fresh
          · refine .inr ⟨member, fun blocker blocking => ?_⟩
            rcases ready blocker blocking with earlier | ⟨before, later⟩
            · exact .inl ((mem_next blocker).mpr (.inl earlier))
            · rcases pair_sublist_cons_iff.mp before with inside | ⟨rfl, _⟩
              · exact .inr ⟨inside, later⟩
              · rcases mem_or_mem_of_mem_sweep later with now | inRest
                · exact .inl now
                · exact absurd inRest fresh

/-- A chain of blockers ending at an item, `count` of which are attempted only
after the item they block.  `Early blocker item` says the blocker is attempted
before. -/
inductive LateChain (blockers : Item → Finset Item) (Early : Item → Item → Prop) :
    Nat → Item → Prop where
  | start {item} : LateChain blockers Early 0 item
  | step {count item blocker} : blocker ∈ blockers item →
      LateChain blockers Early count blocker → LateChain blockers Early count item
  | late {count item blocker} : blocker ∈ blockers item → ¬ Early blocker item →
      LateChain blockers Early count blocker → LateChain blockers Early (count + 1) item

variable {Early : Item → Item → Prop}

omit [DecidableEq Item] in
theorem LateChain.pred {count : Nat} {item : Item}
    (chain : LateChain blockers Early (count + 1) item) :
    LateChain blockers Early count item := by
  generalize total : count + 1 = length at chain
  induction chain with
  | start => omega
  | step blocking _ inductionHypothesis => exact .step blocking (inductionHypothesis total)
  | late blocking _ chain _ =>
      obtain rfl := Nat.succ.inj total
      exact .step blocking chain

omit [DecidableEq Item] in
theorem lateChain_succ_iff (count : Nat) (item : Item) :
    LateChain blockers Early (count + 1) item ↔
      ∃ blocker ∈ blockers item, LateChain blockers Early (count + 1) blocker ∨
        ¬ Early blocker item ∧ LateChain blockers Early count blocker := by
  constructor
  · intro chain
    cases chain with
    | step blocking chain => exact ⟨_, blocking, .inl chain⟩
    | late blocking late chain => exact ⟨_, blocking, .inr ⟨late, chain⟩⟩
  · rintro ⟨blocker, blocking, chain | ⟨late, chain⟩⟩
    · exact .step blocking chain
    · exact .late blocking late chain

/-- After `count` sweeps exactly those items are done on which no chain with
`count` late blockers ends. -/
theorem mem_sweeps_iff (acyclic : WellFounded fun blocker item => blocker ∈ blockers item)
    {order : List Item} (distinct : order.Nodup)
    (registered : ∀ item ∈ order, ∀ blocker ∈ blockers item, blocker ∈ order)
    (count : Nat) {item : Item} (member : item ∈ order) :
    item ∈ sweeps blockers order count ↔
      ¬ LateChain blockers (fun blocker item => [blocker, item].Sublist order) count item := by
  induction count generalizing item with
  | zero => simp [sweeps, LateChain.start]
  | succ count previous =>
      induction item using acyclic.induction with
      | _ item byBlocker =>
      rw [sweeps, mem_sweep_iff distinct (settled_sweeps order count), ← sweeps,
        previous member, lateChain_succ_iff]
      push Not
      constructor
      · rintro (done | ⟨_, ready⟩) blocker blocking
        · have chainless : ¬ LateChain blockers _ count blocker := fun chain =>
            done (.step blocking chain)
          exact ⟨fun chain => chainless chain.pred, fun _ => chainless⟩
        · have inOrder := registered item member blocker blocking
          rcases ready blocker blocking with done | ⟨early, done⟩
          · have chainless := (previous inOrder).mp done
            exact ⟨fun chain => chainless chain.pred, fun _ => chainless⟩
          · exact ⟨(byBlocker blocker blocking inOrder).mp done,
              fun late => absurd early late⟩
      · intro none
        refine .inr ⟨member, fun blocker blocking => ?_⟩
        have inOrder := registered item member blocker blocking
        by_cases early : [blocker, item].Sublist order
        · exact .inr ⟨early, (byBlocker blocker blocking inOrder).mpr (none blocker blocking).1⟩
        · exact .inl ((previous inOrder).mpr ((none blocker blocking).2 early))

end OnboxFvt.Library
