import OnboxFvt.Fdb.Waits
import OnboxFvt.Library.Glob

/-!
# Deleting a static entry

`Cli.fdb_static_del` of `framework/cli.py` on the switchport OS.  What the product command has
left is looked for in any letter case, but deleted in lower case only.
-/

namespace OnboxFvt.Fdb

open Library Python

def fdbTable : Text :=
  "FDB|Vlan".toList

def fdbKey (vlan : Nat) (stored : Text) : Text :=
  fdbTable ++ (decimal vlan ++ '|' :: stored)

/-- The entry to be deleted, for swssconfig. -/
def delJson (vlan : Nat) (mac : Text) : Text :=
  "[\x7b\"".toList ++ tableKey vlan mac ++ "\": \x7b\x7d, \"OP\": \"DEL\"\x7d]".toList

/-- The key is one of the VLAN and the address, in whatever case it is stored. -/
def IsFor (vlan : Nat) (mac : Text) (key : Text) : Prop :=
  ∃ stored, key = fdbKey vlan stored ∧ lower stored = lower mac

/-- What the product command makes of the keys of CONFIG_DB: which of them are left at each poll,
and in the end.  It removes no others than those of the VLAN and the address. -/
structure Outcome (vlan : Nat) (mac : Text) (keys : List Text) where
  left : Nat → List Text
  shrinks : ∀ i, left (i + 1) ⊆ left i
  keeps : ∀ i, ∀ key ∈ keys, ¬ IsFor vlan mac key → key ∈ left i

structure Deleted where
  issued : List Issued
  keys : List Text

section Deletion

variable (glob : Glob) (vlan : Nat) (mac : Text)

/-- `left`, of one poll. -/
def stillThere (keys : List Text) : List Text :=
  (keys.filter (glob.isMatch (fdbKey vlan ['*']))).filter fun k => contains (lower mac) (lower k)

/-- The polls from the `i`-th one on, and the deletion after the last of them. -/
def pollLeft (left : Nat → List Text) : Nat → Nat → Deleted
  | 0, i =>
      let key := fdbKey vlan (lower mac)
      { issued := [.sh ("sonic-db-cli CONFIG_DB DEL '".toList ++ key ++ "'".toList)]
        keys := (left i).filter (· ≠ key) }
  | rounds + 1, i =>
      if (stillThere glob vlan mac (left i)).isEmpty then { issued := [], keys := left i }
      else pollLeft left rounds (i + 1)

def fdbStaticDel {keys : List Text} (outcome : Outcome vlan mac keys) : Deleted :=
  let polled := pollLeft glob vlan mac outcome.left 6 0
  { issued := .configRaw ("mac static del ".toList ++ decimal vlan ++ ' ' :: mac) ::
      (polled.issued ++ [.swssconfig (delJson vlan mac)])
    keys := polled.keys }

end Deletion

/-- No key of the VLAN and the address is left, and every other key is. -/
structure Clears (vlan : Nat) (mac : Text) (keys left : List Text) : Prop where
  cleared : ∀ key ∈ left, ¬ IsFor vlan mac key
  kept : ∀ key ∈ keys, ¬ IsFor vlan mac key → key ∈ left

/-! ## The polls -/

section Polls

variable {glob : Glob} {vlan : Nat} {mac : MacText}

theorem isDigit_globCharacters : ∀ c ∈ globCharacters, c.isDigit = false :=
  forall_of_all (by decide)

theorem literal_fdbKey (vlan : Nat) : Literal (fdbKey vlan []) := by
  have digits : Literal (decimal vlan) := by
    intro c member special
    have digit := isDigit_of_mem_decimal member
    rw [isDigit_globCharacters c special] at digit
    cases digit
  exact literal_append (literal_of_all (by decide))
    (literal_append digits (literal_of_all (by decide)))

theorem fdbKey_append (vlan : Nat) (first second : Text) :
    fdbKey vlan (first ++ second) = fdbKey vlan first ++ second := by
  simp [fdbKey]

theorem isFor_lower : IsFor vlan mac.text (fdbKey vlan (lower mac.text)) :=
  ⟨_, rfl, lower_lower mac.ascii_text⟩

/-- Every key of the VLAN and the address is found. -/
theorem mem_stillThere {keys : List Text} {key : Text} (member : key ∈ keys)
    (isFor : IsFor vlan mac.text key) : key ∈ stillThere glob vlan mac.text keys := by
  obtain ⟨stored, rfl, same⟩ := isFor
  have split : fdbKey vlan stored = fdbKey vlan [] ++ stored := fdbKey_append vlan [] stored
  refine List.mem_filter.mpr ⟨List.mem_filter.mpr ⟨member, ?_⟩, ?_⟩
  · have listed := (glob.star (literal_fdbKey vlan) (fdbKey vlan stored)).mpr ⟨stored, split.symm⟩
    rwa [← fdbKey_append] at listed
  · rw [contains_iff, split, lower_append, same]
    exact (List.suffix_append ..).isInfix

variable {keys : List Text} (outcome : Outcome vlan mac.text keys)

theorem Outcome.left_subset (i rounds : Nat) : outcome.left (i + rounds) ⊆ outcome.left i := by
  induction rounds with
  | zero => exact List.Subset.refl _
  | succ rounds inductionHypothesis =>
      exact List.Subset.trans (outcome.shrinks (i + rounds)) inductionHypothesis

theorem clears_pollLeft_iff (rounds i : Nat) :
    Clears vlan mac.text keys (pollLeft glob vlan mac.text outcome.left rounds i).keys ↔
      ∀ key ∈ outcome.left (i + rounds), IsFor vlan mac.text key →
        key = fdbKey vlan (lower mac.text) := by
  induction rounds generalizing i with
  | zero =>
      rw [pollLeft, Nat.add_zero]
      constructor
      · intro clears key member isFor
        by_contra other
        exact clears.cleared key (List.mem_filter.mpr ⟨member, decide_eq_true other⟩) isFor
      · intro lowered
        refine ⟨fun key member isFor => ?_, fun key member notFor => ?_⟩
        · obtain ⟨inside, other⟩ := List.mem_filter.mp member
          exact of_decide_eq_true other (lowered key inside isFor)
        · refine List.mem_filter.mpr ⟨outcome.keeps i key member notFor, decide_eq_true ?_⟩
          rintro rfl
          exact notFor isFor_lower
  | succ rounds inductionHypothesis =>
      rw [pollLeft]
      split
      next empty =>
          have none : ∀ key ∈ outcome.left i, ¬ IsFor vlan mac.text key := by
            intro key member isFor
            have found := @mem_stillThere glob vlan mac _ key member isFor
            rw [List.isEmpty_iff.mp empty] at found
            cases found
          refine iff_of_true ⟨none, outcome.keeps i⟩ fun key member isFor => ?_
          exact absurd isFor (none key (outcome.left_subset i (rounds + 1) member))
      next => rw [inductionHypothesis, Nat.add_right_comm, Nat.add_assoc]

end Polls

/-- The keys of the VLAN and the address are cleared exactly where those that the product command
has not removed by the sixth poll are stored in lower case. -/
theorem static_del_clears_iff (glob : Glob) (vlan : Nat) (mac : MacText) (keys : List Text)
    (outcome : Outcome vlan mac.text keys) :
    Clears vlan mac.text keys (fdbStaticDel glob vlan mac.text outcome).keys ↔
      ∀ key ∈ outcome.left 6, IsFor vlan mac.text key → key = fdbKey vlan (lower mac.text) :=
  clears_pollLeft_iff outcome 6 0

/-! ## A key stored in upper case -/

def storedKey : Text :=
  fdbKey 10 "00:AA:BB:CC:DD:01".toList

/-- The product command fails. -/
def nothingRemoved : Outcome 10 smokeDst.text [storedKey] where
  left _ := [storedKey]
  shrinks _ := List.Subset.refl _
  keeps _ _ member _ := member

theorem upper_case_left :
    ¬ Clears 10 smokeDst.text [storedKey]
      (fdbStaticDel Glob.trailingStar 10 smokeDst.text nothingRemoved).keys := by
  intro clears
  have left : storedKey ∈
      (fdbStaticDel Glob.trailingStar 10 smokeDst.text nothingRemoved).keys := by
    decide
  exact clears.cleared storedKey left ⟨_, rfl, by decide⟩

end OnboxFvt.Fdb
