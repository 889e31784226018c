import Mathlib.Data.List.Infix
import OnboxFvt.Library.Dict

/-!
# Nested dictionaries

A tree is a leaf or a dictionary of trees.  A path is followed through the dictionaries
and ends at a leaf at the latest.
-/

namespace OnboxFvt.Library

inductive Nested (Key Leaf : Type) where
  | leaf (leaf : Leaf)
  | node (entries : List (Key × Nested Key Leaf))

namespace Nested

variable {Key Leaf : Type} [DecidableEq Key]

def get? : Nested Key Leaf → Key → Option (Nested Key Leaf)
  | leaf _, _ => none
  | node entries, key => entries.lookup key

def at? : List Key → Nested Key Leaf → Option (Nested Key Leaf)
  | [], tree => some tree
  | key :: rest, tree => (tree.get? key).bind (at? rest)

theorem at?_cons_node (key : Key) (rest : List Key) (entries : List (Key × Nested Key Leaf)) :
    at? (key :: rest) (node entries) = (entries.lookup key).bind (at? rest) :=
  rfl

/-- Nothing is below a leaf. -/
theorem at?_leaf {path : List Key} (nonempty : path ≠ []) (value : Leaf) :
    at? path (leaf value : Nested Key Leaf) = none := by
  obtain ⟨key, rest, rfl⟩ := List.exists_cons_of_ne_nil nonempty
  rfl

omit [DecidableEq Key] in
/-- Every dictionary in the tree has its keys once. -/
inductive Proper : Nested Key Leaf → Prop
  | leaf (value : Leaf) : Proper (leaf value)
  | node {entries : List (Key × Nested Key Leaf)} (distinct : (Dict.keys entries).Nodup)
      (below : ∀ entry ∈ entries, Proper entry.2) : Proper (node entries)

omit [DecidableEq Key] in
theorem proper_node {entries : List (Key × Nested Key Leaf)} :
    Proper (node entries) ↔ (Dict.keys entries).Nodup ∧ ∀ entry ∈ entries, Proper entry.2 := by
  refine ⟨fun proper => ?_, fun parts => .node parts.1 parts.2⟩
  cases proper with
  | node distinct below => exact ⟨distinct, below⟩

theorem proper_set {entries : List (Key × Nested Key Leaf)} (proper : Proper (node entries))
    (key : Key) {value : Nested Key Leaf} (inside : Proper value) :
    Proper (node (Dict.set entries key value)) := by
  rw [proper_node] at proper ⊢
  refine ⟨Dict.nodup_keys_set proper.1 key value, fun entry member => ?_⟩
  rcases Dict.mem_set member with rfl | other
  · exact inside
  · exact proper.2 entry other

end Nested

/-- A dictionary of trees that has its keys once at every depth. -/
@[ext]
structure Mapping (Key Leaf : Type) where
  entries : List (Key × Nested Key Leaf)
  proper : (Nested.node entries).Proper

namespace Mapping

variable {Key Leaf : Type}

def empty : Mapping Key Leaf where
  entries := []
  proper := .node List.nodup_nil nofun

/-- What a mapping holds at a path. -/
def at? [DecidableEq Key] (path : List Key) (mapping : Mapping Key Leaf) :
    Option (Nested Key Leaf) :=
  (Nested.node mapping.entries).at? path

end Mapping

end OnboxFvt.Library
