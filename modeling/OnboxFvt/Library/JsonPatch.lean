import Mathlib.Data.List.Basic
import OnboxFvt.Library.Collect

/-!
# JSON objects and patches

Documents whose containers are objects, JSON pointers, and the operations `add` and
`remove` of JSON Patch.  An operation fails where its path leads to nothing it can work
on; a patch fails with its first operation that does.  What an operation does not
change is everything neither above nor below its path.
-/

namespace OnboxFvt.Library

abbrev Token := List Char

/-- Everything that is not an object is a scalar. -/
inductive Json where
  | scalar (text : List Char)
  | object (members : List (Token × Json))

namespace Json

def setMember (members : List (Token × Json)) (token : Token) (value : Json) :
    List (Token × Json) :=
  members.filter (fun member => member.1 ≠ token) ++ [(token, value)]

def dropMember (members : List (Token × Json)) (token : Token) : List (Token × Json) :=
  members.filter fun member => member.1 ≠ token

def get? : Json → Token → Option Json
  | .object members, token => members.lookup token
  | .scalar _, _ => none

def at? : List Token → Json → Option Json
  | [], json => some json
  | token :: rest, json => (json.get? token).bind (at? rest)

/-- Work on the members of the object that holds the end of the path, which has to be there. -/
def within (act : List (Token × Json) → Token → Option (List (Token × Json))) :
    List Token → Json → Option Json
  | [token], .object members => (act members token).map .object
  | token :: next :: rest, .object members =>
      (members.lookup token).bind fun child =>
        (within act (next :: rest) child).map fun changed =>
          .object (setMember members token changed)
  | _, _ => none

def add (path : List Token) (value json : Json) : Option Json :=
  match path with
  | [] => some value
  | token :: rest =>
      within (fun members last => some (setMember members last value)) (token :: rest) json

/-- `remove`: the member has to be there. -/
def remove (path : List Token) (json : Json) : Option Json :=
  within (fun members last => (members.lookup last).map fun _ => dropMember members last) path json

/-! ## Members -/

theorem lookup_filter_ne (members : List (Token × Json)) (token other : Token) :
    (members.filter fun member => member.1 ≠ token).lookup other =
      if other = token then none else members.lookup other := by
  induction members with
  | nil => simp
  | cons member rest inductionHypothesis =>
      obtain ⟨name, value⟩ := member
      by_cases dropped : name = token
      · rw [List.filter_cons_of_neg (by simpa using dropped), inductionHypothesis]
        by_cases same : other = token
        · rw [if_pos same, if_pos same]
        · have different : other ≠ name := fun equal => same (equal.trans dropped)
          rw [if_neg same, if_neg same, List.lookup_cons, beq_eq_false_iff_ne.mpr different]
      · rw [List.filter_cons_of_pos (by simpa using dropped), List.lookup_cons, List.lookup_cons,
          inductionHypothesis]
        by_cases here : other = name
        · have kept : other ≠ token := fun equal => dropped (here.symm.trans equal)
          rw [if_neg kept, if_neg kept]
        · rw [beq_eq_false_iff_ne.mpr here]

theorem lookup_setMember (members : List (Token × Json)) (token other : Token) (value : Json) :
    (setMember members token value).lookup other =
      if other = token then some value else members.lookup other := by
  unfold setMember
  rw [List.lookup_append, lookup_filter_ne]
  by_cases same : other = token
  · simp [same]
  · simp [same, List.lookup_cons, beq_eq_false_iff_ne.mpr same]

theorem at?_cons_object (members : List (Token × Json)) (token : Token) (rest : List Token) :
    at? (token :: rest) (.object members) = (members.lookup token).bind (at? rest) :=
  rfl

theorem at?_append (path rest : List Token) (json : Json) :
    at? (path ++ rest) json = (at? path json).bind (at? rest) := by
  induction path generalizing json with
  | nil => rfl
  | cons token more inductionHypothesis =>
      rw [List.cons_append, at?, at?, Option.bind_assoc]
      congr 1
      funext child
      exact inductionHypothesis child

/-! ## What an operation changes -/

/-- Neither path leads through the other. -/
def Apart (path other : List Token) : Prop :=
  ¬ path <+: other ∧ ¬ other <+: path

theorem Apart.tail {token : Token} {rest others : List Token}
    (apart : Apart (token :: rest) (token :: others)) : Apart rest others := by
  refine ⟨fun inside => apart.1 ?_, fun inside => apart.2 ?_⟩
  · exact List.cons_prefix_cons.mpr ⟨rfl, inside⟩
  · exact List.cons_prefix_cons.mpr ⟨rfl, inside⟩

variable {act : List (Token × Json) → Token → Option (List (Token × Json))}
  {value json changed : Json} {path other : List Token}

theorem at?_within {result : Option Json}
    (acts : ∀ {members token after}, act members token = some after →
      after.lookup token = result)
    (done : within act path json = some changed) (rest : List Token) :
    at? (path ++ rest) changed = result.bind (at? rest) := by
  induction path generalizing json changed with
  | nil => cases json <;> cases done
  | cons token more inductionHypothesis =>
      cases json with
      | scalar text => cases more <;> cases done
      | object members =>
          rw [List.cons_append]
          cases more with
          | nil =>
              obtain ⟨after, acted, equal⟩ := Option.map_eq_some_iff.mp done
              subst equal
              rw [at?_cons_object, acts acted, List.nil_append]
          | cons next others =>
              obtain ⟨child, _, deeper⟩ := Option.bind_eq_some_iff.mp done
              obtain ⟨inner, innerDone, equal⟩ := Option.map_eq_some_iff.mp deeper
              subst equal
              rw [at?_cons_object, lookup_setMember, if_pos rfl]
              exact inductionHypothesis innerDone

theorem at?_within_apart
    (acts : ∀ {members token after}, act members token = some after →
      ∀ name, name ≠ token → after.lookup name = members.lookup name)
    (done : within act path json = some changed) (apart : Apart path other) :
    at? other changed = at? other json := by
  induction path generalizing json changed other with
  | nil => exact absurd List.nil_prefix apart.1
  | cons token more inductionHypothesis =>
      cases other with
      | nil => exact absurd List.nil_prefix apart.2
      | cons first others =>
          cases json with
          | scalar text => cases more <;> cases done
          | object members =>
              cases more with
              | nil =>
                  obtain ⟨after, acted, equal⟩ := Option.map_eq_some_iff.mp done
                  subst equal
                  have different : first ≠ token := fun same =>
                    apart.1 (List.cons_prefix_cons.mpr ⟨same.symm, List.nil_prefix⟩)
                  rw [at?_cons_object, acts acted first different, at?_cons_object]
              | cons next rest =>
                  obtain ⟨child, found, deeper⟩ := Option.bind_eq_some_iff.mp done
                  obtain ⟨inner, innerDone, equal⟩ := Option.map_eq_some_iff.mp deeper
                  subst equal
                  rw [at?_cons_object, lookup_setMember, at?_cons_object]
                  by_cases same : first = token
                  · subst same
                    rw [if_pos rfl, found]
                    exact inductionHypothesis innerDone apart.tail
                  · rw [if_neg same]

theorem at?_add (added : add path value json = some changed) : at? path changed = some value := by
  cases path with
  | nil =>
      cases added
      rfl
  | cons token rest =>
      have found := @at?_within _ _ _ _ (some value) (by
        intro members last after acted
        cases acted
        rw [lookup_setMember, if_pos rfl]) added []
      rwa [List.append_nil] at found

theorem at?_add_apart (added : add path value json = some changed) (apart : Apart path other) :
    at? other changed = at? other json := by
  cases path with
  | nil => exact absurd List.nil_prefix apart.1
  | cons token rest =>
      apply at?_within_apart _ added apart
      intro members last after acted name different
      cases acted
      rw [lookup_setMember, if_neg different]

theorem at?_remove_below (removed : remove path json = some changed) (rest : List Token) :
    at? (path ++ rest) changed = none := by
  apply @at?_within _ _ _ _ none _ removed
  intro members last after acted
  obtain ⟨_, _, equal⟩ := Option.map_eq_some_iff.mp acted
  subst equal
  rw [dropMember, lookup_filter_ne, if_pos rfl]

theorem at?_remove_apart (removed : remove path json = some changed) (apart : Apart path other) :
    at? other changed = at? other json := by
  apply at?_within_apart _ removed apart
  intro members last after acted name different
  obtain ⟨_, _, equal⟩ := Option.map_eq_some_iff.mp acted
  subst equal
  rw [dropMember, lookup_filter_ne, if_neg different]

/-- A removal fails only where nothing is at its path. -/
theorem remove_eq_none (nonempty : path ≠ []) (failed : remove path json = none) :
    at? path json = none := by
  induction path generalizing json with
  | nil => exact absurd rfl nonempty
  | cons token rest inductionHypothesis =>
      cases json with
      | scalar text => rfl
      | object members =>
          rw [at?_cons_object]
          cases found : members.lookup token with
          | none => rfl
          | some child =>
              unfold remove at failed
              cases rest with
              | nil =>
                  unfold within at failed
                  rw [found] at failed
                  cases failed
              | cons next more =>
                  unfold within at failed
                  rw [found, Option.bind_some, Option.map_eq_none_iff] at failed
                  exact inductionHypothesis (List.cons_ne_nil _ _) failed

end Json

/-! ## Pointers and patches -/

/-- A tilde starts one of two escapes. -/
def unescape : List Char → Option Token
  | [] => some []
  | '~' :: '0' :: rest => (unescape rest).map fun token => '~' :: token
  | '~' :: '1' :: rest => (unescape rest).map fun token => '/' :: token
  | '~' :: _ => none
  | c :: rest => (unescape rest).map fun token => c :: token

/-- Replaces every occurrence of `~` and a digit, from the left. -/
def replaceEscape (digit replacement : Char) : List Char → List Char
  | [] => []
  | [c] => [c]
  | c :: d :: rest =>
      if c = '~' ∧ d = digit then replacement :: replaceEscape digit replacement rest
      else c :: replaceEscape digit replacement (d :: rest)

/-- The two replacements RFC 6901 prescribes, in its order; other than `unescape` it accepts
every text. -/
def decodePart (part : List Char) : Token :=
  replaceEscape '0' '~' (replaceEscape '1' '/' part)

theorem replaceEscape_cons_plain {digit replacement c : Char} (plain : c ≠ '~')
    (rest : List Char) :
    replaceEscape digit replacement (c :: rest) = c :: replaceEscape digit replacement rest := by
  cases rest with
  | nil => rfl
  | cons d more =>
      rw [replaceEscape, if_neg fun both => plain both.1]

theorem replaceEscape_here (digit replacement : Char) (rest : List Char) :
    replaceEscape digit replacement ('~' :: digit :: rest) =
      replacement :: replaceEscape digit replacement rest := by
  rw [replaceEscape, if_pos ⟨rfl, rfl⟩]

theorem replaceEscape_elsewhere {digit replacement d : Char} (other : d ≠ digit)
    (rest : List Char) :
    replaceEscape digit replacement ('~' :: d :: rest) =
      '~' :: replaceEscape digit replacement (d :: rest) := by
  rw [replaceEscape, if_neg fun both => other both.2]

def pointer? : List Char → Option (List Token)
  | [] => some []
  | '/' :: rest => collect? unescape (List.splitOn '/' rest)
  | _ => none

inductive PatchOp where
  | add (path : List Char) (value : Json)
  | remove (path : List Char)

def PatchOp.apply (json : Json) : PatchOp → Option Json
  | .add path value => (pointer? path).bind fun tokens => Json.add tokens value json
  | .remove path => (pointer? path).bind fun tokens => Json.remove tokens json

def applyPatch (json : Json) (patch : List PatchOp) : Option Json :=
  patch.foldlM PatchOp.apply json

end OnboxFvt.Library
