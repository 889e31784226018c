import Mathlib.Data.List.Infix
import Mathlib.Data.Nat.Notation

/-!
# Glob patterns

Of the patterns a store lists its keys by, only those are relied on that are a text without
special characters, with a star behind it or alone.
-/

namespace OnboxFvt.Library

/-- The characters a glob pattern gives a meaning to. -/
def globCharacters : List Char :=
  ['*', '?', '[', ']', '\\']

def Literal (text : List Char) : Prop :=
  ∀ c ∈ text, c ∉ globCharacters

instance (text : List Char) : Decidable (Literal text) :=
  inferInstanceAs (Decidable (∀ c ∈ text, c ∉ globCharacters))

theorem literal_nil : Literal [] :=
  fun _ member => absurd member List.not_mem_nil

/-- A text is checked character by character. -/
theorem literal_of_all {text : List Char}
    (plain : text.all (fun c => decide (c ∉ globCharacters)) = true) : Literal text :=
  fun c member => of_decide_eq_true (List.all_eq_true.mp plain c member)

theorem literal_append {first second : List Char} (literal : Literal first)
    (literal' : Literal second) : Literal (first ++ second) :=
  List.forall_mem_append.mpr ⟨literal, literal'⟩

/-- A matcher for glob patterns; a star at the end stands for any text. -/
structure Glob where
  isMatch : List Char → List Char → Bool
  star : ∀ {literal : List Char}, Literal literal → ∀ key : List Char,
    isMatch (literal ++ ['*']) key = true ↔ literal <+: key

namespace Glob

/-- The matcher that knows no other special character. -/
def trailingStar : Glob where
  isMatch pattern key :=
    if pattern.getLast? = some '*' then pattern.dropLast.isPrefixOf key else pattern == key
  star _ key := by
    rw [List.getLast?_concat, if_pos rfl, List.dropLast_concat, List.isPrefixOf_iff_prefix]

end Glob

/-- A matcher for which a pattern without special characters stands for itself alone. -/
structure ExactGlob extends Glob where
  exact : ∀ {literal : List Char}, Literal literal → ∀ key : List Char,
    isMatch literal key = true ↔ key = literal

/-- It takes no other pattern for one with a star. -/
def ExactGlob.trailingStar : ExactGlob where
  toGlob := Glob.trailingStar
  exact {literal} plain key := by
    have starless : literal.getLast? ≠ some '*' := fun last =>
      plain '*' (List.mem_of_getLast? last) (by decide)
    change (if literal.getLast? = some '*' then literal.dropLast.isPrefixOf key
      else literal == key) = true ↔ key = literal
    rw [if_neg starless, beq_iff_eq, eq_comm]

end OnboxFvt.Library
