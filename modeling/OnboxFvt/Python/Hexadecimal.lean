import Mathlib.Data.Nat.Notation
import OnboxFvt.Python.Decimal

/-!
# Hexadecimals

`int(text, 16)` and `format(number, "x")`.
-/

namespace OnboxFvt.Python

def hexValue? (c : Char) : Option Nat :=
  if 'a' ≤ c ∧ c ≤ 'f' then some (c.toNat - 'a'.toNat + 10)
  else if 'A' ≤ c ∧ c ≤ 'F' then some (c.toNat - 'A'.toNat + 10)
  else decimalValue? c

/-- The digits of `int` in base 16 after the first one, as in base 10. -/
def readHexDigits (value : Nat) : Text → Option Nat
  | [] => some value
  | '_' :: c :: rest => (hexValue? c).bind fun digit => readHexDigits (16 * value + digit) rest
  | c :: rest => (hexValue? c).bind fun digit => readHexDigits (16 * value + digit) rest

def readHexFrom? : Text → Option Nat
  | [] => none
  | c :: rest => (hexValue? c).bind fun digit => readHexDigits digit rest

/-- An optional `0x`, which an underscore may follow. -/
def readHex? : Text → Option Nat
  | '0' :: 'x' :: '_' :: digits => readHexFrom? digits
  | '0' :: 'X' :: '_' :: digits => readHexFrom? digits
  | '0' :: 'x' :: digits => readHexFrom? digits
  | '0' :: 'X' :: digits => readHexFrom? digits
  | digits => readHexFrom? digits

/-- `int(text, 16)`; `none` is a `ValueError`. -/
def hexInt? (text : Text) : Option Int :=
  match strip text with
  | '-' :: digits => (readHex? digits).map fun value => -(value : Int)
  | '+' :: digits => (readHex? digits).map fun value => (value : Int)
  | digits => (readHex? digits).map fun value => (value : Int)

/-- `format(number, "x")`. -/
def hexadecimal : Int → Text
  | .ofNat number => Nat.toDigits 16 number
  | .negSucc number => '-' :: Nat.toDigits 16 (number + 1)

/-! ## Reading hexadecimals -/

/-- `0-9`, `a-f` and `A-F`. -/
def isHexDigit (c : Char) : Bool :=
  c.toNat < 128 && (hexValue? c).isSome

def hexNumber (digits : Text) : Nat :=
  digits.foldl (fun total c => 16 * total + (hexValue? c).getD 0) 0

/-- What is checked character by character below 128. -/
theorem isHexDigit_ascii : ∀ n < 128, isHexDigit (Char.ofNat n) = true →
    isSpace (Char.ofNat n) = false ∧ Char.ofNat n ∉ [':', '-', '+', '_', 'x', 'X'] := by
  decide

theorem toNat_of_isHexDigit {c : Char} (digit : isHexDigit c = true) : c.toNat < 128 := by
  rw [isHexDigit, Bool.and_eq_true, decide_eq_true_iff] at digit
  exact digit.1

theorem isHexDigit_plain {c : Char} (digit : isHexDigit c = true) :
    isSpace c = false ∧ c ∉ [':', '-', '+', '_', 'x', 'X'] := by
  have checked := isHexDigit_ascii c.toNat (toNat_of_isHexDigit digit)
  rw [Char.ofNat_toNat] at checked
  exact checked digit

theorem hexValue?_of_isHexDigit {c : Char} (digit : isHexDigit c = true) :
    hexValue? c = some ((hexValue? c).getD 0) := by
  unfold isHexDigit at digit
  simp only [Bool.and_eq_true] at digit
  obtain ⟨value, found⟩ := Option.isSome_iff_exists.mp digit.2
  rw [found]
  rfl

theorem readHexDigits_digits {digits : Text} (all : ∀ c ∈ digits, isHexDigit c = true)
    (value : Nat) :
    readHexDigits value digits =
      some (digits.foldl (fun total c => 16 * total + (hexValue? c).getD 0) value) := by
  induction digits generalizing value with
  | nil => rfl
  | cons c rest inductionHypothesis =>
      have digit := all c (List.mem_cons_self ..)
      have plain : c ≠ '_' := by
        rintro rfl
        exact absurd digit (by decide)
      rw [readHexDigits, hexValue?_of_isHexDigit digit, Option.bind_some,
        inductionHypothesis fun d member => all d (List.mem_cons_of_mem _ member)]
      · rfl
      · intro d others underscore
        exact absurd underscore plain

theorem readHexFrom?_digits {digits : Text} (all : ∀ c ∈ digits, isHexDigit c = true)
    (nonempty : digits ≠ []) : readHexFrom? digits = some (hexNumber digits) := by
  cases digits with
  | nil => exact absurd rfl nonempty
  | cons c rest =>
      rw [readHexFrom?, hexValue?_of_isHexDigit (all c (List.mem_cons_self ..)), Option.bind_some,
        readHexDigits_digits fun d member => all d (List.mem_cons_of_mem _ member), hexNumber,
        List.foldl_cons, Nat.mul_zero, Nat.zero_add]

/-- Digits have neither a sign nor a `0x`. -/
theorem hexInt?_digits {digits : Text} (all : ∀ c ∈ digits, isHexDigit c = true)
    (nonempty : digits ≠ []) : hexInt? digits = some (hexNumber digits : Int) := by
  have notX : ∀ c rest, c ∈ ['x', 'X'] → digits ≠ '0' :: c :: rest := by
    rintro c rest member rfl
    have digit := all c (List.mem_cons_of_mem _ (List.mem_cons_self ..))
    exact (isHexDigit_plain digit).2 (by
      rcases List.mem_cons.mp member with rfl | second
      · decide
      · rw [List.mem_singleton.mp second]
        decide)
  have read : readHex? digits = some (hexNumber digits) := by
    unfold readHex?
    split
    · next rest => exact absurd rfl (notX 'x' _ (by decide))
    · next rest => exact absurd rfl (notX 'X' _ (by decide))
    · next rest => exact absurd rfl (notX 'x' _ (by decide))
    · next rest => exact absurd rfl (notX 'X' _ (by decide))
    · exact readHexFrom?_digits all nonempty
  rw [hexInt?, strip_of_notSpace fun c member => (isHexDigit_plain (all c member)).1]
  split
  · next rest => exact absurd (all '-' (List.mem_cons_self ..)) (by decide)
  · next rest => exact absurd (all '+' (List.mem_cons_self ..)) (by decide)
  · rw [read]
    rfl

/-! ## Writing and reading back -/

theorem digitChar_hex : ∀ digit < 16,
    isHexDigit (Nat.digitChar digit) = true ∧ hexValue? (Nat.digitChar digit) = some digit := by
  decide

theorem toDigits_induction {holds : Nat → Text → Prop}
    (one : ∀ digit < 16, holds digit [Nat.digitChar digit])
    (more : ∀ number digit, digit < 16 → 0 < number → holds number (Nat.toDigits 16 number) →
      holds (16 * number + digit) (Nat.toDigits 16 number ++ [Nat.digitChar digit]))
    (number : Nat) : holds number (Nat.toDigits 16 number) := by
  induction number using Nat.strongRecOn with
  | ind number inductionHypothesis =>
      rw [Nat.toDigits_eq_if (by decide)]
      split
      next small => exact one number small
      next large =>
        have split := more (number / 16) (number % 16) (Nat.mod_lt _ (by decide)) (by omega)
          (inductionHypothesis (number / 16) (by omega))
        rwa [Nat.div_add_mod] at split

theorem isHexDigit_of_mem_toDigits {number : Nat} {c : Char}
    (member : c ∈ Nat.toDigits 16 number) : isHexDigit c = true := by
  refine @toDigits_induction (fun _ digits => ∀ c ∈ digits, isHexDigit c = true) ?_ ?_ number c
    member
  · intro digit small c member
    rw [List.mem_singleton.mp member]
    exact (digitChar_hex digit small).1
  · intro number digit small _ before c member
    cases List.mem_append.mp member with
    | inl earlier => exact before c earlier
    | inr last =>
        rw [List.mem_singleton.mp last]
        exact (digitChar_hex digit small).1

theorem hexNumber_toDigits (number : Nat) : hexNumber (Nat.toDigits 16 number) = number := by
  refine @toDigits_induction (fun number digits => hexNumber digits = number) ?_ ?_ number
  · intro digit small
    rw [hexNumber, List.foldl_cons, (digitChar_hex digit small).2]
    simp
  · intro number digit small _ before
    unfold hexNumber at before ⊢
    rw [List.foldl_append, before, List.foldl_cons, (digitChar_hex digit small).2]
    rfl

end OnboxFvt.Python
