import Mathlib.Data.Nat.Notation
import OnboxFvt.Python.Text

/-!
# Decimals

`str` of a number, as an f-string prints it, and what `int` reads from it.
-/

namespace OnboxFvt.Python

def decimal (number : Nat) : Text :=
  Nat.toDigits 10 number

/-- `str` of an integer. -/
def integer : Int → Text
  | .ofNat number => decimal number
  | .negSucc number => '-' :: decimal (number + 1)

theorem decimal_injective : Function.Injective decimal := by
  intro first second equal
  have values := congrArg (fun digits => Nat.ofDigitChars 10 digits 0) equal
  simpa [decimal] using values

theorem decimal_ne_nil (number : Nat) : decimal number ≠ [] :=
  Nat.toDigits_ne_nil

theorem isDigit_of_mem_decimal {number : Nat} {c : Char} (member : c ∈ decimal number) :
    c.isDigit = true :=
  Nat.isDigit_of_mem_toDigits (by decide) (by decide) member

/-! ## Reading decimals -/

theorem decimalValue?_of_isDigit {c : Char} (digit : c.isDigit = true) :
    decimalValue? c = some (c.toNat - '0'.toNat) := by
  have bounds : 48 ≤ c.toNat ∧ c.toNat ≤ 57 := Char.isDigit_iff_toNat.mp digit
  rw [decimalValue?, decimalZeros, List.find?_cons_of_pos]
  · rfl
  · simp only [Bool.and_eq_true, decide_eq_true_eq]
    omega

theorem isSpace_of_isDigit {c : Char} (digit : c.isDigit = true) : isSpace c = false := by
  have bounds : 48 ≤ c.toNat ∧ c.toNat ≤ 57 := Char.isDigit_iff_toNat.mp digit
  unfold isSpace
  simp only [Bool.or_eq_false_iff, Bool.and_eq_false_iff, decide_eq_false_iff_not,
    beq_eq_false_iff_ne]
  omega

theorem readDigits_digits {digits : Text} (all : ∀ c ∈ digits, c.isDigit = true) (value : Nat) :
    readDigits value digits = some (Nat.ofDigitChars 10 digits value) := by
  induction digits generalizing value with
  | nil => rfl
  | cons c rest inductionHypothesis =>
      have digit := all c (List.mem_cons_self ..)
      have plain : c ≠ '_' := by
        intro underscore
        rw [underscore] at digit
        exact absurd digit (by decide)
      rw [readDigits, decimalValue?_of_isDigit digit, Option.bind_some,
        inductionHypothesis fun d member => all d (List.mem_cons_of_mem _ member),
        Nat.ofDigitChars_cons]
      intro d others underscore
      exact absurd underscore plain

theorem readNat?_digits {digits : Text} (all : ∀ c ∈ digits, c.isDigit = true)
    (nonempty : digits ≠ []) : readNat? digits = some (Nat.ofDigitChars 10 digits 0) := by
  cases digits with
  | nil => exact absurd rfl nonempty
  | cons c rest =>
      rw [readNat?, decimalValue?_of_isDigit (all c (List.mem_cons_self ..)), Option.bind_some,
        readDigits_digits fun d member => all d (List.mem_cons_of_mem _ member),
        Nat.ofDigitChars_cons, Nat.mul_zero, Nat.zero_add]

theorem readNat?_decimal (number : Nat) : readNat? (decimal number) = some number := by
  rw [readNat?_digits (fun c => isDigit_of_mem_decimal) (decimal_ne_nil number)]
  simp [decimal]

theorem strip_of_notSpace {text : Text} (solid : ∀ c ∈ text, isSpace c = false) :
    strip text = text := by
  have kept : ∀ text : Text, (∀ c ∈ text, isSpace c = false) → text.dropWhile isSpace = text := by
    intro text plain
    cases text with
    | nil => rfl
    | cons c rest =>
        rw [List.dropWhile_cons_of_neg]
        simp [plain c (List.mem_cons_self ..)]
  have backwards : ∀ c ∈ text.reverse, isSpace c = false := by simpa using solid
  rw [strip, kept text solid, kept text.reverse backwards, List.reverse_reverse]

theorem isDigit_digits {digits : Text} (all : ∀ c ∈ digits, c.isDigit = true)
    (nonempty : digits ≠ []) : isDigit digits = true := by
  rw [isDigit, Bool.and_eq_true, List.all_eq_true]
  refine ⟨by simpa using nonempty, fun c member => ?_⟩
  rw [isDigitChar, decimalValue?_of_isDigit (all c member)]
  rfl

theorem isDigit_decimal (number : Nat) : isDigit (decimal number) = true :=
  isDigit_digits (fun _ => isDigit_of_mem_decimal) (decimal_ne_nil number)

theorem int?_digits {digits : Text} (all : ∀ c ∈ digits, c.isDigit = true)
    (nonempty : digits ≠ []) : int? digits = some (Nat.ofDigitChars 10 digits 0 : Int) := by
  rw [int?, strip_of_notSpace fun c member => isSpace_of_isDigit (all c member)]
  split
  · next digits => exact absurd (all '-' (List.mem_cons_self ..)) (by decide)
  · next digits => exact absurd (all '+' (List.mem_cons_self ..)) (by decide)
  · rw [readNat?_digits all nonempty]
    rfl

theorem int?_negative {digits : Text} (all : ∀ c ∈ digits, c.isDigit = true)
    (nonempty : digits ≠ []) :
    int? ('-' :: digits) = some (-(Nat.ofDigitChars 10 digits 0 : Int)) := by
  have solid : ∀ c ∈ '-' :: digits, isSpace c = false := by
    rw [List.forall_mem_cons]
    exact ⟨by decide, fun c member => isSpace_of_isDigit (all c member)⟩
  simp only [int?, strip_of_notSpace solid, readNat?_digits all nonempty]
  rfl

/-- `int(str(number))`. -/
theorem int?_decimal (number : Nat) : int? (decimal number) = some (number : Int) := by
  rw [int?_digits (fun c => isDigit_of_mem_decimal) (decimal_ne_nil number)]
  simp [decimal]

/-- What `\d` matches. -/
def isDecimal (c : Char) : Bool :=
  (decimalValue? c).isSome

theorem isDecimal_of_isDigit {c : Char} (digit : c.isDigit = true) : isDecimal c = true := by
  rw [isDecimal, decimalValue?_of_isDigit digit]
  rfl

/-- Below the Arabic digits only the ASCII ones are decimal. -/
theorem isDecimal_of_notDigit {c : Char} (low : c.toNat < 0x660) (notDigit : c.isDigit = false) :
    isDecimal c = false := by
  have outside : ¬ (48 ≤ c.toNat ∧ c.toNat ≤ 57) := by
    intro bounds
    rw [Char.isDigit_iff_toNat.mpr bounds] at notDigit
    cases notDigit
  have later : (decimalZeros.drop 1).all (0x660 ≤ ·) = true := by decide
  have missing :
      decimalZeros.find? (fun start => start ≤ c.toNat && c.toNat < start + 10) = none := by
    rw [List.find?_eq_none]
    intro start member
    rcases List.mem_cons.mp member with first | rest
    · simp only [Bool.and_eq_true, decide_eq_true_eq]
      omega
    · have least := of_decide_eq_true (List.all_eq_true.mp later start rest)
      simp only [Bool.and_eq_true, decide_eq_true_eq]
      omega
  rw [isDecimal, decimalValue?, missing]
  rfl

theorem isLower_iff_toNat {c : Char} : c.isLower = true ↔ 97 ≤ c.toNat ∧ c.toNat ≤ 122 := by
  delta Char.isLower
  rw [Bool.and_eq_true, decide_eq_true_eq, decide_eq_true_eq]
  rfl

theorem isUpper_iff_toNat {c : Char} : c.isUpper = true ↔ 65 ≤ c.toNat ∧ c.toNat ≤ 90 := by
  delta Char.isUpper
  rw [decide_eq_true_eq]
  rfl

theorem isAlpha_iff_toNat {c : Char} :
    c.isAlpha = true ↔ 65 ≤ c.toNat ∧ c.toNat ≤ 90 ∨ 97 ≤ c.toNat ∧ c.toNat ≤ 122 := by
  delta Char.isAlpha
  rw [Bool.or_eq_true, isUpper_iff_toNat, isLower_iff_toNat]

theorem toNat_of_isAlphanum {c : Char} (plain : c.isAlphanum = true) :
    48 ≤ c.toNat ∧ c.toNat ≤ 57 ∨ 65 ≤ c.toNat ∧ c.toNat ≤ 90 ∨ 97 ≤ c.toNat ∧ c.toNat ≤ 122 := by
  rw [Char.isAlphanum, Bool.or_eq_true] at plain
  rcases plain with letter | digit
  · exact Or.inr (isAlpha_iff_toNat.mp letter)
  · exact Or.inl (Char.isDigit_iff_toNat.mp digit)

/-! ## Integers and following text -/

theorem integer_injective : Function.Injective integer := by
  have unsigned : ∀ number : Nat, ∀ rest : Text, decimal number ≠ '-' :: rest := by
    intro number rest equal
    have digit : '-'.isDigit = true := by
      apply @isDigit_of_mem_decimal number
      rw [equal]
      exact List.mem_cons_self ..
    cases digit
  intro first second equal
  cases first with
  | ofNat number =>
      cases second with
      | ofNat other => exact congrArg Int.ofNat (decimal_injective equal)
      | negSucc other => exact absurd equal (unsigned _ _)
  | negSucc number =>
      cases second with
      | ofNat other => exact absurd equal.symm (unsigned _ _)
      | negSucc other =>
          have numbers := decimal_injective (List.cons.inj equal).2
          rw [Nat.add_right_cancel numbers]

theorem notMem_decimal {c : Char} (notDigit : c.isDigit = false) (number : Nat) :
    c ∉ decimal number := by
  intro member
  have digit := isDigit_of_mem_decimal member
  rw [notDigit] at digit
  cases digit

theorem notMem_integer {c : Char} (notDigit : c.isDigit = false) (notSign : c ≠ '-')
    (number : Int) : c ∉ integer number := by
  cases number with
  | ofNat value => exact notMem_decimal notDigit value
  | negSucc value => exact List.not_mem_cons_of_ne_of_not_mem notSign (notMem_decimal notDigit _)

/-- A decimal ends where the digits end. -/
theorem decimal_append_inj {first second : Nat} {rest others : Text}
    (stops : rest.takeWhile Char.isDigit = []) (stops' : others.takeWhile Char.isDigit = [])
    (equal : decimal first ++ rest = decimal second ++ others) :
    first = second ∧ rest = others := by
  have digits : ∀ number : Nat, ∀ text : Text, text.takeWhile Char.isDigit = [] →
      (decimal number ++ text).takeWhile Char.isDigit = decimal number := by
    intro number text stop
    rw [List.takeWhile_append_of_pos fun c => isDigit_of_mem_decimal, stop, List.append_nil]
  have same : decimal first = decimal second :=
    calc decimal first = (decimal first ++ rest).takeWhile Char.isDigit :=
          (digits first rest stops).symm
      _ = (decimal second ++ others).takeWhile Char.isDigit := by rw [equal]
      _ = decimal second := digits second others stops'
  refine ⟨decimal_injective same, ?_⟩
  rw [same] at equal
  exact List.append_cancel_left equal

/-! ## Prefixes -/

/-- Only a number ten times as large has decimals that go on after those of another. -/
theorem le_of_decimal_prefix {short long : Nat} (begins : decimal short <+: decimal long)
    (different : short ≠ long) : 10 * short ≤ long := by
  obtain ⟨rest, whole⟩ := begins
  have value : Nat.ofDigitChars 10 rest short = long := by
    have read := congrArg (fun digits => Nat.ofDigitChars 10 digits 0) whole
    simpa [decimal, Nat.ofDigitChars_append] using read
  cases rest with
  | nil =>
      rw [Nat.ofDigitChars_nil] at value
      exact absurd value different
  | cons digit others =>
      rw [Nat.ofDigitChars_eq_ofDigitChars_zero, List.length_cons, Nat.pow_succ] at value
      have power : 10 ≤ 10 ^ others.length * 10 :=
        Nat.le_mul_of_pos_left 10 (Nat.pow_pos (by decide))
      calc 10 * short ≤ 10 ^ others.length * 10 * short := Nat.mul_le_mul_right short power
        _ ≤ long := by omega

end OnboxFvt.Python
