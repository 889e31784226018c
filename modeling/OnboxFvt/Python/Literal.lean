import OnboxFvt.Python.Hexadecimal

/-!
# Integer literals

`int(text, 0)`, which reads the base off the prefix, and the format `0x%04X`.
-/

namespace OnboxFvt.Python

/-- Decimal digits of any script are read as the ASCII ones. -/
def ascii (c : Char) : Char :=
  match decimalValue? c with
  | some digit => Nat.digitChar digit
  | none => c

/-- The digits of a base up to ten after the first one. -/
def readBelow (base value : Nat) : Text → Option Nat
  | [] => some value
  | '_' :: c :: rest =>
      ((decimalValue? c).filter (· < base)).bind fun digit =>
        readBelow base (base * value + digit) rest
  | c :: rest =>
      ((decimalValue? c).filter (· < base)).bind fun digit =>
        readBelow base (base * value + digit) rest

def readBelowFrom? (base : Nat) : Text → Option Nat
  | [] => none
  | c :: rest =>
      ((decimalValue? c).filter (· < base)).bind fun digit => readBelow base digit rest

/-- An underscore may follow the prefix. -/
def afterPrefix : Text → Text
  | '_' :: digits => digits
  | digits => digits

/-- Without a prefix only zero may begin with a zero. -/
def readLiteral? : Text → Option Nat
  | '0' :: 'x' :: rest => readHexFrom? (afterPrefix rest)
  | '0' :: 'X' :: rest => readHexFrom? (afterPrefix rest)
  | '0' :: 'o' :: rest => readBelowFrom? 8 (afterPrefix rest)
  | '0' :: 'O' :: rest => readBelowFrom? 8 (afterPrefix rest)
  | '0' :: 'b' :: rest => readBelowFrom? 2 (afterPrefix rest)
  | '0' :: 'B' :: rest => readBelowFrom? 2 (afterPrefix rest)
  | '0' :: rest => (readNat? ('0' :: rest)).filter (· = 0)
  | digits => readNat? digits

/-- `int(text, 0)`; `none` is a `ValueError`. -/
def literal? (text : Text) : Option Int :=
  match (strip text).map ascii with
  | '-' :: digits => (readLiteral? digits).map fun value => -(value : Int)
  | '+' :: digits => (readLiteral? digits).map fun value => (value : Int)
  | digits => (readLiteral? digits).map fun value => (value : Int)

/-- `format(number, "X")` of a number that is not negative. -/
def upperHex (number : Nat) : Text :=
  (Nat.toDigits 16 number).map Char.toUpper

/-- `format(number, "04X")`: the zeros come after the sign. -/
def upperHex4 : Int → Text
  | .ofNat number => List.replicate (4 - (upperHex number).length) '0' ++ upperHex number
  | .negSucc number =>
      '-' :: (List.replicate (3 - (upperHex (number + 1)).length) '0' ++ upperHex (number + 1))

/-! ## Reading the format back -/

theorem upper_digitChar : ∀ digit < 16,
    isHexDigit (Nat.digitChar digit).toUpper = true ∧
      hexValue? (Nat.digitChar digit).toUpper = some digit ∧
      ascii (Nat.digitChar digit).toUpper = (Nat.digitChar digit).toUpper := by
  decide

theorem upperHex_spec (number : Nat) :
    (∀ c ∈ upperHex number, isHexDigit c = true ∧ ascii c = c) ∧
      hexNumber (upperHex number) = number := by
  refine @toDigits_induction (fun number digits =>
    (∀ c ∈ digits.map Char.toUpper, isHexDigit c = true ∧ ascii c = c) ∧
      hexNumber (digits.map Char.toUpper) = number) ?_ ?_ number
  · intro digit small
    obtain ⟨hex, value, same⟩ := upper_digitChar digit small
    rw [List.map_singleton, List.forall_mem_singleton, hexNumber, List.foldl_cons, value]
    exact ⟨⟨hex, same⟩, by simp⟩
  · rintro number digit small - ⟨earlier, before⟩
    obtain ⟨hex, value, same⟩ := upper_digitChar digit small
    rw [List.map_append, List.map_singleton]
    refine ⟨?_, ?_⟩
    · intro c member
      rcases List.mem_append.mp member with inside | last
      · exact earlier c inside
      · rw [List.mem_singleton.mp last]
        exact ⟨hex, same⟩
    · unfold hexNumber at before ⊢
      rw [List.foldl_append, before, List.foldl_cons, value]
      rfl

theorem hexNumber_zeros (count : Nat) (digits : Text) :
    hexNumber (List.replicate count '0' ++ digits) = hexNumber digits := by
  induction count with
  | zero => rfl
  | succ count inductionHypothesis =>
      rw [List.replicate_succ, List.cons_append, ← inductionHypothesis]
      rfl

theorem upperHex4_spec (number : Nat) :
    (∀ c ∈ upperHex4 number, isHexDigit c = true ∧ ascii c = c) ∧ upperHex4 number ≠ [] ∧
      hexNumber (upperHex4 number) = number := by
  obtain ⟨all, value⟩ := upperHex_spec number
  have shape : upperHex4 number =
      List.replicate (4 - (upperHex number).length) '0' ++ upperHex number := rfl
  rw [shape]
  refine ⟨?_, ?_, by rw [hexNumber_zeros, value]⟩
  · intro c member
    rcases List.mem_append.mp member with zero | digit
    · rw [List.eq_of_mem_replicate zero]
      decide
    · exact all c digit
  · intro empty
    have digits : Nat.toDigits 16 number = [] := by
      simpa [upperHex] using (List.append_eq_nil_iff.mp empty).2
    exact Nat.toDigits_ne_nil digits

theorem solid_prefixed_upperHex4 (number : Int) :
    ∀ c ∈ '0' :: 'x' :: upperHex4 number, isSpace c = false := by
  have digits : ∀ value : Nat, ∀ count : Nat, ∀ c ∈ List.replicate count '0' ++ upperHex value,
      isSpace c = false := by
    intro value count c member
    rcases List.mem_append.mp member with zero | digit
    · rw [List.eq_of_mem_replicate zero]
      decide
    · exact (isHexDigit_plain ((upperHex_spec value).1 c digit).1).1
  simp only [List.forall_mem_cons]
  refine ⟨by decide, by decide, ?_⟩
  cases number with
  | ofNat value => exact digits value _
  | negSucc value =>
      rw [upperHex4, List.forall_mem_cons]
      exact ⟨by decide, digits _ _⟩

/-- `int(f"0x{number:04X}", 0)`. -/
theorem literal?_upperHex4 (number : Nat) :
    literal? ('0' :: 'x' :: upperHex4 number) = some (number : Int) := by
  obtain ⟨all, nonempty, value⟩ := upperHex4_spec number
  have solid := solid_prefixed_upperHex4 number
  have same : (upperHex4 number).map ascii = upperHex4 number := by
    conv_rhs => rw [← List.map_id (upperHex4 number)]
    exact List.map_congr_left fun c member => (all c member).2
  have bare : afterPrefix (upperHex4 number) = upperHex4 number := by
    unfold afterPrefix
    split
    next digits shape =>
        have underscore := (isHexDigit_plain (all '_' (by rw [shape]; simp)).1).2
        exact absurd (by decide) underscore
    next => rfl
  have read : literal? ('0' :: 'x' :: upperHex4 number) =
      (readHexFrom? (afterPrefix (upperHex4 number))).map fun value => (value : Int) := by
    rw [literal?, strip_of_notSpace solid, List.map_cons, List.map_cons, same]
    rfl
  rw [read, bare, readHexFrom?_digits (fun c member => (all c member).1) nonempty, value]
  rfl

/-- A sign after the prefix is no digit. -/
theorem literal?_upperHex4_negSucc (number : Nat) :
    literal? ('0' :: 'x' :: upperHex4 (.negSucc number)) = none := by
  have solid : ∀ c ∈ '0' :: 'x' :: upperHex4 (.negSucc number), isSpace c = false :=
    solid_prefixed_upperHex4 _
  rw [literal?, strip_of_notSpace solid]
  rfl

end OnboxFvt.Python
