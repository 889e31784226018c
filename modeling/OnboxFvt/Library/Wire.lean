import Mathlib.Algebra.GroupWithZero.Nat
import Mathlib.Data.Fintype.Defs
import Mathlib.Tactic.TypeStar

/-!
# Reading octet strings

Numbers in network byte order, readers that take a value off the front of an octet
string, and fields preceded by their length.  A reader reads an encoding when it gives
the value back and leaves whatever comes after the encoding alone.
-/

namespace OnboxFvt.Library.Wire

variable {Value Other : Type*}

abbrev Octet := Fin 256

/-- The proof that the numerals of octets carry, under one name. -/
instance neZeroOctets : NeZero 256 :=
  ⟨Nat.succ_ne_zero 255⟩

/-- The last `width` octets of a number, most significant first. -/
def bigEndian : Nat → Nat → List Octet
  | 0, _ => []
  | width + 1, number => bigEndian width (number / 256) ++ [Fin.ofNat 256 number]

def number (octets : List Octet) : Nat :=
  octets.foldl (fun total octet => total * 256 + octet.val) 0

@[simp]
theorem length_bigEndian (width value : Nat) : (bigEndian width value).length = width := by
  induction width generalizing value with
  | zero => rfl
  | succ width inductionHypothesis =>
      rw [bigEndian, List.length_append, inductionHypothesis]
      rfl

theorem number_concat (octets : List Octet) (octet : Octet) :
    number (octets ++ [octet]) = number octets * 256 + octet.val := by
  simp [number]

theorem number_bigEndian {width value : Nat} (fits : value < 256 ^ width) :
    number (bigEndian width value) = value := by
  induction width generalizing value with
  | zero =>
      have zero : value = 0 := by simpa using fits
      subst zero
      rfl
  | succ width inductionHypothesis =>
      have smaller : value / 256 < 256 ^ width := by
        apply Nat.div_lt_of_lt_mul
        rw [Nat.pow_succ] at fits
        omega
      rw [bigEndian, number_concat, inductionHypothesis smaller]
      exact Nat.div_add_mod' value 256

/-! ## Readers -/

abbrev Reader (Value : Type*) := List Octet → Option (Value × List Octet)

def Reads (reader : Reader Value) (encoded : List Octet) (value : Value) : Prop :=
  ∀ rest, reader (encoded ++ rest) = some (value, rest)

def take (count : Nat) : Reader (List Octet) := fun input =>
  if count ≤ input.length then some (input.take count, input.drop count) else none

def andThen (reader : Reader Value) (next : Value → Reader Other) : Reader Other := fun input =>
  (reader input).bind fun read => next read.1 read.2

def accept (check : Value → Option Other) (reader : Reader Value) : Reader Other := fun input =>
  (reader input).bind fun read => (check read.1).map fun value => (value, read.2)

def numberOf (width : Nat) : Reader Nat :=
  accept (fun octets => some (number octets)) (take width)

/-- A field of as many octets as the number before it says. -/
def sized (width : Nat) : Reader (List Octet) :=
  andThen (numberOf width) take

/-- The reader has to use up the whole input. -/
def whole (reader : Reader Value) (input : List Octet) : Option Value :=
  (reader input).bind fun read => if read.2.isEmpty then some read.1 else none

/-- Items up to the end of the input; every item takes something off it. -/
def manyFrom (item : Reader Value) : Nat → List Octet → Option (List Value)
  | _, [] => some []
  | 0, _ :: _ => none
  | fuel + 1, input =>
      (item input).bind fun read => (manyFrom item fuel read.2).map fun values =>
        read.1 :: values

def many (item : Reader Value) (input : List Octet) : Option (List Value) :=
  manyFrom item input.length input

theorem reads_take {encoded : List Octet} {count : Nat} (length : encoded.length = count) :
    Reads (take count) encoded encoded := by
  intro rest
  subst length
  unfold take
  rw [if_pos (by simp), List.take_left, List.drop_left]

theorem reads_andThen {reader : Reader Value} {next : Value → Reader Other}
    {first second : List Octet} {value : Value} {other : Other} (here : Reads reader first value)
    (there : Reads (next value) second other) :
    Reads (andThen reader next) (first ++ second) other := by
  intro rest
  unfold andThen
  rw [List.append_assoc, here, Option.bind_some]
  exact there rest

theorem reads_accept {reader : Reader Value} {check : Value → Option Other}
    {encoded : List Octet} {value : Value} {other : Other} (here : Reads reader encoded value)
    (accepted : check value = some other) : Reads (accept check reader) encoded other := by
  intro rest
  unfold accept
  rw [here, Option.bind_some, accepted, Option.map_some]

theorem reads_numberOf {width value : Nat} (fits : value < 256 ^ width) :
    Reads (numberOf width) (bigEndian width value) value := by
  apply reads_accept (reads_take (length_bigEndian width value))
  rw [number_bigEndian fits]

theorem reads_sized {width : Nat} {content : List Octet} (fits : content.length < 256 ^ width) :
    Reads (sized width) (bigEndian width content.length ++ content) content := by
  apply reads_andThen (reads_numberOf fits)
  exact reads_take rfl

theorem whole_of_reads {reader : Reader Value} {encoded : List Octet} {value : Value}
    (reads : Reads reader encoded value) : whole reader encoded = some value := by
  have read := reads []
  rw [List.append_nil] at read
  unfold whole
  rw [read]
  rfl

theorem manyFrom_of_le {item : Reader Value} {fuel more : Nat} {input : List Octet}
    {values : List Value} (enough : fuel ≤ more) (read : manyFrom item fuel input = some values) :
    manyFrom item more input = some values := by
  induction fuel generalizing more input values with
  | zero =>
      cases input with
      | nil => cases more <;> exact read
      | cons octet rest => cases read
  | succ fuel inductionHypothesis =>
      cases input with
      | nil => cases more <;> exact read
      | cons octet rest =>
          cases more with
          | zero => exact absurd enough (Nat.not_succ_le_zero fuel)
          | succ more =>
              obtain ⟨first, taken, continued⟩ := Option.bind_eq_some_iff.mp read
              obtain ⟨others, gathered, equal⟩ := Option.map_eq_some_iff.mp continued
              refine Option.bind_eq_some_iff.mpr ⟨first, taken, ?_⟩
              rw [inductionHypothesis (Nat.le_of_succ_le_succ enough) gathered]
              exact congrArg some equal

@[simp]
theorem many_nil (item : Reader Value) : many item [] = some [] :=
  rfl

theorem many_append {item : Reader Value} {encoded rest : List Octet} {value : Value}
    {values : List Value} (reads : Reads item encoded value) (something : encoded ≠ [])
    (others : many item rest = some values) :
    many item (encoded ++ rest) = some (value :: values) := by
  obtain ⟨octet, tail, split⟩ := List.exists_cons_of_ne_nil something
  have length : (encoded ++ rest).length = (tail ++ rest).length + 1 := by
    rw [split]
    rfl
  have remaining : manyFrom item (tail ++ rest).length rest = some values := by
    apply manyFrom_of_le _ others
    simp
  have read := reads rest
  rw [many, length]
  rw [split] at read ⊢
  exact Option.bind_eq_some_iff.mpr ⟨(value, rest), read, by rw [remaining, Option.map_some]⟩

theorem many_single {item : Reader Value} {encoded : List Octet} {value : Value}
    (reads : Reads item encoded value) (something : encoded ≠ []) :
    many item encoded = some [value] := by
  have read := many_append reads something (many_nil item)
  rwa [List.append_nil] at read

end OnboxFvt.Library.Wire
