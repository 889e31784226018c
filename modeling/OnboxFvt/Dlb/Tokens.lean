import Mathlib.Data.List.TakeWhile
import OnboxFvt.Dlb.Entries
import OnboxFvt.Python.TextFacts

/-!
# The lines of an `lt` answer

A token is a field name, perhaps with an index, and a value; a line is tokens with
commas between them.  `parse_entries` reads every token of a line.
-/

namespace OnboxFvt.Dlb.Lt

open Library Python

/-! ## Written values -/

structure Digits where
  text : Text
  nonempty : text ≠ []
  plain : ∀ c ∈ text, c.isDigit = true
  deriving DecidableEq

structure HexDigits where
  text : Text
  nonempty : text ≠ []
  plain : ∀ c ∈ text, isHexDigit c = true
  deriving DecidableEq

/-- An ASCII identifier without the word of the banner. -/
structure Ident where
  text : Text
  first : ∃ c ∈ text.head?, c.isDigit = false
  plain : ∀ c ∈ text, isFieldChar c = true
  unbannered : contains banner text = false
  deriving DecidableEq

structure Decimal where
  negative : Bool
  digits : Digits
  deriving DecidableEq

inductive Written where
  | decimal (number : Decimal)
  | hex (digits : HexDigits)
  | hexDec (digits : HexDigits) (number : Decimal)
  | word (name : Ident)
  deriving DecidableEq

def Decimal.text (number : Decimal) : Text :=
  if number.negative then '-' :: number.digits.text else number.digits.text

def Decimal.value (number : Decimal) : Int :=
  let magnitude : Int := Nat.ofDigitChars 10 number.digits.text 0
  if number.negative then -magnitude else magnitude

namespace Written

def text : Written → Text
  | decimal number => number.text
  | hex digits => '0' :: 'x' :: digits.text
  | hexDec digits number => '0' :: 'x' :: digits.text ++ '(' :: number.text ++ [')']
  | word name => name.text

def val : Written → Val
  | decimal number => .number number.value
  | hex digits => .number (hexNumber digits.text)
  | hexDec _ number => .number number.value
  | word name => .text name.text

end Written

theorem Decimal.int?_text (number : Decimal) : int? number.text = some number.value := by
  obtain ⟨negative, digits⟩ := number
  cases negative with
  | false => exact int?_digits digits.plain digits.nonempty
  | true => exact int?_negative digits.plain digits.nonempty

theorem Decimal.mem_text {number : Decimal} {c : Char} (member : c ∈ number.text) :
    c = '-' ∨ c.isDigit = true := by
  rw [Decimal.text] at member
  split at member
  next =>
    rcases List.mem_cons.mp member with sign | digit
    · exact Or.inl sign
    · exact Or.inr (number.digits.plain c digit)
  next => exact Or.inr (number.digits.plain c member)

theorem Digits.isDigit_text (digits : Digits) : isDigit digits.text = true :=
  isDigit_digits digits.plain digits.nonempty

/-- `raw.lstrip("-")`. -/
theorem Decimal.unsigned (number : Decimal) :
    number.text.dropWhile (· = '-') = number.digits.text := by
  have unsigned : number.digits.text.dropWhile (· = '-') = number.digits.text := by
    obtain ⟨c, rest, split⟩ := List.exists_cons_of_ne_nil number.digits.nonempty
    have digit : c.isDigit = true := number.digits.plain c (by rw [split]; simp)
    rw [split, List.dropWhile_cons_of_neg]
    rw [decide_eq_true_iff]
    rintro rfl
    cases digit
  rw [Decimal.text]
  split
  next => rw [List.dropWhile_cons_of_pos (by decide), unsigned]
  next => exact unsigned

/-! ## Characters -/

theorem toNat_of_isFieldChar {c : Char} (plain : isFieldChar c = true) : c.toNat < 128 := by
  unfold isFieldChar at plain
  rw [Bool.or_eq_true, decide_eq_true_iff] at plain
  rcases plain with letter | rfl
  · have := toNat_of_isAlphanum letter
    omega
  · decide

/-- What is checked character by character below 128. -/
theorem isFieldChar_ascii : ∀ n < 128, isFieldChar (Char.ofNat n) = true →
    isSpace (Char.ofNat n) = false ∧
      Char.ofNat n ∉ [',', '=', '[', ']', '-', '(', ')'] := by
  decide

theorem isFieldChar_plain {c : Char} (plain : isFieldChar c = true) :
    isSpace c = false ∧ c ∉ [',', '=', '[', ']', '-', '(', ')'] := by
  have checked := isFieldChar_ascii c.toNat (toNat_of_isFieldChar plain)
  rw [Char.ofNat_toNat] at checked
  exact checked plain

theorem isFieldChar_of_isHexDigit_ascii : ∀ n < 128, isHexDigit (Char.ofNat n) = true →
    isFieldChar (Char.ofNat n) = true ∧ Char.ofNat n ≠ 't' := by
  decide

theorem isFieldChar_of_isHexDigit {c : Char} (digit : isHexDigit c = true) :
    isFieldChar c = true ∧ c ≠ 't' := by
  have checked := isFieldChar_of_isHexDigit_ascii c.toNat (toNat_of_isHexDigit digit)
  rw [Char.ofNat_toNat] at checked
  exact checked digit

theorem isFieldChar_of_isDigit {c : Char} (digit : c.isDigit = true) :
    isFieldChar c = true ∧ c ≠ 't' := by
  refine ⟨?_, ?_⟩
  · rw [isFieldChar, Char.isAlphanum, digit, Bool.or_true, Bool.true_or]
  · rintro rfl
    cases digit

/-- A field character that is no digit is no digit of another script either. -/
theorem isDigitChar_of_isFieldChar {c : Char} (plain : isFieldChar c = true)
    (notDigit : c.isDigit = false) : isDigitChar c = false := by
  have low := toNat_of_isFieldChar plain
  have other : (otherDigits.any fun range => range.1 ≤ c.toNat && c.toNat ≤ range.2) = false := by
    rw [List.any_eq_false]
    intro range member
    have least : (otherDigits.all fun range => 128 ≤ range.1) = true := by decide
    have := of_decide_eq_true (List.all_eq_true.mp least range member)
    simp only [Bool.and_eq_true, decide_eq_true_eq]
    omega
  have decimal : isDecimal c = false := isDecimal_of_notDigit (by omega) notDigit
  rw [isDecimal] at decimal
  rw [isDigitChar, decimal, other]
  rfl

theorem Written.mem_text {written : Written} {c : Char} (member : c ∈ written.text) :
    isFieldChar c = true ∨ c ∈ ['-', '(', ')'] := by
  have decimals : ∀ number : Decimal, c ∈ number.text →
      isFieldChar c = true ∨ c ∈ ['-', '(', ')'] := by
    intro number inside
    rcases Decimal.mem_text inside with rfl | digit
    · exact Or.inr (by simp)
    · exact Or.inl (isFieldChar_of_isDigit digit).1
  have hexes : ∀ digits : HexDigits, c ∈ '0' :: 'x' :: digits.text → isFieldChar c = true := by
    intro digits inside
    rcases List.mem_cons.mp inside with rfl | inside
    · decide
    · rcases List.mem_cons.mp inside with rfl | digit
      · decide
      · exact (isFieldChar_of_isHexDigit (digits.plain c digit)).1
  cases written with
  | decimal number => exact decimals number member
  | hex digits => exact Or.inl (hexes digits member)
  | hexDec digits number =>
      rcases List.mem_append.mp member with inside | inside
      · rcases List.mem_append.mp inside with first | second
        · exact Or.inl (hexes digits first)
        · rcases List.mem_cons.mp second with rfl | sign
          · exact Or.inr (by simp)
          · exact decimals number sign
      · rw [List.mem_singleton.mp inside]
        exact Or.inr (by simp)
  | word name => exact Or.inl (name.plain c member)

/-- Only an identifier has the letter the word of the banner begins with. -/
theorem Written.unbannered (written : Written) : contains banner written.text = false := by
  have lettered : ∀ text : Text, 't' ∉ text → contains banner text = false := by
    intro text missing
    rw [← Bool.not_eq_true, contains_iff]
    intro occurs
    exact missing (occurs.subset (by decide))
  have decimals : ∀ number : Decimal, 't' ∉ number.text := by
    intro number inside
    rcases Decimal.mem_text inside with sign | digit
    · exact absurd sign (by decide)
    · exact absurd digit (by decide)
  have hexes : ∀ digits : HexDigits, 't' ∉ '0' :: 'x' :: digits.text := by
    intro digits inside
    have digit : 't' ∈ digits.text := by simpa using inside
    exact (isFieldChar_of_isHexDigit (digits.plain 't' digit)).2 rfl
  cases written with
  | decimal number => exact lettered _ (decimals number)
  | hex digits => exact lettered _ (hexes digits)
  | hexDec digits number =>
      refine lettered _ ?_
      rw [Written.text, List.mem_append, List.mem_append, not_or, not_or]
      refine ⟨⟨hexes digits, ?_⟩, by decide⟩
      exact List.not_mem_cons_of_ne_of_not_mem (by decide) (decimals number)
  | word name => exact name.unbannered

/-! ## Reading a value -/

theorem Written.solid (written : Written) : ∀ c ∈ written.text, isSpace c = false := by
  intro c member
  rcases Written.mem_text member with plain | special
  · exact (isFieldChar_plain plain).1
  · have solid : ∀ d ∈ ['-', '(', ')'], isSpace d = false :=
      forall_of_all (by decide)
    exact solid c special

/-- Nothing but a hexadecimal begins with `0x`. -/
theorem hexDec?_of_not_prefixed {text : Text} (bare : startsWith ['0', 'x'] text = false) :
    hexDec? text = none := by
  unfold hexDec?
  split
  next rest => cases bare
  next => rfl

theorem Decimal.not_prefixed (number : Decimal) : startsWith ['0', 'x'] number.text = false := by
  rw [← Bool.not_eq_true, startsWith_iff]
  intro begins
  rcases Decimal.mem_text (begins.subset (List.mem_cons_of_mem _ (List.mem_singleton_self _)))
    with sign | digit
  · exact absurd sign (by decide)
  · exact absurd digit (by decide)

theorem hexInt?_prefixed (digits : HexDigits) :
    hexInt? ('0' :: 'x' :: digits.text) = some (hexNumber digits.text : Int) := by
  have solid : ∀ c ∈ '0' :: 'x' :: digits.text, isSpace c = false :=
    Written.solid (.hex digits)
  have read : readHex? ('0' :: 'x' :: digits.text) = some (hexNumber digits.text) := by
    obtain ⟨c, rest, split⟩ := List.exists_cons_of_ne_nil digits.nonempty
    have notUnderscore : c ≠ '_' := by
      rintro rfl
      have digit := digits.plain '_' (by rw [split]; simp)
      exact absurd digit (by decide)
    rw [← readHexFrom?_digits digits.plain digits.nonempty, split, readHex?.eq_3]
    exact fun others same => notUnderscore (List.cons.inj same).1
  unfold hexInt?
  rw [strip_of_notSpace solid]
  split
  next signed => cases signed
  next signed => cases signed
  next =>
    rw [read]
    rfl

theorem closedDecimal?_text (number : Decimal) :
    closedDecimal? (number.text ++ [')']) = some number.text := by
  obtain ⟨negative, digits⟩ := number
  have all : ∀ c ∈ digits.text, isDecimal c = true := fun c member =>
    isDecimal_of_isDigit (digits.plain c member)
  have close : isDecimal ')' = false := by decide
  have inside : (digits.text ++ [')']).takeWhile isDecimal = digits.text := by
    rw [List.takeWhile_append_of_pos all, List.takeWhile_cons_of_neg (by simp [close]),
      List.append_nil]
  have after : (digits.text ++ [')']).dropWhile isDecimal = [')'] := by
    rw [List.dropWhile_append_of_pos all, List.dropWhile_cons_of_neg (by simp [close])]
  have unsigned : startsWith ['-'] (digits.text ++ [')']) = false := by
    obtain ⟨c, rest, split⟩ := List.exists_cons_of_ne_nil digits.nonempty
    rw [← Bool.not_eq_true, startsWith_iff, split, List.cons_append, List.cons_prefix_cons]
    rintro ⟨rfl, -⟩
    have digit := digits.plain '-' (by rw [split]; simp)
    cases digit
  cases negative with
  | false =>
      simp only [closedDecimal?, Decimal.text, unsigned, Bool.false_eq_true, if_false,
        List.length_nil, List.drop_zero, inside, after]
      rw [if_pos ⟨digits.nonempty, trivial⟩]
      rfl
  | true =>
      have signed : startsWith ['-'] ('-' :: (digits.text ++ [')'])) = true :=
        startsWith_iff.mpr ⟨digits.text ++ [')'], rfl⟩
      simp only [closedDecimal?, Decimal.text, signed, if_true, List.length_singleton,
        List.cons_append, List.drop_succ_cons, List.drop_zero, inside, after]
      rw [if_pos ⟨digits.nonempty, trivial⟩]
      rfl

/-- The letter of `0x` is no digit. -/
theorem isDigit_prefixed (rest : Text) : isDigit ('0' :: 'x' :: rest) = false := by
  have letter : isDigitChar 'x' = false := by decide
  rw [isDigit, List.all_cons, List.all_cons, letter, Bool.false_and, Bool.and_false, Bool.and_false]

theorem Ident.cons (name : Ident) : ∃ c rest, name.text = c :: rest ∧ isFieldChar c = true ∧
    c.isDigit = false := by
  obtain ⟨c, member, notDigit⟩ := name.first
  obtain ⟨rest, split⟩ := List.head?_eq_some_iff.mp member
  exact ⟨c, rest, split, name.plain c (by rw [split]; simp), notDigit⟩

/-- The decimal that stands in parentheses after a hexadecimal. -/
theorem hexDec?_text (digits : HexDigits) (number : Decimal) :
    hexDec? (Written.text (.hexDec digits number)) = some number.text := by
  have opens : isHexDigit '(' = false := by decide
  have inside : (digits.text ++ '(' :: (number.text ++ [')'])).takeWhile isHexDigit ≠ [] := by
    rw [List.takeWhile_append_of_pos digits.plain]
    exact fun empty => digits.nonempty (List.append_eq_nil_iff.mp empty).1
  have after : (digits.text ++ '(' :: (number.text ++ [')'])).dropWhile isHexDigit =
      '(' :: (number.text ++ [')']) := by
    rw [List.dropWhile_append_of_pos digits.plain, List.dropWhile_cons_of_neg (by simp [opens])]
  have whole : Written.text (.hexDec digits number) =
      '0' :: 'x' :: (digits.text ++ '(' :: (number.text ++ [')'])) := by
    simp [Written.text]
  rw [whole]
  simp only [hexDec?, after, inside, if_false, closedDecimal?_text]

theorem hexDec?_hex (digits : HexDigits) : hexDec? ('0' :: 'x' :: digits.text) = none := by
  have all : digits.text.dropWhile isHexDigit = [] := List.dropWhile_eq_nil_iff.mpr digits.plain
  rw [hexDec?, all]

/-- A word is no number of either kind. -/
theorem Ident.unread (name : Ident) :
    startsWith ['0', 'x'] name.text = false ∧ isDigit (name.text.dropWhile (· = '-')) = false := by
  obtain ⟨c, rest, split, plain, notDigit⟩ := name.cons
  have unsigned : name.text.dropWhile (· = '-') = name.text := by
    rw [split, List.dropWhile_cons_of_neg]
    rw [decide_eq_true_iff]
    rintro rfl
    exact absurd plain (by decide)
  constructor
  · rw [← Bool.not_eq_true, startsWith_iff, split, List.cons_prefix_cons]
    rintro ⟨rfl, -⟩
    cases notDigit
  · rw [unsigned, isDigit, split, List.all_cons, isDigitChar_of_isFieldChar plain notDigit,
      Bool.false_and, Bool.and_false]

/-- `_val` reads every written value. -/
theorem val?_text (written : Written) : val? written.text = some written.val := by
  rw [val?, strip_of_notSpace written.solid]
  cases written with
  | decimal number =>
      have bare : hexDec? number.text = none := hexDec?_of_not_prefixed number.not_prefixed
      have digits : isDigit (number.text.dropWhile (· = '-')) = true := by
        rw [number.unsigned]
        exact number.digits.isDigit_text
      simp only [Written.text, bare, digits, if_true, number.int?_text]
      rfl
  | hex digits =>
      have notDigit : isDigit (('0' :: 'x' :: digits.text).dropWhile (· = '-')) = false :=
        isDigit_prefixed digits.text
      have prefixed : startsWith ['0', 'x'] ('0' :: 'x' :: digits.text) = true :=
        startsWith_iff.mpr ⟨digits.text, rfl⟩
      simp only [Written.text, hexDec?_hex, notDigit, Bool.false_eq_true, if_false, prefixed,
        if_true, hexInt?_prefixed digits]
      rfl
  | hexDec digits number =>
      simp only [hexDec?_text, number.int?_text]
      rfl
  | word name =>
      obtain ⟨unprefixed, digitless⟩ := name.unread
      simp only [Written.text, hexDec?_of_not_prefixed unprefixed, digitless,
        Bool.false_eq_true, if_false, unprefixed]
      rfl

/-! ## Tokens -/

/-- What stands between the brackets of a token. -/
inductive Index where
  | none
  | single (i : Nat)
  | span (lo hi : Nat)
  deriving DecidableEq

def Index.text : Index → Text
  | none => []
  | single i => Python.decimal i
  | span lo hi => Python.decimal lo ++ '-' :: Python.decimal hi

/-- The elements a token gives the value of. -/
def Index.Holds : Index → Nat → Prop
  | none, _ => False
  | single j, i => j = i
  | span lo hi, i => lo ≤ i ∧ i ≤ hi

instance (index : Index) (i : Nat) : Decidable (index.Holds i) :=
  match index with
  | .none => inferInstanceAs (Decidable False)
  | .single j => inferInstanceAs (Decidable (j = i))
  | .span lo hi => inferInstanceAs (Decidable (lo ≤ i ∧ i ≤ hi))

structure Token where
  name : Ident
  index : Index
  value : Written

namespace Token

def brackets (token : Token) : Text :=
  if token.index = .none then [] else '[' :: token.index.text ++ [']']

def text (token : Token) : Text :=
  token.name.text ++ token.brackets ++ '=' :: token.value.text

def key (token : Token) : Text :=
  keyOf token.name.text token.index.text

end Token

theorem Index.mem_text {index : Index} {c : Char} (member : c ∈ index.text) :
    c = '-' ∨ c.isDigit = true := by
  cases index with
  | none => cases member
  | single i => exact Or.inr (isDigit_of_mem_decimal member)
  | span lo hi =>
      rcases List.mem_append.mp member with low | rest
      · exact Or.inr (isDigit_of_mem_decimal low)
      · rcases List.mem_cons.mp rest with sign | high
        · exact Or.inl sign
        · exact Or.inr (isDigit_of_mem_decimal high)

theorem Index.text_eq_nil {index : Index} : index.text = [] ↔ index = .none := by
  cases index with
  | none => exact iff_of_true rfl rfl
  | single i => exact iff_of_false (decimal_ne_nil i) nofun
  | span lo hi => exact iff_of_false (by simp [Index.text]) nofun

/-- Neither a bracket nor a comma nor a letter stands in an index. -/
theorem Index.notMem_text {index : Index} {c : Char} (notDigit : c.isDigit = false)
    (notSign : c ≠ '-') : c ∉ index.text := by
  intro member
  rcases Index.mem_text member with sign | digit
  · exact notSign sign
  · rw [notDigit] at digit
    cases digit

theorem Ident.notMem {name : Ident} {c : Char} (special : isFieldChar c = false) :
    c ∉ name.text := by
  intro member
  rw [name.plain c member] at special
  cases special

theorem Token.mem_brackets {token : Token} {c : Char} (member : c ∈ token.brackets) :
    c ∈ ['[', ']', '-'] ∨ c.isDigit = true := by
  rw [Token.brackets] at member
  split at member
  next => cases member
  next =>
    rcases List.mem_append.mp member with inside | close
    · rcases List.mem_cons.mp inside with rfl | index
      · exact Or.inl (by simp)
      · rcases Index.mem_text index with rfl | digit
        · exact Or.inl (by simp)
        · exact Or.inr digit
    · rw [List.mem_singleton.mp close]
      exact Or.inl (by simp)

/-- A bracket or a sign that no field name and no value has. -/
theorem Token.mem_text {token : Token} {c : Char} (member : c ∈ token.text) :
    isFieldChar c = true ∨ c ∈ ['[', ']', '-', '=', '(', ')'] := by
  rcases List.mem_append.mp member with front | back
  · rcases List.mem_append.mp front with name | brackets
    · exact Or.inl (token.name.plain c name)
    · rcases Token.mem_brackets brackets with special | digit
      · refine Or.inr ?_
        revert special
        simp only [List.mem_cons]
        tauto
      · exact Or.inl (isFieldChar_of_isDigit digit).1
  · rcases List.mem_cons.mp back with rfl | value
    · exact Or.inr (by simp)
    · rcases Written.mem_text value with plain | special
      · exact Or.inl plain
      · refine Or.inr ?_
        revert special
        simp only [List.mem_cons]
        tauto

theorem Token.solid (token : Token) : ∀ c ∈ token.text, isSpace c = false ∧ c ≠ ',' := by
  intro c member
  rcases Token.mem_text member with plain | special
  · have both := isFieldChar_plain plain
    exact ⟨both.1, fun comma => both.2 (by rw [comma]; simp)⟩
  · have checked : ∀ d ∈ ['[', ']', '-', '=', '(', ')'], isSpace d = false ∧ d ≠ ',' :=
      forall_of_all (by decide)
    exact checked c special

theorem Token.unbannered (token : Token) : contains banner token.text = false := by
  have equals : '=' ∉ banner := by decide
  rw [← Bool.not_eq_true, contains_iff, Token.text, infix_solid_iff equals, not_or]
  have value := token.value.unbannered
  rw [← Bool.not_eq_true, contains_iff] at value
  refine ⟨?_, value⟩
  have name := token.name.unbannered
  rw [← Bool.not_eq_true, contains_iff] at name
  rw [Token.brackets]
  split
  next =>
    rw [List.append_nil]
    exact name
  next =>
    have opens : '[' ∉ banner := by decide
    rw [List.cons_append, infix_solid_iff opens, not_or]
    refine ⟨name, fun occurs => ?_⟩
    have letter : 't' ∈ token.index.text ++ [']'] := occurs.subset (by decide)
    rcases List.mem_append.mp letter with inside | close
    · exact Index.notMem_text (by decide) (by decide) inside
    · exact absurd close (by decide)

/-! ## Reading a token -/

theorem Token.text_split (token : Token) : ∃ c rest, isFieldChar c = false ∧
    token.brackets ++ '=' :: token.value.text = c :: rest := by
  rw [Token.brackets]
  split
  next => exact ⟨'=', token.value.text, by decide, rfl⟩
  next => exact ⟨'[', _, by decide, rfl⟩

theorem Token.base (token : Token) : token.text.takeWhile isFieldChar = token.name.text ∧
    token.text.dropWhile isFieldChar = token.brackets ++ '=' :: token.value.text := by
  obtain ⟨c, rest, special, split⟩ := token.text_split
  rw [Token.text, List.append_assoc, split, List.takeWhile_append_of_pos token.name.plain,
    List.dropWhile_append_of_pos token.name.plain, List.takeWhile_cons_of_neg (by simp [special]),
    List.dropWhile_cons_of_neg (by simp [special]), List.append_nil]
  exact ⟨rfl, rfl⟩

theorem fieldMatch?_text (token : Token) :
    fieldMatch? token.text = some (token.name.text, token.value.text) := by
  obtain ⟨c, others, name, -⟩ := token.name.cons
  have nonempty : token.name.text ≠ [] := by
    rw [name]
    exact List.cons_ne_nil c others
  rw [fieldMatch?, token.base.1, token.base.2, Token.brackets,
    if_neg nonempty]
  by_cases scalar : token.index = .none
  · rw [if_pos scalar]
    rfl
  · have inside : ∀ c ∈ token.index.text, (decide (c ≠ ']')) = true := by
      intro c member
      rw [decide_eq_true_iff]
      rintro rfl
      exact Index.notMem_text (by decide) (by decide) member
    have close : (token.index.text ++ ']' :: '=' :: token.value.text).dropWhile (· ≠ ']') =
        ']' :: '=' :: token.value.text := by
      rw [List.dropWhile_append_of_pos inside, List.dropWhile_cons_of_neg (by decide)]
    rw [if_neg scalar, List.cons_append, List.cons_append, List.append_assoc, List.singleton_append]
    simp only [close]

theorem stripChars_brackets {index : Index} (some : index ≠ .none) :
    stripChars ['[', ']'] ('[' :: index.text ++ [']']) = index.text := by
  have none : ∀ c ∈ index.text, c ∉ ['[', ']'] := by
    intro c member special
    rcases Index.mem_text member with rfl | digit
    · exact absurd special (by decide)
    · have checked : ∀ d ∈ ['[', ']'], d.isDigit = false :=
      forall_of_all (by decide)
      rw [checked c special] at digit
      cases digit
  exact stripChars_around (by decide) (by decide) (fun empty => some (Index.text_eq_nil.mp empty))
    (fun c first => none c (List.mem_of_head? first))
    fun c last => none c (List.mem_of_getLast? last)

theorem indexOf_text (token : Token) : indexOf token.name.text token.text = token.index.text := by
  have rawName : token.text.takeWhile (· ≠ '=') = token.name.text ++ token.brackets := by
    have inside : ∀ c ∈ token.name.text ++ token.brackets, (decide (c ≠ '=')) = true := by
      intro c member
      rw [decide_eq_true_iff]
      rintro rfl
      rcases List.mem_append.mp member with name | brackets
      · exact Ident.notMem (by decide) name
      · rcases Token.mem_brackets brackets with special | digit
        · exact absurd special (by decide)
        · cases digit
    rw [Token.text, List.takeWhile_append_of_pos inside, List.takeWhile_cons_of_neg (by decide),
      List.append_nil]
  rw [indexOf, rawName, Token.brackets]
  by_cases scalar : token.index = .none
  · rw [if_pos scalar, List.append_nil, if_neg (not_not.mpr rfl), scalar]
    rfl
  · have longer : token.name.text ++ ('[' :: token.index.text ++ [']']) ≠ token.name.text := by
      intro same
      have lengths := congrArg List.length same
      simp only [List.length_append, List.length_cons, List.length_nil] at lengths
      omega
    rw [if_neg scalar, if_pos longer, List.drop_left, stripChars_brackets scalar]

theorem parseTok?_text (state : State) (token : Token) :
    parseTok? state token.text =
      some (state.put token.name.text token.index.text token.value.val) := by
  rw [parseTok?, strip_of_notSpace fun c member => (token.solid c member).1]
  simp only [fieldMatch?_text, val?_text, indexOf_text]
  rfl

/-! ## Reading a line -/

/-- The tokens of a line with commas between them, indented. -/
def lineText (indent : Nat) (tokens : List Token) : Text :=
  List.replicate indent ' ' ++ [','].intercalate (tokens.map Token.text)

def State.add (state : State) (token : Token) : State :=
  state.put token.name.text token.index.text token.value.val

theorem strip_indented (indent : Nat) {text : Text} (solid : Solid text) :
    strip (List.replicate indent ' ' ++ text) = text := by
  induction indent with
  | zero => exact strip_of_notSpace solid
  | succ indent inductionHypothesis =>
      rw [List.replicate_succ, List.cons_append, strip_cons_blank (by decide), inductionHypothesis]

section Line

variable (indent : Nat) {tokens : List Token}

theorem solid_tokens (tokens : List Token) :
    Solid ([','].intercalate (tokens.map Token.text)) := by
  refine solid_intercalate (by decide) fun part listed => ?_
  obtain ⟨token, -, rfl⟩ := List.mem_map.mp listed
  exact fun c member => (token.solid c member).1

theorem startsWith_blank {pattern text : Text} (blank : ' ' ∈ pattern) (solid : Solid text) :
    startsWith pattern text = false := by
  rw [← Bool.not_eq_true, startsWith_iff]
  intro begins
  have space := solid ' ' (begins.subset blank)
  cases space

theorem unbannered_tokens (tokens : List Token) :
    contains banner ([','].intercalate (tokens.map Token.text)) = false := by
  rw [← Bool.not_eq_true, contains_iff]
  intro occurs
  obtain ⟨part, listed, inside⟩ := infix_intercalate (by decide) (by decide) occurs
  obtain ⟨token, -, rfl⟩ := List.mem_map.mp listed
  have missing := token.unbannered
  rw [contains_iff.mpr inside] at missing
  cases missing

theorem foldlM_parseTok? (state : State) (tokens : List Token) :
    (tokens.map Token.text).foldlM parseTok? state = some (tokens.foldl State.add state) := by
  induction tokens generalizing state with
  | nil => rfl
  | cons token rest inductionHypothesis =>
      rw [List.map_cons, List.foldlM_cons, parseTok?_text]
      exact inductionHypothesis (state.add token)

theorem parseLine?_text (state : State) (nonempty : tokens ≠ []) :
    parseLine? state (lineText indent tokens) = some (tokens.foldl State.add state) := by
  have solid := solid_tokens tokens
  have parts : splitOn ',' ([','].intercalate (tokens.map Token.text)) = tokens.map Token.text := by
    refine List.splitOn_intercalate ',' (fun part listed => ?_) (by simpa using nonempty)
    obtain ⟨token, -, rfl⟩ := List.mem_map.mp listed
    exact fun comma => (token.solid ',' comma).2 rfl
  have filled : [','].intercalate (tokens.map Token.text) ≠ [] := by
    intro empty
    obtain ⟨token, rest, rfl⟩ := List.exists_cons_of_ne_nil nonempty
    rw [empty, List.map_cons] at parts
    have equals : '=' ∈ token.text := by simp [Token.text]
    rw [← (List.cons.inj parts).1] at equals
    cases equals
  rw [parseLine?, lineText, strip_indented indent solid]
  simp only [filled, startsWith_blank (by decide : ' ' ∈ tableBanner) solid,
    startsWith_blank (by decide : ' ' ∈ command) solid, unbannered_tokens, parts]
  exact foldlM_parseTok? state tokens

end Line

end OnboxFvt.Dlb.Lt
