import Mathlib.Data.List.TakeWhile
import OnboxFvt.Ports.Bitmap

/-!
# What `_expand` reads

The patterns of `_expand` match lower-case letters followed by digits.  An item
whose stem has a digit or a capital letter matches none of them and is left out,
which goes unnoticed only where the item denotes no port.
-/

namespace OnboxFvt.Ports

open Python

/-! ## Reading one part -/

/-- The letters a stem needs for the patterns of `_expand` to match. -/
def Stem.Lower (stem : Stem) : Prop :=
  stem.text.all Char.isLower = true

instance (stem : Stem) : Decidable stem.Lower :=
  inferInstanceAs (Decidable (_ = _))

theorem isLower_of_isDigit {c : Char} (digit : c.isDigit = true) : c.isLower = false := by
  have bounds : 48 ≤ c.toNat ∧ c.toNat ≤ 57 := Char.isDigit_iff_toNat.mp digit
  rw [Bool.eq_false_iff]
  intro lower
  have letter := isLower_iff_toNat.mp lower
  omega

theorem isDecimal_of_isAlphanum {c : Char} (plain : c.isAlphanum = true)
    (notDigit : c.isDigit = false) : isDecimal c = false := by
  have low := toNat_of_isAlphanum plain
  exact isDecimal_of_notDigit (by omega) notDigit

theorem takeWhile_decimal_append {isKind : Char → Bool}
    (other : ∀ c : Char, c.isDigit = true → isKind c = false) (number : Nat) (tail : Text) :
    (decimal number ++ tail).takeWhile isKind = [] := by
  cases digits : decimal number with
  | nil => exact absurd digits (decimal_ne_nil number)
  | cons c rest =>
      have digit : c.isDigit = true := by
        apply @isDigit_of_mem_decimal number
        rw [digits]
        exact List.mem_cons_self ..
      exact List.takeWhile_cons_of_neg (by simp [other c digit])

theorem all_isDecimal_decimal (number : Nat) : (decimal number).all isDecimal = true :=
  List.all_eq_true.mpr fun _ member => isDecimal_of_isDigit (isDigit_of_mem_decimal member)

/-- A lower-case stem is what the first group of the patterns matches. -/
theorem scan_lower {stem : Stem} (lower : stem.Lower) {tail : Text}
    (stops : tail.takeWhile Char.isLower = []) :
    (stem.text ++ tail).takeWhile Char.isLower = stem.text ∧
      (stem.text ++ tail).dropWhile Char.isLower = tail := by
  have letters := List.all_eq_true.mp lower
  have kept : tail.dropWhile Char.isLower = tail := by
    have whole := List.takeWhile_append_dropWhile (p := Char.isLower) (l := tail)
    rw [stops] at whole
    exact whole
  exact ⟨by rw [List.takeWhile_append_of_pos letters, stops, List.append_nil],
    by rw [List.dropWhile_append_of_pos letters, kept]⟩

/-- Behind the lower-case letters another stem has a character no digits lead up to. -/
theorem scan_other {stem : Stem} (other : ¬ stem.Lower) (tail : Text) :
    ∃ c rest, c ∈ stem.text ∧
      ((stem.text ++ tail).dropWhile Char.isLower).dropWhile isDecimal = c :: rest := by
  obtain ⟨before, last, shape, stops⟩ := stem.text_eq_concat
  have notDecimal : isDecimal last = false := by
    apply isDecimal_of_isAlphanum (stem.isAlphanum_of_mem _) stops
    rw [shape]
    exact List.mem_append_right _ (List.mem_singleton_self last)
  cases letters : stem.text.dropWhile Char.isLower with
  | nil =>
      exact absurd (List.all_eq_true.mpr (List.dropWhile_eq_nil_iff.mp letters)) other
  | cons d more =>
      have ending : last ∈ d :: more := by
        have whole := List.takeWhile_append_dropWhile (p := Char.isLower) (l := stem.text)
        have tails : (d :: more).getLast? = some last := by
          rw [letters] at whole
          have ends := congrArg List.getLast? whole
          rw [shape, List.getLast?_append_cons, List.getLast?_concat] at ends
          exact ends
        exact List.mem_of_getLast? tails
      cases digits : (d :: more).dropWhile isDecimal with
      | nil =>
          have decimals := List.dropWhile_eq_nil_iff.mp digits last ending
          rw [notDecimal] at decimals
          cases decimals
      | cons c rest =>
          refine ⟨c, rest ++ tail, ?_, ?_⟩
          · have inMore : c ∈ d :: more :=
              (List.dropWhile_sublist _).subset (digits ▸ List.mem_cons_self ..)
            exact (List.dropWhile_sublist _).subset (letters ▸ inMore)
          · have outer : (stem.text ++ tail).dropWhile Char.isLower = (d :: more) ++ tail := by
              rw [List.dropWhile_append, letters]
              rfl
            rw [outer, List.dropWhile_append, digits]
            rfl

/-! ## Expansion of a list -/

theorem Item.char_of_mem {item : Item} {c : Char} (member : c ∈ item.text) :
    c.isAlphanum = true ∨ c = '-' := by
  by_contra special
  rw [not_or, Bool.not_eq_true] at special
  have absent : ∀ (stem : Stem) number, c ∉ portText stem.text number :=
    fun stem number => special_notMem_portText special.1 stem number
  cases item with
  | name port => exact absent port.stem port.number member
  | range stem first again last =>
      rcases List.mem_append.mp member with before | after
      · exact absent stem first before
      · rcases List.mem_cons.mp after with dash | bound
        · exact special.2 dash
        · cases again with
          | false =>
              have notDigit : c.isDigit = false := by
                have none := special.1
                rw [Char.isAlphanum, Bool.or_eq_false_iff] at none
                exact none.2
              exact notMem_decimal notDigit last bound
          | true => exact absent stem last bound
  | whole stem named => exact stem.notMem special.1 member

theorem Item.text_eq_append (item : Item) : ∃ tail, item.text = item.stem.text ++ tail := by
  cases item with
  | name port => exact ⟨_, rfl⟩
  | range stem first again last => exact ⟨_, List.append_assoc _ _ _⟩
  | whole stem named => exact ⟨[], (List.append_nil _).symm⟩

theorem Item.text_ne_nil (item : Item) : item.text ≠ [] := by
  obtain ⟨tail, shape⟩ := item.text_eq_append
  rw [shape]
  exact List.append_ne_nil_of_left_ne_nil item.stem.text_ne_nil tail

theorem Item.strip_text (item : Item) : strip item.text = item.text := by
  apply strip_of_notSpace
  intro c member
  rcases item.char_of_mem member with plain | dash
  · have low := toNat_of_isAlphanum plain
    unfold isSpace
    simp only [Bool.or_eq_false_iff, Bool.and_eq_false_iff, decide_eq_false_iff_not,
      beq_eq_false_iff_ne]
    omega
  · rw [dash]
    decide

theorem startsWith_bound (stem : Stem) (again : Bool) (last : Nat) :
    (if startsWith stem.text (portText (if again then stem.text else []) last) then
        (portText (if again then stem.text else []) last).drop stem.text.length
      else portText (if again then stem.text else []) last) = decimal last := by
  cases again with
  | true =>
      have begins : startsWith stem.text (portText stem.text last) = true := by
        rw [startsWith, List.isPrefixOf_iff_prefix]
        exact List.prefix_append _ _
      rw [if_pos rfl, if_pos begins, portText, List.drop_left]
  | false =>
      have apart : ¬ startsWith stem.text (decimal last) = true := by
        intro begins
        rw [startsWith, List.isPrefixOf_iff_prefix] at begins
        obtain ⟨c, rest, shape, alpha⟩ := stem.text_eq_cons
        have digit : c.isDigit = true := by
          apply @isDigit_of_mem_decimal last
          apply begins.subset
          rw [shape]
          exact List.mem_cons_self ..
        rw [isDigit_of_isAlpha alpha] at digit
        cases digit
      rw [if_neg Bool.false_ne_true]
      exact if_neg apart

theorem rangeToken?_lower {stem : Stem} (lower : stem.Lower) (first : Nat) (again : Bool)
    (last : Nat) :
    rangeToken? (Item.range stem first again last).text = some (stem.text, first, last) := by
  obtain ⟨before, after⟩ := scan_lower lower
    (takeWhile_decimal_append (fun _ => isLower_of_isDigit) first
      ('-' :: portText (if again then stem.text else []) last))
  have shape : (Item.range stem first again last).text = stem.text ++
      (decimal first ++ '-' :: portText (if again then stem.text else []) last) := by
    simp [Item.text, portText]
  have digits := List.all_eq_true.mp (all_isDecimal_decimal first)
  have dash : isDecimal '-' = false := by decide
  unfold rangeToken?
  rw [shape, before, after, List.takeWhile_append_of_pos digits,
    List.dropWhile_append_of_pos digits, List.takeWhile_cons_of_neg (by simp [dash]),
    List.dropWhile_cons_of_neg (by simp [dash]), List.append_nil]
  simp only [startsWith_bound]
  rw [if_neg (by simp [stem.text_ne_nil, all_isDecimal_decimal]), readNat?_decimal,
    readNat?_decimal]
  rfl

theorem isSingle_lower {port : PortName} (lower : port.stem.Lower) :
    rangeToken? port.text = none ∧ isSingle port.text = true := by
  obtain ⟨before, after⟩ := scan_lower lower
    (takeWhile_decimal_append (fun _ => isLower_of_isDigit) port.number [])
  rw [List.append_nil] at before after
  have digits := List.all_eq_true.mp (all_isDecimal_decimal port.number)
  constructor
  · unfold rangeToken? PortName.text portText
    rw [before, after, List.dropWhile_eq_nil_iff.mpr digits]
  · unfold isSingle PortName.text portText
    rw [before, after, all_isDecimal_decimal]
    simp [port.stem.text_ne_nil, decimal_ne_nil]

theorem isClass_lower {stem : Stem} (lower : stem.Lower) :
    rangeToken? stem.text = none ∧ isSingle stem.text = false ∧ isClass stem.text = true := by
  have after : stem.text.dropWhile Char.isLower = [] :=
    List.dropWhile_eq_nil_iff.mpr (List.all_eq_true.mp lower)
  refine ⟨?_, ?_, ?_⟩
  · unfold rangeToken?
    rw [after]
    rfl
  · unfold isSingle
    rw [after]
    simp
  · unfold isClass
    rw [show stem.text.all Char.isLower = true from lower]
    simp [stem.text_ne_nil]

theorem expandToken_lower {item : Item} (lower : item.stem.Lower) :
    expandToken item.text = item.ports := by
  unfold expandToken
  rw [item.strip_text]
  rw [if_neg (not_or.mpr ⟨item.text_ne_nil, item.text_ne_none⟩)]
  cases item with
  | name port =>
      obtain ⟨noRange, single⟩ := @isSingle_lower port lower
      simp only [Item.text, noRange, single]
      rfl
  | range stem first again last =>
      rw [@rangeToken?_lower stem lower]
      rfl
  | whole stem named =>
      obtain ⟨noRange, noSingle, whole⟩ := @isClass_lower stem lower
      simp only [Item.text, noRange, noSingle, whole]
      rfl

theorem expandToken_other {item : Item} (other : ¬ item.stem.Lower) :
    expandToken item.text = [] := by
  obtain ⟨tail, shape⟩ := item.text_eq_append
  obtain ⟨c, rest, member, scanned⟩ := scan_other other tail
  rw [← shape] at scanned
  have notDash : c ≠ '-' := by
    intro dash
    rw [dash] at member
    exact item.stem.notMem rfl member
  have noRange : rangeToken? item.text = none := by
    unfold rangeToken?
    split
    · next bound begins =>
        rw [scanned] at begins
        exact absurd (List.cons.inj begins).1 notDash
    · rfl
  have notSingle : isSingle item.text = false := by
    rw [isSingle, Bool.and_eq_false_iff]
    right
    rw [← Bool.not_eq_true, List.all_eq_true]
    intro all
    rw [List.dropWhile_eq_nil_iff.mpr all] at scanned
    cases scanned
  have notClass : isClass item.text = false := by
    rw [isClass, Bool.and_eq_false_iff]
    right
    rw [← Bool.not_eq_true, List.all_eq_true]
    intro all
    rw [List.dropWhile_eq_nil_iff.mpr all] at scanned
    cases scanned
  unfold expandToken
  rw [item.strip_text]
  rw [if_neg (not_or.mpr ⟨item.text_ne_nil, item.text_ne_none⟩)]
  simp only [noRange, notSingle, notClass]
  rfl

theorem mem_expand_text {list : PortList} {port : Text} :
    port ∈ expand list.text ↔ ∃ item ∈ list, item.stem.Lower ∧ port ∈ item.ports := by
  unfold expand
  rw [List.mem_toFinset, PortList.splitOn_text, List.mem_flatMap]
  cases list with
  | nil =>
      have none : expandToken "none".toList = [] := by decide
      rw [if_pos (by rfl)]
      constructor
      · rintro ⟨part, member, found⟩
        rw [List.mem_singleton.mp member, none] at found
        cases found
      · rintro ⟨_, inList, _⟩
        cases inList
  | cons item rest =>
      rw [if_neg (by simp)]
      constructor
      · rintro ⟨part, member, found⟩
        obtain ⟨source, inList, equal⟩ := List.mem_map.mp member
        subst equal
        by_cases lower : source.stem.Lower
        · rw [expandToken_lower lower] at found
          exact ⟨source, inList, lower, found⟩
        · rw [expandToken_other lower] at found
          cases found
      · rintro ⟨source, inList, lower, found⟩
        refine ⟨source.text, List.mem_map_of_mem inList, ?_⟩
        rw [expandToken_lower lower]
        exact found

/-- `_expand` reads a list right exactly when every item it does not match denotes nothing. -/
theorem expand_iff (list : PortList) :
    expand list.text = list.ports ↔ ∀ item ∈ list, item.ports ≠ [] → item.stem.Lower := by
  constructor
  · intro equal item inList nonempty
    obtain ⟨port, member⟩ := List.exists_mem_of_ne_nil _ nonempty
    have denoted : port ∈ list.ports :=
      List.mem_toFinset.mpr (List.mem_flatMap.mpr ⟨item, inList, member⟩)
    rw [← equal, mem_expand_text] at denoted
    obtain ⟨other, _, lower, member'⟩ := denoted
    rw [Item.stem_eq_of_mem member member']
    exact lower
  · intro matched
    apply Finset.ext
    intro port
    rw [mem_expand_text, PortList.ports, List.mem_toFinset, List.mem_flatMap]
    constructor
    · rintro ⟨item, inList, _, member⟩
      exact ⟨item, inList, member⟩
    · rintro ⟨item, inList, member⟩
      exact ⟨item, inList, matched item inList (List.ne_nil_of_mem member), member⟩

end OnboxFvt.Ports
