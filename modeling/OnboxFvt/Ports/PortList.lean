import Mathlib.Data.Finset.Basic
import OnboxFvt.Python.Decimal

/-!
# Port lists of the diag shell

A port list is a comma list of port names (`cd8`), ranges (`cd8-cd15` or `cd8-15`)
and classes (`cd`); `none` is the empty list.  A port name is a class name, which
may hold digits but does not end in one (`d3c`), and the port's number, so that the
text of a list says which ports it denotes.
-/

namespace OnboxFvt.Ports

open Python

/-- The name of a class of ports, and what the names of its ports begin with. -/
structure Stem where
  text : Text
  plain : text.all Char.isAlphanum = true
  begins : text.head?.any Char.isAlpha = true
  ends : text.getLast?.all (!·.isDigit) = true
  deriving DecidableEq

structure PortName where
  stem : Stem
  number : Nat
  deriving DecidableEq

def portText (stem : Text) (number : Nat) : Text :=
  stem ++ decimal number

def PortName.text (port : PortName) : Text :=
  portText port.stem.text port.number

inductive Item where
  | name (port : PortName)
  | range (stem : Stem) (first : Nat) (again : Bool) (last : Nat)
  | whole (stem : Stem) (named : stem.text ≠ "none".toList)

namespace Item

def stem : Item → Stem
  | .name port => port.stem
  | .range stem _ _ _ => stem
  | .whole stem _ => stem

/-- The second bound of a range may repeat the stem. -/
def text : Item → Text
  | .name port => port.text
  | .range stem first again last =>
      portText stem.text first ++ '-' :: portText (if again then stem.text else []) last
  | .whole stem _ => stem.text

/-- The ports an item denotes, `*cd` standing for the class `cd`. -/
def ports : Item → List Text
  | .name port => [port.text]
  | .range stem first _ last => (List.range' first (last + 1 - first)).map (portText stem.text)
  | .whole stem _ => ['*' :: stem.text]

end Item

abbrev PortList : Type :=
  List Item

namespace PortList

def text (list : PortList) : Text :=
  if list.isEmpty then "none".toList else [','].intercalate (list.map Item.text)

def ports (list : PortList) : Finset Text :=
  (list.flatMap Item.ports).toFinset

end PortList

/-- The text is a port list that denotes exactly these ports. -/
def Denotes (text : Text) (ports : Finset Text) : Prop :=
  ∃ list : PortList, list.text = text ∧ list.ports = ports

/-! ## Reading a name -/

namespace Stem

variable (stem : Stem)

theorem isAlphanum_of_mem {c : Char} (member : c ∈ stem.text) : c.isAlphanum = true :=
  List.all_eq_true.mp stem.plain c member

theorem notMem {c : Char} (special : c.isAlphanum = false) : c ∉ stem.text := by
  intro member
  rw [stem.isAlphanum_of_mem member] at special
  cases special

theorem text_eq_cons : ∃ c rest, stem.text = c :: rest ∧ c.isAlpha = true := by
  have begins := stem.begins
  cases shape : stem.text with
  | nil =>
      rw [shape] at begins
      cases begins
  | cons c rest =>
      rw [shape] at begins
      exact ⟨c, rest, rfl, begins⟩

theorem text_eq_concat : ∃ before c, stem.text = before ++ [c] ∧ c.isDigit = false := by
  obtain ⟨first, rest, shape, -⟩ := stem.text_eq_cons
  have nonempty : stem.text ≠ [] := by
    rw [shape]
    exact List.cons_ne_nil _ _
  have ends := stem.ends
  rw [List.getLast?_eq_some_getLast nonempty] at ends
  refine ⟨stem.text.dropLast, stem.text.getLast nonempty,
    (List.dropLast_append_getLast nonempty).symm, ?_⟩
  simpa using ends

end Stem

/-- The digits a text ends in. -/
def trailingDigits (isDigit : Char → Bool) (text : Text) : Text :=
  (text.reverse.takeWhile isDigit).reverse

theorem trailingDigits_append {isDigit : Char → Bool} {digits : Text} {last : Char} (before : Text)
    (all : ∀ c ∈ digits, isDigit c = true) (stops : isDigit last = false) :
    trailingDigits isDigit (before ++ [last] ++ digits) = digits := by
  have backwards : ∀ c ∈ digits.reverse, isDigit c = true := by simpa using all
  unfold trailingDigits
  rw [List.reverse_append, List.takeWhile_append_of_pos backwards, List.reverse_concat,
    List.takeWhile_cons_of_neg (by simp [stops]), List.append_nil, List.reverse_reverse]

theorem trailingDigits_portText (stem : Stem) (number : Nat) :
    trailingDigits Char.isDigit (portText stem.text number) = decimal number := by
  obtain ⟨before, last, shape, stops⟩ := stem.text_eq_concat
  rw [portText, shape]
  exact trailingDigits_append before (fun c => isDigit_of_mem_decimal) stops

theorem portText_injective {stem stem' : Stem} {number number' : Nat}
    (equal : portText stem.text number = portText stem'.text number') :
    stem = stem' ∧ number = number' := by
  have digits := congrArg (trailingDigits Char.isDigit) equal
  rw [trailingDigits_portText, trailingDigits_portText] at digits
  have numbers := decimal_injective digits
  rw [numbers] at equal
  have texts : stem.text = stem'.text := List.append_cancel_right equal
  obtain ⟨text, _, _, _⟩ := stem
  obtain ⟨text', _, _, _⟩ := stem'
  exact ⟨by simp_all, numbers⟩

/-! ## Reading a list -/

theorem special_notMem_portText {c : Char} (special : c.isAlphanum = false) (stem : Stem)
    (number : Nat) : c ∉ portText stem.text number := by
  have notDigit : c.isDigit = false := by
    rw [Char.isAlphanum, Bool.or_eq_false_iff] at special
    exact special.2
  exact List.not_mem_append (stem.notMem special) (notMem_decimal notDigit number)

theorem isDigit_of_isAlpha {c : Char} (alpha : c.isAlpha = true) : c.isDigit = false := by
  have letter := isAlpha_iff_toNat.mp alpha
  rw [Bool.eq_false_iff]
  intro digit
  have bounds : 48 ≤ c.toNat ∧ c.toNat ≤ 57 := Char.isDigit_iff_toNat.mp digit
  omega

/-- The second bound tells whether the stem was repeated. -/
theorem bound_injective {stem : Stem} {again again' : Bool} {last last' : Nat}
    (equal : portText (if again then stem.text else []) last =
      portText (if again' then stem.text else []) last') :
    again = again' ∧ last = last' := by
  have begins : ∀ number other : Nat, portText stem.text number ≠ decimal other := by
    intro number other same
    obtain ⟨c, rest, shape, alpha⟩ := stem.text_eq_cons
    have digit : c.isDigit = true := by
      apply @isDigit_of_mem_decimal other
      rw [← same, portText, shape]
      exact List.mem_cons_self ..
    rw [isDigit_of_isAlpha alpha] at digit
    cases digit
  cases again with
  | false =>
      cases again' with
      | false => exact ⟨rfl, decimal_injective equal⟩
      | true => exact absurd equal.symm (begins _ _)
  | true =>
      cases again' with
      | false => exact absurd equal (begins _ _)
      | true => exact ⟨rfl, (portText_injective equal).2⟩

namespace Item

theorem dash_notMem_bound (stem : Stem) (again : Bool) (last : Nat) :
    '-' ∉ portText (if again then stem.text else []) last := by
  cases again with
  | false => exact notMem_decimal rfl last
  | true => exact special_notMem_portText rfl stem last

theorem dash_mem_text_iff (item : Item) :
    '-' ∈ item.text ↔ ∃ stem first again last, item = .range stem first again last := by
  have dashless : ∀ (stem : Stem) number, '-' ∉ portText stem.text number :=
    fun stem number => special_notMem_portText rfl stem number
  cases item with
  | name port => simp [text, PortName.text, dashless]
  | range stem first again last => simp [text]
  | whole stem named => simp [text, stem.notMem (c := '-') rfl]

theorem trailingDigits_stem (stem : Stem) : trailingDigits Char.isDigit stem.text = [] := by
  obtain ⟨before, last, shape, stops⟩ := stem.text_eq_concat
  rw [shape, ← List.append_nil (before ++ [last])]
  exact trailingDigits_append before (by simp) stops

theorem name_ne_whole (port : PortName) (stem : Stem) : port.text ≠ stem.text := by
  intro same
  have digits := congrArg (trailingDigits Char.isDigit) same
  rw [PortName.text, trailingDigits_portText, trailingDigits_stem] at digits
  exact decimal_ne_nil _ digits

theorem text_injective : Function.Injective Item.text := by
  intro item other equal
  have dashless : ∀ (stem : Stem) number, '-' ∉ portText stem.text number :=
    fun stem number => special_notMem_portText rfl stem number
  have dash : '-' ∈ item.text ↔ '-' ∈ other.text := by rw [equal]
  rw [dash_mem_text_iff, dash_mem_text_iff] at dash
  cases item with
  | name port =>
      cases other with
      | name port' =>
          obtain ⟨stems, numbers⟩ := portText_injective equal
          cases port
          cases port'
          simp_all
      | range => simp at dash
      | whole stem _ => exact absurd equal (name_ne_whole port stem)
  | range stem first again last =>
      cases other with
      | name => simp at dash
      | whole => simp at dash
      | range stem' first' again' last' =>
          obtain ⟨before, -, after⟩ := (List.append_cons_inj_of_notMem (dashless stem' first')
            (dash_notMem_bound stem' again' last')).mp equal.symm
          obtain ⟨stems, firsts⟩ := portText_injective before
          subst stems
          obtain ⟨agains, lasts⟩ := bound_injective after
          rw [firsts, agains, lasts]
  | whole stem _ =>
      cases other with
      | name port => exact absurd equal.symm (name_ne_whole port stem)
      | range => simp at dash
      | whole stem' _ =>
          have texts : stem.text = stem'.text := equal
          obtain ⟨_, _, _, _⟩ := stem
          obtain ⟨_, _, _, _⟩ := stem'
          simp_all

end Item

theorem Item.comma_notMem_text (item : Item) : ',' ∉ item.text := by
  have commaless : ∀ (stem : Stem) number, ',' ∉ portText stem.text number :=
    fun stem number => special_notMem_portText rfl stem number
  cases item with
  | name port => exact commaless port.stem port.number
  | range stem first again last =>
      apply List.not_mem_append (commaless stem first)
      apply List.not_mem_cons_of_ne_of_not_mem (by decide)
      cases again with
      | false => exact notMem_decimal rfl last
      | true => exact commaless stem last
  | whole stem named => exact stem.notMem rfl

theorem Item.text_ne_none (item : Item) : item.text ≠ "none".toList := by
  intro none
  cases item with
  | name port =>
      have digits := congrArg (trailingDigits Char.isDigit) none
      rw [Item.text, PortName.text, trailingDigits_portText] at digits
      exact decimal_ne_nil _ digits
  | range stem first again last =>
      have dash := (Item.dash_mem_text_iff (.range stem first again last)).mpr ⟨_, _, _, _, rfl⟩
      rw [none] at dash
      exact absurd dash (by decide)
  | whole stem named => exact named none

theorem PortList.splitOn_text (list : PortList) :
    splitOn ',' list.text = if list.isEmpty then ["none".toList] else list.map Item.text := by
  cases list with
  | nil => decide
  | cons item rest =>
      apply List.splitOn_intercalate
      · intro part member
        obtain ⟨source, _, equal⟩ := List.mem_map.mp member
        subst equal
        exact source.comma_notMem_text
      · exact List.cons_ne_nil _ _

theorem PortList.text_injective : Function.Injective PortList.text := by
  intro list other equal
  have parts := congrArg (splitOn ',') equal
  rw [splitOn_text, splitOn_text] at parts
  have notEmpty : ∀ item : Item, ∀ rest : PortList,
      (item :: rest).map Item.text ≠ ["none".toList] :=
    fun item rest same => item.text_ne_none (List.cons.inj same).1
  cases list with
  | nil =>
      cases other with
      | nil => rfl
      | cons item rest => exact absurd parts.symm (notEmpty item rest)
  | cons item rest =>
      cases other with
      | nil => exact absurd parts (notEmpty item rest)
      | cons item' rest' => exact List.map_injective_iff.mpr Item.text_injective parts

theorem denotes_text_iff {list : PortList} {ports : Finset Text} :
    Denotes list.text ports ↔ list.ports = ports := by
  constructor
  · rintro ⟨other, same, equal⟩
    rw [← PortList.text_injective same]
    exact equal
  · intro equal
    exact ⟨list, rfl, equal⟩

/-! ## The ports of an item -/

theorem Stem.text_injective : Function.Injective Stem.text := by
  intro stem stem' texts
  obtain ⟨_, _, _, _⟩ := stem
  obtain ⟨_, _, _, _⟩ := stem'
  simp_all

theorem Stem.text_ne_nil (stem : Stem) : stem.text ≠ [] := by
  obtain ⟨c, rest, shape, _⟩ := stem.text_eq_cons
  rw [shape]
  exact List.cons_ne_nil _ _

theorem Item.name_of_mem {item : Item} {port : Text} (member : port ∈ item.ports) :
    (∃ number, port = portText item.stem.text number) ∨ port = '*' :: item.stem.text := by
  cases item with
  | name name => exact .inl ⟨name.number, List.mem_singleton.mp member⟩
  | range stem first again last =>
      obtain ⟨number, _, equal⟩ := List.mem_map.mp member
      exact .inl ⟨number, equal.symm⟩
  | whole stem named => exact .inr (List.mem_singleton.mp member)

/-- Two items denote a port in common only where their stems agree. -/
theorem Item.stem_eq_of_mem {item other : Item} {port : Text} (member : port ∈ item.ports)
    (member' : port ∈ other.ports) : item.stem = other.stem := by
  have starless : ∀ (stem : Stem) number (rest : Text),
      portText stem.text number ≠ '*' :: rest := by
    intro stem number rest same
    apply special_notMem_portText (c := '*') rfl stem number
    rw [same]
    exact List.mem_cons_self ..
  rcases item.name_of_mem member with ⟨number, name⟩ | star
  · rcases other.name_of_mem member' with ⟨number', name'⟩ | star'
    · exact (portText_injective (name.symm.trans name')).1
    · exact absurd (name.symm.trans star') (starless _ _ _)
  · rcases other.name_of_mem member' with ⟨number', name'⟩ | star'
    · exact absurd (name'.symm.trans star) (starless _ _ _)
    · exact Stem.text_injective (List.cons.inj (star.symm.trans star')).2

end OnboxFvt.Ports
