import OnboxFvt.Ports.Expand
import OnboxFvt.Python.Lines
import OnboxFvt.Python.TextFacts

/-!
# Members on the chip

`chip_member` of `vlanchk`: the row of a VLAN is searched in what `vlan show` prints, and the
port in the two port lists of the row.
-/

namespace OnboxFvt.Ports

open Python

/-- `_has`: the port is there, or the class that the letters at its beginning name. -/
def has (ports : Finset Text) (bcm : Text) : Bool :=
  let letters := bcm.takeWhile Char.isLower
  decide (bcm ∈ ports) || !letters.isEmpty && decide ('*' :: letters ∈ ports)

/-- `\w`, of the characters around a VLAN id. -/
def isWordChar (c : Char) : Bool :=
  c.isAlphanum || c == '_'

def trimEnd (text : Text) : Text :=
  (text.reverse.dropWhile isSpace).reverse

/-- The word, with a blank after it. -/
def opens (word text : Text) : Bool :=
  startsWith word text && (text.drop word.length).head?.any isSpace

/-- `word\s+(.*?)\s*\(0x`, searched in a line. -/
def listed? (word : Text) : Text → Option Text
  | [] => none
  | c :: rest =>
      if opens word (c :: rest) then
        match cut? ['(', '0', 'x'] (((c :: rest).drop word.length).dropWhile isSpace) with
        | some (group, _) => some (trimEnd group)
        | none => listed? word rest
      else listed? word rest

def vlanWord : Text :=
  "vlan".toList

def portsWord : Text :=
  "ports".toList

def untaggedWord : Text :=
  "untagged".toList

/-- `^\s*vlan\s+{vid}\b`. -/
def isVlanLine (vid : Nat) (line : Text) : Bool :=
  let text := line.dropWhile isSpace
  let number := (text.drop vlanWord.length).dropWhile isSpace
  opens vlanWord text && (startsWith (decimal vid) number &&
    !(number.drop (decimal vid).length).head?.any isWordChar)

def vlanLine? (vid : Nat) (out : Text) : Option Text :=
  (splitlines out).find? (isVlanLine vid)

/-- `chip_member`, from what `vlan show <vid>` and `vlan show` print. -/
def chipMember (vid : Nat) (shown whole bcm : Text) (untagged : Option Bool) : Bool :=
  match (vlanLine? vid shown).or (vlanLine? vid whole) with
  | none => false
  | some line =>
      let ports := expand ((listed? portsWord line).getD [])
      let utg := expand ((listed? untaggedWord line).getD [])
      has ports bcm &&
        match untagged with
        | some true => has utg bcm
        | some false => !has utg bcm
        | none => true

/-! ## What the chip prints -/

/-- Blanks within a line. -/
structure Gap where
  first : Char
  rest : Text
  blank : ∀ c ∈ first :: rest, isSpace c = true
  plain : Plain (first :: rest)

def Gap.text (gap : Gap) : Text :=
  gap.first :: gap.rest

def hexDigits : Text :=
  "0123456789abcdef".toList

/-- The row of a VLAN: its members and those without a tag, each with a bitmap.  The list of the
members does not end in the word that the second search looks for. -/
structure VlanRow where
  vid : Nat
  gap : Gap
  members : PortList
  mask : Text
  untagged : PortList
  rest : Text
  hex : ∀ c ∈ mask, c ∈ hexDigits
  plain : Plain rest
  apart : ¬untaggedWord <:+ members.text

def listing (word : Text) (gap : Gap) (list : PortList) (rest : Text) : Text :=
  word ++ (gap.text ++ (list.text ++ (gap.text ++ (['(', '0', 'x'] ++ rest))))

namespace VlanRow

variable (row : VlanRow)

def second : Text :=
  listing untaggedWord row.gap row.untagged row.rest

def line : Text :=
  vlanWord ++ (row.gap.text ++ (decimal row.vid ++ (row.gap.text ++
    listing portsWord row.gap row.members (row.mask ++ ([')', ','] ++ (row.gap.text ++
      row.second))))))

end VlanRow

/-- A line of the output: a row, or one that is not about a VLAN. -/
inductive Shown
  | row (row : VlanRow)
  | other (text : Text) (plain : Plain text) (apart : ∀ vid, isVlanLine vid text = false)

def Shown.text : Shown → Text
  | .row vlan => vlan.line
  | .other text _ _ => text

def output (lines : List Shown) : Text :=
  unlines (lines.map Shown.text)

/-- The first row of a VLAN. -/
def row? (vid : Nat) (lines : List Shown) : Option VlanRow :=
  lines.findSome? fun
    | .row row => if row.vid = vid then some row else none
    | .other .. => none

/-- The list names the port, in a range or by itself, or its class. -/
def PortList.Lists (list : PortList) (port : PortName) : Prop :=
  ∃ item ∈ list, port.text ∈ item.ports ∨ '*' :: port.stem.text ∈ item.ports

/-- What the row of the VLAN says: the port is a member, and untagged or not as it is asked. -/
def IsMember (vid : Nat) (shown whole : List Shown) (port : PortName) (untagged : Option Bool) :
    Prop :=
  ∃ row, (row? vid shown).or (row? vid whole) = some row ∧ row.members.Lists port ∧
    ∀ wanted, untagged = some wanted → (row.untagged.Lists port ↔ wanted = true)

/-! ## Characters -/

theorem isWordChar_of_isSpace {c : Char} (blank : isSpace c = true) : isWordChar c = false := by
  rw [Bool.eq_false_iff]
  intro word
  rw [isWordChar, Bool.or_eq_true] at word
  rcases word with plain | underscore
  · have low := toNat_of_isAlphanum plain
    unfold isSpace at blank
    simp only [Bool.or_eq_true, Bool.and_eq_true, decide_eq_true_eq, beq_iff_eq] at blank
    omega
  · rw [eq_of_beq underscore] at blank
    exact absurd blank (by decide)

theorem isSpace_of_isAlphanum {c : Char} (plain : c.isAlphanum = true) : isSpace c = false := by
  rw [Bool.eq_false_iff]
  intro blank
  have word := isWordChar_of_isSpace blank
  rw [isWordChar, plain] at word
  cases word

theorem Gap.blank_text (gap : Gap) : ∀ c ∈ gap.text, isSpace c = true :=
  gap.blank

theorem Gap.notMem (gap : Gap) {c : Char} (visible : isSpace c = false) : c ∉ gap.text := by
  intro member
  rw [gap.blank c member] at visible
  cases visible

/-- Letters, digits, dashes and commas. -/
theorem PortList.char_of_mem {list : PortList} {c : Char} (member : c ∈ list.text) :
    c.isAlphanum = true ∨ c = '-' ∨ c = ',' := by
  rw [text] at member
  split at member
  · have letters : ∀ c ∈ "none".toList, c.isAlphanum = true :=
      forall_of_all (by decide)
    exact Or.inl (letters c member)
  · rcases mem_intercalate member with comma | ⟨part, listed, inside⟩
    · exact Or.inr (Or.inr comma)
    · obtain ⟨item, -, rfl⟩ := List.mem_map.mp listed
      exact (item.char_of_mem inside).imp_right Or.inl

theorem PortList.isSpace_of_mem {list : PortList} {c : Char} (member : c ∈ list.text) :
    isSpace c = false := by
  rcases list.char_of_mem member with plain | rfl | rfl
  · exact isSpace_of_isAlphanum plain
  · decide
  · decide

theorem PortList.text_ne_nil (list : PortList) : list.text ≠ [] := by
  cases list with
  | nil => decide
  | cons item rest => exact intercalate_ne_nil item.text_ne_nil (rest.map Item.text)

/-! ## The row of a VLAN -/

theorem startsWith_decimal (vid other : Nat) {tail : Text}
    (stops : tail.head?.any isWordChar = false) :
    (startsWith (decimal vid) (decimal other ++ tail) &&
      !((decimal other ++ tail).drop (decimal vid).length).head?.any isWordChar) =
        decide (other = vid) := by
  have digitless : ∀ text : Text, text.head?.any isWordChar = false →
      text.takeWhile Char.isDigit = [] := by
    intro text stop
    cases text with
    | nil => rfl
    | cons c rest =>
        have word : isWordChar c = false := stop
        rw [isWordChar, Char.isAlphanum, Bool.or_eq_false_iff, Bool.or_eq_false_iff] at word
        exact List.takeWhile_cons_of_neg (by simp [word.1.2])
  by_cases same : other = vid
  · rw [same, List.drop_left, stops, startsWith_iff.mpr (List.prefix_append _ _),
      decide_eq_true rfl]
    rfl
  · rw [decide_eq_false same, Bool.eq_false_iff]
    intro found
    rw [Bool.and_eq_true, startsWith_iff] at found
    obtain ⟨⟨rest, equal⟩, stop⟩ := found
    rw [← equal, List.drop_left] at stop
    exact same (decimal_append_inj (digitless rest (by simpa using stop)) (digitless tail stops)
      equal).1.symm

theorem dropWhile_of_head {text : Text} (visible : text.head?.all (isSpace · == false) = true) :
    text.dropWhile isSpace = text := by
  cases text with
  | nil => rfl
  | cons c rest =>
      have solid : isSpace c = false := eq_of_beq visible
      exact List.dropWhile_cons_of_neg (by rw [solid]; exact Bool.false_ne_true)

theorem Gap.dropWhile_append (gap : Gap) {text : Text}
    (visible : text.head?.all (isSpace · == false) = true) :
    (gap.text ++ text).dropWhile isSpace = text := by
  rw [List.dropWhile_append_of_pos gap.blank_text, dropWhile_of_head visible]

theorem opens_append (word : Text) (gap : Gap) (rest : Text) :
    opens word (word ++ (gap.text ++ rest)) = true := by
  rw [opens, startsWith_iff.mpr (List.prefix_append _ _), List.drop_left]
  exact gap.blank _ (List.mem_cons_self ..)

theorem head_decimal (number : Nat) (tail : Text) :
    (decimal number ++ tail).head?.all (isSpace · == false) = true := by
  cases digits : decimal number with
  | nil => exact absurd digits (decimal_ne_nil number)
  | cons c rest =>
      have digit : c.isDigit = true := isDigit_of_mem_decimal (digits ▸ List.mem_cons_self ..)
      exact beq_iff_eq.mpr (isSpace_of_isDigit digit)

theorem VlanRow.isVlanLine_line (row : VlanRow) (vid : Nat) :
    isVlanLine vid row.line = decide (row.vid = vid) := by
  obtain ⟨tail, shape, stops⟩ : ∃ tail : Text,
      row.line = vlanWord ++ (row.gap.text ++ (decimal row.vid ++ tail)) ∧
        tail.head?.any isWordChar = false :=
    ⟨_, rfl, isWordChar_of_isSpace (row.gap.blank _ (List.mem_cons_self ..))⟩
  have letters : row.line.dropWhile isSpace = row.line := by
    rw [shape]
    exact List.dropWhile_cons_of_neg (by decide)
  rw [isVlanLine, letters, shape, opens_append, List.drop_left,
    row.gap.dropWhile_append (head_decimal row.vid tail), Bool.true_and,
    startsWith_decimal vid row.vid stops]

/-! ## The lists of a row -/

theorem listed?_behind {word front : Text} (rest : Text)
    (absent : ∀ tail, tail ≠ [] → tail <:+ front → opens word (tail ++ rest) = false) :
    listed? word (front ++ rest) = listed? word rest := by
  induction front with
  | nil => rfl
  | cons c front inductionHypothesis =>
      have here := absent (c :: front) (List.cons_ne_nil c front) (List.suffix_refl _)
      rw [List.cons_append] at here
      rw [List.cons_append, listed?, here, if_neg Bool.false_ne_true]
      exact inductionHypothesis fun tail nonempty ends =>
        absent tail nonempty (ends.trans (List.suffix_cons c front))

/-- A word is not found where its first letter is not. -/
theorem listed?_behind_of_notMem {first : Char} {word front : Text} (absent : first ∉ front)
    (rest : Text) : listed? (first :: word) (front ++ rest) = listed? (first :: word) rest := by
  refine listed?_behind rest fun tail nonempty ends => ?_
  cases tail with
  | nil => exact absurd rfl nonempty
  | cons c more =>
      have different : first ≠ c :=
        fun same => absent (ends.subset (same ▸ List.mem_cons_self ..))
      simp [opens, startsWith, different]

theorem cut?_word {first : Char} {word front : Text} (absent : first ∉ front) (back : Text) :
    cut? (first :: word) (front ++ (first :: word ++ back)) = some (front, back) := by
  induction front with
  | nil =>
      rw [List.nil_append, List.cons_append, cut?, if_pos, ← List.cons_append, List.drop_left]
      exact startsWith_iff.mpr (List.prefix_append (first :: word) back)
  | cons c rest inductionHypothesis =>
      obtain ⟨different, later⟩ := not_or.mp (mt List.mem_cons.mpr absent)
      rw [List.cons_append, cut?, if_neg (by simp [startsWith, different]),
        inductionHypothesis later]
      rfl

theorem trimEnd_append {text : Text} (solid : ∀ c ∈ text, isSpace c = false) (gap : Gap) :
    trimEnd (text ++ gap.text) = text := by
  have blank : ∀ c ∈ gap.text.reverse, isSpace c = true :=
    fun c member => gap.blank c (List.mem_reverse.mp member)
  have stays : text.reverse.dropWhile isSpace = text.reverse := by
    refine dropWhile_of_head ?_
    cases shape : text.reverse with
    | nil => rfl
    | cons c rest =>
        have member : c ∈ text := List.mem_reverse.mp (shape ▸ List.mem_cons_self ..)
        exact beq_iff_eq.mpr (solid c member)
  rw [trimEnd, List.reverse_append, List.dropWhile_append_of_pos blank, stays,
    List.reverse_reverse]

theorem PortList.head_text (list : PortList) (tail : Text) :
    (list.text ++ tail).head?.all (isSpace · == false) = true := by
  cases shape : list.text with
  | nil => exact absurd shape list.text_ne_nil
  | cons c rest =>
      exact beq_iff_eq.mpr (list.isSpace_of_mem (shape ▸ List.mem_cons_self ..))

theorem PortList.notMem_text {list : PortList} {c : Char}
    (special : c.isAlphanum = false ∧ c ≠ '-' ∧ c ≠ ',') : c ∉ list.text := by
  intro member
  rcases list.char_of_mem member with plain | dash | comma
  · rw [special.1] at plain
    cases plain
  · exact special.2.1 dash
  · exact special.2.2 comma

theorem listed?_listing {word : Text} (nonempty : word ≠ []) (gap : Gap) (list : PortList)
    (rest : Text) : listed? word (listing word gap list rest) = some list.text := by
  have opened : opens word (listing word gap list rest) = true := opens_append word gap _
  have group : ((listing word gap list rest).drop word.length).dropWhile isSpace =
      (list.text ++ gap.text) ++ (['(', '0', 'x'] ++ rest) := by
    rw [listing, List.drop_left, gap.dropWhile_append (list.head_text _), List.append_assoc]
  have bracket : '(' ∉ list.text ++ gap.text :=
    List.not_mem_append (PortList.notMem_text (by decide)) (gap.notMem (by decide))
  have cut := @cut?_word '(' ['0', 'x'] _ bracket rest
  obtain ⟨first, letters, rfl⟩ := List.exists_cons_of_ne_nil nonempty
  obtain ⟨more, shape⟩ : ∃ more, listing (first :: letters) gap list rest = first :: more :=
    ⟨_, rfl⟩
  rw [shape] at opened group ⊢
  rw [listed?, opened, if_pos rfl, group]
  rw [cut]
  exact congrArg some (trimEnd_append (fun c => list.isSpace_of_mem) gap)

namespace VlanRow

variable (row : VlanRow)

/-- The row up to its first list. -/
def front : Text :=
  vlanWord ++ (row.gap.text ++ (decimal row.vid ++ row.gap.text))

theorem notMem_front {c : Char} (visible : isSpace c = false) (other : c ∉ vlanWord)
    (notDigit : c.isDigit = false) : c ∉ row.front :=
  List.not_mem_append other (List.not_mem_append (row.gap.notMem visible)
    (List.not_mem_append (notMem_decimal notDigit row.vid) (row.gap.notMem visible)))

theorem listed?_ports : listed? portsWord row.line = some row.members.text := by
  have shape : row.line = row.front ++ listing portsWord row.gap row.members
      (row.mask ++ ([')', ','] ++ (row.gap.text ++ row.second))) := by
    simp [line, front]
  have word : portsWord = 'p' :: "orts".toList := by decide
  have absent : 'p' ∉ row.front := row.notMem_front (by decide) (by decide) (by decide)
  rw [shape, word, listed?_behind_of_notMem absent, ← word]
  exact listed?_listing (by decide) row.gap row.members _

/-- The word does not begin within the first list. -/
theorem opens_members {tail : Text} (ends : tail <:+ row.members.text) (rest : Text) :
    opens untaggedWord (tail ++ (row.gap.text ++ rest)) = false := by
  have solid : row.gap.first ∉ untaggedWord := by
    intro member
    have letters : ∀ c ∈ untaggedWord, isSpace c = false := forall_of_all (by decide)
    have blank := row.gap.blank _ (List.mem_cons_self ..)
    rw [letters _ member] at blank
    cases blank
  rw [Bool.eq_false_iff]
  intro opened
  rw [opens, Bool.and_eq_true, startsWith_iff] at opened
  obtain ⟨begins, blank⟩ := opened
  obtain ⟨others, rfl⟩ := (prefix_separated_iff solid).mp begins
  rw [List.append_assoc, List.drop_left] at blank
  cases others with
  | nil => exact row.apart (by simpa using ends)
  | cons c more =>
      have member : c ∈ row.members.text := ends.subset (by simp)
      rw [List.cons_append, List.head?_cons, Option.any_some,
        PortList.isSpace_of_mem member] at blank
      cases blank

theorem listed?_untagged : listed? untaggedWord row.line = some row.untagged.text := by
  have shape : row.line = (row.front ++ (portsWord ++ row.gap.text)) ++ (row.members.text ++
      ((row.gap.text ++ (['(', '0', 'x'] ++ (row.mask ++ ([')', ','] ++ row.gap.text)))) ++
        row.second)) := by
    simp [line, front, listing]
  have word : untaggedWord = 'u' :: "ntagged".toList := by decide
  have before : 'u' ∉ row.front ++ (portsWord ++ row.gap.text) :=
    List.not_mem_append (row.notMem_front (by decide) (by decide) (by decide))
      (List.not_mem_append (by decide) (row.gap.notMem (by decide)))
  have hexless : 'u' ∉ row.mask := fun member => absurd (row.hex _ member) (by decide)
  have between : 'u' ∉ row.gap.text ++
      (['(', '0', 'x'] ++ (row.mask ++ ([')', ','] ++ row.gap.text))) :=
    List.not_mem_append (row.gap.notMem (by decide)) (List.not_mem_append (by decide)
      (List.not_mem_append hexless (List.not_mem_append (by decide)
        (row.gap.notMem (by decide)))))
  have within : listed? untaggedWord (row.members.text ++ ((row.gap.text ++
      (['(', '0', 'x'] ++ (row.mask ++ ([')', ','] ++ row.gap.text)))) ++ row.second)) =
      listed? untaggedWord ((row.gap.text ++
        (['(', '0', 'x'] ++ (row.mask ++ ([')', ','] ++ row.gap.text)))) ++ row.second) := by
    refine listed?_behind _ fun tail _ ends => ?_
    rw [List.append_assoc row.gap.text]
    exact row.opens_members ends _
  rw [shape, word, listed?_behind_of_notMem before, ← word, within, word,
    listed?_behind_of_notMem between, ← word]
  exact listed?_listing (by decide) row.gap row.untagged row.rest

end VlanRow

/-! ## The lines -/

theorem PortList.plain_text (list : PortList) : Plain list.text :=
  fun _ member => isLineBreak_of_notSpace (list.isSpace_of_mem member)

theorem VlanRow.plain_line (row : VlanRow) : Plain row.line := by
  have number : Plain (decimal row.vid) := fun c member =>
    isLineBreak_of_notSpace (isSpace_of_isDigit (isDigit_of_mem_decimal member))
  have mask : Plain row.mask := by
    have digits : ∀ c ∈ hexDigits, isLineBreak c = false := forall_of_all (by decide)
    exact fun c member => digits c (row.hex c member)
  have gap : Plain row.gap.text := row.gap.plain
  have members := row.members.plain_text
  have untagged := row.untagged.plain_text
  have rest := row.plain
  have words : Plain vlanWord ∧ Plain portsWord ∧ Plain untaggedWord ∧
      Plain ['(', '0', 'x'] ∧ Plain [')', ','] := by
    decide
  obtain ⟨vlan, ports, unmarked, bracket, comma⟩ := words
  unfold Plain at *
  simp only [line, second, listing, List.forall_mem_append]
  exact ⟨vlan, gap, number, gap, ports, gap, members, gap, bracket, mask, comma, gap, unmarked,
    gap, untagged, gap, bracket, rest⟩

theorem splitlines_output (lines : List Shown) :
    splitlines (output lines) = lines.map Shown.text := by
  have plain : ∀ line ∈ lines.map Shown.text, Plain line := by
    intro line member
    obtain ⟨shown, -, rfl⟩ := List.mem_map.mp member
    cases shown with
    | row row => exact row.plain_line
    | other text plain apart => exact plain
  have split := @splitlines_unlines _ [] plain fun c member => absurd member List.not_mem_nil
  simpa [output] using split

theorem vlanLine?_output (vid : Nat) (lines : List Shown) :
    vlanLine? vid (output lines) = (row? vid lines).map VlanRow.line := by
  rw [vlanLine?, splitlines_output, row?]
  induction lines with
  | nil => rfl
  | cons shown rest inductionHypothesis =>
      rw [List.map_cons, List.find?_cons, List.findSome?_cons, inductionHypothesis]
      cases shown with
      | row row =>
          rw [Shown.text, row.isVlanLine_line vid]
          by_cases same : row.vid = vid
          · simp [same]
          · simp [same]
      | other text plain apart =>
          rw [Shown.text, apart vid]

/-! ## What the lists say of a port -/

theorem star_notMem_portText (stem : Stem) (number : Nat) (rest : Text) :
    portText stem.text number ≠ '*' :: rest := by
  intro same
  apply @special_notMem_portText '*' rfl stem number
  rw [same]
  exact List.mem_cons_self ..

/-- What names a port or its class has the port's stem. -/
theorem stem_of_lists {item : Item} {port : PortName}
    (named : port.text ∈ item.ports ∨ '*' :: port.stem.text ∈ item.ports) :
    item.stem = port.stem := by
  rcases named with own | whole
  · exact @Item.stem_eq_of_mem item (.name port) _ own (List.mem_singleton_self _)
  · rcases item.name_of_mem whole with ⟨number, name⟩ | star
    · exact absurd name.symm (star_notMem_portText _ _ _)
    · exact (Stem.text_injective (List.cons.inj star).2).symm

theorem has_expand {port : PortName} (lower : port.stem.Lower) (list : PortList) :
    has (expand list.text) port.text = true ↔ list.Lists port := by
  obtain ⟨letters, -⟩ := scan_lower lower
    (takeWhile_decimal_append (fun _ => isLower_of_isDigit) port.number [])
  rw [List.append_nil] at letters
  have own : port.text.takeWhile Char.isLower = port.stem.text := letters
  have listed {name : Text} (named : name = port.text ∨ name = '*' :: port.stem.text) :
      name ∈ expand list.text ↔ ∃ item ∈ list, name ∈ item.ports := by
    rw [mem_expand_text]
    constructor
    · rintro ⟨item, inList, -, member⟩
      exact ⟨item, inList, member⟩
    · rintro ⟨item, inList, member⟩
      have same : item.stem = port.stem := by
        rcases named with rfl | rfl
        · exact stem_of_lists (Or.inl member)
        · exact stem_of_lists (Or.inr member)
      exact ⟨item, inList, same.symm ▸ lower, member⟩
  have filled : port.stem.text.isEmpty = false := List.isEmpty_eq_false_iff.mpr
    port.stem.text_ne_nil
  rw [has, own, filled, Bool.not_false, Bool.true_and, Bool.or_eq_true, decide_eq_true_eq,
    decide_eq_true_eq, listed (Or.inl rfl), listed (Or.inr rfl)]
  constructor
  · rintro (⟨item, inList, member⟩ | ⟨item, inList, member⟩)
    · exact ⟨item, inList, Or.inl member⟩
    · exact ⟨item, inList, Or.inr member⟩
  · rintro ⟨item, inList, member | member⟩
    · exact Or.inl ⟨item, inList, member⟩
    · exact Or.inr ⟨item, inList, member⟩

theorem chipMember_output {port : PortName} (lower : port.stem.Lower) (vid : Nat)
    (shown whole : List Shown) (untagged : Option Bool) :
    chipMember vid (output shown) (output whole) port.text untagged = true ↔
      IsMember vid shown whole port untagged := by
  rw [chipMember, vlanLine?_output, vlanLine?_output, ← Option.map_or]
  cases found : (row? vid shown).or (row? vid whole) with
  | none => simp [IsMember, found]
  | some row =>
      rw [Option.map_some]
      dsimp only
      rw [row.listed?_ports, row.listed?_untagged, Option.getD_some, Option.getD_some,
        Bool.and_eq_true, has_expand lower]
      have marked := has_expand lower row.untagged
      constructor
      · rintro ⟨member, asked⟩
        refine ⟨row, found, member, ?_⟩
        rintro wanted rfl
        cases wanted with
        | true => exact ⟨fun _ => rfl, fun _ => marked.mp asked⟩
        | false =>
            have absent : ¬row.untagged.Lists port := by
              rw [← marked]
              simpa using asked
            exact ⟨fun listed => absurd listed absent, fun wrong => by cases wrong⟩
      · rintro ⟨other, found', member, asked⟩
        cases found.symm.trans found'
        refine ⟨member, ?_⟩
        cases untagged with
        | none => rfl
        | some wanted =>
            have told := marked.trans (asked wanted rfl)
            cases wanted with
            | true => exact told.mpr rfl
            | false => simpa using told

/-! ## Ports whose class has a digit or a capital letter -/

/-- A row with this port alone. -/
def rowOf (port : PortName) : VlanRow where
  vid := 1
  gap := ⟨' ', [], forall_of_all (by decide), by decide⟩
  members := [.name port]
  mask := ['1']
  untagged := []
  rest := [')']
  hex := forall_of_all (by decide)
  plain := by decide
  apart := by
    rintro ⟨front, whole⟩
    have ends : (front ++ untaggedWord).getLast? = some 'd' := by
      rw [List.getLast?_append_of_ne_nil _ (by decide)]
      decide
    rw [whole, PortList.text, List.isEmpty_cons, if_neg Bool.false_ne_true, List.map_singleton,
      List.intercalate_singleton, Item.text, PortName.text, portText,
      List.getLast?_append_of_ne_nil _ (decimal_ne_nil _)] at ends
    exact absurd (isDigit_of_mem_decimal (List.mem_of_getLast? ends)) (by decide)

theorem has_expand_alone {port : PortName} (other : ¬port.stem.Lower) :
    has (expand (PortList.text [.name port])) port.text = false := by
  have nothing : ∀ name, name ∉ expand (PortList.text [.name port]) := by
    intro name found
    obtain ⟨item, inList, lower, -⟩ := mem_expand_text.mp found
    rw [List.mem_singleton.mp inList] at lower
    exact other lower
  simp [has, nothing]

end OnboxFvt.Ports
