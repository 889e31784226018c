import Mathlib.Data.List.Basic
import Mathlib.Data.List.Infix
import Mathlib.Data.List.TakeWhile
import OnboxFvt.Python.Text

/-!
# Occurrences and tokens

`in` and `replace` in terms of infixes, and how both they and `split` go through
a blank in the middle of a text.
-/

namespace OnboxFvt.Python

/-! ## Occurrences -/

/-- A list of characters is checked one by one. -/
theorem forall_of_all {holds : Char → Prop} [DecidablePred holds] {chars : Text}
    (checked : chars.all (fun c => decide (holds c)) = true) : ∀ c ∈ chars, holds c :=
  fun c member => of_decide_eq_true (List.all_eq_true.mp checked c member)

theorem startsWith_iff {pattern text : Text} :
    startsWith pattern text = true ↔ pattern <+: text :=
  List.isPrefixOf_iff_prefix

theorem cut?_eq_some {pattern text before after : Text}
    (found : cut? pattern text = some (before, after)) : text = before ++ pattern ++ after := by
  induction text generalizing before with
  | nil =>
      rw [cut?] at found
      split at found
      next empty =>
        cases found
        simpa using empty
      next => cases found
  | cons c rest inductionHypothesis =>
      rw [cut?] at found
      split at found
      next here =>
        cases found
        obtain ⟨later, split⟩ := startsWith_iff.mp here
        rw [← split, List.drop_left]
        rfl
      next =>
        obtain ⟨⟨front, back⟩, deeper, same⟩ := Option.map_eq_some_iff.mp found
        cases same
        rw [inductionHypothesis deeper]
        rfl

theorem contains_of_cut {pattern text : Text} {parts : Text × Text}
    (found : cut? pattern text = some parts) : contains pattern text = true := by
  rw [contains, found]
  rfl

theorem contains_of_uncut {pattern text : Text} (missing : cut? pattern text = none) :
    contains pattern text = false := by
  rw [contains, missing]
  rfl

theorem contains_iff {pattern text : Text} :
    contains pattern text = true ↔ pattern <:+: text := by
  induction text with
  | nil => simp [contains, cut?]
  | cons c rest inductionHypothesis =>
      rw [List.infix_cons_iff, ← startsWith_iff, ← inductionHypothesis, contains, cut?]
      split
      next here => simp [here]
      next elsewhere => simp [elsewhere, contains]

/-- `cut?` finds the first occurrence. -/
theorem cut?_first {pattern text before after : Text} (nonempty : pattern ≠ [])
    (found : cut? pattern text = some (before, after)) :
    ¬ pattern <:+: before ++ pattern.dropLast := by
  induction text generalizing before with
  | nil =>
      rw [cut?] at found
      split at found
      next empty => exact absurd (by simpa using empty) nonempty
      next => cases found
  | cons c rest inductionHypothesis =>
      rw [cut?] at found
      split at found
      next here =>
        cases found
        intro occurs
        have shorter := occurs.length_le
        have := List.length_pos_iff.mpr nonempty
        simp only [List.nil_append, List.length_dropLast] at shorter
        omega
      next elsewhere =>
        obtain ⟨⟨front, back⟩, deeper, same⟩ := Option.map_eq_some_iff.mp found
        cases same
        intro occurs
        rcases List.infix_cons_iff.mp occurs with here | later
        · apply elsewhere
          rw [startsWith_iff, cut?_eq_some deeper]
          refine here.trans ?_
          rw [List.append_assoc]
          exact List.prefix_append_right_inj (c :: front) |>.mpr
            ((List.dropLast_prefix pattern).trans (List.prefix_append pattern back))
        · exact inductionHypothesis deeper later

/-- A separator cuts where it stands first. -/
theorem cut?_separator {separator : Char} {front : Text} (solid : separator ∉ front)
    (back : Text) : cut? [separator] (front ++ separator :: back) = some (front, back) := by
  induction front with
  | nil =>
      rw [List.nil_append, cut?, if_pos (by simp [startsWith])]
      rfl
  | cons c rest inductionHypothesis =>
      obtain ⟨different, later⟩ := not_or.mp (mt List.mem_cons.mpr solid)
      rw [List.cons_append, cut?, if_neg (by simp [startsWith, different]),
        inductionHypothesis later]
      rfl

theorem cut?_of_notMem {separator : Char} {text : Text} (solid : separator ∉ text) :
    cut? [separator] text = none := by
  cases found : cut? [separator] text with
  | none => rfl
  | some parts =>
      refine absurd ?_ solid
      rw [cut?_eq_some found]
      simp

theorem cutLast?_of_notMem {c : Char} {text : Text} (absent : c ∉ text) :
    cutLast? c text = none := by
  induction text with
  | nil => rfl
  | cons d rest inductionHypothesis =>
      rw [List.mem_cons, not_or] at absent
      rw [cutLast?, inductionHypothesis absent.2]
      exact if_neg (Ne.symm absent.1)

theorem notMem_of_uncut {c : Char} {text : Text} (uncut : cutLast? c text = none) : c ∉ text := by
  induction text with
  | nil => exact List.not_mem_nil
  | cons d rest inductionHypothesis =>
      rw [cutLast?] at uncut
      cases later : cutLast? c rest with
      | some parts =>
          rw [later] at uncut
          cases uncut
      | none =>
          rw [later] at uncut
          dsimp only at uncut
          split at uncut
          next => cases uncut
          next different =>
              rw [List.mem_cons, not_or]
              exact ⟨Ne.symm different, inductionHypothesis later⟩

theorem cutLast?_append {c : Char} (before : Text) {after : Text} (last : c ∉ after) :
    cutLast? c (before ++ c :: after) = some (before, after) := by
  induction before with
  | nil => simp [cutLast?, cutLast?_of_notMem last]
  | cons d rest inductionHypothesis => simp [cutLast?, inductionHypothesis]

/-- Nothing is left to cut at behind the last cut. -/
theorem notMem_of_cutLast {c : Char} {text : Text} :
    ∀ {before after : Text}, cutLast? c text = some (before, after) → c ∉ after := by
  induction text with
  | nil => intro before after cut; cases cut
  | cons d rest inductionHypothesis =>
      intro before after cut
      rw [cutLast?] at cut
      cases later : cutLast? c rest with
      | some parts =>
          rw [later] at cut
          cases cut
          exact inductionHypothesis later
      | none =>
          rw [later] at cut
          dsimp only at cut
          split at cut
          next =>
              cases cut
              exact notMem_of_uncut later
          next => cases cut

theorem replaceFirst_of_cut {pattern replacement text before after : Text}
    (found : cut? pattern text = some (before, after)) :
    replaceFirst pattern replacement text = before ++ replacement ++ after := by
  rw [replaceFirst, found]

theorem replaceFirst_of_absent {pattern replacement text : Text}
    (absent : contains pattern text = false) :
    replaceFirst pattern replacement text = text := by
  rw [replaceFirst]
  cases found : cut? pattern text with
  | none => rfl
  | some parts =>
      rw [contains_of_cut found] at absent
      cases absent

theorem startsWith_replaceFirst {pattern text : Text} (replacement : Text)
    (here : startsWith pattern text = true) :
    startsWith replacement (replaceFirst pattern replacement text) = true := by
  obtain ⟨after, rfl⟩ := startsWith_iff.mp here
  have found : cut? pattern (pattern ++ after) = some ([], after) := by
    cases text : pattern ++ after with
    | nil => simp_all [cut?]
    | cons c rest =>
        rw [text] at here
        rw [cut?, if_pos here, ← text, List.drop_left]
  rw [replaceFirst_of_cut found, startsWith_iff]
  exact List.prefix_append replacement after

/-- Replacing an occurrence by a text of another length changes the text. -/
theorem replaceFirst_eq_self_iff {pattern replacement text : Text}
    (longer : replacement.length ≠ pattern.length) :
    replaceFirst pattern replacement text = text ↔ contains pattern text = false := by
  refine ⟨fun same => ?_, replaceFirst_of_absent⟩
  cases found : cut? pattern text with
  | none => exact contains_of_uncut found
  | some parts =>
      exfalso
      rw [replaceFirst_of_cut found, cut?_eq_some found] at same
      have lengths := congrArg List.length same
      simp only [List.length_append] at lengths
      omega

/-! ## A blank in the middle -/

/-- An occurrence in a text with a blank lies before the blank, after it, or over it. -/
theorem infix_around_blank {α : Type} {blank : α} {pattern first second : List α}
    (occurs : pattern <:+: first ++ blank :: second) :
    pattern <:+: first ∨ pattern <:+: second ∨
      ∃ front back, pattern = front ++ blank :: back ∧ front <:+ first ∧ back <+: second := by
  obtain ⟨left, right, split⟩ := occurs
  rw [List.append_assoc] at split
  rcases List.append_eq_append_iff.mp split with ⟨front, rfl, rest⟩ | ⟨gap, rfl, rest⟩
  · rcases List.append_eq_append_iff.mp rest with ⟨tail, rfl, -⟩ | ⟨back, rfl, rest'⟩
    · exact Or.inl ⟨left, tail, by simp⟩
    · cases back with
      | nil => exact Or.inl ⟨left, [], by simp⟩
      | cons b back =>
          injection rest' with same rest'
          subst same
          exact Or.inr (Or.inr ⟨front, back, rfl, ⟨left, rfl⟩, ⟨right, rest'.symm⟩⟩)
  · cases gap with
    | cons c gap =>
        injection rest with _ rest
        exact Or.inr (Or.inl ⟨gap, right, (List.append_assoc ..).trans rest.symm⟩)
    | nil =>
        cases pattern with
        | nil => exact Or.inl (List.nil_infix)
        | cons c back =>
            injection rest with same rest'
            subst same
            exact Or.inr (Or.inr ⟨[], back, rfl, List.nil_suffix, ⟨right, rest'.symm⟩⟩)

/-- An occurrence of a text whose only blanks are its first and last character does
not reach over a blank. -/
theorem infix_blank_iff {α : Type} {blank : α} {middle first second : List α}
    (solid : blank ∉ middle) :
    blank :: middle ++ [blank] <:+: first ++ blank :: second ↔
      blank :: middle ++ [blank] <:+: first ++ [blank] ∨
        blank :: middle ++ [blank] <:+: blank :: second := by
  constructor
  · intro occurs
    rcases infix_around_blank occurs with before | after | ⟨front, back, split, before, after⟩
    · exact Or.inl (before.trans (List.prefix_append _ _).isInfix)
    · exact Or.inr (after.trans (List.suffix_cons _ _).isInfix)
    · cases front with
      | nil =>
          rw [split]
          exact Or.inr ((List.prefix_cons_inj blank).mpr after).isInfix
      | cons c front =>
          rcases List.eq_nil_or_concat back with rfl | ⟨back, d, rfl⟩
          · rw [split]
            obtain ⟨left, rfl⟩ := before
            exact Or.inl ⟨left, [], by simp⟩
          · rw [List.concat_eq_append, ← List.cons_append, ← List.append_assoc] at split
            have ends := (List.append_inj' split rfl).1
            injection ends with _ ends
            exact absurd (by simp [ends]) solid
  · rintro (before | after)
    · refine before.trans ?_
      exact ⟨[], second, by simp⟩
    · exact after.trans (List.suffix_append _ _).isInfix

/-- Nor does one of a text without blanks. -/
theorem infix_solid_iff {α : Type} {blank : α} {pattern first second : List α}
    (solid : blank ∉ pattern) :
    pattern <:+: first ++ blank :: second ↔ pattern <:+: first ∨ pattern <:+: second := by
  constructor
  · intro occurs
    rcases infix_around_blank occurs with before | after | ⟨front, back, rfl, -, -⟩
    · exact Or.inl before
    · exact Or.inr after
    · exact absurd (by simp) solid
  · rintro (before | after)
    · exact before.trans (List.prefix_append _ _).isInfix
    · exact after.trans ((List.suffix_cons _ _).trans (List.suffix_append _ _)).isInfix

/-! ## A separator around the text -/

/-- A text without the separator ends after it. -/
theorem suffix_separated_iff {α : Type} {separator : α} {pattern first second : List α}
    (solid : separator ∉ pattern) :
    pattern <:+ first ++ separator :: second ↔ pattern <:+ second := by
  constructor
  · rintro ⟨front, whole⟩
    rcases List.append_eq_append_iff.mp whole with ⟨gap, -, rfl⟩ | ⟨gap, -, rest⟩
    · exact absurd (by simp) solid
    · cases gap with
      | nil => exact absurd (by rw [← List.nil_append pattern, ← rest]; simp) solid
      | cons c gap => exact ⟨gap, (List.cons.inj rest).2.symm⟩
  · intro ends
    exact ends.trans ((List.suffix_cons _ _).trans (List.suffix_append _ _))

/-- And it begins before it. -/
theorem prefix_separated_iff {α : Type} {separator : α} {pattern first second : List α}
    (solid : separator ∉ pattern) :
    pattern <+: first ++ separator :: second ↔ pattern <+: first := by
  have backwards : separator ∉ pattern.reverse := by simpa using solid
  have reversed := @suffix_separated_iff α separator pattern.reverse second.reverse first.reverse
    backwards
  rw [← List.reverse_suffix, ← List.reverse_suffix, ← reversed]
  simp

/-- A text with one separator occurs where the separator is. -/
theorem infix_separated_iff {α : Type} {separator : α} {front back first second : List α}
    (front_solid : separator ∉ front) (back_solid : separator ∉ back)
    (first_solid : separator ∉ first) (second_solid : separator ∉ second) :
    front ++ separator :: back <:+: first ++ separator :: second ↔
      front <:+ first ∧ back <+: second := by
  have inside : separator ∈ front ++ separator :: back := by simp
  constructor
  · intro occurs
    rcases infix_around_blank occurs with before | after | ⟨left, right, split, ends, begins⟩
    · exact absurd (before.subset inside) first_solid
    · exact absurd (after.subset inside) second_solid
    · obtain ⟨rfl, -, rfl⟩ := (List.append_cons_inj_of_notMem front_solid back_solid).mp split
      exact ⟨ends, begins⟩
  · rintro ⟨⟨left, rfl⟩, right, rfl⟩
    exact ⟨left, right, by simp⟩

section Joined

variable {α : Type} {separator : α} {first first' second second' : List α}

/-- Texts joined by a separator that the first parts are without. -/
theorem append_cons_inj_left (solid : separator ∉ first) (solid' : separator ∉ first') :
    first ++ separator :: second = first' ++ separator :: second' ↔
      first = first' ∧ second = second' := by
  refine ⟨fun equal => ?_, by rintro ⟨rfl, rfl⟩; rfl⟩
  rcases List.append_eq_append_iff.mp equal with ⟨gap, rfl, rest⟩ | ⟨gap, rfl, rest⟩
  · cases gap with
    | nil => exact ⟨(List.append_nil first).symm, (List.cons.inj rest).2⟩
    | cons c gap => exact absurd (by simp [(List.cons.inj rest).1]) solid'
  · cases gap with
    | nil => exact ⟨List.append_nil first', (List.cons.inj rest).2.symm⟩
    | cons c gap => exact absurd (by simp [(List.cons.inj rest).1]) solid

/-- And one that the second parts are without. -/
theorem append_cons_inj_right (solid : separator ∉ second) (solid' : separator ∉ second') :
    first ++ separator :: second = first' ++ separator :: second' ↔
      first = first' ∧ second = second' := by
  refine ⟨fun equal => ?_, by rintro ⟨rfl, rfl⟩; rfl⟩
  have reversed := congrArg List.reverse equal
  simp only [List.reverse_append, List.reverse_cons, List.append_assoc, List.singleton_append]
    at reversed
  obtain ⟨back, front⟩ :=
    (append_cons_inj_left (by simpa using solid) (by simpa using solid')).mp reversed
  exact ⟨List.reverse_injective front, List.reverse_injective back⟩

end Joined

theorem splitFrom_blank {c : Char} (blank : isSpace c = true) (word first second : Text) :
    splitFrom word (first ++ c :: second) = splitFrom word first ++ split second := by
  induction first generalizing word with
  | nil => by_cases empty : word.isEmpty = true <;> simp [splitFrom, blank, empty, split]
  | cons d rest inductionHypothesis =>
      by_cases space : isSpace d = true
      · by_cases empty : word.isEmpty = true <;>
          simp [splitFrom, space, empty, inductionHypothesis]
      · simp [splitFrom, space, inductionHypothesis]

theorem split_blank {c : Char} (blank : isSpace c = true) (first second : Text) :
    split (first ++ c :: second) = split first ++ split second :=
  splitFrom_blank blank [] first second

/-! ## Blanks around the text -/

theorem strip_cons_blank {c : Char} (blank : isSpace c = true) (text : Text) :
    strip (c :: text) = strip text := by
  rw [strip, List.dropWhile_cons_of_pos blank, strip]

theorem strip_concat_blank {c : Char} (blank : isSpace c = true) (text : Text) :
    strip (text ++ [c]) = strip text := by
  rw [strip, strip, List.dropWhile_append]
  split
  next all_blank =>
    rw [List.isEmpty_iff] at all_blank
    rw [all_blank, List.dropWhile_cons_of_pos blank, List.dropWhile_nil]
  next => rw [List.reverse_concat, List.dropWhile_cons_of_pos blank]

theorem strip_inside (text : Text) : strip text <:+: text := by
  have front : text.dropWhile isSpace <:+ text := List.dropWhile_suffix isSpace
  have back : strip text <+: text.dropWhile isSpace := by
    rw [← List.reverse_suffix, strip, List.reverse_reverse]
    exact List.dropWhile_suffix isSpace
  exact back.isInfix.trans front.isInfix

/-- A text that neither begins nor ends with a blank is its own `strip`. -/
theorem strip_of_ends {text : Text} (front : ∀ c ∈ text.head?, isSpace c = false)
    (back : ∀ c ∈ text.getLast?, isSpace c = false) : strip text = text := by
  have unstripped : ∀ line : Text, (∀ c ∈ line.head?, isSpace c = false) →
      line.dropWhile isSpace = line := by
    intro line solid
    cases line with
    | nil => rfl
    | cons c rest =>
        have first : isSpace c = false := solid c rfl
        exact List.dropWhile_cons_of_neg (by rw [first]; exact Bool.false_ne_true)
  rw [strip, unstripped text front, unstripped text.reverse, List.reverse_reverse]
  rwa [List.head?_reverse]

/-- What `strip` takes away counts when it holds a character that counts. -/
theorem ends_of_strip {counted : Char → Bool} {text : Text}
    (kept : (text.filter counted).length ≤ ((strip text).filter counted).length) :
    (∀ c ∈ text.head?, counted c = true → isSpace c = false) ∧
      ∀ c ∈ text.getLast?, counted c = true → isSpace c = false := by
  have counted_le : ∀ part : Text, ((strip part).filter counted).length ≤
      (part.filter counted).length := fun part =>
    ((strip_inside part).sublist.filter counted).length_le
  constructor
  · intro c leading counts
    obtain ⟨rest, rfl⟩ := List.head?_eq_some_iff.mp leading
    by_contra blank
    rw [strip_cons_blank (eq_true_of_ne_false blank), List.filter_cons_of_pos counts] at kept
    exact absurd (kept.trans (counted_le rest)) (by simp)
  · intro c trailing counts
    obtain ⟨init, rfl⟩ := List.getLast?_eq_some_iff.mp trailing
    by_contra blank
    rw [strip_concat_blank (eq_true_of_ne_false blank), List.filter_append,
      List.filter_cons_of_pos counts] at kept
    exact absurd (kept.trans (counted_le init)) (by simp)

theorem strip_append_blanks (text : Text) {blanks : Text} (blank : ∀ c ∈ blanks, isSpace c = true) :
    strip (text ++ blanks) = strip text := by
  induction blanks using List.reverseRecOn with
  | nil => rw [List.append_nil]
  | append_singleton blanks c inductionHypothesis =>
      rw [← List.append_assoc, strip_concat_blank (blank c (by simp))]
      exact inductionHypothesis fun d member => blank d (List.mem_append_left _ member)

theorem strip_blanks_append {blanks : Text} (blank : ∀ c ∈ blanks, isSpace c = true)
    (text : Text) : strip (blanks ++ text) = strip text := by
  induction blanks with
  | nil => rfl
  | cons c blanks inductionHypothesis =>
      rw [List.forall_mem_cons] at blank
      rw [List.cons_append, strip_cons_blank blank.1, inductionHypothesis blank.2]

theorem dropWhile_before {front text : Text} (nonempty : text ≠ [])
    (solid : ∀ c ∈ text.head?, isSpace c = false) :
    ∃ front', (front ++ text).dropWhile isSpace = front' ++ text := by
  induction front with
  | nil =>
      obtain ⟨c, rest, rfl⟩ := List.exists_cons_of_ne_nil nonempty
      have first : isSpace c = false := solid c rfl
      exact ⟨[], List.dropWhile_cons_of_neg (by rw [first]; exact Bool.false_ne_true)⟩
  | cons c front inductionHypothesis =>
      by_cases blank : isSpace c = true
      · rw [List.cons_append, List.dropWhile_cons_of_pos blank]
        exact inductionHypothesis
      · exact ⟨c :: front, List.dropWhile_cons_of_neg blank⟩

/-- A text that begins and ends with no blank is not touched inside another one. -/
theorem strip_around {text : Text} (nonempty : text ≠ []) (trimmed : strip text = text)
    (front back : Text) :
    ∃ front' back', strip (front ++ text ++ back) = front' ++ text ++ back' := by
  obtain ⟨first, last⟩ := @ends_of_strip (fun _ => true) text (by rw [trimmed])
  obtain ⟨front', dropped⟩ := @dropWhile_before front (text ++ back)
    (List.append_ne_nil_of_left_ne_nil nonempty back) (by
      rw [List.head?_append_of_ne_nil _ nonempty]
      exact fun c member => first c member rfl)
  obtain ⟨back', dropped'⟩ :=
    @dropWhile_before back.reverse (text.reverse ++ front'.reverse)
      (List.append_ne_nil_of_left_ne_nil (by simpa using nonempty) _) (by
        rw [List.head?_append_of_ne_nil _ (by simpa using nonempty), List.head?_reverse]
        exact fun c member => last c member rfl)
  refine ⟨front', back'.reverse, ?_⟩
  rw [List.append_assoc, strip, dropped, List.reverse_append, List.reverse_append,
    List.append_assoc, dropped']
  simp

theorem strip_eq_nil {text : Text} : strip text = [] ↔ ∀ c ∈ text, isSpace c = true := by
  constructor
  · intro empty c member
    by_contra solid
    obtain ⟨front, back, rfl⟩ := List.append_of_mem member
    have trimmed : strip [c] = [c] := by
      rw [Bool.not_eq_true] at solid
      exact strip_of_ends (by simpa using solid) (by simpa using solid)
    obtain ⟨front', back', kept⟩ := strip_around (List.cons_ne_nil c []) trimmed front back
    rw [List.append_assoc, List.singleton_append, empty] at kept
    simp at kept
  · intro blank
    rw [← List.append_nil text, strip_blanks_append blank]
    rfl

/-- What `strip` takes away are blanks. -/
theorem strip_split (text : Text) :
    ∃ front back, text = front ++ strip text ++ back ∧ (∀ c ∈ front, isSpace c = true) ∧
      ∀ c ∈ back, isSpace c = true := by
  have front := List.takeWhile_append_dropWhile (p := isSpace) (l := text)
  have back :=
    List.takeWhile_append_dropWhile (p := isSpace) (l := (text.dropWhile isSpace).reverse)
  refine ⟨text.takeWhile isSpace, ((text.dropWhile isSpace).reverse.takeWhile isSpace).reverse,
    ?_, fun c => List.mem_takeWhile_imp, fun c member =>
      List.mem_takeWhile_imp (List.mem_reverse.mp member)⟩
  rw [List.append_assoc, strip, ← List.reverse_append, back, List.reverse_reverse, front]

theorem strip_strip (text : Text) : strip (strip text) = strip text := by
  obtain ⟨front, back, whole, blank, blank'⟩ := strip_split text
  conv_rhs => rw [whole, strip_append_blanks _ blank', strip_blanks_append blank]

/-- One character at either end, and others inside. -/
theorem stripChars_around {chars : List Char} {c d : Char} (first : c ∈ chars) (last : d ∈ chars)
    {text : Text} (nonempty : text ≠ []) (front : ∀ e ∈ text.head?, e ∉ chars)
    (back : ∀ e ∈ text.getLast?, e ∉ chars) : stripChars chars (c :: text ++ [d]) = text := by
  have kept : ∀ line : Text, line ≠ [] → (∀ e ∈ line.head?, e ∉ chars) → ∀ rest : Text,
      (line ++ rest).dropWhile (· ∈ chars) = line ++ rest := by
    intro line filled outside rest
    obtain ⟨e, more, rfl⟩ := List.exists_cons_of_ne_nil filled
    exact List.dropWhile_cons_of_neg (by simpa using outside e rfl)
  have reversed := kept text.reverse (by simpa using nonempty) (by simpa using back) []
  rw [List.append_nil] at reversed
  rw [stripChars, List.cons_append, List.dropWhile_cons_of_pos (by simpa using first),
    kept text nonempty front, List.reverse_concat, List.dropWhile_cons_of_pos (by simpa using last),
    reversed, List.reverse_reverse]

/-! ## Words -/

def Solid (word : Text) : Prop :=
  ∀ c ∈ word, isSpace c = false

instance (word : Text) : Decidable (Solid word) :=
  List.decidableBAll _ word

theorem splitFrom_solid {word part : Text} (solid : Solid part) (rest : Text) :
    splitFrom word (part ++ rest) = splitFrom (word ++ part) rest := by
  induction part generalizing word with
  | nil => simp
  | cons c part inductionHypothesis =>
      have first : isSpace c = false := solid c (by simp)
      have others : Solid part := fun d member => solid d (List.mem_cons_of_mem c member)
      rw [List.cons_append, splitFrom, first, if_neg Bool.false_ne_true,
        inductionHypothesis others, List.append_assoc]
      rfl

theorem splitFrom_word {word : Text} (nonempty : word ≠ []) (text : Text) :
    ∃ tail words, splitFrom word text = (word ++ tail) :: words := by
  have filled : word.isEmpty = false := by simpa using nonempty
  induction text generalizing word with
  | nil => exact ⟨[], [], by simp [splitFrom, filled]⟩
  | cons c rest inductionHypothesis =>
      by_cases space : isSpace c = true
      · exact ⟨[], splitFrom [] rest, by simp [splitFrom, filled, space]⟩
      · obtain ⟨tail, words, deeper⟩ :=
          @inductionHypothesis (word ++ [c]) (by simp) (by simp)
        exact ⟨c :: tail, words, by simp [splitFrom, space, deeper]⟩

/-- A text that begins with a word has it at the beginning of its first token. -/
theorem split_word {part : Text} (solid : Solid part) (nonempty : part ≠ []) (rest : Text) :
    ∃ tail words, split (part ++ rest) = (part ++ tail) :: words := by
  rw [split, splitFrom_solid solid]
  exact splitFrom_word nonempty rest

theorem split_solid {word : Text} (solid : Solid word) (nonempty : word ≠ []) :
    split word = [word] := by
  rw [split, ← List.append_nil word, splitFrom_solid solid]
  simp [splitFrom, nonempty]

def Word (text : Text) : Prop :=
  text ≠ [] ∧ Solid text

instance (text : Text) : Decidable (Word text) :=
  inferInstanceAs (Decidable (_ ∧ _))

theorem Word.split_eq {text : Text} (word : Word text) : split text = [text] :=
  split_solid word.2 word.1

theorem splitFrom_solid_words {word text : Text} (solid : Solid word) :
    ∀ token ∈ splitFrom word text, token ≠ [] ∧ Solid token := by
  induction text generalizing word with
  | nil =>
      intro token member
      by_cases empty : word.isEmpty = true
      · simp [splitFrom, empty] at member
      · simp only [splitFrom, empty, Bool.false_eq_true, if_false, List.mem_singleton] at member
        subst member
        exact ⟨by simpa using empty, solid⟩
  | cons c rest inductionHypothesis =>
      have fresh : Solid [] := by simp [Solid]
      intro token member
      by_cases space : isSpace c = true
      · by_cases empty : word.isEmpty = true
        · simp only [splitFrom, space, empty, if_true] at member
          exact inductionHypothesis fresh token member
        · simp only [splitFrom, space, empty, if_true, Bool.false_eq_true, if_false,
            List.mem_cons] at member
          rcases member with rfl | member
          · exact ⟨by simpa using empty, solid⟩
          · exact inductionHypothesis fresh token member
      · simp only [splitFrom, space, Bool.false_eq_true, if_false] at member
        refine inductionHypothesis ?_ token member
        intro d inside
        rcases List.mem_append.mp inside with inside | inside
        · exact solid d inside
        · rw [List.mem_singleton.mp inside]
          exact eq_false_of_ne_true space

theorem split_words (text : Text) : ∀ token ∈ split text, token ≠ [] ∧ Solid token :=
  splitFrom_solid_words (by simp [Solid])

/-- Blanks at the ends make no token. -/
theorem split_strip (text : Text) : split (strip text) = split text := by
  have before : ∀ blanks rest : Text, (∀ c ∈ blanks, isSpace c = true) →
      split (blanks ++ rest) = split rest := by
    intro blanks rest blank
    induction blanks with
    | nil => rfl
    | cons c others inductionHypothesis =>
        have empty : split [] = [] := rfl
        have apart := split_blank (blank c (List.mem_cons_self ..)) [] (others ++ rest)
        rw [List.nil_append, empty, List.nil_append] at apart
        rw [List.cons_append, apart]
        exact inductionHypothesis fun d member => blank d (List.mem_cons_of_mem c member)
  obtain ⟨front, back, whole, blank, blank'⟩ := strip_split text
  have after : split (front ++ strip text ++ back) = split (front ++ strip text) := by
    cases back with
    | nil => rw [List.append_nil]
    | cons c rest =>
        have spaces := before rest [] fun d member => blank' d (List.mem_cons_of_mem c member)
        rw [List.append_nil] at spaces
        rw [split_blank (blank' c (List.mem_cons_self ..)), spaces]
        exact List.append_nil _
  conv_rhs => rw [whole, after, before front (strip text) blank]

theorem joinSpace_cons_cons (word next : Text) (words : List Text) :
    joinSpace (word :: next :: words) = word ++ ' ' :: joinSpace (next :: words) := by
  simp [joinSpace]

theorem prefix_joinSpace (word : Text) (words : List Text) :
    word <+: joinSpace (word :: words) := by
  cases words with
  | nil => simp [joinSpace]
  | cons next words => exact joinSpace_cons_cons word next words ▸ List.prefix_append _ _

theorem joinSpace_concat {words : List Text} (nonempty : words ≠ []) (word : Text) :
    joinSpace (words ++ [word]) = joinSpace words ++ ' ' :: word := by
  induction words with
  | nil => exact absurd rfl nonempty
  | cons first words inductionHypothesis =>
      cases words with
      | nil => simp [joinSpace]
      | cons next words =>
          have deeper := inductionHypothesis (by simp)
          rw [List.cons_append] at deeper
          rw [List.cons_append, List.cons_append, joinSpace_cons_cons, deeper,
            joinSpace_cons_cons, List.append_assoc]
          rfl

theorem split_joinSpace {words : List Text} (solid : ∀ word ∈ words, word ≠ [] ∧ Solid word) :
    split (joinSpace words) = words := by
  induction words with
  | nil => rfl
  | cons first words inductionHypothesis =>
      obtain ⟨filled, whole⟩ := solid first (by simp)
      cases words with
      | nil => simpa [joinSpace] using split_solid whole filled
      | cons next words =>
          rw [joinSpace_cons_cons, split_blank (by decide), split_solid whole filled,
            inductionHypothesis fun word member => solid word (List.mem_cons_of_mem first member)]
          rfl

/-! ## Parts -/

theorem mem_intercalate {separator c : Char} {parts : List Text}
    (member : c ∈ [separator].intercalate parts) : c = separator ∨ ∃ part ∈ parts, c ∈ part := by
  induction parts with
  | nil => cases member
  | cons part rest inductionHypothesis =>
      cases rest with
      | nil => exact Or.inr ⟨part, List.mem_singleton_self part, by simpa using member⟩
      | cons next others =>
          rw [List.intercalate_cons_cons] at member
          simp only [List.append_assoc, List.mem_append, List.mem_singleton] at member
          rcases member with own | same | later
          · exact Or.inr ⟨part, List.mem_cons_self .., own⟩
          · exact Or.inl same
          · refine (inductionHypothesis later).imp_right ?_
            rintro ⟨other, listed, inside⟩
            exact ⟨other, List.mem_cons_of_mem part listed, inside⟩

theorem mem_intercalate_of_mem {separator c : Char} {parts : List Text} {part : Text}
    (listed : part ∈ parts) (inside : c ∈ part) : c ∈ [separator].intercalate parts := by
  induction parts with
  | nil => cases listed
  | cons first rest inductionHypothesis =>
      cases rest with
      | nil =>
          rw [List.mem_singleton.mp listed] at inside
          simpa using inside
      | cons next others =>
          rw [List.intercalate_cons_cons, List.mem_append, List.mem_append]
          rcases List.mem_cons.mp listed with rfl | later
          · exact Or.inl (Or.inl inside)
          · exact Or.inr (inductionHypothesis later)

theorem intercalate_ne_nil {separator : Char} {part : Text} (filled : part ≠ [])
    (rest : List Text) :
    [separator].intercalate (part :: rest) ≠ [] := by
  obtain ⟨c, -⟩ := List.exists_mem_of_ne_nil part filled
  cases rest with
  | nil => simpa using filled
  | cons next others =>
      rw [List.intercalate_cons_cons]
      simp

/-- Joined parts begin with the first of them. -/
theorem head?_intercalate {separator : Char} {part : Text} (filled : part ≠ [])
    (rest : List Text) : ([separator].intercalate (part :: rest)).head? = part.head? := by
  cases rest with
  | nil => simp
  | cons next others =>
      rw [List.intercalate_cons_cons, List.append_assoc, List.head?_append_of_ne_nil _ filled]

/-- And they end with the last one. -/
theorem getLast?_intercalate {separator c : Char} {parts : List Text}
    (filled : ∀ part ∈ parts, part ≠ [])
    (last : c ∈ ([separator].intercalate parts).getLast?) :
    ∃ part ∈ parts, c ∈ part.getLast? := by
  induction parts with
  | nil => cases last
  | cons part rest inductionHypothesis =>
      rw [List.forall_mem_cons] at filled
      cases rest with
      | nil => exact ⟨part, List.mem_singleton_self part, by simpa using last⟩
      | cons next others =>
          have some :=
            @intercalate_ne_nil separator next (filled.2 next (List.mem_cons_self ..)) others
          rw [List.intercalate_cons_cons, List.getLast?_append_of_ne_nil _ some]
            at last
          obtain ⟨other, listed, ends⟩ := inductionHypothesis filled.2 last
          exact ⟨other, List.mem_cons_of_mem part listed, ends⟩

theorem solid_intercalate {separator : Char} (visible : isSpace separator = false)
    {parts : List Text} (solid : ∀ part ∈ parts, Solid part) :
    Solid ([separator].intercalate parts) := by
  intro c member
  rcases mem_intercalate member with same | ⟨part, listed, inside⟩
  · rw [same]
    exact visible
  · exact solid part listed c inside

/-- A text without the separator occurs in one of the parts. -/
theorem infix_intercalate {separator : Char} {pattern : Text} (solid : separator ∉ pattern)
    (nonempty : pattern ≠ []) {parts : List Text}
    (occurs : pattern <:+: [separator].intercalate parts) : ∃ part ∈ parts, pattern <:+: part := by
  induction parts with
  | nil => exact absurd (List.infix_nil.mp occurs) nonempty
  | cons part rest inductionHypothesis =>
      cases rest with
      | nil => exact ⟨part, List.mem_singleton_self part, by simpa using occurs⟩
      | cons next others =>
          rw [List.intercalate_cons_cons, List.append_assoc, List.singleton_append,
            infix_solid_iff solid] at occurs
          rcases occurs with here | later
          · exact ⟨part, List.mem_cons_self .., here⟩
          · obtain ⟨other, listed, inside⟩ := inductionHypothesis later
            exact ⟨other, List.mem_cons_of_mem part listed, inside⟩

theorem part_infix_intercalate {separator : Char} {parts : List Text} {part : Text}
    (listed : part ∈ parts) : part <:+: [separator].intercalate parts := by
  induction parts with
  | nil => cases listed
  | cons first rest inductionHypothesis =>
      cases rest with
      | nil => simp [List.mem_singleton.mp listed]
      | cons next others =>
          rw [List.intercalate_cons_cons, List.append_assoc]
          rcases List.mem_cons.mp listed with rfl | later
          · exact (List.prefix_append ..).isInfix
          · refine (inductionHypothesis later).trans ?_
            rw [← List.append_assoc]
            exact (List.suffix_append ..).isInfix

theorem notMem_of_mem_splitOn {c : Char} {text part : Text}
    (member : part ∈ List.splitOn c text) : c ∉ part := by
  induction text generalizing part with
  | nil =>
      rw [List.splitOn_nil, List.mem_singleton] at member
      rw [member]
      exact List.not_mem_nil
  | cons d rest inductionHypothesis =>
      rw [List.splitOn_cons_eq_if_modifyHead] at member
      split at member
      · cases member with
        | head => exact List.not_mem_nil
        | tail _ later => exact inductionHypothesis later
      next other =>
        cases split : List.splitOn c rest with
        | nil => exact absurd split (List.splitOn_ne_nil c rest)
        | cons first others =>
            rw [split] at inductionHypothesis member
            cases member with
            | head =>
                rw [List.mem_cons, not_or]
                refine ⟨fun same => other (beq_iff_eq.mpr same.symm), ?_⟩
                exact inductionHypothesis (List.mem_cons_self ..)
            | tail _ later => exact inductionHypothesis (List.mem_cons_of_mem _ later)

/-- Joined parts have a separator less than parts. -/
theorem count_intercalate {separator : Char} {parts : List Text}
    (solid : ∀ part ∈ parts, separator ∉ part) :
    ([separator].intercalate parts).count separator = parts.length - 1 := by
  induction parts with
  | nil => rfl
  | cons part rest inductionHypothesis =>
      rw [List.forall_mem_cons] at solid
      have own : part.count separator = 0 := List.count_eq_zero.mpr solid.1
      cases rest with
      | nil => rw [List.intercalate_singleton, own]; rfl
      | cons next others =>
          rw [List.intercalate_cons_cons, List.count_append, List.count_append, own,
            inductionHypothesis solid.2, List.count_singleton_self]
          simp only [List.length_cons]
          omega

/-! ## Letter case -/

def Ascii (text : Text) : Prop :=
  ∀ c ∈ text, c.toNat < 128

theorem case_ascii : ∀ n < 128, upperChar (Char.ofNat n) = [(Char.ofNat n).toUpper] ∧
    lowerChar (Char.ofNat n) = [(Char.ofNat n).toLower] := by
  decide

theorem upper_of_ascii {text : Text} (ascii : Ascii text) : upper text = text.map Char.toUpper := by
  induction text with
  | nil => rfl
  | cons c rest inductionHypothesis =>
      obtain ⟨low, later⟩ := List.forall_mem_cons.mp ascii
      have here := (case_ascii c.toNat low).1
      rw [Char.ofNat_toNat] at here
      rw [upper, List.flatMap_cons, ← upper, inductionHypothesis later, here]
      rfl

theorem lower_of_ascii {text : Text} (ascii : Ascii text) : lower text = text.map Char.toLower := by
  induction text with
  | nil => rfl
  | cons c rest inductionHypothesis =>
      obtain ⟨low, later⟩ := List.forall_mem_cons.mp ascii
      have here := (case_ascii c.toNat low).2
      rw [Char.ofNat_toNat] at here
      rw [lower, List.flatMap_cons, ← lower, inductionHypothesis later, here]
      rfl

theorem case_case_ascii : ∀ n < 128,
    (Char.ofNat n).toUpper.toLower = (Char.ofNat n).toLower ∧
      (Char.ofNat n).toLower.toUpper = (Char.ofNat n).toUpper ∧
        (Char.ofNat n).toLower.toLower = (Char.ofNat n).toLower ∧
          (Char.ofNat n).toLower.toNat < 128 := by
  decide

theorem map_map_case {first second third : Char → Char}
    (same : ∀ n < 128, second (first (Char.ofNat n)) = third (Char.ofNat n)) {text : Text}
    (ascii : Ascii text) : (text.map first).map second = text.map third := by
  rw [List.map_map]
  refine List.map_congr_left fun c member => ?_
  have here := same c.toNat (ascii c member)
  rwa [Char.ofNat_toNat] at here

/-- It makes no difference in which case texts are compared. -/
theorem upper_eq_iff {text other : Text} (ascii : Ascii text) (ascii' : Ascii other) :
    upper text = upper other ↔ lower text = lower other := by
  rw [upper_of_ascii ascii, upper_of_ascii ascii', lower_of_ascii ascii, lower_of_ascii ascii']
  constructor
  · intro same
    have lowered := congrArg (List.map Char.toLower) same
    rwa [map_map_case (fun n low => (case_case_ascii n low).1) ascii,
      map_map_case (fun n low => (case_case_ascii n low).1) ascii'] at lowered
  · intro same
    have raised := congrArg (List.map Char.toUpper) same
    rwa [map_map_case (fun n low => (case_case_ascii n low).2.1) ascii,
      map_map_case (fun n low => (case_case_ascii n low).2.1) ascii'] at raised

theorem ascii_lower {text : Text} (ascii : Ascii text) : Ascii (lower text) := by
  rw [lower_of_ascii ascii]
  intro c member
  obtain ⟨d, inside, rfl⟩ := List.mem_map.mp member
  have here := (case_case_ascii d.toNat (ascii d inside)).2.2.2
  rwa [Char.ofNat_toNat] at here

theorem lower_lower {text : Text} (ascii : Ascii text) : lower (lower text) = lower text := by
  rw [lower_of_ascii (ascii_lower ascii), lower_of_ascii ascii]
  exact map_map_case (fun n low => (case_case_ascii n low).2.2.1) ascii

theorem upper_append (first second : Text) :
    upper (first ++ second) = upper first ++ upper second :=
  List.flatMap_append

theorem lower_append (first second : Text) :
    lower (first ++ second) = lower first ++ lower second :=
  List.flatMap_append

theorem upper_intercalate {separator : Char} (kept : upperChar separator = [separator])
    (parts : List Text) :
    upper ([separator].intercalate parts) = [separator].intercalate (parts.map upper) := by
  induction parts with
  | nil => rfl
  | cons part rest inductionHypothesis =>
      cases rest with
      | nil => rw [List.intercalate_singleton, List.map_singleton, List.intercalate_singleton]
      | cons next others =>
          rw [List.map_cons] at inductionHypothesis
          rw [List.intercalate_cons_cons, List.map_cons, List.map_cons,
            List.intercalate_cons_cons, upper_append, upper_append, inductionHypothesis]
          congr 2
          rw [upper, List.flatMap_singleton, kept]

end OnboxFvt.Python
